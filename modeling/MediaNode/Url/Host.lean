import MediaNode.Url.Domain
import MediaNode.Url.Percent
import MediaNode.Text.Number

/-!
# Hosts

A host is a domain, an IPv4 address or an IPv6 address. A domain is decoded and
written in ASCII. A domain whose last label is a number has to be an IPv4 address,
each of whose up to four parts may be decimal, octal or hexadecimal. An IPv6
address stands between brackets and is written with its longest run of zeros cut
out.
-/
namespace MediaNode.Url

/-- Why a text is no URL. -/
inductive Error where
  | emptyHost
  | internationalName
  | port
  | ipv4
  | ipv6
  | domainCharacter
  | relativeWithoutBase
deriving DecidableEq, Repr, Inhabited

/-- The wording of each cause. -/
def Error.message : Error → String
  | .emptyHost => "empty host"
  | .internationalName => "invalid international domain name"
  | .port => "invalid port number"
  | .ipv4 => "invalid IPv4 address"
  | .ipv6 => "invalid IPv6 address"
  | .domainCharacter => "invalid domain character"
  | .relativeWithoutBase => "relative URL without a base"

/-- The host of a URL. -/
inductive Host where
  | domain (name : String)
  | ipv4 (address : Nat)
  | ipv6 (pieces : List Nat)
deriving DecidableEq, Repr, Inhabited

namespace Host

/-- Characters that no opaque host may hold. -/
def isForbiddenOpaque (c : Char) : Bool := "\x00\t\n\r #/:<>?@[\\]^|".toList.contains c

/-- One part of an IPv4 address in its base; `none` if it is no number. -/
def ipv4Part (part : List Char) : Option Nat :=
  let inBase (base : Nat) (digits : List Char) : Option Nat :=
    digits.foldl (fun n c => n.bind fun n => (Text.Hex.value? c).bind fun d =>
      if d < base then some (base * n + d) else none) (some 0)
  match part with
  | [] => none
  | '0' :: 'x' :: rest => inBase 16 rest
  | '0' :: 'X' :: rest => inBase 16 rest
  | ['0'] => some 0
  | '0' :: rest => inBase 8 rest
  | digits => inBase 10 digits

/-- The labels of a domain without the empty one behind a last dot. -/
def numberLabels (domain : List Char) : List (List Char) :=
  let labels := Text.splitAll '.' domain
  if labels.getLast? = some [] ∧ 1 < labels.length then labels.dropLast else labels

/-- Whether the last label of a domain is a number. -/
def endsInNumber (domain : List Char) : Bool :=
  match (numberLabels domain).getLast? with
  | none => false
  | some last =>
    (!last.isEmpty && last.all fun c => (Text.digit? c).isSome) ||
      (match last with
        | '0' :: 'x' :: rest => rest.all fun c => (Text.Hex.value? c).isSome
        | '0' :: 'X' :: rest => rest.all fun c => (Text.Hex.value? c).isSome
        | _ => false)

/-- An IPv4 address: the last part fills all bytes the others leave. -/
def ipv4Of (domain : List Char) : Except Error Host :=
  let parts := numberLabels domain
  let numbers := parts.filterMap ipv4Part
  if 4 < parts.length ∨ numbers.length ≠ parts.length then .error .ipv4
  else
    match numbers.reverse with
    | [] => .error .ipv4
    | last :: before =>
      let front := before.reverse
      if 1 <<< (8 * (4 - front.length)) ≤ last ∨ front.any (255 < ·) then .error .ipv4
      else
        let high := front.foldl (fun n b => n * 256 + b) 0
        .ok (.ipv4 ((high <<< (8 * (4 - front.length))) + last))

/-- One group of an IPv6 address. -/
def ipv6Group (text : List Char) : Option Nat :=
  if text.isEmpty ∨ 4 < text.length then none
  else text.foldl (fun n c => n.bind fun n => (Text.Hex.value? c).map (16 * n + ·)) (some 0)

/-- The two groups of a dotted address at the end of an IPv6 address. -/
def ipv6Dotted (text : List Char) : Option (List Nat) :=
  let parts := Text.splitAll '.' text
  let numbers := parts.filterMap fun p =>
    match p with
    | '0' :: _ :: _ => none
    | _ => (Text.digits? p).filter (· < 256)
  match numbers with
  | [a, b, c, d] => if parts.length = 4 then some [a * 256 + b, c * 256 + d] else none
  | _ => none

/-- The groups of a run of groups between colons; the last may be dotted. -/
def ipv6Groups (text : List Char) : Option (List Nat) :=
  if text.isEmpty then some []
  else
    let parts := Text.splitAll ':' text
    let front := parts.dropLast.map ipv6Group
    let last := parts.getLast?.getD []
    let ending := if last.contains '.' then ipv6Dotted last else (ipv6Group last).map ([·])
    match ending with
    | none => none
    | some ending => if front.any Option.isNone then none else some (front.filterMap id ++ ending)

/-- Cut a text at its first pair of colons. -/
def cutDouble : List Char → Option (List Char × List Char)
  | ':' :: ':' :: rest => some ([], rest)
  | c :: rest => (cutDouble rest).map fun (a, b) => (c :: a, b)
  | [] => none

/-- An IPv6 address. -/
def ipv6Of (text : List Char) : Except Error Host :=
  let groups : Option (List Nat) :=
    match cutDouble text with
    | none => (ipv6Groups text).filter (·.length = 8)
    | some (before, behind) =>
      if before.contains '.' then none
      else
        match ipv6Groups before, ipv6Groups behind with
        | some a, some b =>
          if a.length + b.length < 8 then
            some (a ++ List.replicate (8 - a.length - b.length) 0 ++ b)
          else none
        | _, _ => none
  match groups with
  | some groups => .ok (.ipv6 groups)
  | none => .error .ipv6

/-- How many zeros stand at the front. -/
def zeroRun (groups : List Nat) : Nat := (groups.takeWhile (· = 0)).length

/-- The place and length of the longest run of at least two zeros, the first of
equal ones. -/
def longestZeros (groups : List Nat) : Option (Nat × Nat) :=
  (List.range groups.length).foldl (fun best i =>
    let run := zeroRun (groups.drop i)
    match best with
    | some (_, n) => if n < run then some (i, run) else best
    | none => if 2 ≤ run then some (i, run) else none) none

/-- Groups in hexadecimal between colons. -/
def groupText (groups : List Nat) : List Char :=
  (List.intersperse [':'] (groups.map fun g => Nat.toDigits 16 g)).flatten

/-- The text of a host. -/
def text : Host → String
  | .domain name => name
  | .ipv4 n =>
    ".".intercalate ([n >>> 24, (n >>> 16) % 256, (n >>> 8) % 256, n % 256].map Text.decimal)
  | .ipv6 groups =>
    match longestZeros groups with
    | none => "[" ++ String.ofList (groupText groups) ++ "]"
    | some (i, n) =>
      "[" ++ String.ofList (groupText (groups.take i)) ++ "::" ++
        String.ofList (groupText (groups.drop (i + n))) ++ "]"

/-- Read the host of a special scheme. -/
def parse (text : List Char) : Except Error Host :=
  match text with
  | '[' :: rest =>
    if rest.getLast? = some ']' then ipv6Of rest.dropLast else .error .ipv6
  | _ =>
    match Text.ofBytes? (decode (String.ofList text)) with
    | none => .error .internationalName
    | some written =>
      match Domain.ascii? written.toList with
      | none => .error .internationalName
      | some name =>
        if name.isEmpty then .error .emptyHost
        else if endsInNumber name then ipv4Of name
        else .ok (.domain (String.ofList name))

/-- Read the host of any other scheme, which is kept as it is. -/
def parseOpaque (text : List Char) : Except Error Host :=
  match text with
  | '[' :: rest =>
    if rest.getLast? = some ']' then ipv6Of rest.dropLast else .error .ipv6
  | _ =>
    if text.any isForbiddenOpaque then .error .domainCharacter
    else .ok (.domain (String.ofList (encode isControlOrWide text)))

end Host
end MediaNode.Url
