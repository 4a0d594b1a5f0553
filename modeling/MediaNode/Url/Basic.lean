import MediaNode.Url.Host
import MediaNode.Path

/-!
# URLs

Reading follows the living standard for URLs: blanks and controls at the ends are
stripped, tabs and line ends removed, the scheme is lower-cased, a special scheme
needs a host and takes back-slashes for slashes, and dots in the path are
resolved. There is no base, so a text without a scheme is refused.
-/
namespace MediaNode

/-- A URL in its parts. A path is either the segments behind slashes or one opaque
text. -/
structure Url where
  scheme : String
  username : String := ""
  password : String := ""
  host : Option Url.Host := none
  port : Option Nat := none
  segments : List String := []
  opaquePath : Option String := none
  query : Option String := none
  fragment : Option String := none
deriving DecidableEq, Repr, Inhabited

namespace Url

/-- The port that a special scheme uses when none is given. -/
def defaultPort (scheme : String) : Option Nat :=
  if scheme = "http" ∨ scheme = "ws" then some 80
  else if scheme = "https" ∨ scheme = "wss" then some 443
  else if scheme = "ftp" then some 21
  else none

/-- Whether a scheme has hosts and slashes of its own rules. -/
def isSpecial (scheme : String) : Bool :=
  scheme = "file" || (defaultPort scheme).isSome

/-- A slash, or for a special scheme a back-slash. -/
def isSlash (special : Bool) (c : Char) : Bool := c = '/' || (special && c = '\\')

/-- A character that ends the authority. -/
def endsAuthority (special : Bool) (c : Char) : Bool :=
  isSlash special c || c = '?' || c = '#'

/-- The text without what stripping and removing takes. -/
def clean (text : String) : List Char :=
  let control (c : Char) : Bool := c.toNat ≤ 0x20
  let inner := ((text.toList.dropWhile control).reverse.dropWhile control).reverse
  inner.filter fun c => c ≠ '\t' && c ≠ '\n' && c ≠ '\r'

/-- The scheme and what follows its colon. -/
def splitScheme (text : List Char) : Option (String × List Char) :=
  match text with
  | [] => none
  | first :: _ =>
    if first.isAlpha then
      let body := text.takeWhile fun c => c.isAlphanum || c = '+' || c = '-' || c = '.'
      match text.drop body.length with
      | ':' :: rest => some (Text.asciiLower (String.ofList body), rest)
      | _ => none
    else none

/-- A segment that stays where it is. -/
def isSingleDot (segment : List Char) : Bool :=
  let s := String.ofList (segment.map Char.toLower)
  s = "." || s = "%2e"

/-- A segment that goes one up. -/
def isDoubleDot (segment : List Char) : Bool :=
  let s := String.ofList (segment.map Char.toLower)
  s = ".." || s = ".%2e" || s = "%2e." || s = "%2e%2e"

/-- A drive letter and a colon or bar. -/
def isDrive : List Char → Bool
  | [letter, mark] => letter.isAlpha && (mark = ':' || mark = '|')
  | _ => false

/-- Cut a path into pieces at its slashes. -/
def splitSlashes (special : Bool) : List Char → List (List Char)
  | [] => [[]]
  | c :: rest =>
    if isSlash special c then [] :: splitSlashes special rest
    else
      match splitSlashes special rest with
      | [] => [[c]]
      | piece :: pieces => (c :: piece) :: pieces

/-- Segments with one less, except that a drive stays. -/
def shorten (segments : List String) : List String :=
  match segments.getLast? with
  | some last => if isDrive last.toList then segments else segments.dropLast
  | none => []

/-- Add pieces to segments, resolving dots. A drive in front of the path of a file is
written with a colon. -/
def addPieces (file : Bool) (segments : List String) : List (List Char) → List String
  | [] => segments
  | piece :: rest =>
    let last := rest.isEmpty
    if isDoubleDot piece then
      let up := shorten segments
      addPieces file (if last then up ++ [""] else up) rest
    else if isSingleDot piece then
      addPieces file (if last then segments ++ [""] else segments) rest
    else
      let piece := match piece with
        | [letter, _] => if file && segments.isEmpty && isDrive piece then [letter, ':'] else piece
        | _ => piece
      addPieces file (segments ++ [String.ofList (encode pathSet piece)]) rest

/-- Segments without the empty ones in front of them, of which a path of nothing else
keeps one. -/
def dropEmpty (segments : List String) : List String :=
  match segments.dropWhile (· = "") with
  | [] => [""]
  | inner => inner

/-- Cut a text at its fragment, then at its query. -/
def splitTail (text : List Char) : List Char × Option (List Char) × Option (List Char) :=
  let (front, fragment) := match Text.splitFirst '#' text with
    | some (front, fragment) => (front, some fragment)
    | none => (text, none)
  match Text.splitFirst '?' front with
  | some (path, query) => (path, some query, fragment)
  | none => (front, none, fragment)

/-- The query and the fragment of a URL. -/
def withTail (url : Url) (query fragment : Option (List Char)) : Url :=
  { url with
    query := query.map fun q =>
      String.ofList (encode (if isSpecial url.scheme then specialQuerySet else querySet) q)
    fragment := fragment.map fun f => String.ofList (encode fragmentSet f) }

/-- Give a URL the path, query and fragment behind its authority. The path of a file
starts with no empty segment, and one that starts with a drive has no host. -/
def withPath (url : Url) (text : List Char) : Url :=
  let special := isSpecial url.scheme
  let (path, query, fragment) := splitTail text
  let file : Bool := url.scheme = "file"
  let segments := match path with
    | [] => if special then [""] else []
    | c :: rest =>
      let inner := if isSlash special c then rest else c :: rest
      addPieces file [] (splitSlashes special inner)
  let drive := file && (segments.head?.any fun s => isDrive s.toList)
  withTail { url with
    host := if drive then none else url.host
    segments := if file then dropEmpty segments else segments } query fragment

/-- Cut the user and password off an authority: everything up to the last at sign
before its end. -/
def splitUser (special : Bool) (text : List Char) :
    Except Error (Option (List Char) × List Char) :=
  let authority := text.takeWhile fun c => !endsAuthority special c
  match Text.splitLast '@' authority with
  | none => .ok (none, text)
  | some (user, _) =>
    let rest := text.drop (user.length + 1)
    match user, rest with
    | [], c :: _ => if endsAuthority special c then .error .emptyHost else .ok (none, rest)
    | [], [] => .ok (none, rest)
    | _, _ => .ok (some user, rest)

/-- How many characters belong to a host: up to a colon outside brackets or the
end of the authority. -/
def hostLength (special : Bool) : Bool → List Char → Nat
  | _, [] => 0
  | inside, c :: rest =>
    if (c = ':' && !inside) || endsAuthority special c then 0
    else
      let inside := if c = '[' then true else if c = ']' then false else inside
      hostLength special inside rest + 1

/-- The port behind a colon; the default port of the scheme counts as none. -/
def splitPort (scheme : String) (text : List Char) : Except Error (Option Nat × List Char) :=
  let digits := text.takeWhile fun c => (Text.digit? c).isSome
  let rest := text.drop digits.length
  let value := (Text.digits? digits).getD 0
  if 65535 < value then .error .port
  else
    match rest with
    | c :: _ =>
      if endsAuthority true c then
        .ok (if digits.isEmpty ∨ defaultPort scheme = some value then none else some value, rest)
      else .error .port
    | [] => .ok (if digits.isEmpty ∨ defaultPort scheme = some value then none else some value, rest)

/-- Read what follows the two slashes of an authority. -/
def parseAuthority (scheme : String) (text : List Char) : Except Error Url := do
  let special := isSpecial scheme
  let (user, text) ← splitUser special text
  let length := hostLength special false text
  let name := text.take length
  let rest := text.drop length
  let (username, password) := match user with
    | none => ("", "")
    | some user =>
      match Text.splitFirst ':' user with
      | some (name, word) =>
        (String.ofList (encode userinfoSet name), String.ofList (encode userinfoSet word))
      | none => (String.ofList (encode userinfoSet user), "")
  if special && name.isEmpty then throw .emptyHost
  let host ← if special then Host.parse name else Host.parseOpaque name
  let named : Bool := username ≠ "" || password ≠ ""
  if host = .domain "" ∧ (named ∨ rest.head? = some ':') then throw .emptyHost
  let (port, rest) ← match rest with
    | ':' :: behind => splitPort scheme behind
    | _ => pure (none, rest)
  return withPath { scheme, username, password, host := some host, port } rest

/-- Read a file URL behind its colon. Two slashes announce a host; where none follows,
not even a drive in place of it, the path gets a slash of its own. -/
def parseFile (text : List Char) : Except Error Url :=
  let base : Url := { scheme := "file" }
  match text with
  | a :: b :: rest =>
    if isSlash true a && isSlash true b then
      let name := rest.takeWhile fun c => !endsAuthority true c
      let behind := rest.drop name.length
      if isDrive name then .ok (withPath base ('/' :: rest))
      else if name.isEmpty then .ok (withPath base ('/' :: behind))
      else do
        let host ← Host.parse name
        if host = .domain "localhost" then return withPath base ('/' :: behind)
        return withPath { base with host := some host } behind
    else .ok (withPath base text)
  | _ => .ok (withPath base text)

/-- Read a URL. -/
def parse (text : String) : Except Error Url :=
  match splitScheme (clean text) with
  | none => .error .relativeWithoutBase
  | some (scheme, rest) =>
    if scheme = "file" then parseFile rest
    else if isSpecial scheme then parseAuthority scheme (rest.dropWhile (isSlash true))
    else
      match rest with
      | '/' :: '/' :: rest => parseAuthority scheme rest
      | '/' :: _ => .ok (withPath { scheme } rest)
      | _ =>
        let (path, query, fragment) := splitTail rest
        .ok (withTail { scheme, opaquePath := some (String.ofList (encode isControlOrWide path)) }
          query fragment)

/-- The path as text. -/
def pathText (url : Url) : String :=
  match url.opaquePath with
  | some path => path
  | none => String.join (url.segments.map ("/" ++ ·))

/-- The text of a URL. -/
def text (url : Url) : String :=
  let authority := match url.host with
    | none => if url.scheme = "file" then "//" else ""
    | some host =>
      let user :=
        if url.username = "" ∧ url.password = "" then ""
        else url.username ++ (if url.password = "" then "" else ":" ++ url.password) ++ "@"
      "//" ++ user ++ host.text ++ (url.port.map fun p => ":" ++ Text.decimal p).getD ""
  url.scheme ++ ":" ++ authority ++ url.pathText ++
    (url.query.map ("?" ++ ·)).getD "" ++ (url.fragment.map ("#" ++ ·)).getD ""

/-- The URL without user and password. A name that is no text stays, and so does a
password that is none and has no name in front of it. -/
def withoutUser (url : Url) : Url :=
  let isText (part : String) : Bool := (Text.ofBytes? (decode part)).isSome
  if isText url.username ∧ (url.username ≠ "" ∨ isText url.password) then
    { url with username := "", password := "" }
  else url

/-- Whether the scheme is HTTP, in the clear or not. -/
def isHttp (url : Url) : Bool := url.scheme = "http" || url.scheme = "https"

/-- The path that a file URL names on this machine: no other host, and a slash
behind a drive letter at the end. -/
def filePath (url : Url) : Option Path :=
  if url.scheme = "file" ∧ url.host = none then
    let bytes := url.segments.flatMap fun s => 0x2F :: decode s
    let drive := match bytes.reverse with
      | mark :: letter :: _ :: _ =>
        (mark = 0x3A || mark = 0x7C) && (Char.ofNat letter.toNat).isAlpha
      | _ => false
    some ⟨Text.ofBytesLossy (if drive then bytes ++ [0x2F] else bytes)⟩
  else none

end Url
end MediaNode
