import MediaNode.Digest
import MediaNode.Text.Blank
import MediaNode.Text.Hex

/-!
# License keys

A key is 48 hexadecimal digits: the time of its expiry in milliseconds since the
epoch as sixteen digits, then the first 32 digits of a digest over the project's
name and those sixteen. Keys are issued in lower case and accepted in any.

Everything here holds for any digest; `digest` is the one in use.
-/
namespace MediaNode.License

/-- The name that every digest begins with. -/
def project : String := "streamd"

/-- How many digits spell the expiry. -/
def expiryDigits : Nat := 16

/-- How many digits of the digest belong to a key. -/
def checksumDigits : Nat := 32

/-- How many digits a key has. -/
def keyDigits : Nat := expiryDigits + checksumDigits

/-- The digest in use. -/
def digest : List UInt8 → List UInt8 := Digest.sha256

/-- The digits that vouch for the digits of an expiry. -/
def checksum (digest : List UInt8 → List UInt8) (expiry : List Char) : List Char :=
  (Text.Hex.encode (digest (Text.bytes project ++ Text.bytes (String.ofList expiry)))).take
    checksumDigits

/-- The digits of an expiry, a negative one in two's complement. -/
def expiryText (expiry : Int) : List Char :=
  Text.Hex.fixed expiryDigits (expiry % UInt64.size).toNat

/-- The key of an expiry. -/
def keyChars (digest : List UInt8 → List UInt8) (expiry : Int) : List Char :=
  expiryText expiry ++ checksum digest (expiryText expiry)

/-- The number that hexadecimal digits spell. -/
def spelled : List Char → Option Nat
  | [] => some 0
  | digits => digits.foldl (fun n c => n.bind fun n => (Text.Hex.value? c).map (16 * n + ·)) (some 0)

/-- The signed 64-bit number of an unsigned one. -/
def signed64 (n : Nat) : Int := if n ≤ 0x7FFFFFFFFFFFFFFF then n else (n : Int) - UInt64.size

/-- The expiry of a key, if it is one. -/
def expiryOf (digest : List UInt8 → List UInt8) (key : List Char) : Option Int :=
  if key.length ≠ keyDigits ∨ ¬ key.all (fun c => c.toNat < 128) then none
  else
    let (expiry, sum) := key.splitAt expiryDigits
    if checksum digest (expiry.map Char.toLower) ≠ sum.map Char.toLower then none
    else (spelled expiry).map signed64

/-- Issue the key of an expiry. -/
def makeKey (expiry : Int) : String := String.ofList (keyChars digest expiry)

/-- The expiry of a key, if it is one. -/
def expireTime (key : String) : Option Int := expiryOf digest key.toList

/-- Whether a key is one and expires after a time. -/
def isActive (key : String) (now : Int) : Bool :=
  match expireTime key with
  | some expiry => decide (now < expiry)
  | none => false

end MediaNode.License
