import MediaNode.Rpc.Message

/-!
# Frames

A frame is a payload behind its length in four bytes, most significant first. The
decoder takes the length as soon as its four bytes are there and the payload
fits the limit, and then waits for the payload. A payload that is no message is
dropped or ends the reading, as the policy says.
-/
namespace MediaNode.Rpc

/-- What to do about a payload that is no message. -/
inductive Policy where
  /-- Drop it and go on with the next frame. -/
  | skip
  /-- Report it, which ends the reading. -/
  | fail
deriving DecidableEq, Repr, Inhabited

/-- The limit and the policy of a connection. -/
structure Codec where
  maxLength : Nat
  policy : Policy
deriving DecidableEq, Repr, Inhabited

/-- The greatest payload of a connection: sixteen mebibytes. -/
def maxMessageSize : Nat := 16 * 1024 * 1024

/-- Control connections drop malformed payloads. -/
def Codec.control : Codec := { maxLength := maxMessageSize, policy := .skip }

/-- Worker links end at a malformed payload. -/
def Codec.strict : Codec := { maxLength := maxMessageSize, policy := .fail }

/-- Why a connection cannot go on. -/
inductive CodecError where
  /-- The connection failed with this text. -/
  | io (text : String)
  /-- A payload is no message. -/
  | json (cause : ReadError)
  /-- A frame is longer than the limit. -/
  | tooLarge (max : Nat)
deriving Repr, Inhabited

/-- The wording of a cause. -/
def CodecError.message : CodecError → String
  | .io text => "I/O error: " ++ text
  | .json cause => "JSON error: " ++ cause.message
  | .tooLarge max => "Message too large (max: " ++ Text.decimal max ++ " bytes)"

/-- The length in front of a payload. -/
def lengthBytes (n : Nat) : List UInt8 :=
  [UInt8.ofNat (n >>> 24), UInt8.ofNat (n >>> 16), UInt8.ofNat (n >>> 8), UInt8.ofNat n]

/-- The frame of a payload. -/
def frame (payload : List UInt8) : List UInt8 := lengthBytes payload.length ++ payload

/-- A read buffer: the length already taken of an unfinished frame, and the bytes
not yet decoded. -/
structure Buffer where
  awaited : Option Nat := none
  data : List UInt8 := []
deriving DecidableEq, Repr, Inhabited

/-- Add bytes at the end of a buffer. -/
def Buffer.push (buffer : Buffer) (bytes : List UInt8) : Buffer :=
  { buffer with data := buffer.data ++ bytes }

/-- Take the length of the next frame, if it is there. -/
def Buffer.takeLength (codec : Codec) (buffer : Buffer) : Except CodecError Buffer :=
  match buffer.awaited, buffer.data with
  | none, a :: b :: c :: d :: rest =>
    let n := ((a.toNat * 256 + b.toNat) * 256 + c.toNat) * 256 + d.toNat
    if codec.maxLength < n then .error (.tooLarge codec.maxLength)
    else .ok { awaited := some n, data := rest }
  | _, _ => .ok buffer

/-- Take the next payload, if it is complete. -/
def Buffer.takePayload (buffer : Buffer) : Option (List UInt8 × Buffer) :=
  match buffer.awaited with
  | none => none
  | some n =>
    if buffer.data.length < n then none
    else some (buffer.data.take n, { awaited := none, data := buffer.data.drop n })

/-- What one call of the decoder gives. -/
inductive Decoded where
  /-- A message. -/
  | message (body : Message)
  /-- No complete frame is left. -/
  | more
  /-- The reading is over. -/
  | failed (cause : CodecError)
deriving Repr, Inhabited

/-- Take messages up to the first one, an error, or the end of the data. Also the
buffer afterwards and the number of payloads dropped. Every frame takes at least
its four length bytes, unless its length was taken before, so a fuel of one more
than the bytes and the awaited frame is never used up. -/
def decodeWith (codec : Codec) : Nat → Nat → Buffer → Decoded × Buffer × Nat
  | 0, dropped, buffer => (.more, buffer, dropped)
  | fuel + 1, dropped, buffer =>
    match buffer.takeLength codec with
    | .error e => (.failed e, buffer, dropped)
    | .ok buffer =>
      match buffer.takePayload with
      | none => (.more, buffer, dropped)
      | some (payload, rest) =>
        match Message.parseBytes payload with
        | .ok message => (.message message, rest, dropped)
        | .error cause =>
          match codec.policy with
          | .skip => decodeWith codec fuel (dropped + 1) rest
          | .fail => (.failed (.json cause), rest, dropped)

/-- One call of the decoder. -/
def decode (codec : Codec) (buffer : Buffer) : Decoded × Buffer × Nat :=
  decodeWith codec (buffer.data.length + 2) 0 buffer

/-- One call of the decoder at the end of the connection: bytes that are left
over are an error. -/
def decodeEnd (codec : Codec) (buffer : Buffer) : Decoded × Buffer × Nat :=
  match decode codec buffer with
  | (.more, rest, dropped) =>
    if rest.data.isEmpty then (.more, rest, dropped)
    else (.failed (.io "bytes remaining on stream"), rest, dropped)
  | other => other

/-- All messages of a buffer, with the error that ends them if there is one. -/
def decodeAll (codec : Codec) : Nat → Buffer → List Message × Option CodecError × Buffer
  | 0, buffer => ([], none, buffer)
  | fuel + 1, buffer =>
    match decode codec buffer with
    | (.message body, rest, _) =>
      let (others, failure, last) := decodeAll codec fuel rest
      (body :: others, failure, last)
    | (.more, rest, _) => ([], none, rest)
    | (.failed cause, rest, _) => ([], some cause, rest)

/-- All messages that a buffer holds. -/
def Buffer.drain (codec : Codec) (buffer : Buffer) : List Message × Option CodecError × Buffer :=
  decodeAll codec (buffer.data.length + 2) buffer

/-- Append the frame of a message to a buffer of bytes to write. -/
def encode (codec : Codec) (message : Message) (written : List UInt8) :
    Except CodecError (List UInt8) :=
  let payload := Text.bytes message.toText
  if codec.maxLength < payload.length then .error (.tooLarge codec.maxLength)
  else .ok (written ++ frame payload)

end MediaNode.Rpc
