import MediaNode.Rpc.Message
import MediaNode.Text.Blank
import MediaNode.Text.Hex
import MediaNode.Url.Host

/-!
# Control sessions

A control connection has one session. It starts unverified, and activation
verifies it with the access that was asked for. A session remembers the requests
sent to its client until they are answered.
-/
namespace MediaNode

/-- The address at the far end of a connection. -/
structure Peer where
  host : Url.Host
  port : Nat
deriving DecidableEq, Repr, Inhabited

namespace Peer

/-- Read `host:port`, an IPv6 host between brackets. -/
def parse (text : String) : Option Peer := do
  let (host, port) ← Text.splitLast ':' text.toList
  let port ← Text.unsigned? 16 port
  let host ← match host with
    | '[' :: _ => (Url.Host.parse host).toOption
    | _ =>
      match (Url.Host.parse host).toOption with
      | some (.ipv4 n) => some (.ipv4 n)
      | _ => none
  return { host, port }

/-- Whether the far end is this machine: 127/8, or one in IPv6. -/
def isLoopback (peer : Peer) : Bool :=
  match peer.host with
  | .ipv4 n => n >>> 24 = 127
  | .ipv6 groups => groups = [0, 0, 0, 0, 0, 0, 0, 1]
  | .domain _ => false

/-- How an address reads. -/
def text (peer : Peer) : String := peer.host.text ++ ":" ++ Text.decimal peer.port

end Peer

/-- What an activated session may do. -/
inductive Access where
  | full
  /-- Questions to the node, but no control of streams. -/
  | verifyOnly
deriving DecidableEq, Repr, Inhabited

/-- The access that activation asks for: only the word `verify` limits it. -/
def Access.ofRequest : Option String → Access
  | some word => if Text.asciiLower word = "verify" then .verifyOnly else .full
  | none => .full

/-- Requests that were sent and not answered, with their methods. -/
abbrev Pending := List (Rpc.Id × String)

namespace Pending

/-- Remember a request; also the method of one with the same id before. -/
def insert (pending : Pending) (id : Rpc.Id) (method : String) : Pending × Option String :=
  ((id, method) :: pending.filter (·.fst ≠ id), pending.lookup id)

/-- Forget the request of an id; also its method. -/
def take (pending : Pending) (id : Rpc.Id) : Pending × Option String :=
  (pending.filter (·.fst ≠ id), pending.lookup id)

/-- How many requests have a method. -/
def countMethod (pending : Pending) (method : String) : Nat :=
  (pending.filter (·.snd = method)).length

end Pending

/-- A control session. -/
structure Session where
  peer : Peer
  verified : Bool := false
  /-- When the license that verified the session expires; zero before. -/
  expiration : Int := 0
  access : Access := .full
  pending : Pending := []
deriving DecidableEq, Repr, Inhabited

namespace Session

/-- Verify a session. -/
def activate (session : Session) (expiration : Int) (access : Access) : Session :=
  { session with verified := true, expiration, access }

/-- Whether the session may control streams. -/
def hasFullAccess (session : Session) : Bool := session.verified && session.access = .full

/-- Forget a request that was answered; also its method. -/
def takePending (session : Session) (id : Rpc.Id) : Session × Option String :=
  let (pending, method) := session.pending.take id
  ({ session with pending }, method)

/-- The name of a session from random bytes: a random identifier of version four in
its usual writing, with the bits of version and variant set. -/
def nameOfBytes (random : List UInt8) : String :=
  let marked := (random.take 16).zipIdx.map fun (byte, place) =>
    if place = 6 then byte &&& 0x0F ||| 0x40
    else if place = 8 then byte &&& 0x3F ||| 0x80
    else byte
  let digits := Text.Hex.encode marked
  "-".intercalate <| List.map String.ofList
    [digits.take 8, (digits.drop 8).take 4, (digits.drop 12).take 4, (digits.drop 16).take 4,
     digits.drop 20]

end Session
end MediaNode
