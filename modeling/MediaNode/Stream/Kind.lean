/-!
# Kinds of streams

A stream has one of fourteen kinds, which specs give by number.
-/
namespace MediaNode.Stream

/-- What a stream does. -/
inductive Kind where
  | proxy
  | vodProxy
  | relay
  | encode
  | timeshiftPlayer
  | timeshiftRecorder
  | catchup
  | testLife
  | vodRelay
  | vodEncode
  | codRelay
  | codEncode
  | event
  | screen
deriving DecidableEq, Repr, Inhabited

namespace Kind

/-- The number of a kind. -/
def number : Kind → Nat
  | .proxy => 0
  | .vodProxy => 1
  | .relay => 2
  | .encode => 3
  | .timeshiftPlayer => 4
  | .timeshiftRecorder => 5
  | .catchup => 6
  | .testLife => 7
  | .vodRelay => 8
  | .vodEncode => 9
  | .codRelay => 10
  | .codEncode => 11
  | .event => 12
  | .screen => 13

/-- All kinds in the order of their numbers. -/
def all : List Kind :=
  [proxy, vodProxy, relay, encode, timeshiftPlayer, timeshiftRecorder, catchup, testLife,
   vodRelay, vodEncode, codRelay, codEncode, event, screen]

/-- The greatest number of a kind. -/
def maxNumber : Nat := 13

/-- The kind of a number. -/
def ofInt? (n : Int) : Option Kind := all.find? fun kind => (kind.number : Int) = n

/-- The name of a kind. -/
def name : Kind → String
  | .proxy => "PROXY"
  | .vodProxy => "VOD_PROXY"
  | .relay => "RELAY"
  | .encode => "ENCODE"
  | .timeshiftPlayer => "TIMESHIFT_PLAYER"
  | .timeshiftRecorder => "TIMESHIFT_RECORDER"
  | .catchup => "CATCHUP"
  | .testLife => "TEST_LIFE"
  | .vodRelay => "VOD_RELAY"
  | .vodEncode => "VOD_ENCODE"
  | .codRelay => "COD_RELAY"
  | .codEncode => "COD_ENCODE"
  | .event => "EVENT"
  | .screen => "SCREEN"

/-- Kinds that only pass a stream on and have no worker. -/
def isProxy (kind : Kind) : Bool := kind = proxy || kind = vodProxy

/-- Kinds started when a file of a library is asked for. -/
def isVod (kind : Kind) : Bool := kind = vodRelay || kind = vodEncode

/-- Kinds started when a channel is asked for, and stopped when it no longer is. -/
def isCod (kind : Kind) : Bool := kind = codRelay || kind = codEncode

/-- Kinds that write into a directory of their own instead of outputs. -/
def recordsTimeshift (kind : Kind) : Bool := kind = timeshiftRecorder || kind = catchup

end Kind
end MediaNode.Stream
