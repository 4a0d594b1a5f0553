import MediaNode.Stream.Endpoint
import MediaNode.Stream.Error

/-!
# Typed configurations

`build` turns a spec into the configuration of its kind. It fails for a missing or
unknown type, for proxies, for missing inputs or outputs, and for a restart count
or a chunk duration out of range, in this order; an optional field of the wrong
type counts as absent.
-/
namespace MediaNode.Stream

/-- What every stream has. -/
structure Base where
  kind : Kind
  maxRestartAttempts : Nat
  input : List Input
  output : List Output
  /-- Seconds after which the stream ends by itself. -/
  ttl : Option Nat
deriving DecidableEq, Repr, Inhabited

/-- What every stream with pictures and sound has. -/
structure Av where
  base : Base
  haveVideo : Bool
  haveAudio : Bool
  haveSubtitle : Bool
  audioSelect : Option Int
  looped : Bool
deriving DecidableEq, Repr, Inhabited

/-- A stream that is passed on unchanged. -/
structure Relay where
  av : Av
  videoParser : Option String
  audioParser : Option String
deriving DecidableEq, Repr, Inhabited

/-- A width and a height. -/
structure Size where
  width : Nat
  height : Nat
deriving DecidableEq, Repr, Inhabited

/-- A fraction whose denominator is not zero. -/
structure Ratio where
  num : Nat
  den : Nat
deriving DecidableEq, Repr, Inhabited

/-- A picture laid over a stream. -/
structure Logo where
  path : String
  x : Int
  y : Int
  alpha : Double
  size : Option Size
deriving DecidableEq, Repr, Inhabited

/-- A stream that is encoded anew. -/
structure Encode where
  av : Av
  relayAudio : Bool
  relayVideo : Bool
  deinterlace : Bool
  frameRate : Option Nat
  volume : Option Double
  videoCodec : String
  audioCodec : String
  audioChannels : Option Nat
  size : Option Size
  videoBitrate : Option Nat
  audioBitrate : Option Nat
  logo : Option Logo
  rsvgLogo : Option Logo
  aspectRatio : Option Ratio
  decklinkVideoMode : Option Int
  encoderArgs : List (String × Int)
  encoderStrArgs : List (String × String)
deriving DecidableEq, Repr, Inhabited

/-- The configuration of a stream. -/
inductive Config where
  | screen (av : Av)
  | relay (relay : Relay)
  | vodRelay (relay : Relay) (cleanupTs : Bool)
  | encode (encode : Encode)
  | vodEncode (encode : Encode) (cleanupTs : Bool)
  | timeshift (relay : Relay) (chunkDuration : Nat)
deriving DecidableEq, Repr, Inhabited

namespace Config

/-- What every configuration has. -/
def av : Config → Av
  | .screen av => av
  | .relay r => r.av
  | .vodRelay r _ => r.av
  | .timeshift r _ => r.av
  | .encode e => e.av
  | .vodEncode e _ => e.av

/-- What every stream has. -/
def base (config : Config) : Base := config.av.base

/-- The kind of the stream. -/
def kind (config : Config) : Kind := config.base.kind

/-- Whether old chunks of an on-demand output are removed when the stream ends. -/
def cleanupTs : Config → Bool
  | .vodRelay _ cleanup => cleanup
  | .vodEncode _ cleanup => cleanup
  | _ => false

end Config

/-- How often a worker restarts its stream when the spec does not say. -/
def defaultRestartAttempts : Nat := 10

/-- Seconds of a chunk when the spec does not say. -/
def defaultChunkDuration : Nat := 120

def defaultVideoCodec : String := "x264enc"
def defaultAudioCodec : String := "faac"

/-- A positive number of 32 bits, or nothing. -/
def positive32? (n : Int) : Option Nat := if 0 < n ∧ n < UInt32.size then some n.toNat else none

/-- A number of 32 bits in a field. -/
def nat32? (spec : Spec) (key : String) : Option Nat :=
  (spec.int? key).bind fun n => if 0 ≤ n ∧ n < UInt32.size then some n.toNat else none

/-- The record of a position. -/
def pointType : Json.RecordType :=
  { name := "Point"
    fields := [.of "x" .required Json.shapeInt32, .of "y" .required Json.shapeInt32] }

/-- A position. -/
def pointOf (value : Json) : Json.Shaped (Int × Int) := do
  let members ← Json.record pointType value
  return ((Json.fieldOf members "x" Json.shapeInt32).getD 0,
    (Json.fieldOf members "y" Json.shapeInt32).getD 0)

/-- The record of a size. -/
def sizeType : Json.RecordType :=
  { name := "Raw"
    fields := [.of "width" .required Json.shapeUInt32, .of "height" .required Json.shapeUInt32] }

/-- A size. -/
def sizeOf (value : Json) : Json.Shaped Size := do
  let members ← Json.record sizeType value
  return {
    width := (Json.fieldOf members "width" Json.shapeUInt32).getD 0
    height := (Json.fieldOf members "height" Json.shapeUInt32).getD 0 }

/-- The record of a logo. -/
def logoType : Json.RecordType :=
  { name := "Logo"
    fields :=
      [.of "path" .required Json.shapeStr, .of "position" .defaulted pointOf,
       .of "alpha" .defaulted Json.shapeDouble, .of "size" .defaulted (Json.shapeOption sizeOf)] }

/-- A logo. -/
def logoOf (value : Json) : Json.Shaped Logo := do
  let members ← Json.record logoType value
  let (x, y) := (Json.fieldOf members "position" pointOf).getD (0, 0)
  return {
    path := (Json.fieldOf members "path" Json.shapeStr).getD ""
    x, y
    alpha := (Json.fieldOf members "alpha" Json.shapeDouble).getD (Double.ofNat 1)
    size := (Json.fieldOf members "size" (Json.shapeOption sizeOf)).getD none }

/-- The logo in a field, if the field is an object of its shape. -/
def logo? (spec : Spec) (key : String) : Option Logo :=
  (spec.get? key).bind fun value => if value.isObj then (logoOf value).toOption else none

/-- Whether a field is a parameter of an encoder. -/
def isEncoderField (key : String) : Bool := encoderNames.any fun name => name.toList.isPrefixOf key.toList

/-- The parameters of encoders that are integers; a set flag counts as one. -/
def encoderArgs (spec : Spec) : List (String × Int) :=
  spec.members.filterMap fun (key, value) =>
    if isEncoderField key then
      match value with
      | .int _ => value.asInt64.map fun n => (key, n)
      | .bool true => some (key, 1)
      | _ => none
    else none

/-- The parameters of encoders that are strings. -/
def encoderStrArgs (spec : Spec) : List (String × String) :=
  spec.members.filterMap fun (key, value) =>
    if isEncoderField key then value.asStr.map fun s => (key, s) else none

/-- The configuration of a stream that is passed on. -/
def relayOf (spec : Spec) (av : Av) : Relay :=
  { av, videoParser := spec.str? "video_parser", audioParser := spec.str? "audio_parser" }

/-- The configuration of a stream that is encoded anew. -/
def encodeOf (spec : Spec) (av : Av) : Encode :=
  { av
    relayAudio := (spec.bool? "relay_audio").getD false
    relayVideo := (spec.bool? "relay_video").getD false
    deinterlace := (spec.bool? "deinterlace").getD false
    frameRate := nat32? spec "framerate"
    volume := spec.double? "volume"
    videoCodec := (spec.str? "video_codec").getD defaultVideoCodec
    audioCodec := (spec.str? "audio_codec").getD defaultAudioCodec
    audioChannels := nat32? spec "audio_channels"
    size := ((spec.str? "size").bind (parsePair · 'x')).map fun (width, height) =>
      { width, height }
    videoBitrate := nat32? spec "video_bitrate"
    audioBitrate := nat32? spec "audio_bitrate"
    logo := logo? spec "logo"
    rsvgLogo := logo? spec "rsvg_logo"
    aspectRatio := (((spec.str? "aspect_ratio").bind (parsePair · ':')).filter
      fun (_, den) => den ≠ 0).map fun (num, den) => { num, den }
    decklinkVideoMode := spec.int? "decklink_video_mode"
    encoderArgs := encoderArgs spec
    encoderStrArgs := encoderStrArgs spec }

/-- A positive number in a field, its default where the field is no integer, or
the error for one out of range. -/
def positiveField (spec : Spec) (key : String) (default_ : Nat) (refuse : Int → ConfigError) :
    Except ConfigError Nat :=
  match spec.int? key with
  | none => .ok default_
  | some n =>
    match positive32? n with
    | some m => .ok m
    | none => .error (refuse n)

/-- The configuration of a kind. -/
def configOf (spec : Spec) (av : Av) : Except ConfigError Config :=
  let cleanup := (spec.bool? "cleanup_ts").getD false
  match av.base.kind with
  | .screen => .ok (.screen av)
  | .relay | .timeshiftPlayer | .testLife | .codRelay => .ok (.relay (relayOf spec av))
  | .vodRelay => .ok (.vodRelay (relayOf spec av) cleanup)
  | .encode | .codEncode | .event => .ok (.encode (encodeOf spec av))
  | .vodEncode => .ok (.vodEncode (encodeOf spec av) cleanup)
  | .timeshiftRecorder | .catchup =>
    (positiveField spec "timeshift_chunk_duration" defaultChunkDuration .chunkDuration).map
      (.timeshift (relayOf spec av))
  | .proxy | .vodProxy => .error .proxyUnsupported

/-- The seconds after which a stream ends by itself: a positive integer. -/
def ttlOf (spec : Spec) : Option Nat :=
  ((spec.get? "auto_exit_time").bind Json.asNat).filter (0 < ·)

/-- The configuration of a spec. -/
def build (spec : Spec) : Except ConfigError Config := do
  let number ← require (.missing "type") (spec.int? "type")
  let kind ← require (.unknownType number) (Kind.ofInt? number)
  if kind.isProxy then throw .proxyUnsupported
  let input ← require (.missing "input") (readInput spec)
  let output ← require (.missing "output") (readOutput spec)
  let maxRestartAttempts ←
    positiveField spec "restart_attempts" defaultRestartAttempts .restartAttempts
  configOf spec {
    base := { kind, maxRestartAttempts, input, output, ttl := ttlOf spec }
    haveVideo := (spec.bool? "have_video").getD true
    haveAudio := (spec.bool? "have_audio").getD true
    haveSubtitle := (spec.bool? "have_subtitle").getD false
    audioSelect := spec.int? "audio_select"
    looped := (spec.bool? "loop").getD false }

end MediaNode.Stream
