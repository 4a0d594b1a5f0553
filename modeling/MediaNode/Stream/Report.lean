import MediaNode.Json.Build
import MediaNode.Stream.Config
import MediaNode.Stream.Identity

/-!
# Reports of streams

What is known of a stream as a value: its kind, what its identity says, and the
config of its worker. How a double is shown is left to the reader of the report.
-/
namespace MediaNode.Stream

/-- A kind with what holds of it. -/
def Kind.report (kind : Kind) : Json := .ofMembers
  [("value", .ofNat kind.number), ("name", .str kind.name), ("proxy", .bool kind.isProxy),
   ("vod", .bool kind.isVod), ("cod", .bool kind.isCod),
   ("timeshift", .bool kind.recordsTimeshift)]

/-- A path by its text. -/
def pathReport (path : Path) : Json := .str path.text

/-- A member of a spec as each type that it may be read as. -/
def Spec.memberReport (double : Double → Json) (spec : Spec) (key : String) : Json := .ofMembers
  [("present", .bool (spec.get? key).isSome), ("str", .ofOption .str (spec.str? key)),
   ("i64", .ofOption .int (spec.int? key)), ("f64", .ofOption double (spec.double? key)),
   ("bool", .ofOption .bool (spec.bool? key))]

/-- A spec with some of its members. -/
def Spec.report (double : Double → Json) (spec : Spec) (keys : List String) :
    List (String × Json) :=
  [("id", .ofOption .str spec.id?), ("type", .ofOption Kind.report spec.kind?),
   ("fields", .ofMembers (keys.map fun key => (key, spec.memberReport double key))),
   ("keys", .ofList (fun (key, _) => .str key) spec.members), ("value", spec.toJson)]

/-- An output with what is derived from it. -/
def Output.report (output : Output) : Json := .ofMembers
  [("uri", output.toJson), ("is_http", .bool output.isHttp),
   ("file_path", .ofOption pathReport output.filePath),
   ("served_root", .ofOption pathReport output.servedRoot)]

/-- An identity. -/
def Identity.report (identity : Identity) : List (String × Json) :=
  [("id", .str identity.id), ("type", .ofNat identity.kind.number),
   ("input", .ofList Input.toJson identity.input),
   ("output", .ofList Output.toJson identity.output),
   ("feedback_dir", pathReport identity.feedbackDirectory),
   ("data_dir", pathReport identity.dataDirectory), ("log_level", .int identity.logLevel),
   ("served_roots", .ofList pathReport identity.servedRoots)]

/-- A size as a pair. -/
def Size.report (size : Size) : Json := .arr [.ofNat size.width, .ofNat size.height]

/-- A logo. -/
def Logo.report (double : Double → Json) (logo : Logo) : Json := .ofMembers
  [("path", .str logo.path), ("x", .int logo.x), ("y", .int logo.y),
   ("alpha", double logo.alpha), ("size", .ofOption Size.report logo.size)]

/-- What is special to relaying. -/
def Relay.report (relay : Relay) : List (String × Json) :=
  [("video_parser", .ofOption .str relay.videoParser),
   ("audio_parser", .ofOption .str relay.audioParser)]

/-- What is special to encoding. -/
def Encode.report (double : Double → Json) (e : Encode) : List (String × Json) :=
  [("relay_audio", .bool e.relayAudio), ("relay_video", .bool e.relayVideo),
   ("deinterlace", .bool e.deinterlace), ("frame_rate", .ofOption .ofNat e.frameRate),
   ("volume", .ofOption double e.volume), ("video_codec", .str e.videoCodec),
   ("audio_codec", .str e.audioCodec), ("audio_channels", .ofOption .ofNat e.audioChannels),
   ("size", .ofOption Size.report e.size), ("video_bitrate", .ofOption .ofNat e.videoBitrate),
   ("audio_bitrate", .ofOption .ofNat e.audioBitrate),
   ("logo", .ofOption (Logo.report double) e.logo),
   ("rsvg_logo", .ofOption (Logo.report double) e.rsvgLogo),
   ("aspect_ratio", .ofOption (fun r : Ratio => .arr [.ofNat r.num, .ofNat r.den]) e.aspectRatio),
   ("decklink_video_mode", .ofOption .int e.decklinkVideoMode),
   ("encoder_args", .ofMembers (e.encoderArgs.map fun (k, n) => (k, .int n))),
   ("encoder_str_args", .ofMembers (e.encoderStrArgs.map fun (k, s) => (k, .str s)))]

/-- The name of a config's variant, and what is special to it. -/
def Config.variant (double : Double → Json) : Config → String × List (String × Json)
  | .screen _ => ("Screen", [])
  | .relay r => ("Relay", r.report)
  | .vodRelay r _ => ("VodRelay", r.report)
  | .encode e => ("Encode", e.report double)
  | .vodEncode e _ => ("VodEncode", e.report double)
  | .timeshift r n => ("Timeshift", ("chunk_duration", .ofNat n) :: r.report)

/-- A config. -/
def Config.report (double : Double → Json) (config : Config) : Json :=
  let (variant, detail) := config.variant double
  .ofMembers
    [("variant", .str variant), ("stream_type", .ofNat config.kind.number),
     ("cleanup_ts", .bool config.cleanupTs),
     ("restart_attempts", .ofNat config.base.maxRestartAttempts),
     ("ttl", .ofOption .ofNat config.base.ttl),
     ("input", .ofList Input.toJson config.base.input),
     ("output", .ofList Output.toJson config.base.output),
     ("have_video", .bool config.av.haveVideo), ("have_audio", .bool config.av.haveAudio),
     ("have_subtitle", .bool config.av.haveSubtitle),
     ("audio_select", .ofOption .int config.av.audioSelect), ("loop", .bool config.av.looped),
     ("detail", .ofMembers detail)]

/-- The name of a validity. -/
def Validity.name : Validity → String
  | .valid => "Valid"
  | .invalid => "Invalid"
  | .fatal => "Fatal"

/-- The name of a rule, and what it is about. -/
def Rule.report (double : Double → Json) : Rule → List (String × Json)
  | .intRange min max => [("kind", .str "IntRange"), ("min", .int min), ("max", .int max)]
  | .floatRange min max =>
    [("kind", .str "FloatRange"), ("min", double min), ("max", double max)]
  | .intSet allowed => [("kind", .str "IntSet"), ("values", .ofList .int allowed)]
  | .strSet allowed => [("kind", .str "StrSet"), ("values", .ofList .str allowed)]
  | .path => [("kind", .str "Path")]
  | .integer => [("kind", .str "Integer")]
  | .nonEmptyString => [("kind", .str "NonEmptyString")]
  | .array => [("kind", .str "Array")]
  | .bool => [("kind", .str "Bool")]
  | .size => [("kind", .str "Size")]
  | .ratio => [("kind", .str "Ratio")]
  | .any => [("kind", .str "Any")]

/-- A rule with its severity. -/
def FieldRule.report (double : Double → Json) (rule : FieldRule) : Json :=
  .ofMembers (("severity", .str (if rule.severity = .fatal then "Fatal" else "Warn")) ::
    rule.rule.report double)

/-- The outcome of a validation: the warnings, and whether the spec is valid or why
not. -/
def validationReport (outcome : List Warning × Except ValidationError Unit) :
    List (String × Json) :=
  ("warnings", .ofList (fun warning => .str warning.message) outcome.fst) ::
    match outcome.snd with
    | .ok () => [("valid", .bool true)]
    | .error e =>
      [("valid", .bool false), ("key", .str e.key), ("value", .str e.value),
       ("message", .str e.message)]

end MediaNode.Stream
