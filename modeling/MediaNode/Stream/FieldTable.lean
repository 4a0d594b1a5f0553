import MediaNode.Stream.Rule

/-!
# The table of known fields

Every known field has one rule. Validation goes through the fields of a spec in
the order of their keys, warns of unknown fields and of values that break their
rule, and ends at the first value that breaks a fatal one.
-/
namespace MediaNode.Stream

/-- Names with their rules, each name once. -/
structure FieldTable where
  rules : List (String × FieldRule)
deriving Repr, Inhabited

/-- A field that is in the table already. -/
structure DuplicateField where
  name : String
deriving DecidableEq, Repr, Inhabited

/-- How a duplicate is reported. -/
def DuplicateField.message (e : DuplicateField) : String :=
  "Field '" ++ e.name ++ "' registered twice"

/-- What is logged about a field. -/
inductive Warning where
  | unknown (key : String)
  | invalid (key : String) (value : Json)
deriving BEq, Repr, Inhabited

/-- A value inside an error: a string as it is, anything else as JSON. A warning
shows strings as JSON too. -/
def displayValue : Json → String
  | .str s => s
  | other => other.compact

/-- How a bad value is reported. -/
def invalidValueText (key value : String) : String :=
  "Invalid value '" ++ value ++ "' of option '" ++ key ++ "'"

/-- The wording of a warning. -/
def Warning.message : Warning → String
  | .unknown key => "Unknown option: " ++ key
  | .invalid key value => invalidValueText key value.compact

/-- A field that breaks a fatal rule. -/
structure ValidationError where
  key : String
  value : String
deriving DecidableEq, Repr, Inhabited

/-- The wording of a validation error. -/
def ValidationError.message (e : ValidationError) : String := invalidValueText e.key e.value

namespace FieldTable

/-- The table without fields. -/
def empty : FieldTable := ⟨[]⟩

/-- The rule of a field. -/
def get? (table : FieldTable) (name : String) : Option FieldRule := table.rules.lookup name

/-- How many fields the table knows. -/
def size (table : FieldTable) : Nat := table.rules.length

/-- Add a field, which must not be there yet. -/
def add (table : FieldTable) (name : String) (severity : Severity) (rule : Rule) :
    Except DuplicateField FieldTable :=
  if (table.get? name).isSome then .error ⟨name⟩
  else .ok ⟨table.rules ++ [(name, ⟨rule, severity⟩)]⟩

/-- The table of a list of fields. -/
def ofList (fields : List (String × Severity × Rule)) : Except DuplicateField FieldTable :=
  fields.foldlM (fun table (name, severity, rule) => table.add name severity rule) empty

/-- Check one field: a warning, or the error that ends the validation. -/
def check (table : FieldTable) (key : String) (value : Json) :
    Except ValidationError (Option Warning) :=
  match table.get? key with
  | none => .ok (some (.unknown key))
  | some field =>
    match field.evaluate value with
    | .valid => .ok none
    | .invalid => .ok (some (.invalid key value))
    | .fatal => .error { key, value := displayValue value }

/-- Check fields in order. -/
def checkAll (table : FieldTable) :
    List (String × Json) → List Warning × Except ValidationError Unit
  | [] => ([], .ok ())
  | (key, value) :: rest =>
    match table.check key value with
    | .error e => ([], .error e)
    | .ok warning =>
      let (warnings, outcome) := checkAll table rest
      (warning.toList ++ warnings, outcome)

/-- Validate a spec: what is logged, and whether it is accepted. -/
def validate (table : FieldTable) (spec : Spec) : List Warning × Except ValidationError Unit :=
  table.checkAll spec.members

end FieldTable

/-- Twelve days in seconds. -/
def twelveDays : Int := 12 * 24 * 3600

/-- Integers from zero on. -/
def nonNegative : Rule := .intRange 0 0x7FFFFFFFFFFFFFFF

def videoParsers : List String := ["h264parse", "h265parse", "mpegvideoparse"]
def audioParsers : List String := ["aacparse", "ac3parse", "mpegaudioparse", "rawaudioparse"]
def videoEncoders : List String :=
  ["eavcenc", "openh264enc", "x264enc", "nvh264enc", "nvh265enc", "vaapih264enc",
   "vaapimpeg2enc", "mfxh264enc", "x265enc", "msdkh264enc"]
def audioEncoders : List String := ["lamemp3enc", "faac", "voaacenc"]

/-- The beginnings of names that are parameters of an encoder. -/
def encoderNames : List String :=
  ["x264enc.", "nvh264enc.", "nvh265enc.", "mfxh264enc.", "vaapih264enc.", "openh264enc.",
   "eavcenc."]

/-- The fields of every stream. -/
def streamFields : List (String × Severity × Rule) :=
  [("id", .warn, .nonEmptyString),
   ("type", .fatal, .intRange 0 Kind.maxNumber),
   ("feedback_directory", .warn, .path),
   ("data_directory", .warn, .path),
   ("log_level", .warn, .intRange 0 7),
   ("streamlink_path", .warn, .any),
   ("input", .warn, .array),
   ("output", .warn, .array),
   ("restart_attempts", .warn, .intRange 1 0x7FFFFFFF),
   ("auto_exit_time", .warn, nonNegative),
   ("timeshift_dir", .fatal, .path),
   ("timeshift_chunk_life_time", .warn, .intRange 0 twelveDays),
   ("timeshift_delay", .warn, .intRange 0 twelveDays),
   ("timeshift_chunk_duration", .warn, nonNegative),
   ("main_profile", .warn, .any),
   ("main_profile_external", .warn, .any),
   ("volume", .warn, .floatRange (Double.ofNat 0) (Double.ofNat 10)),
   ("delay_time", .warn, nonNegative),
   ("video_parser", .warn, .strSet videoParsers),
   ("audio_parser", .warn, .strSet audioParsers),
   ("video_codec", .warn, .strSet videoEncoders),
   ("audio_codec", .warn, .strSet audioEncoders),
   ("have_video", .warn, .any),
   ("have_audio", .warn, .any),
   ("have_subtitle", .warn, .any),
   ("deinterlace", .warn, .any),
   ("relay_audio", .warn, .any),
   ("relay_video", .warn, .any),
   ("loop", .warn, .any),
   ("logo", .warn, .any),
   ("rsvg_logo", .warn, .any),
   ("size", .warn, .size),
   ("aspect_ratio", .warn, .ratio),
   ("cleanup_ts", .warn, .bool),
   ("framerate", .warn, nonNegative),
   ("video_bitrate", .warn, nonNegative),
   ("audio_bitrate", .warn, nonNegative),
   ("audio_channels", .warn, nonNegative),
   ("audio_select", .warn, .integer),
   ("decklink_video_mode", .warn, .intRange 0 30),
   ("tsdemux.program-number", .warn, .any)]

/-- The parameters of encoders with a rule of their own. -/
def encoderFields : List (String × Severity × Rule) :=
  [("nvh264enc.preset", .warn, nonNegative),
   ("nvh265enc.preset", .warn, nonNegative),
   ("mfxh264enc.preset", .warn, .intRange 0 7),
   ("mfxh264enc.gop-size", .warn, .intRange 0 65535),
   ("x264enc.speed-preset", .warn, .intRange 0 10),
   ("x264enc.threads", .warn, nonNegative),
   ("x264enc.tune", .warn, .intSet [0, 1, 2, 4]),
   ("x264enc.key-int-max", .warn, nonNegative),
   ("x264enc.vbv-buf-capacity", .warn, .intRange 0 10000),
   ("x264enc.rc-lookahead", .warn, .intRange 0 250),
   ("x264enc.qp-max", .warn, .intRange 0 51),
   ("x264enc.pass", .warn, .intSet [0, 4, 5, 17, 18, 19]),
   ("x264enc.me", .warn, .intRange 0 4),
   ("x264enc.profile", .warn, .nonEmptyString),
   ("x264enc.stream-format", .warn, .nonEmptyString),
   ("vaapih264enc.keyframe-period", .warn, .intRange 0 300),
   ("vaapih264enc.tune", .warn, .intSet [0, 1, 3]),
   ("vaapih264enc.max-bframes", .warn, .intRange 0 10),
   ("vaapih264enc.num-slices", .warn, .intRange 1 200),
   ("vaapih264enc.init-qp", .warn, .intRange 1 51),
   ("vaapih264enc.min-qp", .warn, .intRange 1 51),
   ("vaapih264enc.rate-control", .warn, .intSet [1, 2, 4, 5]),
   ("vaapih264enc.cpb-length", .warn, .intRange 0 10000)]

/-- The parameters of encoders that may have any value. -/
def freeEncoderFields : List String :=
  ["x264enc.option-string", "x264enc.interlaced", "x264enc.dct8x8", "x264enc.b-adapt",
   "x264enc.byte-stream", "x264enc.cabac", "x264enc.sliced-threads", "x264enc.quantizer",
   "vaapih264enc.cabac", "vaapih264enc.dct8x8", "openh264enc.multi-thread",
   "eavcenc.gop-adaptive"]

/-- The parameters of encoders that are integers. -/
def integerEncoderFields : List String :=
  ["openh264enc.complexity", "openh264enc.rate-control", "openh264enc.gop-size",
   "eavcenc.preset", "eavcenc.profile", "eavcenc.performance", "eavcenc.bitrate-mode",
   "eavcenc.bitrate-pass", "eavcenc.bitrate-max", "eavcenc.vbv-size", "eavcenc.picture-mode",
   "eavcenc.entropy-mode", "eavcenc.gop-max-bcount", "eavcenc.gop-max-length",
   "eavcenc.gop-min-length", "eavcenc.level", "eavcenc.deblock-mode",
   "eavcenc.deblock-alpha", "eavcenc.deblock-beta", "eavcenc.initial-delay",
   "eavcenc.field-order"]

/-- Every field that a spec may have. -/
def builtinFields : List (String × Severity × Rule) :=
  streamFields ++ encoderFields ++ freeEncoderFields.map (fun name => (name, .warn, .any)) ++
    integerEncoderFields.map (fun name => (name, .warn, .integer))

/-- The table of every field that a spec may have. No name stands twice in
`builtinFields`, so nothing is lost in building it directly. -/
def FieldTable.builtin : FieldTable :=
  ⟨builtinFields.map fun (name, severity, rule) => (name, ⟨rule, severity⟩)⟩

/-- Validate a spec against the table of every field. -/
def validate (spec : Spec) : List Warning × Except ValidationError Unit :=
  FieldTable.builtin.validate spec

end MediaNode.Stream
