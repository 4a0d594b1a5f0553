import MediaNode.Proofs.Rpc.Decoding
import MediaNode.Proofs.Rpc.RoundTrip
import MediaNode.Proofs.Text.Bytes

/-!
# Frames one after the other

A frame says how long it is, so that frames that follow one another are told apart whatever
is inside them. A payload that is a message is read, one that is not is dropped or ends the
reading, and in every case the next thing looked at is the next frame. The encoder and the
decoder put the same limit on a payload, so that what is written is taken.

What is written is also read as what it was, with one exception: a floating-point number is
written with as many digits as it takes to tell it from its neighbours, but reading these
digits rounds twice and may end at a neighbour.
-/
namespace MediaNode

namespace Rpc

/-- A payload that is a text is read as that text. -/
theorem Message.parseBytes_bytes (text : String) : parseBytes (Text.bytes text) = parse text := by
  rw [parseBytes, Text.ofBytes?_bytes]

/-- The length in front of a frame is that of its payload. -/
theorem Buffer.front_frame (codec : Codec) {payload : List UInt8}
    (representable : payload.length < 0x100000000) (rest : List UInt8) :
    front codec { data := frame payload ++ rest } =
      if codec.maxLength < payload.length then .refused (.tooLarge codec.maxLength)
      else .payload payload { data := rest } := by
  have byte (n : Nat) : (UInt8.ofNat n).toNat = n % 256 := UInt8.toNat_ofNat'
  have length : (((UInt8.ofNat (payload.length >>> 24)).toNat * 256 +
      (UInt8.ofNat (payload.length >>> 16)).toNat) * 256 +
      (UInt8.ofNat (payload.length >>> 8)).toNat) * 256 +
      (UInt8.ofNat payload.length).toNat = payload.length := by
    simp only [byte, Nat.shiftRight_eq_div_pow]
    omega
  have complete : ¬ (payload ++ rest).length < payload.length := by
    rw [List.length_append]
    omega
  rw [frame, lengthBytes, List.append_assoc]
  simp only [List.cons_append, List.nil_append, front_length, length, front_awaiting, if_neg complete,
    List.take_left, List.drop_left]

/-- A frame within the limit is complete, and what follows it is left. -/
theorem Buffer.front_of_fits {codec : Codec} {payload : List UInt8}
    (representable : codec.maxLength < 0x100000000) (fits : payload.length ≤ codec.maxLength)
    (rest : List UInt8) :
    front codec { data := frame payload ++ rest } = .payload payload { data := rest } := by
  rw [front_frame codec (fits.trans_lt representable), if_neg (Nat.not_lt.2 fits)]

namespace Reading

variable {codec : Codec} {reading : Reading} {payload rest : List UInt8}

/-- A malformed payload in front of what is left is counted, if that is the policy. -/
theorem drain_of_malformed {cause : ReadError} {buffer : Buffer}
    (complete : reading.buffer.front codec = .payload payload buffer)
    (malformed : Message.parseBytes payload = .error cause) (policy : codec.policy = .skip) :
    reading.drain codec = drain codec { reading with dropped := reading.dropped + 1, buffer } := by
  rcases later : decode codec buffer with ⟨outcome, last, count⟩
  have decoded : decode codec reading.buffer = (outcome, last, count + 1) := by
    rw [decode_of_malformed complete malformed policy, later]
  refine drain_congr rfl rfl decoded later ?_
  rw [Nat.add_assoc, Nat.add_comm 1]

/-- What a buffer begins with a frame comes to, if the payload is a message: the message, and
then what the rest comes to. -/
theorem drain_of_frame {message : Message} (representable : codec.maxLength < 0x100000000)
    (fits : payload.length ≤ codec.maxLength) (parsed : Message.parseBytes payload = .ok message)
    (buffered : reading.buffer = { data := frame payload ++ rest }) :
    reading.drain codec =
      drain codec
        { reading with messages := reading.messages ++ [message], buffer := { data := rest } } := by
  have complete : reading.buffer.front codec = .payload payload { data := rest } := by
    rw [buffered, Buffer.front_of_fits representable fits]
  exact drain_of_message (decodes_iff.1 (.reads complete parsed))

/-- The message that a payload holds, if it holds one. -/
def message? (payload : List UInt8) : Option Message := (Message.parseBytes payload).toOption

/-- Frames whose payloads are messages are read one after the other, up to what follows. -/
theorem drain_of_frames {payloads : List (List UInt8)} {messages : List Message}
    (representable : codec.maxLength < 0x100000000)
    (fits : ∀ payload ∈ payloads, payload.length ≤ codec.maxLength)
    (parsed : List.Forall₂ (fun payload message => Message.parseBytes payload = .ok message)
      payloads messages)
    (buffered : reading.buffer = { data := payloads.flatMap frame ++ rest }) :
    reading.drain codec =
      drain codec
        { reading with messages := reading.messages ++ messages, buffer := { data := rest } } := by
  induction parsed generalizing reading with
  | nil =>
    rw [List.flatMap_nil, List.nil_append] at buffered
    rw [List.append_nil, ← buffered]
  | cons first _ inductionHypothesis =>
    rw [List.forall_mem_cons] at fits
    rw [List.flatMap_cons, List.append_assoc] at buffered
    rw [drain_of_frame representable fits.1 first buffered, inductionHypothesis fits.2 rfl,
      List.append_assoc, List.singleton_append]

/-- From the start, everything that arrives is drained. -/
theorem feed_start (codec : Codec) (bytes : List UInt8) :
    feed codec {} bytes = drain codec { buffer := { data := bytes } } := rfl

/-- Nothing but such frames gives their messages and leaves nothing. -/
theorem feed_of_frames {payloads : List (List UInt8)} {messages : List Message}
    (representable : codec.maxLength < 0x100000000)
    (fits : ∀ payload ∈ payloads, payload.length ≤ codec.maxLength)
    (parsed : List.Forall₂ (fun payload message => Message.parseBytes payload = .ok message)
      payloads messages) :
    feed codec {} (payloads.flatMap frame) = { messages } := by
  have arrived : ({ data := payloads.flatMap frame } : Buffer) =
      { data := payloads.flatMap frame ++ [] } := by
    rw [List.append_nil]
  rw [feed_start, drain_of_frames representable fits parsed arrived]
  exact drain_of_empty rfl

/-- With the policy to drop what is no message, frames leave their messages and the number of
the others. -/
theorem drain_of_skipped {payloads : List (List UInt8)} (policy : codec.policy = .skip)
    (representable : codec.maxLength < 0x100000000)
    (fits : ∀ payload ∈ payloads, payload.length ≤ codec.maxLength)
    (buffered : reading.buffer = { data := payloads.flatMap frame }) :
    reading.drain codec =
      { reading with
        messages := reading.messages ++ payloads.filterMap message?
        dropped := reading.dropped + payloads.countP fun payload => (message? payload).isNone
        buffer := {} } := by
  induction payloads generalizing reading with
  | nil =>
    obtain ⟨messages, dropped, failure, buffer⟩ := reading
    cases buffered
    rw [drain_of_empty rfl, List.filterMap_nil, List.append_nil]
    rfl
  | cons payload payloads inductionHypothesis =>
    rw [List.forall_mem_cons] at fits
    rw [List.flatMap_cons] at buffered
    cases parsed : Message.parseBytes payload with
    | ok message =>
      have found : message? payload = some message := by rw [message?, parsed, Except.toOption]
      rw [drain_of_frame representable fits.1 parsed buffered, inductionHypothesis fits.2 rfl]
      simp [found]
    | error cause =>
      have nothing : message? payload = none := by rw [message?, parsed, Except.toOption]
      have complete : reading.buffer.front codec =
          .payload payload { data := payloads.flatMap frame } := by
        rw [buffered, Buffer.front_of_fits representable fits.1]
      rw [drain_of_malformed complete parsed policy, inductionHypothesis fits.2 rfl]
      simp [nothing]
      omega

/-- From the start, these are all messages and the number of all others. -/
theorem feed_of_skipped {payloads : List (List UInt8)} (policy : codec.policy = .skip)
    (representable : codec.maxLength < 0x100000000)
    (fits : ∀ payload ∈ payloads, payload.length ≤ codec.maxLength) :
    feed codec {} (payloads.flatMap frame) =
      { messages := payloads.filterMap message?
        dropped := payloads.countP fun payload => (message? payload).isNone } := by
  rw [feed_start, drain_of_skipped policy representable fits rfl, List.nil_append, Nat.zero_add]

/-- With the policy to end at what is no message, frames leave the messages before it and the
frames behind it. -/
theorem feed_of_malformed {good others : List (List UInt8)} {messages : List Message}
    {bad : List UInt8} {cause : ReadError} (policy : codec.policy = .fail)
    (representable : codec.maxLength < 0x100000000)
    (fits : ∀ payload ∈ good ++ bad :: others, payload.length ≤ codec.maxLength)
    (parsed : List.Forall₂ (fun payload message => Message.parseBytes payload = .ok message)
      good messages)
    (malformed : Message.parseBytes bad = .error cause) :
    feed codec {} ((good ++ bad :: others).flatMap frame) =
      { messages, failure := some (.json cause), buffer := { data := others.flatMap frame } } := by
  rw [List.forall_mem_append, List.forall_mem_cons] at fits
  obtain ⟨fitsGood, fitsBad, -⟩ := fits
  have arrived : ({ data := (good ++ bad :: others).flatMap frame } : Buffer) =
      { data := good.flatMap frame ++ (frame bad ++ others.flatMap frame) } := by
    rw [List.flatMap_append, List.flatMap_cons]
  have complete := Buffer.front_of_fits representable fitsBad (others.flatMap frame)
  rw [feed_start, drain_of_frames representable fitsGood parsed arrived]
  exact drain_of_failed (decodes_iff.1 (.ends complete malformed policy))

/-- The decoder refuses a frame exactly when its payload is beyond the limit. -/
theorem tooLarge_iff (representable : payload.length < 0x100000000) :
    (decode codec { data := frame payload }).1 = .failed (.tooLarge codec.maxLength) ↔
      codec.maxLength < payload.length := by
  have front := Buffer.front_frame codec representable []
  rw [List.append_nil] at front
  by_cases large : codec.maxLength < payload.length
  · rw [if_pos large] at front
    rw [decodes_iff.1 (.refuses front)]
    exact iff_of_true rfl large
  · rw [if_neg large] at front
    refine iff_of_false ?_ large
    have decodes := decodes_iff.2 (rfl : decode codec { data := frame payload } = _)
    generalize decode codec { data := frame payload } = result at decodes ⊢
    cases decodes with
    | waits unfinished => cases front.symm.trans unfinished
    | refuses refused => cases front.symm.trans refused
    | reads | ends => exact nofun
    | drops complete malformed policy later =>
      -- nothing stands behind the frame, so that the decoder goes on to wait
      cases front.symm.trans complete
      cases (decodes_iff.1 later).symm.trans
        (decodes_iff.1 (.waits (Buffer.front_short codec (by decide))))
      exact nofun

/-- The encoder appends the frame of a text that is within the limit, and writes nothing of any
other. -/
theorem encode_eq_ok_iff {message : Message} {before written : List UInt8} :
    encode codec message before = .ok written ↔
      (Text.bytes message.toText).length ≤ codec.maxLength ∧
        written = before ++ frame (Text.bytes message.toText) := by
  rw [encode]
  split
  · rename_i large
    exact iff_of_false (fun impossible => nomatch impossible)
      (fun short => Nat.not_le.2 large short.1)
  · rename_i short
    rw [Except.ok.injEq, eq_comm]
    exact (and_iff_right (Nat.le_of_not_lt short)).symm

/-- What is written of messages one after the other is the frames of their texts, if each of
them is within the limit. -/
theorem foldlM_encode_eq_ok_iff {messages : List Message} {before written : List UInt8} :
    messages.foldlM (fun written message => encode codec message written) before = .ok written ↔
      (∀ message ∈ messages, (Text.bytes message.toText).length ≤ codec.maxLength) ∧
        written = before ++
          (messages.map fun message => Text.bytes message.toText).flatMap frame := by
  induction messages generalizing before with
  | nil =>
    rw [List.foldlM_nil, List.map_nil, List.flatMap_nil, List.append_nil]
    constructor
    · rintro ⟨⟩
      exact ⟨List.forall_mem_nil _, rfl⟩
    · rintro ⟨-, rfl⟩
      rfl
  | cons message messages inductionHypothesis =>
    rw [List.foldlM_cons, bind_eq_ok_iff, List.forall_mem_cons, List.map_cons, List.flatMap_cons,
      ← List.append_assoc]
    simp only [encode_eq_ok_iff, inductionHypothesis]
    constructor
    · rintro ⟨_, ⟨short, rfl⟩, fits, rfl⟩
      exact ⟨⟨short, fits⟩, rfl⟩
    · rintro ⟨⟨short, fits⟩, rfl⟩
      exact ⟨_, ⟨short, rfl⟩, fits, rfl⟩

/-- With the policy to drop what is no message, what is written is read up to the messages whose
texts cannot be read. -/
theorem feed_of_written {messages : List Message} {bytes : List UInt8}
    (policy : codec.policy = .skip) (representable : codec.maxLength < 0x100000000)
    (encoded : messages.foldlM (fun written message => encode codec message written) [] =
      .ok bytes) :
    feed codec {} bytes =
      { messages := messages.filterMap fun message => (Message.parse message.toText).toOption
        dropped := messages.countP fun message =>
          (Message.parse message.toText).toOption.isNone } := by
  obtain ⟨fits, rfl⟩ := foldlM_encode_eq_ok_iff.1 encoded
  have same (message : Message) :
      message? (Text.bytes message.toText) = (Message.parse message.toText).toOption := by
    rw [message?, Message.parseBytes_bytes]
  rw [List.nil_append, feed_of_skipped policy representable (List.forall_mem_map.2 fits),
    List.filterMap_map, List.countP_map]
  simp only [Function.comp_def, same]

/-- Messages that can be written and read are read back from their frames in normal form. -/
theorem feed_of_encoded {messages : List Message} {bytes : List UInt8}
    (representable : codec.maxLength < 0x100000000)
    (printable : ∀ message ∈ messages, message.WellTyped ∧
      Json.Printable Json.maxDepth message.toJson)
    (encoded : messages.foldlM (fun written message => encode codec message written) [] =
      .ok bytes) :
    feed codec {} bytes = { messages := messages.map Message.normal } := by
  obtain ⟨fits, rfl⟩ := foldlM_encode_eq_ok_iff.1 encoded
  have parsed : List.Forall₂ (fun payload message => Message.parseBytes payload = .ok message)
      (messages.map fun message => Text.bytes message.toText) (messages.map Message.normal) := by
    rw [List.forall₂_map_left_iff, List.forall₂_map_right_iff, List.forall₂_same]
    intro message present
    obtain ⟨typed, survives⟩ := printable message present
    rw [Message.parseBytes_bytes, Message.parse_toText typed survives]
  exact feed_of_frames representable (List.forall_mem_map.2 fits) parsed

/-- Frames of at most the limit are told apart whatever is in them. Dropping what is no
message, the decoder gives the messages of all others and leaves nothing; ending at it, the
decoder gives the messages before it and leaves the frames behind it. The encoder appends the
frame of a text exactly when it is within the limit of the decoder, so that messages of
integers, with no more levels than the reader allows, come back in normal form, each once and
in their order. -/
theorem frames_in_order {maxLength : Nat} (representable : maxLength < 0x100000000) :
    (∀ payloads : List (List UInt8), (∀ payload ∈ payloads, payload.length ≤ maxLength) →
      feed ⟨maxLength, .skip⟩ {} (payloads.flatMap frame) =
        { messages := payloads.filterMap message?
          dropped := payloads.countP fun payload => (message? payload).isNone }) ∧
    (∀ (payloads good : List (List UInt8)) (messages : List Message),
      (∀ payload ∈ payloads, payload.length ≤ maxLength) →
      List.Forall₂ (fun payload message => Message.parseBytes payload = .ok message) good messages →
      (payloads = good →
        feed ⟨maxLength, .fail⟩ {} (payloads.flatMap frame) = { messages }) ∧
      ∀ bad cause rest, payloads = good ++ bad :: rest → Message.parseBytes bad = .error cause →
        feed ⟨maxLength, .fail⟩ {} (payloads.flatMap frame) =
          { messages, failure := some (.json cause), buffer := { data := rest.flatMap frame } }) ∧
    (∀ policy message written,
      encode ⟨maxLength, policy⟩ message written =
        if (Text.bytes message.toText).length ≤ maxLength then
          .ok (written ++ frame (Text.bytes message.toText))
        else .error (.tooLarge maxLength)) ∧
    (∀ policy message, (Text.bytes message.toText).length < 0x100000000 →
      ((∃ written, encode ⟨maxLength, policy⟩ message [] = .ok written) ↔
        (decode ⟨maxLength, policy⟩ { data := frame (Text.bytes message.toText) }).1 ≠
          .failed (.tooLarge maxLength))) ∧
    ∀ policy (messages : List Message) bytes,
      (∀ message ∈ messages, message.WellTyped ∧ message.toJson.Integral ∧
        message.toJson.depth ≤ Json.maxDepth) →
      messages.foldlM (fun written message => encode ⟨maxLength, policy⟩ message written) [] =
        .ok bytes →
      feed ⟨maxLength, policy⟩ {} bytes = { messages := messages.map Message.normal } := by
  refine ⟨?_, ?_, ?_, ?_, ?_⟩
  · intro payloads fits
    exact feed_of_skipped rfl representable fits
  · intro payloads good messages fits parsed
    refine ⟨?_, ?_⟩
    · rintro rfl
      exact feed_of_frames representable fits parsed
    · rintro bad cause rest rfl malformed
      exact feed_of_malformed rfl representable fits parsed malformed
  · intro policy message written
    simp only [encode]
    split <;> split <;> first | rfl | omega
  · intro policy message short
    simp only [encode_eq_ok_iff, exists_and_left, exists_eq, and_true]
    rw [Ne, @tooLarge_iff ⟨maxLength, policy⟩ _ short, Nat.not_lt]
  · intro policy messages bytes kept encoded
    refine feed_of_encoded representable (fun message present => ?_) encoded
    obtain ⟨typed, integral, shallow⟩ := kept message present
    exact ⟨typed, typed.ordered, Json.Integral.faithful _ integral, shallow⟩

/-- With the limit of all connections: a payload that is no message is dropped in front of one
that is, it ends the other policy with the frame behind it left, and what is encoded is read. -/
theorem frames_in_order_ping :
    let ping : Message := .notification ⟨"2.0", "ping", none⟩
    let good := Text.bytes ping.toText
    let bad := Text.bytes "\x7b"
    maxMessageSize < 0x100000000 ∧
      feed .control {} ([bad, good].flatMap frame) = { messages := [ping], dropped := 1 } ∧
      feed .strict {} ([good, bad, good].flatMap frame) =
        { messages := [ping]
          failure := some (.json .notJson)
          buffer := { data := [good].flatMap frame } } ∧
      ∃ bytes,
        [ping, ping].foldlM (fun written message => encode .strict message written) [] = .ok bytes ∧
        feed .strict {} bytes = { messages := [ping, ping] } := by
  intro ping good bad
  have representable : maxMessageSize < 0x100000000 := by decide
  have printable : Json.Printable Json.maxDepth ping.toJson := by
    rw [Message.toJson_eq]
    exact .ofMembers (by simp [ping, Message.content, Json.Printable.str])
  have integral : ping.toJson.Integral := by
    rw [Message.toJson_eq]
    exact Json.integral_ofMembers (by simp [ping, Message.content, Json.Integral])
  have typed : ping.WellTyped := ⟨printable.ordered, fun response error other => Message.noConfusion other⟩
  have parsed : Message.parseBytes good = .ok ping := by
    rw [Message.parseBytes_bytes]
    exact Message.parse_toText typed printable
  have malformed : Message.parseBytes bad = .error .notJson := by
    rw [Message.parseBytes_bytes]
    rfl
  have fitsGood : good.length ≤ maxMessageSize := by
    rw [show good = Text.bytes ping.toText from rfl, Message.toText, Text.bytes_ofList]
    decide +kernel
  have fitsBad : bad.length ≤ maxMessageSize := by
    rw [show bad = Text.bytes (String.ofList ['\x7b']) from rfl, Text.bytes_ofList]
    decide +kernel
  have found : message? good = some ping := by rw [message?, parsed, Except.toOption]
  have nothing : message? bad = none := by rw [message?, malformed, Except.toOption]
  obtain ⟨skipped, ended, written, -, sequence⟩ := frames_in_order representable
  refine ⟨representable, ?_, ?_, ?_⟩
  · have read := skipped [bad, good] (by simp [fitsGood, fitsBad])
    simp only [List.filterMap_cons, found, nothing, List.countP_cons] at read
    exact read
  · have read := (ended [good, bad, good] [good] [ping] (by simp [fitsGood, fitsBad])
      (.cons parsed .nil)).2 bad .notJson [good] rfl malformed
    exact read
  · have encoded : [ping, ping].foldlM
        (fun written message => encode ⟨maxMessageSize, .fail⟩ message written) [] =
          .ok ([good, good].flatMap frame) := by
      exact foldlM_encode_eq_ok_iff.2 ⟨by simpa using fitsGood, rfl⟩
    have kept : ping.WellTyped ∧ ping.toJson.Integral ∧ ping.toJson.depth ≤ Json.maxDepth :=
      ⟨typed, integral, printable.shallow⟩
    exact ⟨_, encoded, sequence .fail [ping, ping] _ (by simp [kept]) encoded⟩

/-- Arrays inside one another can be written and read with as many levels. -/
theorem printable_nested (levels : Nat) :
    Json.Printable levels ((fun item => .arr [item])^[levels] .null) := by
  induction levels with
  | zero => exact ⟨trivial, trivial, Nat.le_refl _⟩
  | succ levels inductionHypothesis =>
    obtain ⟨ordered, faithful, shallow⟩ := inductionHypothesis
    rw [Function.iterate_succ_apply']
    exact ⟨⟨ordered, trivial⟩, ⟨faithful, trivial⟩,
      Nat.succ_le_succ (Nat.max_le.2 ⟨shallow, Nat.zero_le _⟩)⟩

/-- There are no numbers in them. -/
theorem integral_nested (levels : Nat) :
    ((fun item => Json.arr [item])^[levels] .null).Integral := by
  induction levels with
  | zero => trivial
  | succ levels inductionHypothesis =>
    rw [Function.iterate_succ_apply']
    exact ⟨inductionHypothesis, trivial⟩

/-- Not every message comes back from its frame. The number 5·10³⁶ is written in the fewest
digits that tell it from its neighbours, and read as the neighbour above it; and what has more
levels than the reader allows is written but dropped when it is read. -/
theorem not_every_message_in_order :
    let sent : Message := .notification ⟨"2.0", "x", some (.float ⟨0x478E17B84357691B⟩)⟩
    let deep : Message := .notification ⟨"2.0", "x", some ((fun item => .arr [item])^[127] .null)⟩
    (sent.WellTyped ∧ ∃ received bytes,
      [sent].foldlM (fun written message => encode .control message written) [] = .ok bytes ∧
      feed .control {} bytes = { messages := [received] } ∧
      received.toText = "\x7b\"jsonrpc\":\"2.0\",\"method\":\"x\",\"params\":5.0000000000000004e+36\x7d" ∧
      received ≠ sent.normal) ∧
    (deep.WellTyped ∧ deep.toJson.Integral ∧ ∃ bytes,
      [deep].foldlM (fun written message => encode .control message written) [] = .ok bytes ∧
      feed .control {} bytes = { messages := [], dropped := 1 }) := by
  intro sent deep
  have single {message : Message} (short : (Text.bytes message.toText).length ≤ maxMessageSize) :
      [message].foldlM (fun written message => encode .control message written) [] =
        .ok ([Text.bytes message.toText].flatMap frame) :=
    foldlM_encode_eq_ok_iff.2 ⟨List.forall_mem_singleton.2 short, rfl⟩
  refine ⟨⟨?_, ?_⟩, ?_⟩
  · refine ⟨?_, fun response error other => Message.noConfusion other⟩
    rw [Message.toJson_eq]
    exact Json.ordered_ofMembers (by simp [sent, Message.content, Json.Ordered])
  · have short : (Text.bytes sent.toText).length ≤ maxMessageSize := by
      rw [Message.toText, Text.bytes_ofList]
      decide +kernel
    have written : sent.toText = "\x7b\"jsonrpc\":\"2.0\",\"method\":\"x\",\"params\":5e+36\x7d" := by
      decide +kernel
    have read : (Message.parse sent.toText).toOption.map Message.toText = some
        "\x7b\"jsonrpc\":\"2.0\",\"method\":\"x\",\"params\":5.0000000000000004e+36\x7d" := by
      rw [Message.parse, Message.toText, String.toList_ofList]
      decide +kernel
    obtain ⟨received, parsed, text⟩ := Option.map_eq_some_iff.1 read
    refine ⟨received, _, single short, ?_, text, ?_⟩
    · rw [feed_of_written rfl (by decide) (single short)]
      simp [parsed]
    · rintro rfl
      exact absurd (text.symm.trans written) (by decide)
  · have printable : Json.Printable 128 deep.toJson := by
      rw [Message.toJson_eq]
      refine .ofMembers ?_
      simp only [deep, Message.content, Option.map_some, Option.toList_some, List.forall_mem_cons]
      exact ⟨.str _, .str _, printable_nested 127, List.forall_mem_nil _⟩
    have integral : deep.toJson.Integral := by
      rw [Message.toJson_eq]
      refine Json.integral_ofMembers ?_
      simp only [deep, Message.content, Option.map_some, Option.toList_some, List.forall_mem_cons]
      exact ⟨trivial, trivial, integral_nested 127, List.forall_mem_nil _⟩
    have short : (Text.bytes deep.toText).length ≤ maxMessageSize := by
      rw [Message.toText, Text.bytes_ofList]
      decide +kernel
    have refused : (Message.parse deep.toText).toOption = none := by
      rw [← Option.isNone_iff_eq_none, Message.parse, Message.toText, String.toList_ofList]
      decide +kernel
    refine ⟨⟨printable.ordered, fun response error other => Message.noConfusion other⟩, integral, _,
      single short, ?_⟩
    rw [feed_of_written rfl (by decide) (single short)]
    simp [refused]

end Reading
end Rpc
end MediaNode
