import MediaNode.Rpc.Frame

/-!
# How the bytes of a connection may be cut

A connection hands over its bytes in pieces that have nothing to do with the frames
in them: a piece may end inside a length, right behind it or inside a payload, and it
may be empty. None of this shows in what is read. What more bytes do to a buffer is
said once, of the frame in front (`front_push`): a frame that is complete or refused
stays so, and one that is unfinished is looked at again with its length already taken.
From there it is carried to one call of the decoder (`decode_push`), to the calls that
empty a buffer (`drain_push`), and to all pieces of a connection.

The decoder is written with fuel. `Decodes` is its loop without fuel, and the loop
ends on every buffer, because each payload that is taken makes the buffer smaller.
-/
namespace MediaNode.Rpc

/-- What stands in front of a buffer. -/
inductive Front where
  /-- A frame whose end has not arrived. Its length is taken if it is there. -/
  | unfinished (buffer : Buffer)
  /-- A frame that is not taken at all. -/
  | refused (cause : CodecError)
  /-- A payload, and the buffer behind it. -/
  | payload (bytes : List UInt8) (rest : Buffer)

namespace Buffer

variable {codec : Codec} {buffer : Buffer}

/-- The frame in front of a buffer: its length is taken and then its payload. -/
def front (codec : Codec) (buffer : Buffer) : Front :=
  match buffer.takeLength codec with
  | .error cause => .refused cause
  | .ok taken =>
    match taken.takePayload with
    | none => .unfinished taken
    | some (bytes, rest) => .payload bytes rest

/-- Once its length is taken, a frame is complete as soon as so many bytes are there. -/
theorem front_awaiting (codec : Codec) (n : Nat) (data : List UInt8) :
    front codec { awaited := some n, data } =
      if data.length < n then .unfinished { awaited := some n, data }
      else .payload (data.take n) { data := data.drop n } := by
  simp only [front, takeLength, takePayload]
  by_cases short : data.length < n <;> simp only [short, if_true, if_false]

/-- Four bytes are a length: it is refused beyond the limit and taken otherwise. -/
theorem front_length (codec : Codec) (a b c d : UInt8) (data : List UInt8) :
    front codec { data := a :: b :: c :: d :: data } =
      if codec.maxLength < ((a.toNat * 256 + b.toNat) * 256 + c.toNat) * 256 + d.toNat then
        .refused (.tooLarge codec.maxLength)
      else front codec
        { awaited := some (((a.toNat * 256 + b.toNat) * 256 + c.toNat) * 256 + d.toNat), data } := by
  simp only [front, takeLength]
  by_cases tooLarge :
      codec.maxLength < ((a.toNat * 256 + b.toNat) * 256 + c.toNat) * 256 + d.toNat <;>
    simp only [tooLarge, if_true, if_false]

/-- Fewer than four bytes are no length. -/
theorem front_short (codec : Codec) {data : List UInt8} (short : data.length < 4) :
    front codec { data } = .unfinished { data } := by
  match data with
  | [] | [_] | [_, _] | [_, _, _] => rfl
  | _ :: _ :: _ :: _ :: _ =>
    simp only [List.length_cons] at short
    omega

/-- More bytes behind a frame whose length is taken. -/
theorem front_push_awaiting (codec : Codec) (n : Nat) (data more : List UInt8) :
    front codec { awaited := some n, data := data ++ more } =
      match front codec { awaited := some n, data } with
      | .unfinished rest => front codec (rest.push more)
      | .refused cause => .refused cause
      | .payload bytes rest => .payload bytes (rest.push more) := by
  by_cases short : data.length < n
  · simp only [front_awaiting codec n data, if_pos short, push]
  · have complete : ¬ (data ++ more).length < n := by
      simp only [List.length_append]
      omega
    simp only [front_awaiting, if_neg short, if_neg complete, push]
    rw [List.take_append_of_le_length (Nat.le_of_not_lt short),
      List.drop_append_of_le_length (Nat.le_of_not_lt short)]

/-- More bytes leave a frame that is complete or refused as it is; one that is not
finished is looked at again. -/
theorem front_push (codec : Codec) (buffer : Buffer) (more : List UInt8) :
    front codec (buffer.push more) =
      match front codec buffer with
      | .unfinished rest => front codec (rest.push more)
      | .refused cause => .refused cause
      | .payload bytes rest => .payload bytes (rest.push more) := by
  obtain ⟨awaited, data⟩ := buffer
  cases awaited with
  | some n => exact front_push_awaiting codec n data more
  | none =>
    match data with
    | [] | [_] | [_, _] | [_, _, _] => rfl
    | a :: b :: c :: d :: data =>
      simp only [push, List.cons_append, front_length]
      split
      · rfl
      · exact front_push_awaiting codec _ data more

/-- A buffer that waits has been left as it was, unless a length has been taken, and then
no more bytes make that frame one to refuse. -/
theorem taken_of_unfinished {rest : Buffer} (unfinished : front codec buffer = .unfinished rest) :
    rest = buffer ∨ ∀ more cause, front codec (rest.push more) ≠ .refused cause := by
  have awaiting (n : Nat) (data : List UInt8) (cause : CodecError) :
      front codec { awaited := some n, data } ≠ .refused cause := by
    rw [front_awaiting]
    split <;> exact Front.noConfusion
  obtain ⟨awaited, data⟩ := buffer
  cases awaited with
  | some n =>
    rw [front_awaiting] at unfinished
    split at unfinished
    · cases unfinished
      exact .inl rfl
    · cases unfinished
  | none =>
    match data with
    | [] | [_] | [_, _] | [_, _, _] =>
      cases unfinished
      exact .inl rfl
    | a :: b :: c :: d :: data =>
      rw [front_length, front_awaiting] at unfinished
      split at unfinished
      · cases unfinished
      · split at unfinished
        · cases unfinished
          exact .inr fun more cause => awaiting _ (data ++ more) cause
        · cases unfinished

/-- How much a buffer holds. A length that is taken counts as well, so that the empty
payload behind it is still something to take. -/
def weight (buffer : Buffer) : Nat :=
  buffer.data.length + if buffer.awaited.isSome then 1 else 0

/-- The fuel of a call is for more than the buffer holds. -/
theorem weight_lt (buffer : Buffer) : buffer.weight < buffer.data.length + 2 := by
  simp only [weight]
  split <;> omega

/-- Taking a payload makes the buffer smaller. -/
theorem weight_lt_of_front {bytes : List UInt8} {rest : Buffer}
    (complete : front codec buffer = .payload bytes rest) : rest.weight < buffer.weight := by
  have awaiting {n : Nat} {data : List UInt8}
      (complete : front codec { awaited := some n, data } = .payload bytes rest) :
      rest.weight ≤ data.length := by
    rw [front_awaiting] at complete
    split at complete
    · cases complete
    · cases complete
      simp [weight]
  obtain ⟨awaited, data⟩ := buffer
  cases awaited with
  | some n =>
    have smaller := awaiting complete
    simp only [weight, Option.isSome_some, if_true] at smaller ⊢
    omega
  | none =>
    match data with
    | [] | [_] | [_, _] | [_, _, _] => cases complete
    | a :: b :: c :: d :: data =>
      rw [front_length] at complete
      split at complete
      · cases complete
      · have smaller := awaiting complete
        simp only [weight, Option.isSome_none, List.length_cons] at smaller ⊢
        omega

end Buffer

/-- The loop of the decoder: payloads that are no message are dropped, if that is the
policy, until there is something to report. -/
inductive Decodes (codec : Codec) : Buffer → Decoded × Buffer × Nat → Prop where
  /-- No complete frame is left. -/
  | waits {buffer rest : Buffer} (unfinished : buffer.front codec = .unfinished rest) :
      Decodes codec buffer (.more, rest, 0)
  /-- A frame is too long, and stays where it is. -/
  | refuses {buffer : Buffer} {cause : CodecError} (refused : buffer.front codec = .refused cause) :
      Decodes codec buffer (.failed cause, buffer, 0)
  /-- A payload is a message. -/
  | reads {buffer rest : Buffer} {bytes : List UInt8} {message : Message}
      (complete : buffer.front codec = .payload bytes rest)
      (parsed : Message.parseBytes bytes = .ok message) :
      Decodes codec buffer (.message message, rest, 0)
  /-- A payload is no message, which ends the reading. -/
  | ends {buffer rest : Buffer} {bytes : List UInt8} {cause : ReadError}
      (complete : buffer.front codec = .payload bytes rest)
      (malformed : Message.parseBytes bytes = .error cause) (policy : codec.policy = .fail) :
      Decodes codec buffer (.failed (.json cause), rest, 0)
  /-- A payload is no message, and the loop goes on behind it. -/
  | drops {buffer rest last : Buffer} {bytes : List UInt8} {cause : ReadError}
      {outcome : Decoded} {dropped : Nat}
      (complete : buffer.front codec = .payload bytes rest)
      (malformed : Message.parseBytes bytes = .error cause) (policy : codec.policy = .skip)
      (later : Decodes codec rest (outcome, last, dropped)) :
      Decodes codec buffer (outcome, last, dropped + 1)

/-- The loop ends on every buffer. -/
theorem exists_decodes (codec : Codec) (buffer : Buffer) :
    ∃ outcome, Decodes codec buffer outcome := by
  cases front : buffer.front codec with
  | unfinished rest => exact ⟨_, .waits front⟩
  | refused cause => exact ⟨_, .refuses front⟩
  | payload bytes rest =>
    cases parsed : Message.parseBytes bytes with
    | ok message => exact ⟨_, .reads front parsed⟩
    | error cause =>
      cases policy : codec.policy with
      | fail => exact ⟨_, .ends front parsed policy⟩
      | skip =>
        obtain ⟨outcome, later⟩ := exists_decodes codec rest
        exact ⟨_, .drops front parsed policy later⟩
termination_by buffer.weight
decreasing_by exact Buffer.weight_lt_of_front front

/-- One round of the decoder, in terms of the frame in front. -/
theorem decodeWith_succ (codec : Codec) (fuel dropped : Nat) (buffer : Buffer) :
    decodeWith codec (fuel + 1) dropped buffer =
      match buffer.front codec with
      | .unfinished rest => (.more, rest, dropped)
      | .refused cause => (.failed cause, buffer, dropped)
      | .payload bytes rest =>
        match Message.parseBytes bytes with
        | .ok message => (.message message, rest, dropped)
        | .error cause =>
          match codec.policy with
          | .skip => decodeWith codec fuel (dropped + 1) rest
          | .fail => (.failed (.json cause), rest, dropped) := by
  simp only [decodeWith, Buffer.front]
  cases buffer.takeLength codec with
  | error cause => rfl
  | ok taken =>
    simp only
    cases taken.takePayload <;> rfl

/-- With fuel for more than the buffer holds, the decoder gives what its loop gives. -/
theorem decodeWith_of_decodes {codec : Codec} {buffer last : Buffer} {outcome : Decoded}
    {dropped : Nat} (decodes : Decodes codec buffer (outcome, last, dropped)) {fuel : Nat}
    (enough : buffer.weight < fuel) (before : Nat) :
    decodeWith codec fuel before buffer = (outcome, last, before + dropped) := by
  generalize found : (outcome, last, dropped) = result at decodes
  induction decodes generalizing fuel before outcome last dropped with
  | waits unfinished =>
    cases found
    obtain ⟨fuel, rfl⟩ := Nat.exists_eq_add_of_lt enough
    simp only [decodeWith_succ, unfinished, Nat.add_zero]
  | refuses refused =>
    cases found
    obtain ⟨fuel, rfl⟩ := Nat.exists_eq_add_of_lt enough
    simp only [decodeWith_succ, refused, Nat.add_zero]
  | reads complete parsed =>
    cases found
    obtain ⟨fuel, rfl⟩ := Nat.exists_eq_add_of_lt enough
    simp only [decodeWith_succ, complete, parsed, Nat.add_zero]
  | ends complete malformed policy =>
    cases found
    obtain ⟨fuel, rfl⟩ := Nat.exists_eq_add_of_lt enough
    simp only [decodeWith_succ, complete, malformed, policy, Nat.add_zero]
  | @drops buffer rest _ _ _ _ counted complete malformed policy later inductionHypothesis =>
    cases found
    have smaller : rest.weight < buffer.weight := Buffer.weight_lt_of_front complete
    obtain ⟨fuel, rfl⟩ := Nat.exists_eq_add_of_lt enough
    simp only [decodeWith_succ, complete, malformed, policy]
    rw [inductionHypothesis (by omega) (before + 1) rfl, Nat.add_right_comm, Nat.add_assoc]

/-- One call of the decoder is its loop, and the fuel of the call is never used up. -/
theorem decodes_iff {codec : Codec} {buffer : Buffer} {result : Decoded × Buffer × Nat} :
    Decodes codec buffer result ↔ decode codec buffer = result := by
  have enough : buffer.weight < buffer.data.length + 2 := buffer.weight_lt
  have sound {result : Decoded × Buffer × Nat} (decodes : Decodes codec buffer result) :
      decode codec buffer = result := by
    rw [decode, decodeWith_of_decodes decodes enough 0, Nat.zero_add]
  constructor
  · exact sound
  · rintro rfl
    obtain ⟨found, decodes⟩ := exists_decodes codec buffer
    rwa [sound decodes]

/-- A call that gives a message leaves less than it found. -/
theorem weight_lt_of_decode {codec : Codec} {buffer rest : Buffer} {message : Message}
    {dropped : Nat} (given : decode codec buffer = (.message message, rest, dropped)) :
    rest.weight < buffer.weight := by
  have decodes := decodes_iff.2 given
  generalize found : (Decoded.message message, rest, dropped) = result at decodes
  induction decodes generalizing dropped with
  | waits => cases found
  | refuses => cases found
  | reads complete =>
    cases found
    exact Buffer.weight_lt_of_front complete
  | ends => cases found
  | drops complete malformed policy later inductionHypothesis =>
    cases found
    exact Nat.lt_trans (inductionHypothesis (decodes_iff.1 later) rfl)
      (Buffer.weight_lt_of_front complete)

/-- A malformed payload in front only adds to what the call on the rest counts. -/
theorem decode_of_malformed {codec : Codec} {buffer rest : Buffer} {bytes : List UInt8}
    {cause : ReadError} (complete : buffer.front codec = .payload bytes rest)
    (malformed : Message.parseBytes bytes = .error cause) (policy : codec.policy = .skip) :
    decode codec buffer =
      ((decode codec rest).1, (decode codec rest).2.1, (decode codec rest).2.2 + 1) :=
  decodes_iff.1 (.drops complete malformed policy (decodes_iff.2 rfl))

/-- Buffers with the same frame in front are decoded alike. A frame that is refused is no
frame to compare, since it stays in its buffer. -/
theorem decode_congr {codec : Codec} {buffer other : Buffer}
    (same : buffer.front codec = other.front codec)
    (taken : ∀ cause, other.front codec ≠ .refused cause) :
    decode codec buffer = decode codec other := by
  have decodes := decodes_iff.2 (rfl : decode codec other = _)
  generalize decode codec other = result at decodes
  refine decodes_iff.1 ?_
  cases decodes with
  | waits unfinished => exact .waits (same.trans unfinished)
  | refuses refused => exact absurd refused (taken _)
  | reads complete parsed => exact .reads (same.trans complete) parsed
  | ends complete malformed policy => exact .ends (same.trans complete) malformed policy
  | drops complete malformed policy later =>
    exact .drops (same.trans complete) malformed policy later

/-- A call on more bytes: what was reported is reported again, with the bytes behind what
was left; where the call had to wait, it is as if the next call went on from there. -/
theorem decode_push (codec : Codec) (buffer : Buffer) (more : List UInt8) :
    decode codec (buffer.push more) =
      match decode codec buffer with
      | (.more, rest, dropped) =>
        let later := decode codec (rest.push more)
        (later.1, later.2.1, later.2.2 + dropped)
      | (outcome, rest, dropped) => (outcome, rest.push more, dropped) := by
  have decodes := decodes_iff.2 (rfl : decode codec buffer = _)
  generalize decode codec buffer = result at decodes
  induction decodes with
  | @waits buffer rest unfinished =>
    -- a buffer that was left as it was is looked at once more, and otherwise the length that
    -- was taken is not refused any more
    obtain rfl | taken := Buffer.taken_of_unfinished unfinished
    · rfl
    · refine decode_congr ?_ (taken more)
      rw [Buffer.front_push, unfinished]
  | refuses refused =>
    refine decodes_iff.1 (.refuses ?_)
    rw [Buffer.front_push, refused]
  | reads complete parsed =>
    refine decodes_iff.1 (.reads ?_ parsed)
    rw [Buffer.front_push, complete]
  | ends complete malformed policy =>
    refine decodes_iff.1 (.ends ?_ malformed policy)
    rw [Buffer.front_push, complete]
  | @drops buffer rest last bytes cause outcome dropped complete malformed policy later
      inductionHypothesis =>
    have completed : (buffer.push more).front codec = .payload bytes (rest.push more) := by
      rw [Buffer.front_push, complete]
    rw [decode_of_malformed completed malformed policy, inductionHypothesis]
    cases outcome <;> rfl

/-- What a connection has given so far, and the buffer of what is not decoded yet. -/
structure Reading where
  messages : List Message := []
  /-- How many payloads were dropped. -/
  dropped : Nat := 0
  /-- What ended the reading, if anything did. -/
  failure : Option CodecError := none
  buffer : Buffer := {}

namespace Reading

/-- Put bytes that have arrived behind those not decoded yet. -/
def push (reading : Reading) (bytes : List UInt8) : Reading :=
  { reading with buffer := reading.buffer.push bytes }

/-- Call the decoder until it gives no message or fails. -/
def drain (codec : Codec) (reading : Reading) : Reading :=
  match _ : decode codec reading.buffer with
  | (.message body, rest, dropped) =>
    drain codec
      { reading with
        messages := reading.messages ++ [body]
        dropped := reading.dropped + dropped
        buffer := rest }
  | (.more, rest, dropped) =>
    { reading with dropped := reading.dropped + dropped, buffer := rest }
  | (.failed cause, rest, dropped) =>
    { reading with
      dropped := reading.dropped + dropped
      failure := some cause
      buffer := rest }
termination_by reading.buffer.weight
decreasing_by exact weight_lt_of_decode ‹_›

/-- Take a piece of the connection. After a failure nothing is decoded any more, and what
arrives is only kept. -/
def feed (codec : Codec) (reading : Reading) (bytes : List UInt8) : Reading :=
  match reading.failure with
  | none => (reading.push bytes).drain codec
  | some _ => reading.push bytes

/-- Two pieces put behind one another are one piece. -/
theorem push_push (reading : Reading) (bytes more : List UInt8) :
    (reading.push bytes).push more = reading.push (bytes ++ more) := by
  simp only [push, Buffer.push, List.append_assoc]

/-- A message in front is taken, and then the rest is decoded. -/
theorem drain_of_message {codec : Codec} {reading : Reading} {body : Message} {rest : Buffer}
    {dropped : Nat} (given : decode codec reading.buffer = (.message body, rest, dropped)) :
    reading.drain codec =
      drain codec
        { reading with
          messages := reading.messages ++ [body]
          dropped := reading.dropped + dropped
          buffer := rest } := by
  rw [drain]
  split <;> simp_all

/-- Decoding stops where no complete frame is left. -/
theorem drain_of_more {codec : Codec} {reading : Reading} {rest : Buffer} {dropped : Nat}
    (given : decode codec reading.buffer = (.more, rest, dropped)) :
    reading.drain codec =
      { reading with dropped := reading.dropped + dropped, buffer := rest } := by
  rw [drain]
  split <;> simp_all

/-- Decoding stops at a failure. -/
theorem drain_of_failed {codec : Codec} {reading : Reading} {cause : CodecError} {rest : Buffer}
    {dropped : Nat} (given : decode codec reading.buffer = (.failed cause, rest, dropped)) :
    reading.drain codec =
      { reading with
        dropped := reading.dropped + dropped
        failure := some cause
        buffer := rest } := by
  rw [drain]
  split <;> simp_all

/-- Readings that have the same so far, and whose next calls report the same, come to the
same if the payloads dropped before and in these calls are as many. -/
theorem drain_congr {codec : Codec} {reading other : Reading} {outcome : Decoded} {last : Buffer}
    {dropped otherDropped : Nat} (messages : reading.messages = other.messages)
    (failure : reading.failure = other.failure)
    (decoded : decode codec reading.buffer = (outcome, last, dropped))
    (otherDecoded : decode codec other.buffer = (outcome, last, otherDropped))
    (counted : reading.dropped + dropped = other.dropped + otherDropped) :
    reading.drain codec = other.drain codec := by
  cases outcome with
  | message body =>
    rw [drain_of_message decoded, drain_of_message otherDecoded, messages, failure, counted]
  | more => rw [drain_of_more decoded, drain_of_more otherDecoded, messages, failure, counted]
  | failed cause =>
    rw [drain_of_failed decoded, drain_of_failed otherDecoded, messages, counted]

/-- With fuel for more than the buffer holds, all its messages are those that reading it
adds, and they end in the same failure and the same buffer. -/
theorem decodeAll_eq (codec : Codec) (reading : Reading) (going : reading.failure = none)
    {fuel : Nat} (enough : reading.buffer.weight < fuel) :
    reading.messages ++ (decodeAll codec fuel reading.buffer).1 = (reading.drain codec).messages ∧
      (decodeAll codec fuel reading.buffer).2 =
        ((reading.drain codec).failure, (reading.drain codec).buffer) := by
  induction reading using drain.induct codec generalizing fuel with
  | case1 reading body rest dropped given inductionHypothesis =>
    have smaller := weight_lt_of_decode given
    obtain ⟨fuel, rfl⟩ := Nat.exists_eq_add_of_lt enough
    obtain ⟨messages, ending⟩ := @inductionHypothesis going (reading.buffer.weight + fuel) (by
      simp only
      omega)
    rw [drain_of_message given, ← messages, ← ending]
    simp only [decodeAll, given, List.append_assoc, List.singleton_append, and_self]
  | case2 reading rest dropped given =>
    obtain ⟨fuel, rfl⟩ := Nat.exists_eq_add_of_lt enough
    rw [drain_of_more given]
    simp only [decodeAll, given, List.append_nil, going, and_self]
  | case3 reading cause rest dropped given =>
    obtain ⟨fuel, rfl⟩ := Nat.exists_eq_add_of_lt enough
    rw [drain_of_failed given]
    simp only [decodeAll, given, List.append_nil, and_self]

/-- What a buffer is drained of is what reading it gives. -/
theorem drain_buffer (codec : Codec) (buffer : Buffer) :
    buffer.drain codec =
      ((drain codec { buffer }).messages, (drain codec { buffer }).failure,
        (drain codec { buffer }).buffer) := by
  obtain ⟨messages, ending⟩ := decodeAll_eq codec { buffer } rfl buffer.weight_lt
  rw [Buffer.drain, ← messages, ← ending, List.nil_append]

/-- Decoding what is there and then taking a piece is decoding both at once. -/
theorem drain_push (codec : Codec) (reading : Reading) (more : List UInt8)
    (going : reading.failure = none) :
    (reading.drain codec).feed codec more = (reading.push more).drain codec := by
  induction reading using drain.induct codec with
  | case1 reading body rest dropped given inductionHypothesis =>
    have givenAgain : decode codec (reading.push more).buffer =
        (.message body, rest.push more, dropped) := by
      rw [push, decode_push, given]
    rw [drain_of_message given, drain_of_message givenAgain, inductionHypothesis going]
    rfl
  | case2 reading rest dropped given =>
    have waited : (reading.drain codec).feed codec more =
        drain codec
          { reading with dropped := reading.dropped + dropped, buffer := rest.push more } := by
      simp only [drain_of_more given, feed, going, push]
    -- the call that goes on from the rest and the one on everything report the same
    rcases later : decode codec (rest.push more) with ⟨outcome, last, count⟩
    have decoded : decode codec (reading.push more).buffer = (outcome, last, count + dropped) := by
      rw [push, decode_push, given]
      simp only [later]
    rw [waited]
    refine drain_congr rfl rfl later decoded ?_
    rw [Nat.add_assoc, Nat.add_comm dropped]
    rfl
  | case3 reading cause rest dropped given =>
    have givenAgain : decode codec (reading.push more).buffer =
        (.failed cause, rest.push more, dropped) := by
      rw [push, decode_push, given]
    rw [drain_of_failed given, drain_of_failed givenAgain]
    rfl

/-- Two pieces one after the other are one piece. -/
theorem feed_feed (codec : Codec) (reading : Reading) (bytes more : List UInt8) :
    (reading.feed codec bytes).feed codec more = reading.feed codec (bytes ++ more) := by
  cases going : reading.failure with
  | none =>
    simp only [feed.eq_def codec reading, going]
    rw [drain_push codec (reading.push bytes) more going, push_push]
  | some cause =>
    have ended : (reading.push bytes).failure = some cause := going
    simp only [feed, going, ended, push_push]

/-- Pieces one after the other are one piece. An empty piece must find nothing left to
decode, which every piece leaves so. -/
theorem foldl_feed (codec : Codec) (chunks : List (List UInt8)) (reading : Reading)
    (settled : reading.feed codec [] = reading) :
    chunks.foldl (feed codec) reading = reading.feed codec chunks.flatten := by
  induction chunks generalizing reading with
  | nil => exact settled.symm
  | cons chunk chunks inductionHypothesis =>
    have settledAfter : (reading.feed codec chunk).feed codec [] = reading.feed codec chunk := by
      rw [feed_feed, List.append_nil]
    rw [List.foldl_cons, inductionHypothesis _ settledAfter, feed_feed, List.flatten_cons]

/-- Nothing is left to decode of an empty buffer. -/
theorem drain_of_empty {codec : Codec} {reading : Reading} (buffered : reading.buffer = {}) :
    reading.drain codec = reading := by
  have waits : decode codec reading.buffer = (.more, reading.buffer, 0) := by
    rw [buffered]
    exact decodes_iff.1 (.waits (Buffer.front_short codec (by decide)))
  exact drain_of_more waits

/-- However the bytes of a connection are cut into pieces, taking the pieces one after the
other gives what taking the bytes at once gives: the same messages in the same order, as many
payloads dropped, the same failure, and the same bytes and taken length left over, the bytes
behind a failure included. Every call of the decoder that this takes is its loop, which ends
on every buffer with a single outcome. -/
theorem feed_chunks (codec : Codec) (chunks : List (List UInt8)) :
    chunks.foldl (feed codec) {} = feed codec {} chunks.flatten ∧
      ∀ buffer result, Decodes codec buffer result ↔ decode codec buffer = result :=
  ⟨foldl_feed codec chunks {} (drain_of_empty rfl), fun _ _ => decodes_iff⟩

end Reading
end MediaNode.Rpc
