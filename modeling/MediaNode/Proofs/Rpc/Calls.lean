import MediaNode.Proofs.Rpc.RoundTrip
import MediaNode.Rpc.Client

/-!
# The calls of a client

Whatever happens to a client, its calls are only ever changed one by one, and none is taken
away. So a client is looked at through `call?`: each operation is said by what it does to the
call with any id, and by what it leaves alone.

The last part is about what an answer says. The outcome of a call is told by the object of the
frame that answers it (`Tells`), where a member that is null counts as none.
-/
namespace MediaNode.Rpc

open Json (lookup)

namespace Call

variable {call : Call} {outcome : Except CallError Json}

@[simp] theorem id_complete : (call.complete outcome).id = call.id := rfl

/-- A call that is not completed is completed with what it is completed with. -/
theorem outcome_complete (open_ : call.outcome = none) :
    (call.complete outcome).outcome = some outcome := by
  rw [complete, open_, Option.none_or]

/-- A call that is completed stays as it is. -/
theorem complete_of_isSome (done : call.outcome.isSome = true) : call.complete outcome = call := by
  obtain ⟨id, deadline, _ | found⟩ := call
  · cases done
  · rfl

/-- What a caller learns was recorded, and its request is not being written. -/
theorem result_eq_some_iff :
    call.result = some outcome ↔ call.isWriting = false ∧ call.outcome = some outcome := by
  cases writing : call.isWriting <;> simp [result, writing]

/-- While its request is being written, a caller learns nothing. -/
theorem result_of_isWriting (writing : call.isWriting = true) : call.result = none := by
  rw [result, if_pos writing]

end Call

namespace Client

variable {client : Client} {id other : Id} {call : Call} {outcome : Except CallError Json}

/-- The ids of the calls that were registered. -/
def ids (client : Client) : List Id := client.calls.map Call.id

/-- What is found under an id has that id. -/
theorem id_of_call? (found : client.call? id = some call) : call.id = id := by
  simpa using List.find?_some found

/-- There is a call under each id that was registered, and under no other. -/
theorem mem_ids_iff : id ∈ client.ids ↔ ∃ call, client.call? id = some call := by
  rw [← Option.isSome_iff_exists, call?, List.find?_isSome, ids, List.mem_map]
  simp only [decide_eq_true_eq]

/-- Where every call is changed, but for its id, so is the call that is found. -/
theorem call?_of_calls {later : Client} {g : Call → Call} (kept : ∀ call, (g call).id = call.id)
    (calls : later.calls = client.calls.map g) : later.call? id = (client.call? id).map g := by
  simp only [call?, calls, List.find?_map, Function.comp_def, kept]

/-- A change touches the call with its id. -/
theorem call?_change {f : Call → Call} (kept : ∀ call, (f call).id = call.id) :
    (client.change id f).call? other =
      if other = id then (client.call? id).map f else client.call? other := by
  have same (call : Call) : (if call.id = id then f call else call).id = call.id := by
    split
    · exact kept call
    · rfl
  rw [call?_of_calls same rfl]
  cases found : client.call? other with
  | none =>
    split
    · next equal =>
      rw [← equal, found]
      rfl
    · rfl
  | some call =>
    rw [Option.map_some, id_of_call? found]
    split
    · next equal => rw [← equal, found, Option.map_some]
    · rfl

/-- Completing a call touches that call. -/
theorem call?_complete : (client.complete id outcome).call? other =
    if other = id then (client.call? id).map (·.complete outcome) else client.call? other :=
  call?_change fun _ => rfl

/-- A change registers no call. -/
theorem ids_change {f : Call → Call} (kept : ∀ call, (f call).id = call.id) :
    (client.change id f).ids = client.ids := by
  simp only [ids, change, List.map_map]
  refine List.map_congr_left fun call _ => ?_
  rw [Function.comp_apply]
  split
  · exact kept call
  · rfl

/-- A call that is registered is new where there was none. -/
theorem call?_await : (client.await id).call? other =
    (client.call? other).or (if other = id then some { id } else none) := by
  have fresh : [({ id } : Call)].find? (fun call => call.id = other) =
      if other = id then some { id } else none := by
    simp only [List.find?_singleton, decide_eq_true_eq, eq_comm (a := other)]
  rw [call?, await, List.find?_append, fresh]
  rfl

/-- Completing calls one after the other in the same way completes each of them. -/
theorem foldl_complete (outcome : Except CallError Json) (pending : List Id) (client : Client) :
    pending.foldl (fun client id => client.complete id outcome) client =
      { client with calls := client.calls.map fun call =>
          if call.id ∈ pending then call.complete outcome else call } := by
  induction pending generalizing client with
  | nil => simp
  | cons id pending inductionHypothesis =>
    rw [List.foldl_cons, inductionHypothesis, complete, change]
    simp only [List.map_map]
    congr 1
    refine List.map_congr_left fun call _ => ?_
    rw [Function.comp_apply]
    by_cases first : call.id = id
    · have done : (call.complete outcome).outcome.isSome = true := by
        cases found : call.outcome <;> simp [Call.complete, found]
      simp only [if_pos first, Call.id_complete, Call.complete_of_isSome done, ite_self,
        if_pos (List.mem_cons.2 (.inl first))]
    · simp only [List.mem_cons, eq_false first, if_false, false_or]

/-- Where reading fails, the awaited calls are completed and nothing else is. -/
theorem fail_eq (client : Client) (cause : CodecError) :
    client.fail cause =
      { client with
        calls := client.calls.map fun call =>
          if call.id ∈ client.pending then call.complete (.error (.io cause.message)) else call
        pending := []
        reading := false } := by
  rw [fail, foldl_complete]

/-- Where reading fails, each awaited call is completed with the cause. -/
theorem call?_fail (cause : CodecError) : (client.fail cause).call? id =
    if id ∈ client.pending then (client.call? id).map (·.complete (.error (.io cause.message)))
    else client.call? id := by
  have kept (call : Call) : (if call.id ∈ client.pending then
      call.complete (.error (.io cause.message)) else call).id = call.id := by
    split <;> rfl
  rw [call?_of_calls kept (by rw [fail_eq])]
  cases found : client.call? id with
  | none => split <;> rfl
  | some call =>
    rw [Option.map_some, id_of_call? found]
    split <;> rfl

/-- A response to an id that is awaited is consumed. -/
theorem receive_awaited {response : Response} (awaited : response.id ∈ client.pending) :
    client.receive (.response response) =
      { client with pending := client.pending.filter (· ≠ response.id) }.complete response.id
        response.outcome := by
  rw [receive, if_pos (List.contains_iff_mem.2 awaited)]

/-- A response to any other id changes nothing. -/
theorem receive_unknown {response : Response} (unknown : response.id ∉ client.pending) :
    client.receive (.response response) = client := by
  rw [receive, if_neg (mt List.contains_iff_mem.1 unknown)]

/-- Everything else is for the inbox. -/
theorem receive_other {message : Message} (other : message.isResponse = false) :
    client.receive message = client.deposit message := by
  cases message with
  | response body => cases other
  | request body => rfl
  | notification body => rfl

/-- The reader takes a payload. One that is no message is dropped. -/
def hear (client : Client) (payload : List UInt8) : Client :=
  match Message.parseBytes payload with
  | .ok message => client.receive message
  | .error _ => client

/-- What reading a payload makes of a client. -/
inductive Heard (client : Client) (payload : List UInt8) (later : Client) : Prop where
  /-- It is the response to an id that is awaited. -/
  | consumed (response : Response) (read : Message.parseBytes payload = .ok (.response response))
      (awaited : response.id ∈ client.pending)
      (same : later = { client with pending := client.pending.filter (· ≠ response.id) }.complete
        response.id response.outcome)
  /-- It is the response to another id. -/
  | unknown (response : Response) (read : Message.parseBytes payload = .ok (.response response))
      (unknown : response.id ∉ client.pending) (same : later = client)
  /-- It is a request or a notification. -/
  | offered (message : Message) (read : Message.parseBytes payload = .ok message)
      (other : message.isResponse = false) (same : later = client.deposit message)
  /-- It is no message. -/
  | malformed (cause : ReadError) (read : Message.parseBytes payload = .error cause)
      (same : later = client)

/-- Reading a payload makes one of these of a client. -/
theorem heard (client : Client) (payload : List UInt8) :
    client.Heard payload (client.hear payload) := by
  cases read : Message.parseBytes payload with
  | error cause => exact .malformed cause read (by rw [hear, read])
  | ok message =>
    have heard : client.hear payload = client.receive message := by rw [hear, read]
    by_cases other : message.isResponse = false
    · exact .offered message read other (heard.trans (receive_other other))
    · cases message with
      | request body => exact absurd rfl other
      | notification body => exact absurd rfl other
      | response response =>
        by_cases awaited : response.id ∈ client.pending
        · exact .consumed response read awaited (heard.trans (receive_awaited awaited))
        · exact .unknown response read awaited (heard.trans (receive_unknown awaited))

/-- What is put into the inbox changes no call. -/
theorem deposit_eq (client : Client) (message : Message) :
    ∃ inbox held reading, client.deposit message = { client with inbox, held, reading } := by
  rw [deposit]
  split
  · exact ⟨client.inbox, client.held, false, rfl⟩
  · split
    · exact ⟨_, client.held, client.reading, rfl⟩
    · exact ⟨client.inbox, _, client.reading, rfl⟩

/-- Nor does what is taken from it. -/
theorem take_eq (client : Client) :
    ∃ inbox held, client.take.1 = { client with inbox, held } := by
  rw [take]
  split
  · exact ⟨client.inbox, client.held, rfl⟩
  · exact ⟨_, _, rfl⟩

/-- Reading registers no call. -/
theorem ids_hear (client : Client) (payload : List UInt8) :
    (client.hear payload).ids = client.ids ∧ (client.hear payload).next = client.next := by
  cases client.heard payload with
  | consumed response read awaited same =>
    rw [same]
    exact ⟨ids_change fun _ => rfl, rfl⟩
  | unknown response read unknown same => rw [same]; exact ⟨rfl, rfl⟩
  | offered message read other same =>
    obtain ⟨inbox, held, reading, deposited⟩ := client.deposit_eq message
    rw [same, deposited]
    exact ⟨rfl, rfl⟩
  | malformed cause read same => rw [same]; exact ⟨rfl, rfl⟩

/-- Nor does the end of reading. -/
theorem ids_fail (client : Client) (cause : CodecError) :
    (client.fail cause).ids = client.ids := by
  rw [fail_eq, ids, List.map_map]
  refine List.map_congr_left fun call _ => ?_
  rw [Function.comp_apply]
  split <;> rfl

end Client

namespace Message

/-- The characters of a payload. -/
def chars (payload : List UInt8) : List Char :=
  match Text.ofBytes? payload with
  | some text => text.toList
  | none => Text.charsUpToFlaw payload

/-- The object that a payload stands for. -/
def object? (payload : List UInt8) : Option (List (String × Json)) :=
  match Json.front (chars payload) with
  | some (.obj members, _) => some members
  | _ => none

/-- A message is read from the object that its payload stands for. -/
theorem reads_of_parseBytes {payload : List UInt8} {message : Message}
    (read : parseBytes payload = .ok message) :
    ∃ members, object? payload = some members ∧ Reads members message := by
  have front : ofFront (Json.front (chars payload)) = .ok message := by
    rw [chars]
    rw [parseBytes] at read
    split <;> simp_all only [parse]
  obtain ⟨members, rest, found, -, -, reads⟩ := reads_of_front front
  exact ⟨members, by rw [object?, found], reads⟩

end Message

open Message (optionField)

/-- What an object that answers a call says about it. -/
structure Tells (members : List (String × Json)) (outcome : Except CallError Json) : Prop where
  /-- The call failed with an error exactly where there is one. -/
  failed : ∀ error, outcome = .error (.rpc error) ↔
    ∃ value, optionField members "error" = some value ∧ ErrorObject.ofJson value = .ok error
  /-- Otherwise it has the result that is there. -/
  succeeded : ∀ result, outcome = .ok result ↔
    optionField members "error" = none ∧ optionField members "result" = some result
  /-- There may be neither. -/
  neither : outcome = .error .unexpectedResponse ↔
    optionField members "error" = none ∧ optionField members "result" = none

/-- An optional member is read as nothing where it is absent or null, and otherwise from its
value. -/
theorem readsOptional_iff_present {α : Type} {shape : Json → Json.Shaped α} {value : Option Json}
    {found : Option α} (reads : Json.ReadsOptional shape value found) :
    (∀ a, found = some a ↔ ∃ given, value.bind ErrorObject.present = some given ∧
        shape given = .ok a) ∧
      (found = none ↔ value.bind ErrorObject.present = none) := by
  unfold Json.ReadsOptional at reads
  split at reads
  · simp [reads]
  · simp [reads, ErrorObject.present]
  · rename_i value given
    obtain ⟨a, shaped, rfl⟩ := reads
    have present : ErrorObject.present value = some value := by
      unfold ErrorObject.present
      split
      · exact absurd rfl given
      · rfl
    simp [present, shaped]

/-- A response says what its object says. -/
theorem tells_of_reads {members : List (String × Json)} {response : Response}
    (reads : Message.Reads members (.response response)) : Tells members response.outcome := by
  obtain ⟨-, -, result, error, -⟩ := reads
  obtain ⟨given, absent⟩ := readsOptional_iff_present error
  constructor
  · intro error
    rw [optionField, ← given error, Response.outcome]
    cases response.error <;> cases response.result <;> simp
  · intro found
    rw [optionField, ← absent, result, Response.outcome]
    cases response.error <;> cases response.result <;> simp
  · rw [optionField, ← absent, result, Response.outcome]
    cases response.error <;> cases response.result <;> simp

end MediaNode.Rpc
