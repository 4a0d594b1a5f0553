import Mathlib.Data.List.Forall2
import MediaNode.Proofs.Json.Numerals
import MediaNode.Proofs.Rpc.Message

/-!
# Messages through their text

The text of a message writes its members in an order of its own, and those of an error
object as well, so it is not the text of its value; but it is a text that the value is read
from. What is read back is the message in normal form, and what is read at all is in normal
form, so that a second round changes nothing. Only doubles are left out, and integers outside
of the range are read as doubles: the double that a text is read as is not always the one that
the text was written for.
-/
namespace MediaNode.Rpc

open Json (lookup orderMembers orderedMembers_orderMembers Printable Written WrittenMembers)

namespace ErrorObject

/-- The keys of an error object are different. -/
theorem distinct_members (e : ErrorObject) : (e.members.map Prod.fst).Nodup := by
  obtain ⟨code, message, data⟩ := e
  cases data <;> simp [members]

/-- The value of an error object is read as the error with null data removed. -/
theorem ofJson_toJson {e : ErrorObject} (range : e.CodeInRange) :
    ofJson e.toJson = .ok (Message.normalError e) := by
  refine (ofJson_obj_eq_ok_iff (orderedMembers_orderMembers e.members).distinct).2 ?_
  obtain ⟨code, message, data⟩ := e
  cases data <;> simp [members, orderMembers, lookup, Message.normalError] <;> exact range

/-- The text of an error object is one of its value. -/
theorem written {levels : Nat} {e : ErrorObject} (printable : Printable levels e.toJson) :
    Written levels (Json.chars (.obj e.members)) e.toJson := by
  obtain ⟨levels, rfl⟩ := Nat.exists_eq_add_of_le' ((Nat.succ_pos _).trans_le printable.shallow)
  have parts : ∀ part ∈ e.members, Printable levels part.2 := fun _ present =>
    printable.of_ofMembers e.distinct_members present
  exact .obj (Printable.writtenMembers parts)

end ErrorObject

namespace Message

/-- The members that a message is written with, as values. -/
def content : Message → List (String × Json)
  | .request r =>
    ("jsonrpc", .str r.version) :: ("method", .str r.method) ::
      ((r.params.map (("params", ·))).toList ++ (r.id.map fun i => ("id", i.toJson)).toList)
  | .response r =>
    ("jsonrpc", .str r.version) ::
      ((r.result.map (("result", ·))).toList ++
        (r.error.map fun e => ("error", e.toJson)).toList ++ [("id", r.id.toJson)])
  | .notification n =>
    ("jsonrpc", .str n.version) :: ("method", .str n.method) ::
      (n.params.map (("params", ·))).toList

/-- The value of a message is built from its members. -/
theorem toJson_eq (message : Message) : message.toJson = .ofMembers message.content := by
  cases message <;> simp [toJson, content]

/-- The keys of a message are different. -/
theorem distinct_content (message : Message) : (message.content.map Prod.fst).Nodup := by
  obtain ⟨_, _, params, id⟩ | ⟨_, result, error, _⟩ | ⟨_, _, params⟩ := message
  · cases params <;> cases id <;> simp [content]
  · cases result <;> cases error <;> simp [content]
  · cases params <;> simp [content]

/-- That a member is written as a text of its value. -/
def Spelled (levels : Nat) (written : String × List Char) (member : String × Json) : Prop :=
  written.1 = member.1 ∧ Written levels written.2 member.2

/-- Members with commas between them are a text of the members that they spell. -/
theorem writtenMembers_joinMembers {levels : Nat} {part : String × List Char}
    {parts : List (String × List Char)} {member : String × Json} {rest : List (String × Json)}
    (first : Spelled levels part member) (others : List.Forall₂ (Spelled levels) parts rest) :
    WrittenMembers levels (joinMembers (part :: parts)) (member :: rest) := by
  induction others generalizing part member with
  | nil =>
    obtain ⟨key, text⟩ := part
    obtain ⟨rfl, written⟩ := first
    exact .last written
  | cons next _ inductionHypothesis =>
    obtain ⟨key, text⟩ := part
    obtain ⟨rfl, written⟩ := first
    exact .more written (inductionHypothesis next)

/-- A member that may be left out is spelled if what is there is. -/
theorem spelled_option {α : Type} {levels : Nat} {name : String} {found : Option α}
    {text : α → List Char} {value : α → Json}
    (written : ∀ a, found = some a → Written levels (text a) (value a)) :
    List.Forall₂ (Spelled levels) (found.map fun a => (name, text a)).toList
      (found.map fun a => (name, value a)).toList := by
  cases found with
  | none => exact .nil
  | some a => exact .cons ⟨rfl, written a rfl⟩ .nil

/-- The text of a message is one of its value. -/
theorem written_toText {message : Message} {levels : Nat}
    (printable : Printable levels message.toJson) :
    Written levels message.toText.toList message.toJson := by
  rw [toJson_eq] at printable ⊢
  obtain ⟨levels, rfl⟩ := Nat.exists_eq_add_of_le' ((Nat.succ_pos _).trans_le printable.shallow)
  have part {name : String} {value : Json} (present : (name, value) ∈ message.content) :
      Printable levels value := printable.of_ofMembers message.distinct_content present
  rw [toText, String.toList_ofList]
  refine .obj ?_
  cases message with
  | request r =>
    refine writtenMembers_joinMembers ⟨rfl, .str _⟩ (.cons ⟨rfl, .str _⟩
      (List.rel_append (spelled_option fun params given => ?_) (spelled_option fun id given => ?_)))
    · exact (part (by simp [content, given] : ("params", params) ∈ _)).written
    · exact (part (by simp [content, given] : ("id", id.toJson) ∈ _)).written
  | response r =>
    refine writtenMembers_joinMembers ⟨rfl, .str _⟩ (List.rel_append
      (List.rel_append (spelled_option fun result given => ?_) (spelled_option fun error given => ?_))
      (.cons ⟨rfl, ?_⟩ .nil))
    · exact (part (by simp [content, given] : ("result", result) ∈ _)).written
    · exact ErrorObject.written (part (by simp [content, given] : ("error", error.toJson) ∈ _))
    · exact (part (by simp [content] : ("id", r.id.toJson) ∈ _)).written
  | notification n =>
    refine writtenMembers_joinMembers ⟨rfl, .str _⟩ (.cons ⟨rfl, .str _⟩
      (spelled_option fun params given => ?_))
    exact (part (by simp [content, given] : ("params", params) ∈ _)).written

/-- What the types of a message promise of it: the members of its objects are in order, and
the code of an error has 32 bits. -/
structure WellTyped (message : Message) : Prop where
  ordered : message.toJson.Ordered
  codes : ∀ response error, message = .response response → response.error = some error →
    error.CodeInRange

/-- The members that a message is written with have under each name what its normal form is
read from. -/
theorem reads_normal {message : Message}
    (codes : ∀ response error, message = .response response → response.error = some error →
      error.CodeInRange) :
    Reads (orderMembers message.content) message.normal := by
  cases message with
  | request r =>
    obtain ⟨version, method, params, id⟩ := r
    cases params <;> cases id <;> simp [content, orderMembers, lookup, normal, Reads, optionField]
  | response r =>
    obtain ⟨version, result, error, id⟩ := r
    have failed : Json.ReadsOptional ErrorObject.ofJson (error.map ErrorObject.toJson)
        (error.map normalError) := by
      cases error with
      | none => rfl
      | some e => exact ⟨_, ErrorObject.ofJson_toJson (codes _ e rfl rfl), rfl⟩
    cases result <;> cases error <;>
      simpa [content, orderMembers, lookup, normal, Reads, optionField] using failed
  | notification n =>
    obtain ⟨version, method, params⟩ := n
    cases params <;> simp [content, orderMembers, lookup, normal, Reads, optionField]

/-- A message that can be written and read is read back from its text in normal form. -/
theorem parse_toText {message : Message} (typed : message.WellTyped)
    (printable : Printable Json.maxDepth message.toJson) :
    parse message.toText = .ok message.normal := by
  have read : ofJson message.toJson = .ok message.normal := by
    rw [toJson_eq]
    exact (ofJson_obj_eq_ok_iff (orderedMembers_orderMembers _).distinct).2
      (reads_normal typed.codes)
  rw [parse, Json.front_of_written (written_toText printable), ofFront, read]
  rfl

end Message

namespace ErrorObject

/-- An error is read with a code of 32 bits and without null data. -/
theorem of_ofJson {value : Json} {e : ErrorObject} (read : ofJson value = .ok e) :
    e.CodeInRange ∧ Message.normalError e = e := by
  obtain ⟨members, -, made⟩ := bind_eq_ok_iff.1 read
  cases made
  refine ⟨?_, ?_⟩
  · cases given : Json.fieldOf members "code" Json.shapeInt32 with
    | none => simp [CodeInRange]
    | some code =>
      obtain ⟨value, -, shaped⟩ := Option.bind_eq_some_iff.1 given
      cases read : Json.shapeInt32 value with
      | error cause =>
        rw [read] at shaped
        cases shaped
      | ok found =>
        rw [read] at shaped
        cases shaped
        simpa only [CodeInRange, Option.getD_some] using (Json.shapeInt32_eq_ok_iff.1 read).2
  · simp only [Message.normalError, bind_present_bind_present]

/-- What an error is read from can be written and read again, and so can the error. -/
theorem printable_of_ofJson {levels : Nat} {value : Json} {e : ErrorObject}
    (read : ofJson value = .ok e) (printable : Printable levels value) :
    Printable levels e.toJson := by
  obtain ⟨members, taken, made⟩ := bind_eq_ok_iff.1 read
  obtain ⟨levels, rfl, parts⟩ : ∃ less, levels = less + 1 ∧
      ∀ member ∈ members, Printable less member.2 := by
    rcases Json.record_cases taken with rfl | ⟨items, rfl, within⟩
    · obtain ⟨levels, rfl⟩ := Nat.exists_eq_add_of_le' ((Nat.succ_pos _).trans_le printable.shallow)
      exact ⟨levels, rfl, fun _ present => printable.member present⟩
    · obtain ⟨levels, rfl⟩ := Nat.exists_eq_add_of_le' ((Nat.succ_pos _).trans_le printable.shallow)
      exact ⟨levels, rfl, fun member present => printable.item (within member present)⟩
  have data : (lookup "data" members).bind present = e.data := by
    cases made
    rfl
  refine Printable.ofMembers fun part present => ?_
  simp only [ErrorObject.members, List.mem_cons, Option.mem_toList, Option.map_eq_some_iff] at present
  obtain rfl | rfl | ⟨value, given, rfl⟩ := present
  · have range := (of_ofJson read).1
    exact .int ⟨by unfold CodeInRange at range; omega, by unfold CodeInRange at range; omega⟩
  · exact .str _
  · exact parts _ (Json.mem_of_lookup (lookup_of_optionField (data.trans given)))

end ErrorObject

namespace Message

/-- What is read from an object is in normal form. -/
theorem normal_of_reads {members : List (String × Json)} {message : Message}
    (reads : Reads members message) : message.normal = message := by
  have kept {name : String} {found : Option Json} (given : optionField members name = found) :
      found.bind ErrorObject.present = found := by
    rw [← given, optionField, bind_present_bind_present]
  cases message with
  | request r =>
    obtain ⟨-, -, params, id, -, asked⟩ := reads
    obtain ⟨version, method, found, given⟩ := r
    cases asked
    simp only [normal, kept params]
  | response r =>
    obtain ⟨-, -, result, error, -⟩ := reads
    obtain ⟨version, found, failure, id⟩ := r
    have failed : failure.map normalError = failure := by
      cases failure with
      | none => rfl
      | some e =>
        obtain ⟨value, -, read⟩ := error.given
        rw [Option.map_some, (ErrorObject.of_ofJson read).2]
    simp only [normal, kept result, failed]
  | notification n =>
    obtain ⟨-, -, params, -⟩ := reads
    simp only [normal, kept params]

/-- What is read from an object that can be written and read again can be so itself. -/
theorem printable_of_reads {levels : Nat} {members : List (String × Json)} {message : Message}
    (reads : Reads members message) (printable : Printable levels (.obj members)) :
    Printable levels message.toJson := by
  obtain ⟨levels, rfl⟩ := Nat.exists_eq_add_of_le' ((Nat.succ_pos _).trans_le printable.shallow)
  have there {name : String} {value : Json} (present : lookup name members = some value) :
      Printable levels value := printable.member (Json.mem_of_lookup present)
  have given {name : String} {found : Option Json} (same : optionField members name = found)
      {value : Json} (present : found = some value) : Printable levels value :=
    there (lookup_of_optionField (same.trans present))
  rw [toJson_eq]
  refine Printable.ofMembers fun part present => ?_
  cases message with
  | request r =>
    obtain ⟨-, -, params, id, asked, same⟩ := reads
    simp only [content, same, List.mem_cons, List.mem_append, Option.mem_toList,
      Option.map_eq_some_iff, Option.map_some, Option.some.injEq] at present
    obtain rfl | rfl | ⟨value, found, rfl⟩ | rfl := present
    · exact .str _
    · exact .str _
    · exact given params found
    · exact there asked
  | response r =>
    obtain ⟨-, -, result, error, answered⟩ := reads
    simp only [content, List.mem_cons, List.mem_append, Option.mem_toList, Option.map_eq_some_iff,
      List.not_mem_nil, or_false] at present
    obtain rfl | (⟨value, found, rfl⟩ | ⟨e, found, rfl⟩) | rfl := present
    · exact .str _
    · exact given result found
    · rw [found] at error
      obtain ⟨value, present, read⟩ := error.given
      exact ErrorObject.printable_of_ofJson read (there present)
    · exact there answered
  | notification n =>
    obtain ⟨-, -, params, -⟩ := reads
    simp only [content, List.mem_cons, Option.mem_toList, Option.map_eq_some_iff] at present
    obtain rfl | rfl | ⟨value, found, rfl⟩ := present
    · exact .str _
    · exact .str _
    · exact given params found

/-- The code of an error that is read has 32 bits. -/
theorem codes_of_reads {members : List (String × Json)} {message : Message}
    (reads : Reads members message) (response : Response) (error : ErrorObject)
    (answered : message = .response response) (failed : response.error = some error) :
    error.CodeInRange := by
  subst answered
  obtain ⟨-, -, -, failure, -⟩ := reads
  rw [failed] at failure
  obtain ⟨value, -, read⟩ := failure.given
  exact (ErrorObject.of_ofJson read).1

/-- A message is read from the object at the front of a text, with nothing but blanks behind
it. -/
theorem reads_of_front {text : List Char} {message : Message}
    (read : ofFront (Json.front text) = .ok message) :
    ∃ members rest, Json.front text = some (.obj members, rest) ∧
      (Json.skipSpace rest).isEmpty = true ∧ Json.Proper Json.maxDepth (.obj members) ∧
      Reads members message := by
  cases found : Json.front text with
  | none =>
    rw [found] at read
    cases read
  | some result =>
    obtain ⟨value, rest⟩ := result
    rw [found] at read
    simp only [ofFront] at read
    split at read
    · cases read
    · next body shaped =>
      split at read
      · next nothingLeft =>
        cases read
        have proper := Json.proper_of_front found
        cases value with
        | obj members =>
          exact ⟨members, rest, rfl, nothingLeft, proper,
            (ofJson_obj_eq_ok_iff proper.ordered.1.distinct).1 shaped⟩
        | _ => cases shaped
      · cases read

/-- A message is read from the object that the whole text stands for. -/
theorem reads_of_parse {text : String} {message : Message} (read : parse text = .ok message) :
    ∃ members, Json.parse text = some (.obj members) ∧ Json.Proper Json.maxDepth (.obj members) ∧
      Reads members message := by
  obtain ⟨members, rest, found, nothingLeft, proper, reads⟩ := reads_of_front read
  refine ⟨members, ?_, proper, reads⟩
  rw [Json.parse, found]
  exact if_pos nothingLeft

/-- Which of the three a message is depends on whether its object has a method and an id that
is not null. -/
theorem kind_of_reads {members : List (String × Json)} {message : Message}
    (reads : Reads members message) :
    (message.isRequest = true ↔ (lookup "method" members).isSome = true ∧
        ∃ id, lookup "id" members = some id ∧ id ≠ .null) ∧
      (message.isNotification = true ↔ (lookup "method" members).isSome = true ∧
        ∀ id, lookup "id" members = some id → id = .null) ∧
      (message.isResponse = true ↔ lookup "method" members = none) := by
  have notNull (id : Id) : id.toJson ≠ .null := by
    cases id <;> simp [Id.toJson]
  cases message with
  | request r =>
    obtain ⟨-, named, -, id, asked, same⟩ := reads
    simp [isRequest, isNotification, isResponse, named, asked, same, notNull]
  | response r =>
    obtain ⟨-, unnamed, -⟩ := reads
    simp [isRequest, isNotification, isResponse, unnamed]
  | notification n =>
    obtain ⟨-, named, -, unasked⟩ := reads
    have null (id : Json) (there : lookup "id" members = some id) : id = .null := by
      rw [optionField, there, Option.bind_some] at unasked
      unfold ErrorObject.present at unasked
      split at unasked
      · rfl
      · cases unasked
    simp [isRequest, isNotification, isResponse, named]
    exact null

/-- What is known of a message that was read from an object. -/
structure Received (text : String) (members : List (String × Json)) (message : Message) : Prop where
  found : Json.parse text = some (.obj members)
  /-- It is in normal form. -/
  normal : message.normal = message
  /-- If it came from a text with no numbers but integers of the range, it is read back from its own
  text as it is. -/
  again : (∀ numeral ∈ Json.numerals text, Json.InRange numeral) →
    parse message.toText = .ok message
  /-- It is a request, a notification or a response as the object has a method and an id that is
  not null. -/
  request : message.isRequest = true ↔ (lookup "method" members).isSome = true ∧
    ∃ id, lookup "id" members = some id ∧ id ≠ .null
  notification : message.isNotification = true ↔ (lookup "method" members).isSome = true ∧
    ∀ id, lookup "id" members = some id → id = .null
  response : message.isResponse = true ↔ lookup "method" members = none

/-- A message of integers with no more levels than the reader allows is read back from its
text in normal form, and whatever is read at all is in normal form. -/
theorem parse_toText_normal :
    (∀ message : Message, message.WellTyped → message.toJson.Integral →
      message.toJson.depth ≤ Json.maxDepth → parse message.toText = .ok message.normal) ∧
    ∀ text message, parse text = .ok message → ∃ members, Received text members message := by
  constructor
  · intro message typed integral shallow
    exact parse_toText typed ⟨typed.ordered, Json.Integral.faithful _ integral, shallow⟩
  · intro text message read
    obtain ⟨members, found, proper, reads⟩ := reads_of_parse read
    obtain ⟨request, notification, response⟩ := kind_of_reads reads
    have normal := normal_of_reads reads
    refine ⟨members, { found, normal, again := fun integers => ?_, request, notification, response }⟩
    have faithful := Json.faithful_of_parse found integers
    have printable := printable_of_reads reads (proper.printable faithful)
    have again := parse_toText ⟨printable.ordered, codes_of_reads reads⟩ printable
    rwa [normal] at again

/-- A failed response with null data and a control character in its id loses only the data. -/
theorem parse_toText_normal_response :
    let e : ErrorObject := ⟨-32603, "stopped", some .null⟩
    let message : Message := .response ⟨"2.0", some (.arr [.int (-1), .obj []]), some e, .text "\x01"⟩
    message.WellTyped ∧ message.toJson.Integral ∧ message.toJson.depth ≤ Json.maxDepth ∧
      parse message.toText = .ok message.normal ∧
      parse message.normal.toText = .ok message.normal := by
  intro e message
  have value : message.toJson = .obj
      [("error", .obj [("code", .int (-32603)), ("data", .null), ("message", .str "stopped")]),
        ("id", .str "\x01"), ("jsonrpc", .str "2.0"), ("result", .arr [.int (-1), .obj []])] := by
    rfl
  have ordered : message.toJson.Ordered := by
    rw [value]
    simp only [Json.Ordered, Json.OrderedValues, Json.OrderedItems, and_true, Json.OrderedMembers]
    decide
  have integral : message.toJson.Integral := by
    rw [value]
    simp [Json.Integral, Json.IntegralValues, Json.IntegralItems, Json.IntegerRange]
  have shallow : message.toJson.depth ≤ Json.maxDepth := by decide
  have typed : message.WellTyped := by
    refine ⟨ordered, fun response error answered failed => ?_⟩
    rw [← Message.response.inj answered] at failed
    cases failed
    exact ⟨by decide, by decide⟩
  have written := parse_toText_normal.1 message typed integral shallow
  obtain ⟨members, received⟩ := parse_toText_normal.2 _ _ written
  refine ⟨typed, integral, shallow, written, received.again ?_⟩
  rw [Message.toText, Json.numerals, String.toList_ofList]
  decide +kernel

/-- A text that is read as a message which is written as another text. -/
theorem exists_of_toText {text written : String}
    (read : (parse text).toOption.map toText = some written) :
    ∃ message, parse text = .ok message ∧ message.toText = written := by
  obtain ⟨message, found, same⟩ := Option.map_eq_some_iff.1 read
  cases result : parse text with
  | error cause =>
    rw [result] at found
    cases found
  | ok other =>
    rw [result] at found
    cases found
    exact ⟨_, rfl, same⟩

/-- An integer outside of the range is read as a double, which is written in the fewest digits
that tell it from its neighbours, and those are read as the neighbour above it. So a text
without floating-point numbers is not always read again as it was. -/
theorem not_every_integer_read_back :
    let text := "\x7b\"jsonrpc\":\"2.0\",\"method\":\"x\",\"params\":" ++
      "[5000000000000000000000000000000000000]\x7d"
    (∀ numeral ∈ Json.numerals text, (Json.integer? numeral).isSome = true) ∧
      ∃ message again, parse text = .ok message ∧ parse message.toText = .ok again ∧
        message.toText = "\x7b\"jsonrpc\":\"2.0\",\"method\":\"x\",\"params\":[5e+36]\x7d" ∧
        again.toText =
          "\x7b\"jsonrpc\":\"2.0\",\"method\":\"x\",\"params\":[5.0000000000000004e+36]\x7d" ∧
        again ≠ message := by
  intro text
  obtain ⟨message, read, written⟩ := exists_of_toText
    (by decide +kernel : (parse text).toOption.map toText =
      some "\x7b\"jsonrpc\":\"2.0\",\"method\":\"x\",\"params\":[5e+36]\x7d")
  obtain ⟨again, readAgain, writtenAgain⟩ := exists_of_toText
    (by decide +kernel :
      (parse "\x7b\"jsonrpc\":\"2.0\",\"method\":\"x\",\"params\":[5e+36]\x7d").toOption.map toText =
        some "\x7b\"jsonrpc\":\"2.0\",\"method\":\"x\",\"params\":[5.0000000000000004e+36]\x7d")
  refine ⟨by decide +kernel, message, again, read, written ▸ readAgain, written, writtenAgain, ?_⟩
  rintro rfl
  exact absurd (writtenAgain.symm.trans written) (by decide)

end Message
end MediaNode.Rpc
