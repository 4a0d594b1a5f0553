import MediaNode.Proofs.Json.Reading
import MediaNode.Proofs.Json.Record
import MediaNode.Proofs.Outcome
import MediaNode.Rpc.Message

/-!
# Messages written and read

What a message is read from is said once, by what its object has under each name
(`Message.Reads`), and reading is that and nothing else (`ofJson_obj_eq_ok_iff`). From the
one side, the members that a message is written with have under each name what the normal
form of the message asks for. From the other, what an object is read as is in normal form
already, because reading takes null for absent and never gives a request without an id.
-/
namespace MediaNode.Rpc

open Json (lookup orderMembers Printable)

/-- An id is read from the value that it is written as, and from no other. -/
theorem Id.ofJson_eq_ok_iff {value : Json} {id : Id} : ofJson value = .ok id ↔ value = id.toJson := by
  constructor
  · intro read
    unfold ofJson at read
    split at read
    · split at read
      · rename_i n natural
        cases read
        rw [toJson, Int.toNat_of_nonneg natural]
      · cases read
    · cases read
      rfl
    · cases read
  · rintro rfl
    cases id with
    | number n => simp only [toJson, ofJson, Int.natCast_nonneg, if_true, Int.toNat_natCast]
    | text s => rfl

/-- No id is null. -/
theorem Id.present_toJson (id : Id) : ErrorObject.present id.toJson = some id.toJson := by
  cases id <;> rfl

/-- An id that may be left out is read as nothing where it is absent or null, and otherwise
from the value that it is written as. -/
theorem Id.readsOptional_iff {value : Option Json} {found : Option Id} :
    Json.ReadsOptional ofJson value found ↔
      value.bind ErrorObject.present = none ∧ found = none ∨
        ∃ id, value = some id.toJson ∧ found = some id := by
  unfold Json.ReadsOptional
  have notNull (id : Id) : some Json.null ≠ some id.toJson := by
    cases id <;> simp [toJson]
  split
  · simp
  · simp [notNull, ErrorObject.present]
  · rename_i value given
    have present : ErrorObject.present value = some value := by
      unfold ErrorObject.present
      split
      · exact absurd rfl given
      · rfl
    simp [present, Id.ofJson_eq_ok_iff]

/-- A value that is present stays present. -/
theorem bind_present_bind_present (value : Option Json) :
    (value.bind ErrorObject.present).bind ErrorObject.present =
      value.bind ErrorObject.present := by
  rcases value with _ | _ | _ <;> rfl

/-- What is present is the value itself. -/
theorem lookup_of_optionField {members : List (String × Json)} {name : String} {value : Json}
    (present : Message.optionField members name = some value) :
    lookup name members = some value := by
  obtain ⟨found, there, kept⟩ := Option.bind_eq_some_iff.1 present
  unfold ErrorObject.present at kept
  split at kept
  · cases kept
  · cases kept
    exact there

/-- A required string field is read from a string. -/
theorem required_str_iff {name text : String} {members : List (String × Json)} :
    (Json.Field.of name .required Json.shapeStr).Accepts members ∧
        Message.strField members name = text ↔
      lookup name members = some (.str text) := by
  have string (value : Json) : Json.shapeStr value = .ok text ↔ value = .str text := by
    cases value <;> simp [Json.shapeStr]
  rw [Message.strField, Json.required_iff]
  simp only [string, exists_eq_right]

/-- A field for any value accepts whatever is there. -/
theorem accepts_anyField (name : String) (members : List (String × Json)) :
    (Message.anyField name).Accepts members :=
  Json.accepts_iff.2 ⟨fun _ _ => rfl, fun required => nomatch required⟩

namespace ErrorObject

/-- The range of a code. -/
def CodeInRange (e : ErrorObject) : Prop := -0x80000000 ≤ e.code ∧ e.code ≤ 0x7FFFFFFF

/-- An object is read as an error by its members. -/
theorem ofJson_obj_eq_ok_iff {members : List (String × Json)}
    (distinct : (members.map Prod.fst).Nodup) {e : ErrorObject} :
    ofJson (.obj members) = .ok e ↔
      lookup "code" members = some (.int e.code) ∧ e.CodeInRange ∧
        lookup "message" members = some (.str e.message) ∧
        (lookup "data" members).bind present = e.data := by
  have names : (recordType.fields.map Json.Field.name).Nodup := by decide
  have accepts : (∀ field ∈ recordType.fields, field.Accepts members) ↔
      (Json.Field.of "code" .required Json.shapeInt32).Accepts members ∧
        (Json.Field.of "message" .required Json.shapeStr).Accepts members := by
    have data := accepts_anyField "data" members
    rw [Message.anyField] at data
    simp [recordType, data]
  have coded : (lookup "code" members = some (.int e.code) ∧ e.CodeInRange) ↔
      (Json.Field.of "code" .required Json.shapeInt32).Accepts members ∧
        (Json.fieldOf members "code" Json.shapeInt32).getD 0 = e.code := by
    simp only [Json.required_iff, Json.shapeInt32_eq_ok_iff, CodeInRange]
    grind
  have made (code : Int) (message : String) (data : Option Json) :
      (⟨code, message, data⟩ : ErrorObject) = e ↔
        code = e.code ∧ message = e.message ∧ data = e.data := by
    cases e
    simp only [ErrorObject.mk.injEq]
  simp only [ofJson, bind_eq_ok_iff, Json.record_obj_eq_ok_iff distinct names, accepts, pure,
    Except.pure, Except.ok.injEq, made, and_assoc, exists_eq_left]
  rw [← and_assoc (a := lookup "code" members = _), coded, ← required_str_iff, Message.strField]
  tauto

end ErrorObject

namespace Message

/-- What an object has to have under each name for a message to be read from it. -/
def Reads (members : List (String × Json)) : Message → Prop
  | .request r =>
    lookup "jsonrpc" members = some (.str r.version) ∧
      lookup "method" members = some (.str r.method) ∧
      optionField members "params" = r.params ∧
      ∃ id, lookup "id" members = some id.toJson ∧ r.id = some id
  | .notification n =>
    lookup "jsonrpc" members = some (.str n.version) ∧
      lookup "method" members = some (.str n.method) ∧
      optionField members "params" = n.params ∧
      optionField members "id" = none
  | .response r =>
    lookup "jsonrpc" members = some (.str r.version) ∧
      lookup "method" members = none ∧
      optionField members "result" = r.result ∧
      Json.ReadsOptional ErrorObject.ofJson (lookup "error" members) r.error ∧
      lookup "id" members = some r.id.toJson

/-- An object is read as a request by its members. -/
theorem requestOf_obj_eq_ok_iff {members : List (String × Json)}
    (distinct : (members.map Prod.fst).Nodup) {r : Request} :
    requestOf (.obj members) = .ok r ↔
      lookup "jsonrpc" members = some (.str r.version) ∧
        lookup "method" members = some (.str r.method) ∧
        optionField members "params" = r.params ∧
        Json.ReadsOptional Id.ofJson (lookup "id" members) r.id := by
  have names : (requestType.fields.map Json.Field.name).Nodup := by decide
  have accepts : (∀ field ∈ requestType.fields, field.Accepts members) ↔
      (Json.Field.of "jsonrpc" .required Json.shapeStr).Accepts members ∧
        (Json.Field.of "method" .required Json.shapeStr).Accepts members ∧
        (Json.Field.of "id" .optional (Json.shapeOption Id.ofJson)).Accepts members := by
    simp [requestType, accepts_anyField]
  obtain ⟨version, method, params, id⟩ := r
  simp only [requestOf, bind_eq_ok_iff, Json.record_obj_eq_ok_iff distinct names, accepts, pure,
    Except.pure, Except.ok.injEq, Request.mk.injEq, and_assoc, exists_eq_left]
  rw [← required_str_iff, ← required_str_iff, ← Json.optional_iff]
  tauto

/-- An object is read as a notification by its members. -/
theorem notificationOf_obj_eq_ok_iff {members : List (String × Json)}
    (distinct : (members.map Prod.fst).Nodup) {n : Notification} :
    notificationOf (.obj members) = .ok n ↔
      lookup "jsonrpc" members = some (.str n.version) ∧
        lookup "method" members = some (.str n.method) ∧
        optionField members "params" = n.params := by
  have names : (notificationType.fields.map Json.Field.name).Nodup := by decide
  have accepts : (∀ field ∈ notificationType.fields, field.Accepts members) ↔
      (Json.Field.of "jsonrpc" .required Json.shapeStr).Accepts members ∧
        (Json.Field.of "method" .required Json.shapeStr).Accepts members := by
    simp [notificationType, accepts_anyField]
  obtain ⟨version, method, params⟩ := n
  simp only [notificationOf, bind_eq_ok_iff, Json.record_obj_eq_ok_iff distinct names, accepts, pure,
    Except.pure, Except.ok.injEq, Notification.mk.injEq, and_assoc, exists_eq_left]
  rw [← required_str_iff, ← required_str_iff]
  tauto

/-- An object is read as a response by its members. -/
theorem responseOf_obj_eq_ok_iff {members : List (String × Json)}
    (distinct : (members.map Prod.fst).Nodup) {r : Response} :
    responseOf (.obj members) = .ok r ↔
      lookup "jsonrpc" members = some (.str r.version) ∧
        optionField members "result" = r.result ∧
        Json.ReadsOptional ErrorObject.ofJson (lookup "error" members) r.error ∧
        lookup "id" members = some r.id.toJson := by
  have names : (responseType.fields.map Json.Field.name).Nodup := by decide
  have accepts : (∀ field ∈ responseType.fields, field.Accepts members) ↔
      (Json.Field.of "jsonrpc" .required Json.shapeStr).Accepts members ∧
        (Json.Field.of "error" .optional (Json.shapeOption ErrorObject.ofJson)).Accepts members ∧
        (Json.Field.of "id" .required Id.ofJson).Accepts members := by
    simp [responseType, accepts_anyField]
  have answered (id : Id) : lookup "id" members = some id.toJson ↔
      (Json.Field.of "id" .required Id.ofJson).Accepts members ∧
        (Json.fieldOf members "id" Id.ofJson).getD (.number 0) = id := by
    simp only [Json.required_iff, Id.ofJson_eq_ok_iff, exists_eq_right]
  obtain ⟨version, result, error, id⟩ := r
  simp only [responseOf, bind_eq_ok_iff, Json.record_obj_eq_ok_iff distinct names, accepts, pure,
    Except.pure, Except.ok.injEq, Response.mk.injEq, and_assoc, exists_eq_left]
  rw [← required_str_iff, ← Json.optional_iff, answered]
  tauto

/-- An object is read as a message by its members. -/
theorem ofJson_obj_eq_ok_iff {members : List (String × Json)}
    (distinct : (members.map Prod.fst).Nodup) {message : Message} :
    ofJson (.obj members) = .ok message ↔ Reads members message := by
  have mapped {α : Type} (read : Json.Shaped α) (variant : α → Message) :
      read.map variant = .ok message ↔ ∃ body, read = .ok body ∧ variant body = message := by
    cases read <;> simp [Except.map]
  cases named : lookup "method" members with
  | none =>
    simp only [ofJson, named, Option.isSome_none, Bool.false_eq_true, if_false, mapped,
      responseOf_obj_eq_ok_iff distinct]
    cases message <;> simp [Reads, named]
  | some method =>
    by_cases missing : optionField members "id" = none
    · have unasked (id : Id) : lookup "id" members ≠ some id.toJson := by
        intro given
        rw [optionField, given, Option.bind_some, Id.present_toJson] at missing
        cases missing
      simp only [ofJson, named, missing, Option.isSome_some, Option.isSome_none, if_true,
        Bool.false_eq_true, if_false, mapped, notificationOf_obj_eq_ok_iff distinct]
      cases message <;> simp [Reads, named, missing, unasked]
    · have asked : (optionField members "id").isSome = true :=
        Option.isSome_iff_ne_none.2 missing
      have reads (r : Request) :
          requestOf (.obj members) = .ok r ↔ Reads members (.request r) := by
        rw [optionField] at missing
        simp only [requestOf_obj_eq_ok_iff distinct, Id.readsOptional_iff, missing, false_and,
          false_or, Reads]
      simp only [ofJson, named, asked, Option.isSome_some, if_true, mapped, reads]
      cases message with
      | request body => simp
      | notification body => simp [Reads, missing]
      | response body => simp [Reads, named]

end Message
end MediaNode.Rpc
