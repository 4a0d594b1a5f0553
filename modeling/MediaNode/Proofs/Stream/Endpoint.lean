import MediaNode.Proofs.Json.Record
import MediaNode.Proofs.Outcome
import MediaNode.Stream.Endpoint

/-!
# What inputs and outputs are read from

The inputs and outputs of a spec stand in arrays. An entry is an object with a URI, an array with
the fields of one in their order, or a bare string; `Input.Denotes` and `Output.Denotes` say what
a record denotes, and `Lists` which list an array stands for. Anything else in the array is passed
over as a whole, and leaves a gap in the numbers of the bare strings behind it.

The reader gives exactly that list (`endpoints_listed`). What is written of an endpoint denotes it,
so that every list of endpoints is read back from what is written of it.
-/
namespace MediaNode.Stream

/-- That a field which may be left out, or be null, says something. -/
def Says {α : Type} (write : α → Json) (value : Option Json) : Option α → Prop
  | none => value = none ∨ value = some .null
  | some a => value = some (write a)

/-- That a field says a number of 64 bits, which is zero where it is left out. -/
def SaysNumber (value : Option Json) (n : Nat) : Prop :=
  value = none ∧ n = 0 ∨ value = some (.int n) ∧ n < 2 ^ 64

/-- A text that has to be there is read from that text. -/
theorem text_iff (name : String) {value : Option Json} {text : String} :
    (Json.Field.of name .required Json.shapeStr).Takes value ∧
        (value.bind fun given => (Json.shapeStr given).toOption).getD "" = text ↔
      value = some (.str text) := by
  simp only [Json.required_takes_iff, Json.shapeStr_eq_ok_iff, exists_eq_right]

/-- A number with a default is read from what says it. -/
theorem number_iff (name : String) {value : Option Json} {n : Nat} :
    (Json.Field.of name .defaulted Json.shapeUInt64).Takes value ∧
        (value.bind fun given => (Json.shapeUInt64 given).toOption).getD 0 = n ↔
      SaysNumber value n := by
  simp only [Json.defaulted_iff, Json.shapeUInt64_eq_ok_iff, SaysNumber]
  refine or_congr_right ⟨?_, ?_⟩
  · rintro ⟨given, rfl, rfl, small⟩
    exact ⟨rfl, small⟩
  · rintro ⟨rfl, small⟩
    exact ⟨_, rfl, rfl, small⟩

/-- A field that may be left out or null is read from what says its value. -/
theorem says_iff {α : Type} {shape : Json → Json.Shaped α} {write : α → Json}
    (writes : ∀ {given a}, shape given = .ok a ↔ given = write a) (notNull : ∀ a, write a ≠ .null)
    (name : String) {value : Option Json} {a : Option α} :
    (Json.Field.of name .defaulted (Json.shapeOption shape)).Takes value ∧
        (value.bind fun given => (Json.shapeOption shape given).toOption).getD none = a ↔
      Says write value a := by
  have shaped (given : Json) :
      Json.shapeOption shape given = .ok a ↔ Says write (some given) a := by
    by_cases null : given = .null
    · subst null
      cases a <;> simp [Json.shapeOption, Says, (notNull _).symm]
    · have own : Json.shapeOption shape given = (shape given).map some := by
        cases given <;> first | rfl | exact absurd rfl null
      rw [own]
      cases a with
      | none => cases shape given <;> simp [Says, null, Except.map]
      | some a =>
        rw [Says, Option.some.injEq, ← writes]
        cases shape given <;> simp [Except.map]
  simp only [Json.defaulted_iff, shaped]
  cases value with
  | none => cases a <;> simp [Says]
  | some given => simp

/-- That a record is that of an input. What it holds beside the fields does not matter. -/
structure Input.Denotes (entry : Json) (input : Input) : Prop where
  record : entry.IsRecordOf 5
  id : SaysNumber (entry.held "id" 0) input.id
  uri : entry.held "uri" 1 = some (.str input.uri)
  userAgent : Says .str (entry.held "user_agent" 2) input.userAgent
  streamLink : Says .bool (entry.held "stream_link" 3) input.streamLink
  proxy : Says .str (entry.held "proxy" 4) input.proxy

/-- That a record is that of an output. -/
structure Output.Denotes (entry : Json) (output : Output) : Prop where
  record : entry.IsRecordOf 4
  id : SaysNumber (entry.held "id" 0) output.id
  uri : entry.held "uri" 1 = some (.str output.uri)
  httpRoot : Says .str (entry.held "http_root" 2) output.httpRoot
  hlsType : Says .str (entry.held "hls_type" 3) output.hlsType

/-- What holds of every place of a list holds of the first and of those behind it. -/
theorem forall_place_cons {α : Type} {first : α} {rest : List α} {property : Nat → α → Prop} :
    (∀ place a, (first :: rest)[place]? = some a → property place a) ↔
      property 0 first ∧ ∀ place a, rest[place]? = some a → property (place + 1) a := by
  constructor
  · exact fun all => ⟨all 0 first rfl, fun place a there => all (place + 1) a there⟩
  · rintro ⟨head, tail⟩ (_ | place) a there
    · exact Option.some.inj there ▸ head
    · exact tail place a there

/-- An input is read from the records that denote it. -/
theorem Input.ofRecord_eq_ok_iff {entry : Json} (ordered : entry.Ordered) {input : Input} :
    ofRecord entry = .ok input ↔ Denotes entry input := by
  have names : (recordType.fields.map Json.Field.name).Nodup := by decide
  have strict : ∀ field ∈ recordType.fields, field.absence ≠ .optional := by
    simp [recordType, Json.Field.of]
  obtain ⟨looked, taken⟩ := Json.record_iff names strict ordered
  simp only [recordType, forall_place_cons, List.length_cons, List.length_nil, List.getElem?_nil,
    reduceCtorEq, false_implies, implies_true, and_true, Nat.reduceAdd, Json.Field.name_of]
    at looked taken
  simp only [ofRecord, bind_eq_ok_iff, Json.fieldOf]
  constructor
  · rintro ⟨found, read, built⟩
    obtain ⟨record, id, uri, userAgent, streamLink, proxy⟩ := taken.mp ⟨found, read⟩
    obtain ⟨hereId, hereUri, hereAgent, hereLink, hereProxy⟩ := looked found read
    cases built
    simp only [hereId, hereUri, hereAgent, hereLink, hereProxy]
    exact {
      record
      id := (number_iff "id").mp ⟨id, rfl⟩
      uri := (text_iff "uri").mp ⟨uri, rfl⟩
      userAgent := (says_iff Json.shapeStr_eq_ok_iff nofun "user_agent").mp ⟨userAgent, rfl⟩
      streamLink := (says_iff Json.shapeBool_eq_ok_iff nofun "stream_link").mp ⟨streamLink, rfl⟩
      proxy := (says_iff Json.shapeStr_eq_ok_iff nofun "proxy").mp ⟨proxy, rfl⟩ }
  · intro denotes
    obtain ⟨takesId, id⟩ := (number_iff "id").mpr denotes.id
    obtain ⟨takesUri, uri⟩ := (text_iff "uri").mpr denotes.uri
    obtain ⟨takesAgent, userAgent⟩ :=
      (says_iff Json.shapeStr_eq_ok_iff nofun "user_agent").mpr denotes.userAgent
    obtain ⟨takesLink, streamLink⟩ :=
      (says_iff Json.shapeBool_eq_ok_iff nofun "stream_link").mpr denotes.streamLink
    obtain ⟨takesProxy, proxy⟩ :=
      (says_iff Json.shapeStr_eq_ok_iff nofun "proxy").mpr denotes.proxy
    obtain ⟨found, read⟩ :=
      taken.mpr ⟨denotes.record, takesId, takesUri, takesAgent, takesLink, takesProxy⟩
    obtain ⟨hereId, hereUri, hereAgent, hereLink, hereProxy⟩ := looked found read
    refine ⟨found, read, ?_⟩
    rw [hereId, hereUri, hereAgent, hereLink, hereProxy, id, uri, userAgent, streamLink, proxy]
    rfl

/-- An output is read from the records that denote it. -/
theorem Output.ofRecord_eq_ok_iff {entry : Json} (ordered : entry.Ordered) {output : Output} :
    ofRecord entry = .ok output ↔ Denotes entry output := by
  have names : (recordType.fields.map Json.Field.name).Nodup := by decide
  have strict : ∀ field ∈ recordType.fields, field.absence ≠ .optional := by
    simp [recordType, Json.Field.of]
  obtain ⟨looked, taken⟩ := Json.record_iff names strict ordered
  simp only [recordType, forall_place_cons, List.length_cons, List.length_nil, List.getElem?_nil,
    reduceCtorEq, false_implies, implies_true, and_true, Nat.reduceAdd, Json.Field.name_of]
    at looked taken
  simp only [ofRecord, bind_eq_ok_iff, Json.fieldOf]
  constructor
  · rintro ⟨found, read, built⟩
    obtain ⟨record, id, uri, httpRoot, hlsType⟩ := taken.mp ⟨found, read⟩
    obtain ⟨hereId, hereUri, hereRoot, hereType⟩ := looked found read
    cases built
    simp only [hereId, hereUri, hereRoot, hereType]
    exact {
      record
      id := (number_iff "id").mp ⟨id, rfl⟩
      uri := (text_iff "uri").mp ⟨uri, rfl⟩
      httpRoot := (says_iff Json.shapePath_eq_ok_iff nofun "http_root").mp ⟨httpRoot, rfl⟩
      hlsType := (says_iff Json.shapeStr_eq_ok_iff nofun "hls_type").mp ⟨hlsType, rfl⟩ }
  · intro denotes
    obtain ⟨takesId, id⟩ := (number_iff "id").mpr denotes.id
    obtain ⟨takesUri, uri⟩ := (text_iff "uri").mpr denotes.uri
    obtain ⟨takesRoot, httpRoot⟩ :=
      (says_iff Json.shapePath_eq_ok_iff nofun "http_root").mpr denotes.httpRoot
    obtain ⟨takesType, hlsType⟩ :=
      (says_iff Json.shapeStr_eq_ok_iff nofun "hls_type").mpr denotes.hlsType
    obtain ⟨found, read⟩ := taken.mpr ⟨denotes.record, takesId, takesUri, takesRoot, takesType⟩
    obtain ⟨hereId, hereUri, hereRoot, hereType⟩ := looked found read
    refine ⟨found, read, ?_⟩
    rw [hereId, hereUri, hereRoot, hereType, id, uri, httpRoot, hlsType]
    rfl

/-- A member that may be left out is found under its name. -/
@[simp]
theorem lookup_optionalMember {α : Type} (asked name : String) (write : α → Json) (a : Option α) :
    Json.lookup asked (optionalMember name write a) =
      if name = asked then a.map write else none := by
  cases a <;> simp [optionalMember, Json.lookup]

/-- What is written of a value says it. -/
theorem says_map {α : Type} (write : α → Json) (a : Option α) : Says write (a.map write) a := by
  cases a <;> simp [Says]

/-- What is written of an input denotes it. -/
theorem Input.denotes_toJson {input : Input} (small : input.id < 2 ^ 64) :
    input.toJson.Ordered ∧ Denotes input.toJson input := by
  obtain ⟨id, uri, userAgent, streamLink, proxy⟩ := input
  have distinct : ((("id", Json.int id) :: ("uri", .str uri) ::
      (optionalMember "user_agent" .str userAgent ++
        optionalMember "stream_link" .bool streamLink ++
        optionalMember "proxy" .str proxy)).map Prod.fst).Nodup := by
    cases userAgent <;> cases streamLink <;> cases proxy <;> simp [optionalMember]
  have holds := Json.held_ofMembers distinct
  simp only [Json.lookup, Json.lookup_append, lookup_optionalMember] at holds
  refine ⟨Json.ordered_ofMembers ?_, trivial, .inr ⟨?_, small⟩, ?_, ?_, ?_, ?_⟩
  · cases userAgent <;> cases streamLink <;> cases proxy <;> simp [optionalMember, Json.Ordered]
  · exact holds "id" 0
  · exact holds "uri" 1
  · rw [toJson, holds]
    simp [says_map]
  · rw [toJson, holds]
    simp [says_map]
  · rw [toJson, holds]
    simp [says_map]

/-- What is written of an output denotes it. -/
theorem Output.denotes_toJson {output : Output} (small : output.id < 2 ^ 64) :
    output.toJson.Ordered ∧ Denotes output.toJson output := by
  obtain ⟨id, uri, httpRoot, hlsType⟩ := output
  have distinct : ((("id", Json.int id) :: ("uri", .str uri) ::
      (optionalMember "http_root" .str httpRoot ++
        optionalMember "hls_type" .str hlsType)).map Prod.fst).Nodup := by
    cases httpRoot <;> cases hlsType <;> simp [optionalMember]
  have holds := Json.held_ofMembers distinct
  simp only [Json.lookup, Json.lookup_append, lookup_optionalMember] at holds
  refine ⟨Json.ordered_ofMembers ?_, trivial, .inr ⟨?_, small⟩, ?_, ?_, ?_⟩
  · cases httpRoot <;> cases hlsType <;> simp [optionalMember, Json.Ordered]
  · exact holds "id" 0
  · exact holds "uri" 1
  · rw [toJson, holds]
    simp [says_map]
  · rw [toJson, holds]
    simp [says_map]

section
variable {α : Type} {denotes : Json → α → Prop} {bare : Nat → String → α}
  {ofRecord : Json → Json.Shaped α} {position : Nat} {entries : List Json} {list : List α}

/-- What an entry at a position stands for: what it denotes as a record, or a bare string with the
position as its number. -/
inductive Stands (denotes : Json → α → Prop) (bare : Nat → String → α) (position : Nat) :
    Json → α → Prop where
  | record {entry : Json} {a : α} (denoted : denotes entry a) : Stands denotes bare position entry a
  | bare (text : String) : Stands denotes bare position (.str text) (bare position text)

/-- What the entries from a position on stand for, in their order. An entry that stands for nothing
is passed over, and counts as a position. -/
inductive Lists (denotes : Json → α → Prop) (bare : Nat → String → α) :
    Nat → List Json → List α → Prop where
  | done {position : Nat} : Lists denotes bare position [] []
  | taken {position : Nat} {entry : Json} {entries : List Json} {a : α} {list : List α}
      (stands : Stands denotes bare position entry a)
      (later : Lists denotes bare (position + 1) entries list) :
      Lists denotes bare position (entry :: entries) (a :: list)
  | passed {position : Nat} {entry : Json} {entries : List Json} {list : List α}
      (nothing : ∀ a, ¬ Stands denotes bare position entry a)
      (later : Lists denotes bare (position + 1) entries list) :
      Lists denotes bare position (entry :: entries) list

/-- That a reader of records reads what they denote, which no text does. -/
structure Exact (ofRecord : Json → Json.Shaped α) (denotes : Json → α → Prop) : Prop where
  reads {entry : Json} (ordered : entry.Ordered) (a : α) : ofRecord entry = .ok a ↔ denotes entry a
  bare (text : String) (a : α) : ¬ denotes (.str text) a

/-- An entry is read as what it stands for. -/
theorem Exact.readEntry_eq_some_iff (exact : Exact ofRecord denotes) {entry : Json}
    (ordered : entry.Ordered) {a : α} :
    readEntry ofRecord bare position entry = some a ↔ Stands denotes bare position entry a := by
  unfold readEntry
  constructor
  · intro read
    split at read
    · next full reads =>
      cases read
      exact .record ((exact.reads ordered _).mp reads)
    · obtain ⟨text, string, rfl⟩ := Option.map_eq_some_iff.mp read
      cases entry with
      | str own =>
        cases string
        exact .bare _
      | _ => cases string
  · rintro (denoted | text)
    · rw [(exact.reads ordered a).mpr denoted]
    · cases read : ofRecord (.str text) with
      | ok full => exact absurd ((exact.reads ordered full).mp read) (exact.bare text full)
      | error cause => rfl

/-- The entries of an array are read as the list that they stand for. -/
theorem Exact.readEntries_eq_iff (exact : Exact ofRecord denotes)
    (ordered : ∀ entry ∈ entries, entry.Ordered) :
    readEntries ofRecord bare position entries = list ↔
      Lists denotes bare position entries list := by
  induction entries generalizing position list with
  | nil =>
    constructor
    · rintro rfl
      exact .done
    · rintro ⟨⟩
      rfl
  | cons entry entries inductionHypothesis =>
    obtain ⟨own, others⟩ := List.forall_mem_cons.mp ordered
    have stands (a : α) : readEntry ofRecord bare position entry = some a ↔
        Stands denotes bare position entry a := exact.readEntry_eq_some_iff own
    rw [readEntries]
    constructor
    · rintro rfl
      have later : Lists denotes bare (position + 1) entries _ :=
        (inductionHypothesis others).mp rfl
      cases read : readEntry ofRecord bare position entry with
      | some a => exact .taken ((stands a).mp read) later
      | none =>
        refine .passed (fun a standing => ?_) later
        rw [(stands a).mpr standing] at read
        cases read
    · rintro (_ | ⟨standing, later⟩ | ⟨nothing, later⟩)
      · rw [(stands _).mpr standing, (inductionHypothesis others).mpr later]
        rfl
      · have unread : readEntry ofRecord bare position entry = none :=
          Option.eq_none_iff_forall_ne_some.mpr fun a read => nothing a ((stands a).mp read)
        rw [unread, (inductionHypothesis others).mpr later]
        rfl

/-- An entry stands for one thing. -/
theorem Exact.unique (exact : Exact ofRecord denotes) {entry : Json} (ordered : entry.Ordered)
    {a b : α} (one : Stands denotes bare position entry a)
    (other : Stands denotes bare position entry b) : a = b := by
  rw [← exact.readEntry_eq_some_iff ordered] at one other
  exact Option.some.inj (one.symm.trans other)

/-- What some entry of a list stands for, the first one does or one of the later ones. -/
theorem exists_stands_cons {entry : Json} {a : α} :
    (∃ (place : Nat) (other : Json), (entry :: entries)[place]? = some other ∧
        Stands denotes bare (position + place) other a) ↔
      Stands denotes bare position entry a ∨ ∃ (place : Nat) (other : Json),
        entries[place]? = some other ∧ Stands denotes bare (position + 1 + place) other a := by
  constructor
  · rintro ⟨_ | place, other, there, stands⟩
    · exact .inl (Option.some.inj there ▸ stands)
    · exact .inr ⟨place, other, there, by rwa [Nat.add_assoc, Nat.add_comm 1 place]⟩
  · rintro (stands | ⟨place, other, there, stands⟩)
    · exact ⟨0, entry, rfl, stands⟩
    · exact ⟨place + 1, other, there, by rwa [Nat.add_comm place 1, ← Nat.add_assoc]⟩

/-- What is listed is what the entries stand for, each with its own position. -/
theorem Exact.mem_iff (exact : Exact ofRecord denotes) (ordered : ∀ entry ∈ entries, entry.Ordered)
    (lists : Lists denotes bare position entries list) {a : α} :
    a ∈ list ↔ ∃ (place : Nat) (entry : Json), entries[place]? = some entry ∧
      Stands denotes bare (position + place) entry a := by
  induction lists with
  | done => simp
  | taken stands later inductionHypothesis =>
    obtain ⟨own, others⟩ := List.forall_mem_cons.mp ordered
    refine List.mem_cons.trans (Iff.trans (or_congr_right (inductionHypothesis others)) ?_)
    refine Iff.trans ?_ exists_stands_cons.symm
    refine or_congr_left ⟨?_, fun also => exact.unique own also stands⟩
    rintro rfl
    exact stands
  | passed nothing later inductionHypothesis =>
    obtain ⟨own, others⟩ := List.forall_mem_cons.mp ordered
    refine (inductionHypothesis others).trans (Iff.trans ?_ exists_stands_cons.symm)
    exact (or_iff_right (nothing a)).symm

/-- A list of values is listed by what denotes them one by one. -/
theorem lists_map {write : α → Json} (position : Nat) {list : List α}
    (written : ∀ a ∈ list, denotes (write a) a) :
    Lists denotes bare position (list.map write) list := by
  induction list generalizing position with
  | nil => exact .done
  | cons a list inductionHypothesis =>
    obtain ⟨own, others⟩ := List.forall_mem_cons.mp written
    exact .taken (.record own) (inductionHypothesis (position + 1) others)

end

/-- Inputs are read exactly. -/
theorem Input.exact : Exact ofRecord Denotes :=
  ⟨fun ordered _ => ofRecord_eq_ok_iff ordered, fun _ _ denotes => denotes.record⟩

/-- Outputs are read exactly. -/
theorem Output.exact : Exact ofRecord Denotes :=
  ⟨fun ordered _ => ofRecord_eq_ok_iff ordered, fun _ _ denotes => denotes.record⟩

/-- What a reader of endpoints makes of a field of a spec: nothing of one that is no array, of an
array what it lists, and of what is written of some endpoints those endpoints. -/
structure ReadsArray {α : Type} (denotes : Json → α → Prop) (bare : Nat → String → α)
    (id : α → Nat) (write : α → Json) (field : Option Json) (read : Option (List α)) : Prop where
  noArray : (∀ entries, field ≠ some (.arr entries)) → read = none
  listed (entries : List Json) : field = some (.arr entries) → ∃ list, read = some list ∧
    (∀ other, Lists denotes bare 0 entries other ↔ other = list) ∧
    ∀ a, a ∈ list ↔ ∃ (place : Nat) (entry : Json),
      entries[place]? = some entry ∧ Stands denotes bare place entry a
  written (list : List α) : (∀ a ∈ list, id a < 2 ^ 64) →
    field = some (.arr (list.map write)) → read = some list

/-- A reader that is exact for records reads arrays of them. -/
theorem Exact.readsArray {α : Type} {denotes : Json → α → Prop} {bare : Nat → String → α}
    {id : α → Nat} {write : α → Json} {ofRecord : Json → Json.Shaped α}
    (exact : Exact ofRecord denotes)
    (denoted : ∀ a, id a < 2 ^ 64 → (write a).Ordered ∧ denotes (write a) a) {field : Option Json}
    (ordered : ∀ value, field = some value → value.Ordered) :
    ReadsArray denotes bare id write field
      ((field.bind Json.asArr).map (readEntries ofRecord bare 0)) := by
  have items {entries : List Json} (array : field = some (.arr entries)) :
      ∀ entry ∈ entries, entry.Ordered :=
    Json.orderedItems_iff.mp (ordered _ array)
  constructor
  case noArray =>
    intro other
    cases field with
    | none => rfl
    | some value =>
      cases value with
      | arr entries => exact absurd rfl (other entries)
      | _ => rfl
  case listed =>
    rintro entries rfl
    refine ⟨_, rfl, fun other => ?_, fun a => ?_⟩
    · rw [← exact.readEntries_eq_iff (items rfl), eq_comm]
    · rw [exact.mem_iff (items rfl) ((exact.readEntries_eq_iff (items rfl)).mp rfl)]
      simp only [Nat.zero_add]
  case written =>
    rintro list small rfl
    refine congrArg some ((exact.readEntries_eq_iff (items rfl)).mpr ?_)
    exact lists_map 0 fun a listed => (denoted a (small a listed)).2

/-- The inputs and the outputs of a spec are what their arrays list. -/
theorem endpoints_listed {spec : Spec} (ordered : spec.toJson.Ordered) :
    ReadsArray Input.Denotes Input.bare Input.id Input.toJson (spec.get? "input")
        (readInput spec) ∧
      ReadsArray Output.Denotes Output.bare Output.id Output.toJson (spec.get? "output")
        (readOutput spec) := by
  have values {key : String} (value : Json) (present : spec.get? key = some value) :
      value.Ordered :=
    Json.orderedValues_iff.mp ordered.2 _ (Json.mem_of_lookup present)
  exact ⟨Input.exact.readsArray (fun _ => Input.denotes_toJson) values,
    Output.exact.readsArray (fun _ => Output.denotes_toJson) values⟩

/-- An input whose agent is no text and one without a URI are passed over; the string between them
keeps its position, and a record may be an array or hold more than it has to. -/
theorem endpoints_listed_mixed :
    let spec : Spec := ⟨[("input", .arr
      [.obj [("uri", .str "udp://a"), ("user_agent", .int 5)], .str "rtmp://a",
        .obj [("id", .int 3)], .arr [.int 7, .str "udp://b"],
        .obj [("extra", .null), ("uri", .str "udp://c")]])]⟩
    spec.toJson.Ordered ∧ readInput spec = some
      [⟨1, "rtmp://a", none, none, none⟩, ⟨7, "udp://b", none, none, none⟩,
        ⟨0, "udp://c", none, none, none⟩] := by
  intro spec
  have ordered : spec.toJson.Ordered := by
    simp only [spec, Spec.toJson, Json.Ordered, Json.OrderedMembers, Json.OrderedValues,
      Json.OrderedItems]
    decide
  obtain ⟨list, read, unique, -⟩ := (endpoints_listed ordered).1.listed _ rfl
  have lists : Lists Input.Denotes Input.bare 0
      [.obj [("uri", .str "udp://a"), ("user_agent", .int 5)], .str "rtmp://a",
        .obj [("id", .int 3)], .arr [.int 7, .str "udp://b"],
        .obj [("extra", .null), ("uri", .str "udp://c")]]
      [⟨1, "rtmp://a", none, none, none⟩, ⟨7, "udp://b", none, none, none⟩,
        ⟨0, "udp://c", none, none, none⟩] := by
    refine .passed ?agent (.taken (.bare "rtmp://a") (.passed ?missing (.taken (.record ?array)
      (.taken (.record ?object) .done))))
    case agent =>
      rintro ⟨id, uri, userAgent, streamLink, proxy⟩ ⟨denoted⟩
      have mistyped := denoted.userAgent
      cases userAgent <;> simp [Says, Json.held, Json.lookup] at mistyped
    case missing =>
      rintro input ⟨denoted⟩
      exact absurd denoted.uri (by simp [Json.held, Json.lookup])
    case array => constructor <;> simp [Says, SaysNumber, Json.held, Json.IsRecordOf]
    case object => constructor <;> simp [Says, SaysNumber, Json.held, Json.lookup, Json.IsRecordOf]
  exact ⟨ordered, by rw [read, (unique _).mp lists]⟩

end MediaNode.Stream
