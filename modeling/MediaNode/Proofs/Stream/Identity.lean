import MediaNode.Proofs.Outcome
import MediaNode.Stream.Identity

/-!
# What preparation promises about the identity

Making directories never decides what a stream is called: a preparation that
succeeds gives the identity that `derive` reads off the spec alone, and that
identity carries the id of the spec.

Nor does the state of the files decide whether a spec can be prepared at all.
`Preparable` is what a preparation asks of the spec; once it has succeeded anywhere,
all that can still go wrong elsewhere is that a directory cannot be made.
-/
namespace MediaNode.Stream

/-- A required value is there. -/
theorem require_eq_ok_iff {α : Type} {cause : ConfigError} {value : Option α} {result : α} :
    require cause value = .ok result ↔ value = some result := by
  cases value <;> simp [require]

namespace Identity

/-- An identity has the id of its spec. -/
theorem id?_of_derive {spec : Spec} {identity : Identity} (derived : derive spec = .ok identity) :
    spec.id? = some identity.id := by
  simp only [derive, bind_eq_ok_iff, require_eq_ok_iff] at derived
  obtain ⟨id, named, kind, -, feedback, -, data, -, input, -, built⟩ := derived
  cases built
  exact named

/-- Preparation succeeds only with the identity that is read off the spec. -/
theorem derive_of_prepare {tree made : FileTree} {spec : Spec} {checkFolders : Bool}
    {identity : Identity} (prepared : prepare tree spec checkFolders = (made, .ok identity)) :
    derive spec = .ok identity := by
  cases derived : derive spec with
  | error cause => simp [prepare, derived] at prepared
  | ok found =>
    simp only [prepare, derived] at prepared
    -- every way out of the nested matches that is a success hands on `found`
    grind

end Identity

/-- What a preparation asks of a spec: an identity, and at the far end of the stream a name
for every directory that is needed there. -/
structure Preparable (spec : Spec) (identity : Identity) : Prop where
  derived : Identity.derive spec = .ok identity
  /-- A recorder names the directory it records into. -/
  recording : identity.kind.recordsTimeshift = true →
    ∃ path, requiredDirectory spec "timeshift_dir" = .ok path
  /-- Every other stream has outputs, and each of them names its directory. -/
  outputs : identity.kind.recordsTimeshift = false →
    ∃ outputs, readOutput spec = some outputs ∧
      ∀ output ∈ outputs, ∃ need, output.directory = .ok need

/-- That a directory could not be made. -/
def ConfigError.IsDirectory : ConfigError → Prop
  | .createDirectory _ _ => True
  | _ => False

/-- That an outcome is the one expected, unless a directory could not be made. -/
def UpToDirectories {α : Type} (expected : α) (outcome : Except ConfigError α) : Prop :=
  outcome = .ok expected ∨ ∃ cause, outcome = .error cause ∧ cause.IsDirectory

/-- Making a directory fails only as such. -/
theorem upTo_createDirectory (tree : FileTree) (path : Path) :
    UpToDirectories () (createDirectory tree path).snd := by
  unfold createDirectory
  cases tree.makeDirectories path with
  | mk made outcome =>
    cases outcome with
    | ok => exact .inl rfl
    | error cause => exact .inr ⟨_, rfl, trivial⟩

/-- When the first of two steps only makes directories, both together come to what the
second comes to, up to the making. -/
theorem UpToDirectories.andThen {α : Type} {expected : α}
    {first : FileTree × Except ConfigError Unit}
    {second : FileTree → FileTree × Except ConfigError α}
    (making : UpToDirectories () first.snd)
    (later : ∀ tree, UpToDirectories expected (second tree).snd) :
    UpToDirectories expected
      (match first with
        | (tree, .error cause) => (tree, Except.error cause)
        | (tree, .ok ()) => second tree).snd := by
  obtain ⟨tree, outcome⟩ := first
  obtain rfl | ⟨cause, rfl, directory⟩ := making
  · exact later tree
  · exact .inr ⟨cause, rfl, directory⟩

/-- Outputs that name their directories are prepared, up to the making. -/
theorem upTo_prepareOutputs {outputs : List Output}
    (named : ∀ output ∈ outputs, ∃ need, output.directory = .ok need) (tree : FileTree) :
    UpToDirectories () (prepareOutputs tree outputs).snd := by
  induction outputs generalizing tree with
  | nil => exact .inl rfl
  | cons output rest inductionHypothesis =>
    have later := inductionHypothesis fun other member =>
      named other (List.mem_cons_of_mem output member)
    obtain ⟨need, needs⟩ := named output List.mem_cons_self
    cases need with
    | none =>
      simp only [prepareOutputs, needs]
      exact later tree
    | some path =>
      have making := upTo_createDirectory tree path
      simp only [prepareOutputs, needs]
      cases made : createDirectory tree path with
      | mk after outcome =>
        rw [made] at making
        obtain rfl | ⟨cause, rfl, directory⟩ := making
        · exact later after
        · exact .inr ⟨cause, rfl, directory⟩

/-- Only outputs that name their directories are prepared. -/
theorem directories_of_prepareOutputs {tree made : FileTree} {outputs : List Output}
    (prepared : prepareOutputs tree outputs = (made, .ok ())) :
    ∀ output ∈ outputs, ∃ need, output.directory = .ok need := by
  induction outputs generalizing tree with
  | nil => simp
  | cons output rest inductionHypothesis =>
    cases needs : output.directory with
    | error cause => simp [prepareOutputs, needs] at prepared
    | ok need =>
      have later : ∃ start, prepareOutputs start rest = (made, .ok ()) := by
        cases need with
        | none =>
          simp only [prepareOutputs, needs] at prepared
          exact ⟨tree, prepared⟩
        | some path =>
          simp only [prepareOutputs, needs] at prepared
          split at prepared
          next start _ => exact ⟨start, prepared⟩
          next => simp at prepared
      obtain ⟨start, preparedLater⟩ := later
      intro one member
      rcases List.mem_cons.mp member with rfl | present
      · exact ⟨need, needs⟩
      · exact inductionHypothesis preparedLater one present

namespace Preparable

variable {spec : Spec} {identity : Identity}

/-- The far end of a preparable spec is prepared, up to the making of directories. -/
theorem upTo_prepareFarEnd (preparable : Preparable spec identity) (tree : FileTree) :
    UpToDirectories () (prepareFarEnd tree spec identity).snd := by
  cases records : identity.kind.recordsTimeshift with
  | true =>
    obtain ⟨path, named⟩ := preparable.recording records
    simp only [prepareFarEnd, records, if_true, named]
    exact upTo_createDirectory tree path
  | false =>
    obtain ⟨outputs, read, named⟩ := preparable.outputs records
    simp only [prepareFarEnd, records, Bool.false_eq_true, if_false, read]
    exact upTo_prepareOutputs named tree

/-- A spec that was prepared once is preparable. -/
theorem of_prepare {tree made : FileTree}
    (prepared : Identity.prepare tree spec true = (made, .ok identity)) :
    Preparable spec identity := by
  have derived := Identity.derive_of_prepare prepared
  obtain ⟨start, farEnd⟩ : ∃ start, prepareFarEnd start spec identity = (made, .ok ()) := by
    simp only [Identity.prepare, derived, if_true] at prepared
    grind
  unfold prepareFarEnd at farEnd
  refine ⟨derived, fun records => ?_, fun others => ?_⟩
  · rw [if_pos records] at farEnd
    split at farEnd
    · simp at farEnd
    next path named => exact ⟨path, named⟩
  · rw [if_neg (by simp [others])] at farEnd
    split at farEnd
    · simp at farEnd
    next outputs read => exact ⟨outputs, read, directories_of_prepareOutputs farEnd⟩

/-- A preparable spec is prepared with the same identity whatever the files are, unless a
directory cannot be made. -/
theorem upTo_prepare (preparable : Preparable spec identity) (tree : FileTree) :
    UpToDirectories identity (Identity.prepare tree spec true).snd := by
  simp only [Identity.prepare, preparable.derived, if_true]
  refine (upTo_createDirectory tree identity.feedbackDirectory).andThen fun tree => ?_
  refine (upTo_createDirectory tree identity.dataDirectory).andThen fun tree => ?_
  refine (preparable.upTo_prepareFarEnd tree).andThen fun tree => ?_
  exact .inl rfl

end Preparable
end MediaNode.Stream
