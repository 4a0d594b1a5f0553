import MediaNode.Node.Commands
import MediaNode.Proofs.Json.Members

/-!
# Directories that are ready

The reply about directories reports each of them, and the sites get those that are ready. Both
come from the same attempts: what is reported as ready is what the sites may get, and since a
request names no directory twice, each site gets the one that is reported under its name. So
whoever reads the reply of a command finds the directories in use when it is sent.
-/
namespace MediaNode

/-- The member of a request that names the directory of a site. -/
def SiteKind.directory : SiteKind → String
  | .hls => "hls_directory"
  | .vod => "vods_directory"
  | .cod => "cods_directory"

namespace Directories

variable {files : FileTree} {asked : List (String × Path)} {name : String} {path : Path}

/-- The directory that a report calls ready under a name. -/
def reported (name : String) (report : Json) : Option Path :=
  match report.get? name with
  | none => none
  | some entry =>
    if (entry.get? "result").bind Json.asStr = some "OK" then
      ((entry.get? "path").bind Json.asStr).map fun text => ⟨text⟩
    else none

/-- A directory is called ready under its own name, if it could be made and listed. -/
theorem reported_report (name other : String) (path : Path)
    (outcome : Except FileError (List String)) :
    reported name (report other path outcome) =
      if other = name ∧ outcome.toBool = true then some path else none := by
  have member (members : List (String × Json)) (key : String) :
      (Json.ofMembers members).get? key = Json.lookup key (Json.orderMembers members) := rfl
  cases outcome with
  | ok content =>
    by_cases same : other = name <;>
      simp [reported, report, member, Json.orderMembers, Json.lookup, same, Json.asStr,
        Except.toBool]
  | error cause =>
    by_cases same : other = name <;>
      simp [reported, report, member, Json.orderMembers, Json.lookup, same, Except.toBool]

/-- What is reported as ready is ready, and nothing else is. -/
theorem mem_ready_iff :
    (name, path) ∈ (prepareEach files asked).snd.snd ↔
      ∃ entry ∈ (prepareEach files asked).snd.fst, reported name entry = some path := by
  induction asked generalizing files with
  | nil => simp [prepareEach]
  | cons first rest inductionHypothesis =>
    obtain ⟨other, directory⟩ := first
    simp only [prepareEach, List.mem_cons, exists_eq_or_imp, reported_report, ← inductionHypothesis]
    cases (makeAndList files directory).snd.toBool with
    | true => simp [eq_comm]
    | false => simp

/-- What is ready was asked for, in its order. -/
theorem ready_sublist (files : FileTree) (asked : List (String × Path)) :
    (prepareEach files asked).snd.snd.Sublist asked := by
  induction asked generalizing files with
  | nil => exact .refl _
  | cons first rest inductionHypothesis =>
    obtain ⟨other, directory⟩ := first
    simp only [prepareEach]
    split
    · exact (inductionHypothesis _).cons_cons _
    · exact (inductionHypothesis _).cons _

/-- A request names no directory twice. -/
theorem requested_distinct (members : List (String × Json)) :
    ((requested members).map Prod.fst).Nodup := by
  have part : ((requested members).map Prod.fst).Sublist names := by
    unfold requested
    generalize names = listed
    induction listed with
    | nil => exact .refl _
    | cons name rest inductionHypothesis =>
      rw [List.filterMap_cons]
      split
      · exact inductionHypothesis.cons _
      · next directory found =>
        obtain ⟨text, -, rfl⟩ := Option.map_eq_some_iff.mp found
        exact inductionHypothesis.cons_cons _
  exact part.nodup (by decide)

/-- In a list that names nothing twice, whatever is listed is found. -/
theorem lookup_of_mem {ready : List (String × Path)} (distinct : (ready.map Prod.fst).Nodup)
    (listed : (name, path) ∈ ready) : ready.lookup name = some path := by
  obtain ⟨before, later, rfl⟩ := List.append_of_mem listed
  refine List.lookup_eq_some_iff.mpr ⟨before, later, rfl, fun entry member => ?_⟩
  rw [List.map_append, List.nodup_append] at distinct
  have other : entry.fst ≠ name := distinct.2.2 _ (List.mem_map_of_mem member) _ (List.mem_cons_self ..)
  simpa using Ne.symm other

/-- A site gets the directory that is ready under its name, or keeps the one that it has. -/
theorem root_applyPrepared (node : Node) (ready : List (String × Path)) (site : SiteKind) :
    ((node.applyPrepared (rootsOf ready)).sites.get site).root =
      (ready.lookup site.directory).or (node.sites.get site).root := by
  cases site <;> rfl

/-- Once the command of a job is applied, the sites have the directories as roots that its reply
calls ready. -/
theorem root_of_reported (node : Node) {job : DirectoryJob}
    (distinct : (job.requested.map Prod.fst).Nodup) (files : FileTree) :
    ∃ roots reports, (run files job).snd =
        .preparedDirectories roots job.channel (.success job.id (.arr reports)) ∧
      ∀ entry ∈ reports, ∀ (site : SiteKind) (path : Path),
        reported site.directory entry = some path →
          ((node.applyPrepared roots).sites.get site).root = some path := by
  refine ⟨_, _, rfl, fun entry member site path ready => ?_⟩
  have found := lookup_of_mem (distinct.sublist ((ready_sublist files job.requested).map _))
    (mem_ready_iff.mpr ⟨entry, member, ready⟩)
  rw [root_applyPrepared, found, Option.some_or]

end Directories
end MediaNode
