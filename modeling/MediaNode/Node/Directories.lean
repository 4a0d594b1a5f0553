import MediaNode.Command
import MediaNode.Effect
import MediaNode.Fault

/-!
# Preparing the directories of a node

A client names the directories that the node is to use. Each of them is made if it
is not there, and its contents are listed. The sites get the directories that are
ready as their roots, and chunks are removed from those that hold some.
-/
namespace MediaNode.Directories

/-- The members that name directories, in the order in which they are prepared. -/
def names : List String :=
  ["feedback_directory", "timeshifts_directory", "hls_directory", "vods_directory",
   "cods_directory", "proxy_directory", "data_directory"]

/-- The directories that chunks are removed from. -/
def monitoredNames : List String :=
  ["hls_directory", "vods_directory", "cods_directory", "timeshifts_directory"]

/-- The directories that a request names. -/
def requested (members : List (String × Json)) : List (String × Path) :=
  names.filterMap fun name =>
    ((Json.lookup name members).bind Json.asStr).map fun text => (name, ⟨text⟩)

/-- Make a directory and list it. The tree keeps what was made before a failure. -/
def makeAndList (files : FileTree) (path : Path) : FileTree × Except FileError (List String) :=
  match files.makeDirectories path with
  | (files, .ok ()) => (files, files.list path)
  | (files, .error cause) => (files, .error cause)

/-- What is reported about a directory. -/
def report (name : String) (path : Path) : Except FileError (List String) → Json
  | .ok content => .ofMembers [(name, .ofMembers
      [("path", .str path.text), ("result", .str "OK"), ("content", .arr (content.map .str))])]
  | .error cause => .ofMembers [(name, .ofMembers
      [("path", .str path.text), ("error", .str cause.message)])]

/-- Prepare directories in order: the reports, and the directories that are
ready. -/
def prepareEach (files : FileTree) :
    List (String × Path) → FileTree × List Json × List (String × Path)
  | [] => (files, [], [])
  | (name, path) :: rest =>
    let (files, outcome) := makeAndList files path
    let (files, reports, ready) := prepareEach files rest
    (files, report name path outcome :: reports,
      if outcome.toBool then (name, path) :: ready else ready)

/-- What the node uses of the directories that are ready. -/
def rootsOf (ready : List (String × Path)) : PreparedRoots :=
  { hls := ready.lookup "hls_directory"
    vods := ready.lookup "vods_directory"
    cods := ready.lookup "cods_directory"
    monitored := monitoredNames.filterMap fun name => ready.lookup name }

/-- Do a job: the command that puts the directories to use and answers. -/
def run (files : FileTree) (job : DirectoryJob) : FileTree × Command :=
  let (files, reports, ready) := prepareEach files job.requested
  (files, .preparedDirectories (rootsOf ready) job.channel (.success job.id (.arr reports)))

end MediaNode.Directories
