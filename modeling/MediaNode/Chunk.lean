import MediaNode.FileTree

/-!
# Old chunks

Chunks are the files that streams leave behind. Removing looks through a directory
and its real subdirectories; whatever a link stands for is left alone, but a link
with the name of a chunk is removed like one, by its own age.

A directory is opened by its path, and what is in it is looked at where it stands;
but a subdirectory is opened, and a chunk removed, by a path again, which is followed
through what is left of the tree by then. A path that is too long, or that leads
through a link that has been removed, opens nothing and removes nothing.
-/
namespace MediaNode.Chunk

/-- Whether a name is the name of a chunk. -/
def isName (name : String) : Bool :=
  match Path.nameExtension name with
  | some ending => Text.asciiLower ending = "ts"
  | none => false

/-- Milliseconds since the last change; zero for a change in the future, or at an
unknown time. -/
def age (now : Int) (entry : Entry) : Nat :=
  match entry.modified? with
  | some modified => (now - modified).toNat
  | none => 0

/-- Whether an entry is a chunk of at least this age. -/
def isStale (now : Int) (maxAge : Nat) (name : String) (entry : Entry) : Bool :=
  entry ≠ .directory && isName name && maxAge ≤ age now entry

/-- Visit one name of a directory that was opened: what is left of the tree, and how
many chunks were removed. A subdirectory is left to `inside`. -/
def visit (inside : FileTree → Path → FileTree × Nat) (now : Int) (maxAge : Nat)
    (directory : Path) (place : Place) (files : FileTree) (name : String) : FileTree × Nat :=
  match files.get? (place ++ [name]) with
  | none => (files, 0)
  | some .directory => inside files (directory.join name)
  | some entry =>
    if isStale now maxAge name entry then
      match files.remove (directory.join name) with
      | .ok files => (files, 1)
      | .error _ => (files, 0)
    else (files, 0)

/-- Visit names one after the other. -/
def visitAll (visit : FileTree → String → FileTree × Nat) (files : FileTree) :
    List String → FileTree × Nat
  | [] => (files, 0)
  | name :: rest =>
    let (files, removed) := visit files name
    let (files, more) := visitAll visit files rest
    (files, removed + more)

/-- Remove the chunks below a directory, as deep as the fuel goes. -/
def sweep (now : Int) (maxAge : Nat) : Nat → FileTree → Path → FileTree × Nat
  | 0, files, _ => (files, 0)
  | fuel + 1, files, directory =>
    match files.openDirectory directory with
    | .error _ => (files, 0)
    | .ok (place, names) =>
      visitAll (visit (sweep now maxAge fuel) now maxAge directory place) files names

/-- No place lies deeper than this. -/
def depth (files : FileTree) : Nat :=
  files.entries.foldl (fun deepest (place, _) => max deepest place.length) 0

/-- Remove the chunks below a directory that are at least so many milliseconds
old; also how many they were. -/
def removeStale (files : FileTree) (now : Int) (maxAge : Nat) (directory : Path) :
    FileTree × Nat :=
  sweep now maxAge (depth files + 1) files directory

/-- Remove old chunks below several directories, one after the other. -/
def removeStaleAll (files : FileTree) (now : Int) (maxAge : Nat) :
    List Path → FileTree × Nat
  | [] => (files, 0)
  | directory :: rest =>
    let (files, removed) := removeStale files now maxAge directory
    let (files, more) := removeStaleAll files now maxAge rest
    (files, removed + more)

end MediaNode.Chunk
