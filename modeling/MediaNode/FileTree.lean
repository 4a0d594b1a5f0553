import MediaNode.Path
import MediaNode.Text.Bytes
import MediaNode.Text.Number

/-!
# File trees

A file tree holds directories, files with their contents and times, and symbolic
links, each at the list of names that leads to it from the root. The root itself
is always a directory. Paths are followed name by name; a link is replaced by its
target, up to forty times.

`FileError` names the causes for which an operation is refused.
-/
namespace MediaNode

/-- What stands at a place. -/
inductive Entry where
  | directory
  /-- Contents, and the time of the last change in milliseconds since the epoch. -/
  | file (content : List UInt8) (modified : Int)
  /-- Target, and the time of the last change of the link itself, if it is known. -/
  | link (target : String) (modified : Option Int := none)
deriving DecidableEq, Repr, Inhabited

/-- The time of the last change, if it is known. -/
def Entry.modified? : Entry → Option Int
  | .directory => none
  | .file _ modified => some modified
  | .link _ modified => modified

/-- The names that lead to a place from the root. -/
abbrev Place := List String

/-- Everything below the root that stands somewhere, and the directory that
relative paths start from. -/
structure FileTree where
  entries : List (Place × Entry)
  current : Place
deriving Repr, Inhabited

/-- Why a file operation is refused. -/
inductive FileError where
  | missing
  | denied
  | exists_
  | notDirectory
  | isDirectory
  | nameTooLong
  | tooManyLinks
  | nulByte
  | notText
  /-- Any other error of the system, with its text. -/
  | other (text : String)
deriving DecidableEq, Repr, Inhabited

/-- The number and the wording of an error of the system. -/
def FileError.message : FileError → String
  | .missing => "No such file or directory (os error 2)"
  | .denied => "Permission denied (os error 13)"
  | .exists_ => "File exists (os error 17)"
  | .notDirectory => "Not a directory (os error 20)"
  | .isDirectory => "Is a directory (os error 21)"
  | .nameTooLong => "File name too long (os error 36)"
  | .tooManyLinks => "Too many levels of symbolic links (os error 40)"
  | .nulByte => "file name contained an unexpected NUL byte"
  | .notText => "stream did not contain valid UTF-8"
  | .other text => text

namespace FileTree

/-- The tree with nothing below its root. -/
def empty : FileTree := { entries := [], current := [] }

/-- What stands at a place. -/
def get? (tree : FileTree) (place : Place) : Option Entry :=
  if place = [] then some .directory
  else (tree.entries.find? (·.fst = place)).map Prod.snd

/-- The tree with a node put at a place. -/
def set (tree : FileTree) (place : Place) (node : Entry) : FileTree :=
  { tree with entries := (place, node) :: tree.entries.filter (·.fst ≠ place) }

/-- The tree without what stands at a place. -/
def erase (tree : FileTree) (place : Place) : FileTree :=
  { tree with entries := tree.entries.filter (·.fst ≠ place) }

/-- Where following a path ends. -/
inductive Location where
  /-- At something that is there. -/
  | found (place : Place) (node : Entry)
  /-- At a name that is not there, in a directory that is. -/
  | absent (directory : Place) (name : String)
deriving Repr, Inhabited

/-- The pieces of a path that name a step. -/
def steps (text : String) : List String :=
  ((Text.splitAll '/' text.toList).map String.ofList).filter (· ≠ "")

/-- Whether a text ends with a slash. -/
def endsWithSlash (text : String) : Bool := text.toList.getLast? = some '/'

/-- How often a link may be followed. -/
def maxLinks : Nat := 40

/-- Follow steps from a directory. A last link is followed if asked for, or if a
slash behind it says that a directory is meant; a slash at the end of its target says
so too. -/
def walk (tree : FileTree) (follow slash : Bool) :
    Nat → Nat → Place → List String → Except FileError Location
  | 0, _, _, _ => .error .tooManyLinks
  | _, _, at_, [] => .ok (.found at_ .directory)
  | fuel + 1, links, at_, "." :: rest => walk tree follow slash fuel links at_ rest
  | fuel + 1, links, at_, ".." :: rest => walk tree follow slash fuel links at_.dropLast rest
  | fuel + 1, links, at_, name :: rest =>
    if 255 < name.utf8ByteSize then .error .nameTooLong
    else
      let place := at_ ++ [name]
      match tree.get? place with
      | none => if rest.isEmpty then .ok (.absent at_ name) else .error .missing
      | some .directory => walk tree follow slash fuel links place rest
      | some (.file content modified) =>
        if rest.isEmpty && !slash then .ok (.found place (.file content modified))
        else .error .notDirectory
      | some (.link target modified) =>
        if rest.isEmpty && !follow && !slash then .ok (.found place (.link target modified))
        else
          match links with
          | 0 => .error .tooManyLinks
          | links + 1 =>
            let start := if Path.isAbsolute ⟨target⟩ then [] else at_
            let slash := slash || (rest.isEmpty && endsWithSlash target)
            walk tree follow slash fuel links start (steps target ++ rest)

/-- Enough steps for a path and for every link that may be followed. -/
def walkFuel (tree : FileTree) (text : String) : Nat :=
  let longest := tree.entries.foldl (fun n (_, node) => match node with
    | .link target _ => max n target.length
    | _ => n) 0
  text.length + 2 + (maxLinks + 1) * (longest + 1)

/-- Follow a path. -/
def locate (tree : FileTree) (follow : Bool) (path : Path) : Except FileError Location :=
  let text := path.text
  if text.toList.contains '\x00' then .error .nulByte
  else if text = "" then .error .missing
  else
    let start := if path.isAbsolute then [] else tree.current
    walk tree follow (endsWithSlash text) (walkFuel tree text) maxLinks start (steps text)

/-- What a path leads to, links followed. -/
def lookup (tree : FileTree) (path : Path) : Except FileError (Place × Entry) :=
  match tree.locate true path with
  | .ok (.found place node) => .ok (place, node)
  | .ok (.absent _ _) => .error .missing
  | .error e => .error e

/-- Whether a path leads to a directory. -/
def isDirectory (tree : FileTree) (path : Path) : Bool :=
  match tree.lookup path with
  | .ok (_, .directory) => true
  | _ => false

/-- Whether a path leads to a file. -/
def isFile (tree : FileTree) (path : Path) : Bool :=
  match tree.lookup path with
  | .ok (_, .file _ _) => true
  | _ => false

/-- The contents of a file. -/
def read (tree : FileTree) (path : Path) : Except FileError (List UInt8) :=
  match tree.lookup path with
  | .ok (_, .file content _) => .ok content
  | .ok _ => .error .isDirectory
  | .error e => .error e

/-- The contents of a file as text. -/
def readText (tree : FileTree) (path : Path) : Except FileError String :=
  match tree.read path with
  | .ok content =>
    match Text.ofBytes? content with
    | some text => .ok text
    | none => .error .notText
  | .error e => .error e

/-- Make one directory. Its parent has to be there, and it must not be. -/
def makeDirectory (tree : FileTree) (path : Path) : Except FileError FileTree :=
  let last := (steps path.text).getLast?
  match tree.locate false ⟨String.ofList (path.text.toList.reverse.dropWhile (· = '/')).reverse⟩ with
  | .ok (.found _ _) => .error .exists_
  | .ok (.absent directory name) =>
    if last = some "." ∨ last = some ".." then .error .missing
    else .ok (tree.set (directory ++ [name]) .directory)
  | .error e => .error e

/-- Make the directories of a list, longest path first, until one can be made or
is there: how many have to be made behind it. -/
def countMissing (tree : FileTree) : List Path → Except FileError (Nat × FileTree)
  | [] => .ok (0, tree)
  | path :: rest =>
    if path.components = [] ∨ path.parent.isNone then .ok (0, tree)
    else
      match tree.makeDirectory path with
      | .ok made => .ok (0, made)
      | .error .missing =>
        match countMissing tree rest with
        | .ok (n, made) => .ok (n + 1, made)
        | .error e => .error e
      | .error e =>
        if e = .exists_ ∧ tree.isDirectory path then .ok (0, tree) else .error e

/-- Make directories in order; one that is there already is no failure. The tree
keeps what was made before a failure. -/
def makeAll (tree : FileTree) : List Path → FileTree × Except FileError Unit
  | [] => (tree, .ok ())
  | path :: rest =>
    match tree.makeDirectory path with
    | .ok made => makeAll made rest
    | .error e =>
      if e = .exists_ ∧ tree.isDirectory path then makeAll tree rest else (tree, .error e)

/-- Make a directory and all its parents. The tree keeps what was made before a
failure. -/
def makeDirectories (tree : FileTree) (path : Path) : FileTree × Except FileError Unit :=
  if path.components = [] ∨ path.parent.isNone then (tree, .ok ())
  else
    match countMissing tree path.ancestors with
    | .error e => (tree, .error e)
    | .ok (missing, made) => makeAll made (path.ancestors.take missing).reverse

/-- The names inside a directory with what they stand for. -/
def children (tree : FileTree) (place : Place) : List (String × Entry) :=
  tree.entries.filterMap fun (p, node) =>
    match p.getLast? with
    | some name => if p.dropLast = place then some (name, node) else none
    | none => none

/-- The names inside a directory, in order. -/
def list (tree : FileTree) (path : Path) : Except FileError (List String) :=
  match tree.lookup path with
  | .ok (place, .directory) =>
    .ok (((tree.children place).map Prod.fst).mergeSort fun a b => decide (a ≤ b))
  | .ok _ => .error .notDirectory
  | .error e => .error e

/-- The system refuses a path of this many bytes. It is asked of the paths that grow
while a tree is looked through. -/
def maxPath : Nat := 4096

/-- Open a directory: its place, and the names that are in it by then. -/
def openDirectory (tree : FileTree) (path : Path) : Except FileError (Place × List String) :=
  if maxPath ≤ path.text.utf8ByteSize then .error .nameTooLong
  else
    match tree.lookup path with
    | .ok (place, .directory) => .ok (place, (tree.children place).map Prod.fst)
    | .ok _ => .error .notDirectory
    | .error e => .error e

/-- Put contents into a file, which may be new. -/
def write (tree : FileTree) (path : Path) (content : List UInt8) (modified : Int) :
    Except FileError FileTree :=
  match tree.locate true path with
  | .ok (.found place (.file _ _)) => .ok (tree.set place (.file content modified))
  | .ok (.found _ _) => .error .isDirectory
  | .ok (.absent directory name) =>
    if endsWithSlash path.text then .error .isDirectory
    else .ok (tree.set (directory ++ [name]) (.file content modified))
  | .error e => .error e

/-- Remove a file or a link. -/
def remove (tree : FileTree) (path : Path) : Except FileError FileTree :=
  if maxPath ≤ path.text.utf8ByteSize then .error .nameTooLong
  else
    match tree.locate false path with
    | .ok (.found _ .directory) => .error .isDirectory
    | .ok (.found place _) => .ok (tree.erase place)
    | .ok (.absent _ _) => .error .missing
    | .error e => .error e

/-- Everything below a place, with the names behind it, in the order of the text
of those names. -/
def below (tree : FileTree) (place : Place) : List (String × Entry) :=
  let inside := tree.entries.filterMap fun (p, node) =>
    if place.length < p.length ∧ p.take place.length = place then
      some ("/".intercalate (p.drop place.length), node)
    else none
  inside.mergeSort fun a b => decide (a.fst ≤ b.fst)

end FileTree
end MediaNode
