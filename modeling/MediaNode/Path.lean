import MediaNode.Text.Blank

/-!
# Paths

A path keeps the text it was given. Its components are the root of an absolute
path, a leading `.`, every `..`, and the names between slashes; repeated slashes
and other dots are no components. Two paths are the same place in a name space
when their components agree.
-/
namespace MediaNode

/-- One step of a path. -/
inductive Component where
  | root
  | current
  | parent
  | normal (name : String)
deriving DecidableEq, Repr, Inhabited

/-- A path as written. -/
structure Path where
  text : String
deriving DecidableEq, Repr, Inhabited

namespace Path

/-- The pieces between slashes. -/
def pieces (path : Path) : List String := (Text.splitAll '/' path.text.toList).map String.ofList

/-- Whether the path starts at the root. -/
def isAbsolute (path : Path) : Bool := path.text.toList.head? = some '/'

/-- The component that a piece behind the beginning stands for. -/
def pieceComponent (piece : String) : Option Component :=
  if piece = "" ∨ piece = "." then none
  else if piece = ".." then some .parent
  else some (.normal piece)

/-- The components of a path. -/
def components (path : Path) : List Component :=
  if path.isAbsolute then .root :: path.pieces.filterMap pieceComponent
  else
    match path.pieces with
    | "." :: rest => .current :: rest.filterMap pieceComponent
    | all => all.filterMap pieceComponent

/-- Whether two paths have the same components. -/
def same (a b : Path) : Bool := a.components = b.components

/-- Append a path: an absolute one replaces what was there. -/
def join (path : Path) (more : String) : Path :=
  if Path.isAbsolute ⟨more⟩ then ⟨more⟩
  else if path.text = "" ∨ path.text.toList.getLast? = some '/' then ⟨path.text ++ more⟩
  else ⟨path.text ++ "/" ++ more⟩

/-- The last component if it is a name. -/
def fileName (path : Path) : Option String :=
  match path.components.getLast? with
  | some (.normal name) => some name
  | _ => none

/-- What follows the last dot of a name; nothing when that dot comes first. -/
def nameExtension (name : String) : Option String :=
  match Text.splitLast '.' name.toList with
  | some ([], _) => none
  | some (_, ending) => some (String.ofList ending)
  | none => none

/-- The extension of the last component. -/
def extension (path : Path) : Option String := path.fileName.bind nameExtension

/-- Whether the path has an extension, ignoring the case of ASCII letters. -/
def hasExtension (path : Path) (wanted : String) : Bool :=
  match path.extension with
  | some found => Text.asciiLower found = Text.asciiLower wanted
  | none => false

/-- How many characters at the front no trimming may take: the root, or a leading
dot of a relative path. -/
def keptFront (path : Path) : Nat :=
  if path.isAbsolute then 1
  else match path.pieces with
    | "." :: _ => 1
    | _ => 0

/-- Drop slashes and lone dots at the end, from the reversed text. -/
def trimReversed : Nat → List Char → List Char
  | 0, text => text
  | _, [] => []
  | fuel + 1, '/' :: rest => trimReversed fuel rest
  | fuel + 1, '.' :: '/' :: rest => trimReversed fuel ('/' :: rest)
  | _, text => text

/-- The text without trailing slashes and lone dots. -/
def trimmed (path : Path) : String :=
  let text := path.text.toList
  let front := text.take path.keptFront
  let body := (trimReversed (text.length + 1) (text.drop path.keptFront).reverse).reverse
  -- behind a root or a leading dot a lone dot is no component either
  let body := if body = ['.'] ∧ path.isAbsolute then [] else body
  String.ofList (front ++ body)

/-- The path without its last component; none for a root and for an empty path. -/
def parent (path : Path) : Option Path :=
  match path.components.getLast? with
  | none => none
  | some .root => none
  | some .current => some ⟨""⟩
  | some _ =>
    let whole := path.trimmed.toList
    let kept := path.keptFront
    let name := (whole.drop kept).reverse.takeWhile (· ≠ '/')
    let rest : Path := ⟨String.ofList (whole.take (whole.length - name.length))⟩
    some ⟨rest.trimmed⟩

/-- The path and its parents, longest first. -/
def ancestors (path : Path) : List Path := go path.components.length path
where
  /-- As many parents as there are components at most. -/
  go : Nat → Path → List Path
    | 0, path => [path]
    | fuel + 1, path =>
      match path.parent with
      | some up => path :: go fuel up
      | none => [path]

end Path
end MediaNode
