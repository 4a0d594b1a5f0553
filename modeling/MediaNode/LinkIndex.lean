import MediaNode.Path
import MediaNode.Stream.Spec

/-!
# Links from directories to specs

A link says which stream fills a served directory. Directories are compared by
their components, and an entry keeps the text its directory was first given.
-/
namespace MediaNode

/-- Directories with the specs of the streams that fill them. -/
structure LinkIndex where
  entries : List (Path × Stream.Spec) := []
deriving BEq, Repr, Inhabited

namespace LinkIndex

/-- The spec for a directory. -/
def find (index : LinkIndex) (directory : Path) : Option Stream.Spec :=
  (index.entries.find? fun (d, _) => d.same directory).map Prod.snd

/-- Put a spec into entries, in the place of an earlier one for the directory. -/
def insertEntry (directory : Path) (spec : Stream.Spec) :
    List (Path × Stream.Spec) → List (Path × Stream.Spec)
  | [] => [(directory, spec)]
  | (d, s) :: rest =>
    if d.same directory then (d, spec) :: rest else (d, s) :: insertEntry directory spec rest

/-- Link a directory. -/
def insert (index : LinkIndex) (directory : Path) (spec : Stream.Spec) : LinkIndex :=
  ⟨insertEntry directory spec index.entries⟩

/-- Link directories in order; all other links are kept. -/
def extend (index : LinkIndex) (links : List (Path × Stream.Spec)) : LinkIndex :=
  links.foldl (fun index (directory, spec) => index.insert directory spec) index

/-- The ids of all linked streams that have one. -/
def streamIds (index : LinkIndex) : List String := index.entries.filterMap fun (_, s) => s.id?

/-- How many directories are linked. -/
def size (index : LinkIndex) : Nat := index.entries.length

end LinkIndex
end MediaNode
