import MediaNode.FileTree
import MediaNode.Site.Basic

/-!
# Manifests

A manifest lists the chunks of a recorded stream, one in a line, between lines
that start with a number sign. The stream is there when its manifest can be read
and every chunk that it lists lies beside it.
-/
namespace MediaNode.Site

/-- What a manifest starts with, behind blanks. -/
def manifestHeader : String := "#EXTM3U"

/-- Whether a text is a manifest. -/
def startsManifest (content : String) : Bool :=
  manifestHeader.toList.isPrefixOf (Text.dropBlanks content.toList)

/-- The chunks that a manifest lists. -/
def listedChunks (content : String) : List String :=
  (((Text.lineList content.toList).map Text.trimChars).filter fun line =>
    !line.isEmpty && line.head? ≠ some '#').map String.ofList

/-- Whether a listed chunk lies below a directory as a file. -/
def hasChunk (files : FileTree) (directory : Path) (chunk : String) : Bool :=
  match resolve directory chunk with
  | some path => files.isFile path
  | none => false

/-- Whether a manifest is complete. -/
def isMaterialized (files : FileTree) (manifest : Path) : Bool :=
  match files.readText manifest, manifest.parent with
  | .ok content, some directory =>
    startsManifest content && (listedChunks content).all (hasChunk files directory)
  | _, _ => false

end MediaNode.Site
