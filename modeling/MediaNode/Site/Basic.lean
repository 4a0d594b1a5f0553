import MediaNode.Path
import MediaNode.Text.Blank

/-!
# Sites

A node serves files on three sites: live streams, libraries and channels. A site
serves what lies below its root, which it has only once the node's directories
were prepared. `resolve` is the only way from the path of a request to a file, and
it never leaves the root: it gives the root with names behind it or nothing.
-/
namespace MediaNode

/-- What a site serves. -/
inductive SiteKind where
  /-- Live streams. -/
  | hls
  /-- Recorded streams, made when they are asked for. -/
  | vod
  /-- Channels, kept running while they are asked for. -/
  | cod
deriving DecidableEq, Repr, Inhabited

/-- How a site is called. -/
def SiteKind.name : SiteKind → String
  | .hls => "http"
  | .vod => "vods"
  | .cod => "cods"

/-- The directory that a site serves, and how many requests it is answering. -/
structure Site where
  root : Option Path := none
  online : Nat := 0
deriving DecidableEq, Repr, Inhabited

/-- The three sites of a node. -/
structure Sites where
  hls : Site := {}
  vod : Site := {}
  cod : Site := {}
deriving DecidableEq, Repr, Inhabited

/-- The site of a kind. -/
def Sites.get (sites : Sites) : SiteKind → Site
  | .hls => sites.hls
  | .vod => sites.vod
  | .cod => sites.cod

namespace Site

/-- Put components behind a path; only names are put there, and a step up or to the
root is refused. -/
def extend (path : Path) : List Component → Option Path
  | [] => some path
  | .normal name :: rest => extend (path.join name) rest
  | .current :: rest => extend path rest
  | .parent :: _ => none
  | .root :: _ => none

/-- The file that a relative path means below a root. -/
def resolve (root : Path) (relative : String) : Option Path :=
  extend root (Path.components ⟨relative⟩)

/-- The extension of manifests. -/
def manifestExtension : String := "m3u8"

/-- The extension of chunks. -/
def chunkExtension : String := "ts"

/-- Whether a path has the name of a manifest. -/
def isManifest (path : Path) : Bool := path.hasExtension manifestExtension

/-- Whether a path has the name of a chunk. -/
def isChunk (path : Path) : Bool := path.hasExtension chunkExtension

/-- The media type of a file by its name. -/
def contentType (path : Path) : String :=
  if isManifest path then "application/vnd.apple.mpegurl"
  else if isChunk path then "video/mp2t"
  else "application/octet-stream"

end Site
end MediaNode
