import MediaNode.Command
import MediaNode.LinkIndex
import MediaNode.Site.Manifest

/-!
# Requests that start streams

Before a file is served, the request for it may start the stream that makes it. A
directory is known by its link; a manifest in a linked directory of the library
starts its stream unless it is complete, and every request into a channel keeps
the channel running.
-/
namespace MediaNode.Site

/-- How a request for a file goes on. -/
inductive Outcome where
  /-- Serve the file. -/
  | serve
  /-- A worker was asked to make it. -/
  | accepted
  /-- Nothing is linked to its directory. -/
  | forbidden
deriving DecidableEq, Repr, Inhabited

/-- The spec that is linked to the directory of a path. -/
def linked (links : LinkIndex) (path : Path) : Option Stream.Spec :=
  path.parent.bind links.find

/-- Note that the stream of a spec was asked for. -/
def touchOf (spec : Stream.Spec) : List Command := (spec.id?.map Command.touchStream).toList

/-- Decide on a request, and what to queue for it. -/
def trigger (vod cod : LinkIndex) (files : FileTree) (kind : SiteKind) (path : Path) :
    Outcome × List Command :=
  match kind with
  | .hls => (.serve, [])
  | .vod =>
    if isManifest path then
      match linked vod path with
      | none => (.forbidden, [])
      | some spec =>
        if isMaterialized files path then (.serve, []) else (.accepted, [.startStream spec])
    else (.serve, [])
  | .cod =>
    if isManifest path then
      match linked cod path with
      | none => (.forbidden, [])
      | some spec => (.accepted, .startStream spec :: touchOf spec)
    else if isChunk path then
      match linked cod path with
      | none => (.forbidden, [])
      | some spec => (.serve, touchOf spec)
    else (.serve, [])

end MediaNode.Site
