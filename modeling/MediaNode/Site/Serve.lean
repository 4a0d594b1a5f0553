import MediaNode.Site.Trigger
import MediaNode.Url.Percent

/-!
# Serving files

A site answers `GET` and `HEAD` for every path behind its first slash. The path is
taken without its query, its percent codes are decoded, and it has to be text.
-/
namespace MediaNode.Site

/-- The answer of a site: a status, and for a file its type and contents. -/
structure Response where
  status : Nat
  file : Option (String × List UInt8) := none
deriving DecidableEq, Repr, Inhabited

/-- The answer of a status alone. -/
def Response.ofStatus (status : Nat) : Response := { status }

/-- What follows the scheme and the host of a target that names them. -/
def behindHost (target : List Char) : List Char :=
  match (target.dropWhile fun c => c.isAlphanum || c = '+' || c = '-' || c = '.') with
  | ':' :: '/' :: '/' :: rest => rest.dropWhile fun c => c ≠ '/' && c ≠ '?' && c ≠ '#'
  | _ => target

/-- The path of a request target, without its query. -/
def targetPath (target : String) : List Char :=
  (behindHost target.toList).takeWhile fun c => c ≠ '?' && c ≠ '#'

/-- Answer for a file. -/
def fileResponse (files : FileTree) (path : Path) : Response :=
  match files.read path with
  | .ok content => { status := 200, file := some (contentType path, content) }
  | .error _ => .ofStatus 404

/-- Answer for a decoded path below the root, and what to queue. -/
def answerPath (vod cod : LinkIndex) (files : FileTree) (kind : SiteKind) (root : Option Path)
    (relative : String) : Response × List Command :=
  match root.bind (resolve · relative) with
  | none => (.ofStatus 404, [])
  | some path =>
    match trigger vod cod files kind path with
    | (.forbidden, commands) => (.ofStatus 403, commands)
    | (.accepted, commands) => (.ofStatus 202, commands)
    | (.serve, commands) => (fileResponse files path, commands)

/-- The answer to `HEAD` is the one to `GET` without the contents. -/
def Response.headOnly (response : Response) : Response :=
  { response with file := response.file.map fun (type, _) => (type, []) }

/-- Answer a request, and what to queue. -/
def answer (vod cod : LinkIndex) (files : FileTree) (kind : SiteKind) (root : Option Path)
    (method target : String) : Response × List Command :=
  match targetPath target with
  | '/' :: c :: rest =>
    if method ≠ "GET" ∧ method ≠ "HEAD" then (.ofStatus 405, [])
    else
      match Text.ofBytes? (Url.decode (String.ofList (c :: rest))) with
      | none => (.ofStatus 400, [])
      | some relative =>
        let (response, commands) := answerPath vod cod files kind root relative
        (if method = "HEAD" then response.headOnly else response, commands)
  | _ => (.ofStatus 404, [])

end MediaNode.Site
