import MediaNode.Json.Build
import MediaNode.Node.State
import MediaNode.Site.Serve

/-!
# Snapshots

A snapshot shows the state of a node as a value. How the requests that wait for an
answer are shown is left to the one who takes the snapshot.
-/
namespace MediaNode

/-- The name of an access. -/
def Access.name : Access → String
  | .full => "Full"
  | .verifyOnly => "VerifyOnly"

/-- The name of a phase. -/
def Worker.Phase.name : Worker.Phase → String
  | .starting => "Starting"
  | .running => "Running"
  | .stopRequested => "StopRequested"

/-- The members of reports whose values are measured. -/
def measuredMembers : List String :=
  ["cpu", "gpu", "load_average", "memory_total", "memory_free", "hdd_total", "hdd_free",
   "bandwidth_in", "bandwidth_out", "uptime", "timestamp", "total_bytes_in", "total_bytes_out"]

/-- The sort of a measured value. -/
def measuredSort : Json → Json
  | .int _ | .float _ => .str "*number"
  | .str _ => .str "*string"
  | other => other

/-- A value whose measured members are shown by their sorts alone, so that it is the
same on every machine. -/
def unmeasured : Json → Json
  | .obj members => .obj (members.map fun (key, value) =>
      (key, if measuredMembers.contains key then measuredSort value else value))
  | other => other

/-- The methods whose params are measured. -/
def measuredMethods : List String := ["ping_client", "statistic_service"]

/-- A message that is the same on every machine. -/
def Rpc.Message.snapshot (message : Message) : Json :=
  match message with
  | .response r => (Message.response { r with result := r.result.map unmeasured }).toJson
  | _ =>
    match message.toJson with
    | .obj members =>
      .obj (members.map fun (key, value) =>
        (key, if key = "params" ∧ measuredMethods.contains (message.method.getD "")
          then unmeasured value else value))
    | other => other

/-- A path by its text. -/
def Path.snapshot (path : Path) : Json := .str path.text

/-- What lies below a place: the name of each entry, its sort, and the contents of a
file as text. -/
def FileTree.snapshot (tree : FileTree) (place : Place) : Json :=
  .ofList (fun (name, entry) => match entry with
    | .directory => .arr [.str name, .str "dir"]
    | .link _ _ => .arr [.str name, .str "link"]
    | .file content _ => .arr [.str name, .str "file", .str (Text.ofBytesLossy content)])
    (tree.below place)

/-- The settings, by the names of their keys as far as they are set by one. -/
def Settings.snapshot (settings : Settings) : List (String × Json) :=
  [("log_path", settings.logPath.snapshot), ("log_level", .str settings.logLevel.name),
   ("filter", .str settings.logLevel.filter), ("host", .str settings.host),
   ("http_host", .str settings.httpHost), ("vods_host", .str settings.vodsHost),
   ("cods_host", .str settings.codsHost), ("cods_ttl", .ofNat settings.codsTtl),
   ("files_ttl", .ofNat settings.filesTtl),
   ("streamlink_path", settings.streamlinkPath.snapshot),
   ("worker_path", .str settings.workerPath),
   ("license_key", .ofOption .str settings.licenseKey),
   ("log_file", .ofOption Path.snapshot settings.logFile)]

/-- An answer of a site: its status, and the type and contents of a file. -/
def Site.Response.snapshot (response : Site.Response) : Json :=
  .ofMembers (("status", .ofNat response.status) :: match response.file with
    | some (type, content) =>
      [("type", .str type), ("body", .str (Text.ofBytesLossy content))]
    | none => [])

/-- A session. -/
def Session.snapshot (session : Session) (pending : Json) : Json := .ofMembers
  [("verified", .bool session.verified), ("expiration", .int session.expiration),
   ("access", .str session.access.name), ("pending", pending)]

/-- How long after it was of use a worker counts as fresh, in milliseconds. -/
def freshTime : Int := 30000

/-- A worker. -/
def Worker.Handle.snapshot (handle : Handle) (clock : Int) (pending : Json) : Json := .ofMembers
  [("instance", .ofNat handle.serial), ("state", .str handle.phase.name),
   ("restart", .bool handle.restart), ("link", .bool handle.linked), ("pending", pending),
   ("fresh", .bool (decide (clock - handle.lastUpdate < freshTime))),
   ("roots", .ofList Path.snapshot handle.servedRoots),
   ("type", .ofNat handle.config.kind.number)]

/-- A worker without what changes all the time. -/
def Worker.Handle.brief (handle : Handle) : Json := .ofMembers
  [("id", .str handle.id), ("instance", .ofNat handle.serial), ("state", .str handle.phase.name),
   ("stopping", .bool handle.isStopping), ("type", .ofNat handle.config.kind.number)]

/-- Links with their directories and streams. -/
def LinkIndex.members (index : LinkIndex) : List (String × Json) :=
  [("len", .ofNat index.size), ("is_empty", .bool (index.size = 0)),
   ("ids", .ofSorted index.streamIds),
   ("links", .ofMembers (index.entries.map fun (directory, spec) =>
      (directory.text, spec.toJson)))]

/-- Links, each with the id of its stream and whether its chunks are removed. -/
def LinkIndex.snapshot (index : LinkIndex) : Json :=
  .ofMembers (index.entries.map fun (directory, spec) => (directory.text,
    .arr [.ofOption .str spec.id?, (spec.get? "cleanup_ts").getD .null]))

/-- A command that a request for a file left. -/
def Command.snapshot : Command → Json
  | .startStream spec => .ofMembers [("start", .ofOption .str spec.id?)]
  | .touchStream id => .ofMembers [("touch", .str id)]
  | _ => .null

/-- A node, its parts by their names. -/
def Node.snapshot (node : Node) (clock : Int) (pending : Channel → Pending → Json) :
    List (String × Json) :=
  [("sessions", .ofMembers (node.sessions.map fun (name, session) =>
      (name, session.snapshot (pending (.session name) session.pending)))),
   ("senders", .ofSorted node.senders),
   ("workers", .ofMembers (node.supervisor.registry.handles.map fun handle =>
      (handle.id, handle.snapshot clock (pending handle.channel handle.pending)))),
   ("accepting", .bool node.supervisor.accepting), ("shutdown", .bool node.shutdown),
   ("roots", .ofList (fun kind => .ofOption Path.snapshot (node.sites.get kind).root)
      [.hls, .vod, .cod]),
   ("monitored", .ofList Path.snapshot node.monitored),
   ("vod_links", node.vodLinks.snapshot), ("cod_links", node.codLinks.snapshot)]

end MediaNode
