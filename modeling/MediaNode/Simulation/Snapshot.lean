import MediaNode.Json.Build
import MediaNode.Simulation.Hands

/-!
# Snapshots of a network

What a test sees of a network as values: a summary of the node, uploads, what a
program printed, and how a call was completed.
-/
namespace MediaNode

/-- A summary of a node. -/
def Simulation.Network.Summary.snapshot (summary : Summary) : Json := .ofMembers
  [("pending", .ofNat summary.pending), ("sessions", .ofNat summary.sessions),
   ("verified", .ofNat summary.verified), ("workers", .ofList .str summary.workers)]

/-- The request of an upload. -/
def Upload.Request.snapshot (request : Request) : Json := .ofMembers
  [("method", .str request.method), ("path", .str request.target),
   ("body", .str (Text.ofBytesLossy request.body))]

/-- What a program printed, and its exit code. -/
def CommandLine.Printed.snapshot (printed : Printed) : List (String × Json) :=
  [("code", .ofOption .ofNat printed.code), ("stdout", .str printed.output),
   ("stderr", .ofList .str printed.errorLines)]

/-- Why a call has no result. -/
def Rpc.CallError.snapshot (error : CallError) : Json :=
  .ofMembers (("error", .str error.kind) :: match error with
    | .rpc object => [("rpc", object.toJson)]
    | other => [("message", .str other.message)])

end MediaNode
