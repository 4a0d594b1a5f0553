import MediaNode.Node.State

/-!
# Methods and who may call them

Every method of the control protocol has a guard. Only activation is open to
everybody; stopping the service is also open to a session from this machine;
methods for streams need full access.
-/
namespace MediaNode

/-- What a session can ask for. -/
inductive Method where
  | activate
  | stopService
  | pingService
  | prepareService
  | syncService
  | getLogService
  | startStream
  | stopStream
  | restartStream
  | getLogStream
  | getPipelineStream
deriving DecidableEq, Repr, Inhabited

/-- Who may call a method. -/
inductive Guard where
  | anyone
  /-- A verified session, or one from this machine. -/
  | verifiedOrLocal
  | verified
  /-- A verified session that is not limited to questions. -/
  | fullAccess
deriving DecidableEq, Repr, Inhabited

namespace Method

/-- The name of a method in the protocol. -/
def name : Method → String
  | .activate => "activate"
  | .stopService => "stop_service"
  | .pingService => "ping_service"
  | .prepareService => "prepare_service"
  | .syncService => "sync_service"
  | .getLogService => "get_log_service"
  | .startStream => "start_stream"
  | .stopStream => "stop_stream"
  | .restartStream => "restart_stream"
  | .getLogStream => "get_log_stream"
  | .getPipelineStream => "get_pipeline_stream"

/-- All methods. -/
def all : List Method :=
  [activate, stopService, pingService, prepareService, syncService, getLogService, startStream,
   stopStream, restartStream, getLogStream, getPipelineStream]

/-- The method of a name. -/
def ofName? (name : String) : Option Method := all.find? (·.name = name)

/-- Who may call a method. -/
def guard : Method → Guard
  | .activate => .anyone
  | .stopService => .verifiedOrLocal
  | .pingService | .prepareService | .syncService | .getLogService => .verified
  | .startStream | .stopStream | .restartStream | .getLogStream | .getPipelineStream => .fullAccess

end Method

/-- Whether a session passes a guard. There may be no session of the caller's name
any more. -/
def Guard.check (guard : Guard) (session : Option Session) : Except Fault Unit :=
  match guard with
  | .anyone => .ok ()
  | .verifiedOrLocal =>
    if session.any fun s => s.verified || s.peer.isLoopback then .ok () else .error .notActivated
  | .verified => if session.any Session.verified then .ok () else .error .notActivated
  | .fullAccess =>
    if !session.any Session.verified then .error .notActivated
    else if session.any Session.hasFullAccess then .ok () else .error .permissionDenied

end MediaNode
