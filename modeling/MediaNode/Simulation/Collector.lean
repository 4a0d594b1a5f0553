import MediaNode.Upload.Exchange

/-!
# A collector of uploads

A collector is a web server that takes every upload. How it answers depends on the
path alone, so that a test chooses the answer by the URL.
-/
namespace MediaNode.Simulation

/-- What a collector does with a request. -/
inductive Treatment where
  | reply (reply : Upload.Reply)
  /-- Answer only when the collector is told to. -/
  | hold
deriving DecidableEq, Repr, Inhabited

/-- The place that answers of the collector name. -/
def movedPath : String := "/moved"

/-- The answer to a request that is nothing special. -/
def accepted : Upload.Reply := .answer 200 "OK" none

/-- The status that a code stands for: three digits, the first of them not zero. -/
def status? (code : String) : Option Nat :=
  (Text.digits? code.toList).filter fun n => code.length = 3 && 100 ≤ n

/-- Whether a status announces another answer, as those below 200 do. Only the
one that switches protocols is an answer by itself. -/
def isInterim (status : Nat) : Bool := status < 200 && status != 101

/-- The answer with a code. A code that is no status makes no answer, and behind an
interim one nothing follows. -/
def coded (code : String) : Upload.Reply :=
  match status? code with
  | some status => if isInterim status then .broken else .answer status "X" (some movedPath)
  | none => .broken

/-- How a collector treats a request by its path. -/
def treatment (url : Url) : Treatment :=
  match url.segments with
  | "hold" :: _ => .hold
  | "close" :: _ | "garbage" :: _ => .reply .broken
  | "status" :: code :: _ => .reply (coded code)
  | _ => .reply accepted

end MediaNode.Simulation
