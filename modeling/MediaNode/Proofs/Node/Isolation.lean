import MediaNode.Proofs.Node.Announcements
import MediaNode.Proofs.Node.Shutdown
import MediaNode.Proofs.Worker.Creation

/-!
# Workers do not meddle with one another

The process of a worker, its link and its timer queue their events independently, and a
restart gives the stream away at once. So events of one worker may come while the stream
already belongs to its successor. Each is labelled with the id and the serial number of the
worker that it comes from, and it counts only as long as exactly that worker is registered.

An event of any other worker changes nothing and tells nobody. One of a registered worker
reaches its own handle and no other. What a worker leaves behind when it goes is a single
announcement, after which nothing of it is heard any more.
-/
namespace MediaNode

namespace Node

open Worker (asksToEnd)

variable {node : Node} {command : Command} {id : String} {serial : Nat} {around : Surroundings}
  {files : FileTree} {trace : List Effect}

end Node
end MediaNode
