import Rabia.Core.Types
import Rabia.Lib.Table

/-!
# Leader selection

`rabia-engine/src/leader.rs`: the leader is the first node of the sorted
cluster view.
-/

namespace Rabia

open Rabia.Lib

structure LeaderSelector where
  clusterView : List NodeId
  currentLeader : Option NodeId
deriving DecidableEq

namespace LeaderSelector

/-- `LeaderSelector::new`: an empty cluster view. -/
def new : LeaderSelector where
  clusterView := []
  currentLeader := none

def determineLeader (selector : LeaderSelector) : Option NodeId :=
  selector.clusterView.head?

/-- `update_cluster_view`: the new leader if it changed, and the new selector. -/
def updateClusterView (nodes : Finset NodeId) (selector : LeaderSelector) :
    Option NodeId × LeaderSelector :=
  let oldLeader := selector.currentLeader
  let viewed := { selector with clusterView := enumerate nodes }
  let updated := { viewed with currentLeader := viewed.determineLeader }
  (if updated.currentLeader ≠ oldLeader then updated.currentLeader else none, updated)

def withCluster (nodes : Finset NodeId) : LeaderSelector :=
  (new.updateClusterView nodes).2

def getLeader (selector : LeaderSelector) : Option NodeId := selector.currentLeader

end LeaderSelector

end Rabia
