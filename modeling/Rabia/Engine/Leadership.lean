import Rabia.Engine.Leader
import Rabia.Lib.Runs

/-!
# Leadership over a history of views

`rabia-engine/src/leader.rs`: a selector reaches a membership through any
history of views, added and removed nodes. The hash sets of the source are
walked in an order of their own, so every call carries one; the view and the
leader depend on the membership alone.

What a call returns says less than what it does: `None` stands for "no change"
and for "no leader any more".
-/

namespace Rabia

open Rabia.Lib

namespace LeaderSelector

/-- `update_cluster_view` as the source computes it: the set is collected in the
order in which it happens to be walked, and the vector is sorted. -/
def sortClusterView (order : List NodeId) (nodes : Finset NodeId) (selector : LeaderSelector) :
    Option NodeId × LeaderSelector :=
  let newClusterView := (iterate order nodes).insertionSort (· ≤ ·)
  let oldLeader := selector.currentLeader
  let viewed := { selector with clusterView := newClusterView }
  let updated := { viewed with currentLeader := viewed.determineLeader }
  (if updated.currentLeader ≠ oldLeader then updated.currentLeader else none, updated)

theorem sortClusterView_eq (order : List NodeId) (nodes : Finset NodeId)
    (selector : LeaderSelector) :
    selector.sortClusterView order nodes = selector.updateClusterView nodes := by
  unfold sortClusterView updateClusterView
  rw [insertionSort_iterate]

/-- `add_node`. -/
def addNode (order : List NodeId) (nodeId : NodeId) (selector : LeaderSelector) :
    Option NodeId × LeaderSelector :=
  selector.sortClusterView order (insert nodeId selector.clusterView.toFinset)

/-- `remove_node`. -/
def removeNode (order : List NodeId) (nodeId : NodeId) (selector : LeaderSelector) :
    Option NodeId × LeaderSelector :=
  selector.sortClusterView order (selector.clusterView.toFinset.erase nodeId)

end LeaderSelector

/-! ## Calls -/

/-- The calls that change a selector, with the order in which the set is walked. -/
inductive ViewChange where
  | updateClusterView (order : List NodeId) (nodes : Finset NodeId)
  | addNode (order : List NodeId) (nodeId : NodeId)
  | removeNode (order : List NodeId) (nodeId : NodeId)

namespace ViewChange

def make : ViewChange → LeaderSelector → Option NodeId × LeaderSelector
  | updateClusterView order nodes, selector => selector.sortClusterView order nodes
  | addNode order nodeId, selector => selector.addNode order nodeId
  | removeNode order nodeId, selector => selector.removeNode order nodeId

/-- What a change means for the set of members. -/
def members : ViewChange → Finset NodeId → Finset NodeId
  | updateClusterView _ nodes, _ => nodes
  | addNode _ nodeId, nodes => insert nodeId nodes
  | removeNode _ nodeId, nodes => nodes.erase nodeId

/-- Every change is an update to the members it leaves. -/
theorem make_eq (change : ViewChange) (selector : LeaderSelector) :
    change.make selector =
      selector.updateClusterView (change.members selector.clusterView.toFinset) := by
  cases change with
  | updateClusterView order nodes => exact selector.sortClusterView_eq order nodes
  | addNode order nodeId => exact selector.sortClusterView_eq order _
  | removeNode order nodeId => exact selector.sortClusterView_eq order _

end ViewChange

/-- The calls of a selector's history: it may also be built anew. -/
inductive ViewCall where
  | withCluster (order : List NodeId) (nodes : Finset NodeId)
  | change (change : ViewChange)

namespace ViewCall

/-- The selector after a call. `with_cluster` starts from `new`. -/
def after (selector : LeaderSelector) : ViewCall → LeaderSelector
  | withCluster order nodes => (LeaderSelector.new.sortClusterView order nodes).2
  | change c => (c.make selector).2

def members (nodes : Finset NodeId) : ViewCall → Finset NodeId
  | withCluster _ nodes' => nodes'
  | change c => c.members nodes

end ViewCall

/-! ## The view of a membership -/

/-- The selector of a membership. -/
def LeaderSelector.of (nodes : Finset NodeId) : LeaderSelector where
  clusterView := enumerate nodes
  currentLeader := (enumerate nodes).head?

theorem LeaderSelector.updateClusterView_snd (nodes : Finset NodeId) (selector : LeaderSelector) :
    (selector.updateClusterView nodes).2 = LeaderSelector.of nodes := rfl

theorem LeaderSelector.updateClusterView_fst (nodes : Finset NodeId) (selector : LeaderSelector) :
    (selector.updateClusterView nodes).1 =
      if (enumerate nodes).head? ≠ selector.currentLeader then (enumerate nodes).head? else none :=
  rfl

theorem LeaderSelector.head?_enumerate_eq_none {nodes : Finset NodeId} :
    (enumerate nodes).head? = none ↔ nodes = ∅ := by
  rw [List.head?_eq_none_iff, List.eq_nil_iff_forall_not_mem, Finset.eq_empty_iff_forall_notMem]
  exact forall_congr' fun nodeId => not_congr mem_enumerate

theorem LeaderSelector.toFinset_of (nodes : Finset NodeId) :
    (LeaderSelector.of nodes).clusterView.toFinset = nodes := by
  ext nodeId
  rw [List.mem_toFinset]
  exact mem_enumerate

/-- A call takes the selector of a membership to the selector of the next one. -/
theorem ViewCall.after_of (nodes : Finset NodeId) (call : ViewCall) :
    call.after (LeaderSelector.of nodes) = LeaderSelector.of (call.members nodes) := by
  cases call with
  | withCluster order nodes' =>
      show (LeaderSelector.new.sortClusterView order nodes').2 = _
      rw [LeaderSelector.sortClusterView_eq]
      rfl
  | change c =>
      show (c.make _).2 = _
      rw [c.make_eq, LeaderSelector.updateClusterView_snd, LeaderSelector.toFinset_of]
      rfl

/-- After any history, the selector is the one of the members the history leaves. -/
theorem run_viewCalls (calls : List ViewCall) :
    run ViewCall.after LeaderSelector.new calls =
      LeaderSelector.of (run ViewCall.members ∅ calls) := by
  have follows : ∀ nodes, run ViewCall.after (LeaderSelector.of nodes) calls =
      LeaderSelector.of (run ViewCall.members nodes calls) := by
    induction calls with
    | nil => intro nodes; rfl
    | cons call calls ih =>
        intro nodes
        rw [run_cons, run_cons, call.after_of, ih]
  exact follows ∅

/-- Leadership depends on the membership alone: the view is the members in ascending
order and the leader the least of them, whatever history led there. -/
theorem leadership_of_members :
    (∀ calls calls' : List ViewCall,
      run ViewCall.members ∅ calls = run ViewCall.members ∅ calls' →
      (run ViewCall.after LeaderSelector.new calls).clusterView =
          (run ViewCall.after LeaderSelector.new calls').clusterView ∧
        (run ViewCall.after LeaderSelector.new calls).getLeader =
          (run ViewCall.after LeaderSelector.new calls').getLeader) ∧
    ∀ calls : List ViewCall,
      let nodes := run ViewCall.members ∅ calls
      let selector := run ViewCall.after LeaderSelector.new calls
      selector.clusterView.Pairwise (· < ·) ∧
        (∀ nodeId, nodeId ∈ selector.clusterView ↔ nodeId ∈ nodes) ∧
        (∀ leader, selector.getLeader = some leader ↔ IsLeast (nodes : Set NodeId) leader) ∧
        (selector.getLeader = none ↔ nodes = ∅) := by
  refine ⟨?_, ?_⟩
  · intro calls calls' same
    rw [run_viewCalls, run_viewCalls, same]
    exact ⟨rfl, rfl⟩
  · intro calls nodes selector
    have reached : selector = LeaderSelector.of nodes := run_viewCalls calls
    rw [reached]
    refine ⟨pairwise_enumerate nodes, fun _ => mem_enumerate, head?_enumerate nodes, ?_⟩
    exact LeaderSelector.head?_enumerate_eq_none

/-! ## What the calls report -/

/-- A selector and an observer, who holds a leader and applies what the calls return:
`Some(l)` is the new leader, `None` no change. -/
def watch (watched : LeaderSelector × Option NodeId) (change : ViewChange) :
    LeaderSelector × Option NodeId :=
  let (returned, selector) := change.make watched.1
  (selector, returned.or watched.2)

/-- The change leaves the cluster without nodes. -/
def ViewChange.Empties (change : ViewChange) (selector : LeaderSelector) : Prop :=
  change.members selector.clusterView.toFinset = ∅

instance (change : ViewChange) (selector : LeaderSelector) :
    Decidable (change.Empties selector) :=
  inferInstanceAs (Decidable (_ = _))

/-- An observer who is right before a change is right after it exactly when the change
does not take away the last leader: a leader that is lost is reported as no change. -/
theorem watch_follows_iff (selector : LeaderSelector) (change : ViewChange) :
    (watch (selector, selector.getLeader) change).2 =
        (watch (selector, selector.getLeader) change).1.getLeader ↔
      ¬ (change.Empties selector ∧ selector.getLeader ≠ none) := by
  show (change.make selector).1.or selector.currentLeader =
    (change.make selector).2.currentLeader ↔ ¬ (_ ∧ selector.currentLeader ≠ none)
  rw [change.make_eq, LeaderSelector.updateClusterView_fst, LeaderSelector.updateClusterView_snd]
  unfold ViewChange.Empties LeaderSelector.of
  rw [← LeaderSelector.head?_enumerate_eq_none]
  generalize (enumerate (change.members selector.clusterView.toFinset)).head? = leader
  by_cases same : leader = selector.currentLeader
  · subst same
    simp
  · cases leader with
    -- the leader is gone, and what is returned is the new leader: none
    | none => simp
    | some l => simp [same]

/-- The reports are complete exactly along the histories in which no change takes away
the last leader. -/
theorem reports_complete_iff (selector : LeaderSelector) (changes : List ViewChange) :
    Along watch (fun watched change =>
        (watch watched change).2 = (watch watched change).1.getLeader)
      (selector, selector.getLeader) changes ↔
    Along watch (fun watched change =>
        ¬ (change.Empties watched.1 ∧ watched.1.getLeader ≠ none))
      (selector, selector.getLeader) changes := by
  refine along_congr_of_kept (I := fun watched => watched.2 = watched.1.getLeader) ?_ ?_ rfl
    changes
  · rintro ⟨selector', held⟩ change right
    have same : held = selector'.getLeader := right
    subst same
    exact watch_follows_iff selector' change
  · intro watched change _ follows
    exact follows

/-- Removing the only node: the observer keeps a leader that is gone. -/
theorem reports_incomplete :
    ¬ ∀ (selector : LeaderSelector) (changes : List ViewChange),
      Along watch (fun watched change =>
          (watch watched change).2 = (watch watched change).1.getLeader)
        (selector, selector.getLeader) changes := by
  intro complete
  have lost := complete (LeaderSelector.withCluster {⟨1⟩}) [.removeNode [] ⟨1⟩]
  revert lost
  decide

end Rabia
