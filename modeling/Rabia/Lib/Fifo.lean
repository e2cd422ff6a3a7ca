import Mathlib.Data.List.Perm.Subperm

/-!
# Queues that release from the front

A queue that releases its front for as long as that is ready. What is ready can wait
behind something that is not: `forall_dropWhile_iff` says when nothing does. What was
released before may be counted in or out (`readyInOrder_append`), so that the condition
can speak of everything that was ever queued. `subperm_of_filter_sublist` is about the
merge of many queues.
-/

namespace Rabia.Lib

variable {α : Type*} {ready : α → Bool}

/-- Whatever is ready stands behind ready ones only. -/
def ReadyInOrder (ready : α → Bool) (queue : List α) : Prop :=
  queue.Pairwise fun first second => ready second → ready first

/-- Nothing ready is left exactly when nothing ready waited behind something that was not. -/
theorem forall_dropWhile_iff (queue : List α) :
    (∀ a ∈ queue.dropWhile ready, ready a = false) ↔ ReadyInOrder ready queue := by
  unfold ReadyInOrder
  induction queue with
  | nil => simp
  | cons front rest ih =>
      rw [List.pairwise_cons]
      cases frontReady : ready front with
      | true =>
          rw [List.dropWhile_cons_of_pos frontReady, ih]
          exact (and_iff_right fun _ _ _ => rfl).symm
      | false =>
          rw [List.dropWhile_cons_of_neg (by simp [frontReady]), List.forall_mem_cons]
          constructor
          · rintro ⟨-, unready⟩
            refine ⟨by simpa using unready, List.pairwise_of_forall_mem_list ?_⟩
            intro first _ second member readySecond
            rw [unready second member] at readySecond
            cases readySecond
          · rintro ⟨behindFront, -⟩
            exact ⟨frontReady, by simpa using behindFront⟩

theorem readyInOrder_append {released waiting : List α} (left : ∀ a ∈ released, ready a) :
    ReadyInOrder ready (released ++ waiting) ↔ ReadyInOrder ready waiting := by
  unfold ReadyInOrder
  rw [List.pairwise_append]
  constructor
  · exact fun h => h.2.1
  · intro inOrder
    refine ⟨?_, inOrder, fun first member _ _ _ => left first member⟩
    exact List.pairwise_of_forall_mem_list fun first member _ _ _ => left first member

/-- Merging streams of which each holds at most what another holds, stream by stream. -/
theorem subperm_of_filter_sublist {κ : Type*} [DecidableEq κ] [DecidableEq α] (key : α → κ)
    {out queued : List α}
    (streams : ∀ k, (out.filter fun a => key a = k).Sublist (queued.filter fun a => key a = k)) :
    out.Subperm queued := by
  refine List.subperm_ext_iff.mpr fun a _ => ?_
  have own : decide (key a = key a) = true := decide_eq_true rfl
  rw [← List.count_filter (p := fun x => decide (key x = key a)) own,
    ← List.count_filter (p := fun x => decide (key x = key a)) own (l := queued)]
  exact (streams (key a)).count_le a

end Rabia.Lib
