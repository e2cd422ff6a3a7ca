import Mathlib.Data.Finset.Card
import Mathlib.Tactic.Common

/-!
# Majority quorums

A value is `Backed` when more than half of the members cast it. Two majorities
share a member (`majorities_meet`), so when no member casts two values at most
one value is backed (`Backed.unique`).
-/

namespace Rabia.Lib

variable {κ ν : Type*}

/-- The size of a majority. -/
def majority (members : Finset κ) : Nat := members.card / 2 + 1

theorem majorities_meet [DecidableEq κ] {members a b : Finset κ} (ha : a ⊆ members)
    (hb : b ⊆ members) (sizeA : majority members ≤ a.card) (sizeB : majority members ≤ b.card) :
    ∃ k ∈ a, k ∈ b := by
  have overlap : members.card < a.card + b.card := by
    unfold majority at sizeA sizeB
    omega
  obtain ⟨k, hk⟩ := Finset.inter_nonempty_of_card_lt_card_add_card ha hb overlap
  exact ⟨k, (Finset.mem_inter.mp hk).1, (Finset.mem_inter.mp hk).2⟩

/-- A majority of the members cast `v`. -/
def Backed (members : Finset κ) (cast : κ → ν → Prop) (v : ν) : Prop :=
  ∃ voters ⊆ members, majority members ≤ voters.card ∧ ∀ k ∈ voters, cast k v

/-- A value is backed when the members that cast it are a majority. -/
theorem backed_iff {members : Finset κ} {cast : κ → ν → Prop} {v : ν}
    [DecidablePred fun k => cast k v] :
    Backed members cast v ↔ majority members ≤ (members.filter fun k => cast k v).card := by
  constructor
  · rintro ⟨voters, subset, size, voted⟩
    refine size.trans (Finset.card_le_card fun k hk => ?_)
    exact Finset.mem_filter.mpr ⟨subset hk, voted k hk⟩
  · intro size
    exact ⟨_, Finset.filter_subset _ _, size, fun k hk => (Finset.mem_filter.mp hk).2⟩

instance (members : Finset κ) (cast : κ → ν → Prop) (v : ν)
    [DecidablePred fun k => cast k v] : Decidable (Backed members cast v) :=
  decidable_of_iff _ backed_iff.symm

theorem Backed.mono {members : Finset κ} {cast cast' : κ → ν → Prop} {v : ν}
    (h : Backed members cast v) (more : ∀ k, cast k v → cast' k v) :
    Backed members cast' v := by
  obtain ⟨voters, subset, size, voted⟩ := h
  exact ⟨voters, subset, size, fun k hk => more k (voted k hk)⟩

theorem Backed.unique {members : Finset κ} {cast : κ → ν → Prop} {v v' : ν}
    (single : ∀ k v v', cast k v → cast k v' → v = v') (h : Backed members cast v)
    (h' : Backed members cast v') : v = v' := by
  classical
  obtain ⟨voters, subset, size, voted⟩ := h
  obtain ⟨voters', subset', size', voted'⟩ := h'
  obtain ⟨k, hk, hk'⟩ := majorities_meet subset subset' size size'
  exact single k v v' (voted k hk) (voted' k hk')

/-- Someone cast a backed value. -/
theorem Backed.exists {members : Finset κ} {cast : κ → ν → Prop} {v : ν}
    (h : Backed members cast v) : ∃ k ∈ members, cast k v := by
  obtain ⟨voters, subset, size, voted⟩ := h
  have some : 0 < voters.card := by
    unfold majority at size
    omega
  obtain ⟨k, hk⟩ := Finset.card_pos.mp some
  exact ⟨k, subset hk, voted k hk⟩

end Rabia.Lib
