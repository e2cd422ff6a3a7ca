import Rabia.WeakMvc.Agreement

/-!
# The conjectures of the Ivy file

`Conjectures` are the conjectures of `docs/weak_mvc.ivy` in the order of the file, under
its names where it names them; one that ends in `V2 = V2` is left out. `Good` is the
predicate of its wrappers. That file checks the conjectures together as an inductive
invariant; here each follows from `Sound`, which holds of every reachable state.
-/

namespace Rabia.WeakMvc

variable {Node SetMajority SetFPlus1 Phase Value : Type*}

/-- `members_voted_rnd2`. -/
def MembersVotedRnd2 (T : Theory Node SetMajority SetFPlus1 Phase) (s : State Node Phase Value)
    (q : SetMajority) (p : Phase) : Prop :=
  ∀ n, T.memberMaj n q → ∃ v, s.voteRnd2 n p v

/-- `started`. -/
def Started (s : State Node Phase Value) (p : Phase) : Prop := ∃ n v, s.voteRnd1 n p v

/-- `good`. -/
structure Good (T : Theory Node SetMajority SetFPlus1 Phase) (s : State Node Phase Value)
    (p : Phase) : Prop where
  started : Started s p
  below : ∀ p', T.le p' p → p' ≠ p → Started s p'
  locked : ∀ p' v, T.le p' p → p' ≠ p → (∃ n, s.decisionBc n p' v) ∨ Locked s p' v → Locked s p v

structure Conjectures (T : Theory Node SetMajority SetFPlus1 Phase) (s : State Node Phase Value) :
    Prop where
  propose_unique : ∀ n v v', s.propose n v → s.propose n v' → v = v'
  decision_full_val_inv : ∀ n p v, s.decisionFullVal n p v → s.decisionBc n p .v1
  decision_full_val_proposed : ∀ n p v, s.decisionFullVal n p v →
    ∃ q, ∀ n, T.memberMaj n q → s.propose n v
  decision_full_val_validity : ∀ n p v, s.decisionFullVal n p v → ∃ n, s.propose n v
  decision_full_val_agree : ∀ n p v n' p' v', s.decisionFullVal n p v →
    s.decisionFullVal n' p' v' → v = v'
  decision_full_noval_inv : ∀ n p, s.decisionFullNoval n p → s.decisionBc n p .v0
  in_phase_unique : ∀ n p p', s.inPhase n p → s.inPhase n p' → p = p'
  vote_rnd1_le : ∀ n p v p', s.voteRnd1 n p v → s.inPhase n p' → T.le p p'
  vote_rnd2_le : ∀ n p v p', s.voteRnd2 n p v → s.inPhase n p' → T.le p p'
  vote_rnd2_after_rnd1 : ∀ n p v, s.voteRnd2 n p v → ∃ w, s.voteRnd1 n p w
  in_phase_voted : ∀ n p, s.inPhase n p → ∃ v, s.voteRnd1 n p v
  no_later_rnd1 : ∀ n p p', s.inPhase n p → T.le p p' → p ≠ p' → ¬ ∃ v, s.voteRnd1 n p' v
  no_later_rnd2 : ∀ n p p', s.inPhase n p → T.le p p' → p ≠ p' → ¬ ∃ v, s.voteRnd2 n p' v
  vote_rnd1_clear : ∀ n p v, s.voteRnd1 n p v → v ≠ .vQuestion
  vote_rnd1_unique : ∀ n p v v', s.voteRnd1 n p v → s.voteRnd1 n p v' → v = v'
  vote_rnd2_unique : ∀ n p v v', s.voteRnd2 n p v → s.voteRnd2 n p v' → v = v'
  vote_rnd2_agree : ∀ n n' p v v', s.voteRnd2 n p v → s.voteRnd2 n' p v' → v ≠ .vQuestion →
    v' ≠ .vQuestion → v = v'
  vote_rnd2_backed : ∀ n p v, s.voteRnd2 n p v → v ≠ .vQuestion →
    ∃ q, ∀ n, T.memberMaj n q → s.voteRnd1 n p v
  decision_bc_below : ∀ n p v p', s.decisionBc n p v → s.inPhase n p' → p ≠ p' ∧ T.le p p'
  decision_bc_left : ∀ n p, s.inPhase n p → ¬ ∃ v, s.decisionBc n p v
  decision_bc_clear : ∀ n p v, s.decisionBc n p v → v ≠ .vQuestion
  decision_bc_backed : ∀ n p v, s.decisionBc n p v →
    ∃ r, ∀ n, T.memberFp1 n r → s.voteRnd2 n p v
  coin_clear : ∀ p, ¬ s.coin p .vQuestion
  coin_unique : ∀ p, ¬ (s.coin p .v0 ∧ s.coin p .v1)
  coin_undecided_fp1 : ∀ p v, s.coin p v → ∀ r, ∃ n, T.memberFp1 n r ∧ s.voteRnd2 n p .vQuestion
  decision_bc_no_coin : ∀ n p v v', s.decisionBc n p v → ¬ s.coin p v'
  coin_voted : ∀ p v, s.coin p v → ∃ q, ∀ n, T.memberMaj n q → ∃ w, s.voteRnd2 n p w
  succ_voted : ∀ n p next v, T.succ p next → s.voteRnd1 n next v →
    ∃ q, ∀ n, T.memberMaj n q → ∃ w, s.voteRnd2 n p w
  succ_hinted : ∀ n p next v, T.succ p next → s.voteRnd1 n next v → ¬ s.coin p .v0 →
    ¬ s.coin p .v1 → ∃ q n, T.memberMaj n q ∧ s.voteRnd2 n p v
  vote_rnd1_pred_rnd : ∀ n p next v, s.voteRnd1 n next v → T.succ p next → ∃ n, s.voteRnd1 n p v
  decision_bc_locks : ∀ n p next v, s.decisionBc n p v → T.succ p next → Locked s next v
  locked_vote_rnd2 : ∀ n p v v', Locked s p v → s.voteRnd2 n p v' → v = v' ∨ v' = .vQuestion
  coin_undecided_maj : ∀ p v, s.coin p v → ∃ q, ∀ n, T.memberMaj n q → s.voteRnd2 n p .vQuestion
  locked_heard : ∀ p v, Locked s p v → ∀ q, MembersVotedRnd2 T s q p →
    ∃ n, T.memberMaj n q ∧ s.voteRnd2 n p v
  locked_no_coin : ∀ p v v', Locked s p v → ∀ q, MembersVotedRnd2 T s q p → ¬ s.coin p v'
  locked_succ : ∀ p next v, Locked s p v → T.succ p next → Locked s next v
  decision_bc_heard : ∀ n p next v, s.decisionBc n p v → T.succ p next →
    ∀ q, MembersVotedRnd2 T s q next → ∃ n, T.memberMaj n q ∧ s.voteRnd2 n next v
  decision_bc_no_next_coin : ∀ n p next v, s.decisionBc n p v → T.succ p next →
    ¬ ∃ v, s.coin next v
  vl_decision_bc_agree : ∀ n p v v', Locked s p v → s.decisionBc n p v' → v = v'
  decision_bc_next_agree : ∀ n n' p next v v', s.decisionBc n p v → T.succ p next →
    s.decisionBc n' next v' → v = v'
  decision_bc_same_round_agree : ∀ n n' p v v', s.decisionBc n p v → s.decisionBc n' p v' → v = v'
  locked_unique : ∀ p v v', Started s p → Locked s p v → Locked s p v' → v = v'
  good_succ_good : ∀ p next, Good T s p → T.succ p next → Started s next → Good T s next
  good_zero : Started s T.zero → Good T s T.zero
  -- the file has the later phase on both sides here
  started_pred : ∀ p next, Started s next → T.succ p next → Started s p
  decision_bc_started : ∀ n p v, s.decisionBc n p v → Started s p
  vote_rnd2_vote_rnd1 : ∀ n p v, s.voteRnd2 n p v → v ≠ .vQuestion → ∃ n, s.voteRnd1 n p v
  decision_bc_vote_rnd1 : ∀ n p v, s.decisionBc n p v → ∃ n, s.voteRnd1 n p v

variable {T : Theory Node SetMajority SetFPlus1 Phase} {s : State Node Phase Value}

/-! ## Phases with votes -/

/-- The phases below one that the first phase leads to lead to it. -/
theorem Theory.leads_of_le (T : Theory Node SetMajority SetFPlus1 Phase) {p p' : Phase}
    (counted : Relation.ReflTransGen T.succ T.zero p) (below : T.le p' p) :
    Relation.ReflTransGen T.succ p' p := by
  induction counted with
  | refl => rw [T.le_zero p' below]
  | @tail pred p _ succ ih =>
      by_cases same : p' = p
      · rw [same]
      · exact (ih (T.le_pred p' p pred below same succ)).tail succ

theorem Sound.started_pred (sound : Sound T s) {p next : Phase} (started : Started s next)
    (succ : T.succ p next) : Started s p := by
  obtain ⟨n, v, voted⟩ := started
  obtain ⟨q, heard, -⟩ := sound.sourced.carried n p next v succ voted
  obtain ⟨m, member⟩ := T.exists_member q
  obtain ⟨w, before⟩ := heard m member
  exact ⟨m, sound.sourced.after m p w before⟩

theorem Sound.started_of_leads (sound : Sound T s) {p p' : Phase} (started : Started s p)
    (later : Relation.ReflTransGen T.succ p' p) : Started s p' := by
  induction later with
  | refl => exact started
  | tail _ succ ih => exact ih (sound.started_pred started succ)

/-- Every phase with votes is good. -/
theorem Sound.good (sound : Sound T s) {p : Phase} (started : Started s p) : Good T s p := by
  have leads : ∀ p', T.le p' p → Relation.ReflTransGen T.succ p' p := by
    obtain ⟨n, v, voted⟩ := started
    exact fun p' => T.leads_of_le (sound.sourced.counted n p v voted)
  refine ⟨started, fun p' below _ => sound.started_of_leads started (leads p' below), ?_⟩
  rintro p' v below ne (⟨n, decided⟩ | locked)
  · rcases (leads p' below).cases_head with same | ⟨next, succ, later⟩
    · exact absurd same ne
    · exact (sound.locked_of_decided decided succ).later sound later
  · exact locked.later sound (leads p' below)

/-! ## The conjectures hold -/

/-- A vote of the next phase is for a value that was voted for in this one. -/
theorem Sound.voteRnd1_pred (sound : Sound T s) {n : Node} {p next : Phase} {v : StateValue}
    (voted : s.voteRnd1 n next v) (succ : T.succ p next) : ∃ n, s.voteRnd1 n p v := by
  have clear := sound.sourced.clear n next v voted
  obtain ⟨q, -, ⟨m, -, hinted⟩ | ⟨-, undecided⟩⟩ := sound.sourced.carried n p next v succ voted
  · obtain ⟨q', all⟩ := sound.sourced.backed m p v hinted clear
    obtain ⟨k, member⟩ := T.exists_member q'
    exact ⟨k, all k member⟩
  · -- the coin is tossed where both values had votes
    obtain ⟨m, member⟩ := T.exists_member q
    obtain ⟨zero, one⟩ := sound.sourced.torn m p (undecided m member)
    cases v with
    | v0 => exact zero
    | v1 => exact one
    | vQuestion => exact absurd rfl clear

/-- In every reachable state the conjectures hold. -/
theorem conjectures_hold (reachable : Reachable T s) : Conjectures T s := by
  have sound := sound_of_reachable reachable
  have agree := sound.decisionsAgree
  have ordered := sound.ordered
  have sourced := sound.sourced
  have backed_by : ∀ n p v, s.voteRnd2 n p v → v ≠ .vQuestion → ∃ m, s.voteRnd1 m p v := by
    intro n p v voted clear
    obtain ⟨q, all⟩ := sourced.backed n p v voted clear
    obtain ⟨m, member⟩ := T.exists_member q
    exact ⟨m, all m member⟩
  exact {
    propose_unique := sound.final.propose
    decision_full_val_inv := fun n p v decided => (sound.final.fullVal n p v decided).1
    decision_full_val_proposed := agree.proposed
    decision_full_val_validity := fun n p v decided => by
      obtain ⟨q, all⟩ := agree.proposed n p v decided
      obtain ⟨m, member⟩ := T.exists_member q
      exact ⟨m, all m member⟩
    decision_full_val_agree := agree.fullVal
    decision_full_noval_inv := sound.final.fullNoval
    in_phase_unique := ordered.phase
    vote_rnd1_le := ordered.behind
    vote_rnd2_le := fun n p v p' voted here => by
      obtain ⟨w, before⟩ := sourced.after n p v voted
      exact ordered.behind n p w p' before here
    vote_rnd2_after_rnd1 := sourced.after
    in_phase_voted := ordered.voted
    no_later_rnd1 := fun n p p' here above ne ⟨v, voted⟩ =>
      ne (T.le_antisymm p p' above (ordered.behind n p' v p voted here))
    no_later_rnd2 := fun n p p' here above ne ⟨v, voted⟩ => by
      obtain ⟨w, before⟩ := sourced.after n p' v voted
      exact ne (T.le_antisymm p p' above (ordered.behind n p' w p before here))
    vote_rnd1_clear := sourced.clear
    vote_rnd1_unique := ordered.single
    vote_rnd2_unique := sourced.single
    vote_rnd2_agree := fun n n' p v v' => sound.voteRnd2_agree
    vote_rnd2_backed := sourced.backed
    decision_bc_below := ordered.decided
    decision_bc_left := fun n p here ⟨v, decided⟩ => (ordered.decided n p v p decided here).1 rfl
    decision_bc_clear := fun n p v decided => (sourced.decided n p v decided).1
    decision_bc_backed := fun n p v decided => by
      obtain ⟨-, r, -, all⟩ := sourced.decided n p v decided
      exact ⟨r, all⟩
    coin_clear := fun p tossed => (sourced.coin p _ tossed).1 rfl
    coin_unique := fun p ⟨zero, one⟩ => nomatch sourced.fair p _ _ zero one
    coin_undecided_fp1 := fun p v tossed r => by
      obtain ⟨-, q, all⟩ := sourced.coin p v tossed
      obtain ⟨n, member, member'⟩ := T.majority_meets_fp1 q r
      exact ⟨n, member', all n member⟩
    decision_bc_no_coin := fun n p v v' decided => sound.no_coin_of_decided decided
    coin_voted := fun p v tossed => by
      obtain ⟨-, q, all⟩ := sourced.coin p v tossed
      exact ⟨q, fun n member => ⟨_, all n member⟩⟩
    succ_voted := fun n p next v succ voted => by
      obtain ⟨q, heard, -⟩ := sourced.carried n p next v succ voted
      exact ⟨q, heard⟩
    succ_hinted := fun n p next v succ voted noZero noOne => by
      have clear := sourced.clear n next v voted
      obtain ⟨q, -, hinted | ⟨tossed, -⟩⟩ := sourced.carried n p next v succ voted
      · exact ⟨q, hinted⟩
      · cases v with
        | v0 => exact absurd tossed noZero
        | v1 => exact absurd tossed noOne
        | vQuestion => exact absurd rfl clear
    vote_rnd1_pred_rnd := fun n p next v => sound.voteRnd1_pred
    decision_bc_locks := fun n p next v => sound.locked_of_decided
    locked_vote_rnd2 := fun n p v v' locked voted => Or.inl (locked.voteRnd2 sound voted).symm
    coin_undecided_maj := fun p v tossed => (sourced.coin p v tossed).2
    locked_heard := fun p v locked q => locked.heard sound
    locked_no_coin := fun p v v' locked q _ => locked.no_coin sound
    locked_succ := fun p next v locked => locked.next sound
    decision_bc_heard := fun n p next v decided succ q =>
      (sound.locked_of_decided decided succ).heard sound
    decision_bc_no_next_coin := fun n p next v decided succ ⟨w, tossed⟩ =>
      (sound.locked_of_decided decided succ).no_coin sound tossed
    vl_decision_bc_agree := fun n p v v' locked decided => (locked.decided sound decided).symm
    decision_bc_next_agree := fun n n' p next v v' decided _ decided' =>
      sound.decisionBc_agree decided decided'
    decision_bc_same_round_agree := fun n n' p v v' decided decided' =>
      sound.decisionBc_agree decided decided'
    locked_unique := fun p v v' ⟨n, w, voted⟩ locked locked' =>
      (locked n w voted).symm.trans (locked' n w voted)
    good_succ_good := fun p next _ _ started => sound.good started
    good_zero := sound.good
    started_pred := fun p next => sound.started_pred
    decision_bc_started := fun n p v decided => by
      obtain ⟨m, voted⟩ := sound.voted_of_decided decided
      exact ⟨m, v, voted⟩
    vote_rnd2_vote_rnd1 := backed_by
    decision_bc_vote_rnd1 := fun n p v => sound.voted_of_decided }

theorem conjectures_hold_decidedByFirst :
    Started (decidedByFirst.setDecisionFullVal 0 0 ()) 1 ∧
      Conjectures (Cluster.theory ({0, 1, 2} : Finset Nat))
        (decidedByFirst.setDecisionFullVal 0 0 ()) :=
  ⟨⟨0, .v1, Or.inr ⟨rfl, rfl, rfl⟩⟩, conjectures_hold reachable_decidedByFirst⟩

end Rabia.WeakMvc
