import Rabia.WeakMvc.Protocol

/-!
# What holds of Weak MVC

`Sound` is the invariant of the protocol: where the nodes are and what they voted there
(`Ordered`), where a vote, a coin and a decision come from (`Sourced`), and what the full
decisions rest on (`Final`). A step touches few relations at a time: `Journey` inverts the
actions for the phases and the votes of round 1, `voteRnd2_cases` and `coin_cases` for the
votes of round 2 and the coins.

From the invariant follow the conjectures of the file, all of them (`conjectures_hold`).
-/

namespace Rabia.WeakMvc

variable {Node SetMajority SetFPlus1 Phase Value : Type*}
  {T : Theory Node SetMajority SetFPlus1 Phase} {s s' : State Node Phase Value}

/-! ## What a step does -/

/-- Only the phases that nodes are in are ever taken back. -/
structure Grows (s s' : State Node Phase Value) : Prop where
  propose : ∀ n v, s.propose n v → s'.propose n v
  voteRnd1 : ∀ n p v, s.voteRnd1 n p v → s'.voteRnd1 n p v
  voteRnd2 : ∀ n p v, s.voteRnd2 n p v → s'.voteRnd2 n p v
  decisionBc : ∀ n p v, s.decisionBc n p v → s'.decisionBc n p v
  coin : ∀ p v, s.coin p v → s'.coin p v

theorem Rnd2Outcome.grows {n : Node} {p : Phase} {q : SetMajority} {v : StateValue}
    (outcome : Rnd2Outcome T s n p q v s') : Grows s s' := by
  cases outcome with
  | decide _ =>
      exact ⟨fun _ _ => id, fun _ _ _ => id, fun _ _ _ => id, fun _ _ _ => Or.inl,
        fun _ _ => id⟩
  | hinted _ _ | tossed _ _ _ _ =>
      exact ⟨fun _ _ => id, fun _ _ _ => id, fun _ _ _ => id, fun _ _ _ => id, fun _ _ => id⟩
  | toss _ _ _ _ =>
      exact ⟨fun _ _ => id, fun _ _ _ => id, fun _ _ _ => id, fun _ _ _ => id,
        fun _ _ => Or.inl⟩

theorem Step.grows (step : Step T s s') : Grows s s' := by
  cases step with
  | initialProposal _ _ =>
      exact ⟨fun _ _ => Or.inl, fun _ _ _ => id, fun _ _ _ => id, fun _ _ _ => id,
        fun _ _ => id⟩
  | decideBcDecideFullVal _ _ | decideBcDecideFullNoval _ =>
      exact ⟨fun _ _ => id, fun _ _ _ => id, fun _ _ _ => id, fun _ _ _ => id, fun _ _ => id⟩
  | initialVote1 _ _ _ =>
      exact ⟨fun _ _ => id, fun _ _ _ => Or.inl, fun _ _ _ => id, fun _ _ _ => id,
        fun _ _ => id⟩
  | phaseRnd1 _ _ _ _ =>
      exact ⟨fun _ _ => id, fun _ _ _ => id, fun _ _ _ => Or.inl, fun _ _ _ => id,
        fun _ _ => id⟩
  | phaseRnd2 _ _ _ _ outcome =>
      have grows := outcome.grows
      exact ⟨grows.propose, fun n p v voted => Or.inl (grows.voteRnd1 n p v voted),
        grows.voteRnd2, grows.decisionBc, grows.coin⟩

/-- Where a value that a node goes on with comes from. -/
def Origin (T : Theory Node SetMajority SetFPlus1 Phase) (s s' : State Node Phase Value)
    (p : Phase) (q : SetMajority) (v : StateValue) : Prop :=
  Hints T s p q v ∨ (¬ ∃ v, Hints T s p q v) ∧ s'.coin p v

/-- What a step does to the phases of the nodes, their votes of round 1 and the decisions. -/
inductive Journey (T : Theory Node SetMajority SetFPlus1 Phase) (s s' : State Node Phase Value) :
    Prop where
  | stays (inPhase : s'.inPhase = s.inPhase) (voteRnd1 : s'.voteRnd1 = s.voteRnd1)
      (decisionBc : s'.decisionBc = s.decisionBc)
  | enters {n v} (idle : s.Idle n) (clear : v ≠ .vQuestion)
      (inPhase : s'.inPhase = (s.enter n T.zero).inPhase)
      (voteRnd1 : s'.voteRnd1 = (s.setVoteRnd1 n T.zero v).voteRnd1)
      (decisionBc : s'.decisionBc = s.decisionBc)
  | advances {n p next q v} (here : s.inPhase n p) (succ : T.succ p next)
      (heard : ∀ n, T.memberMaj n q → ∃ v, s.voteRnd2 n p v) (clear : v ≠ .vQuestion)
      (origin : Origin T s s' p q v)
      (inPhase : s'.inPhase = ((s.enter n next).leave n p).inPhase)
      (voteRnd1 : s'.voteRnd1 = (s.setVoteRnd1 n next v).voteRnd1)
      (decisionBc : s'.decisionBc = s.decisionBc ∨
        Decides T s p q v ∧ s'.decisionBc = (s.setDecisionBc n p v).decisionBc)

theorem Decides.hints {p : Phase} {q : SetMajority} {v : StateValue}
    (decides : Decides T s p q v) : Hints T s p q v := by
  obtain ⟨clear, n, r, member, all⟩ := decides
  exact ⟨clear, n, all n member⟩

theorem Step.journey (step : Step T s s') : Journey T s s' := by
  cases step with
  | initialProposal _ _ | decideBcDecideFullVal _ _ | decideBcDecideFullNoval _
  | phaseRnd1 _ _ _ _ => exact .stays rfl rfl rfl
  | initialVote1 _ idle value =>
      refine .enters idle ?_ rfl rfl rfl
      cases value <;> exact StateValue.noConfusion
  | phaseRnd2 here _ heard succ outcome =>
      cases outcome with
      | decide enough =>
          exact .advances here succ heard enough.1 (Or.inl enough.hints) rfl rfl
            (Or.inr ⟨enough, rfl⟩)
      | hinted _ hint =>
          exact .advances here succ heard hint.1 (Or.inl hint) rfl rfl (Or.inl rfl)
      | tossed _ noHint clear coin =>
          exact .advances here succ heard clear (Or.inr ⟨noHint, coin⟩) rfl rfl (Or.inl rfl)
      | toss _ noHint _ clear =>
          exact .advances here succ heard clear (Or.inr ⟨noHint, Or.inr ⟨rfl, rfl⟩⟩) rfl rfl
            (Or.inl rfl)

theorem Step.voteRnd2_cases (step : Step T s s') : s'.voteRnd2 = s.voteRnd2 ∨
    ∃ n p q v, s.inPhase n p ∧ (¬ ∃ v, s.voteRnd2 n p v) ∧
      (∀ n, T.memberMaj n q → ∃ v, s.voteRnd1 n p v) ∧ Rnd2Value T s p q v ∧
      s'.voteRnd2 = (s.setVoteRnd2 n p v).voteRnd2 := by
  cases step with
  | initialProposal _ _ | decideBcDecideFullVal _ _ | decideBcDecideFullNoval _
  | initialVote1 _ _ _ => exact Or.inl rfl
  | phaseRnd1 here first heard value => exact Or.inr ⟨_, _, _, _, here, first, heard, value, rfl⟩
  | phaseRnd2 _ _ _ _ outcome => cases outcome <;> exact Or.inl rfl

theorem Step.coin_cases (step : Step T s s') : s'.coin = s.coin ∨
    ∃ p q v, v ≠ .vQuestion ∧ (¬ ∃ v, v ≠ .vQuestion ∧ s.coin p v) ∧
      (∀ n, T.memberMaj n q → ∃ v, s.voteRnd2 n p v) ∧ (¬ ∃ v, Hints T s p q v) ∧
      s'.coin = (s.setCoin p v).coin := by
  cases step with
  | initialProposal _ _ | decideBcDecideFullVal _ _ | decideBcDecideFullNoval _
  | initialVote1 _ _ _ | phaseRnd1 _ _ _ _ => exact Or.inl rfl
  | phaseRnd2 _ _ heard _ outcome =>
      cases outcome with
      | decide _ | hinted _ _ | tossed _ _ _ _ => exact Or.inl rfl
      | toss _ noHint noCoin clear => exact Or.inr ⟨_, _, _, clear, noCoin, heard, noHint, rfl⟩

/-! ## Where the nodes are -/

structure Ordered (T : Theory Node SetMajority SetFPlus1 Phase) (s : State Node Phase Value) :
    Prop where
  /-- A node is in one phase at a time. -/
  phase : ∀ n p p', s.inPhase n p → s.inPhase n p' → p = p'
  /-- It voted in the phase it is in, and in none above. -/
  voted : ∀ n p, s.inPhase n p → ∃ v, s.voteRnd1 n p v
  behind : ∀ n p v p', s.voteRnd1 n p v → s.inPhase n p' → T.le p p'
  /-- It decided in phases below. -/
  decided : ∀ n p v p', s.decisionBc n p v → s.inPhase n p' → p ≠ p' ∧ T.le p p'
  single : ∀ n p v v', s.voteRnd1 n p v → s.voteRnd1 n p v' → v = v'

theorem ordered_init : Ordered T (State.init : State Node Phase Value) where
  phase _ _ _ here := here.elim
  voted _ _ here := here.elim
  behind _ _ _ _ voted := voted.elim
  decided _ _ _ _ decided := decided.elim
  single _ _ _ _ voted := voted.elim

theorem Theory.not_le_of_succ (T : Theory Node SetMajority SetFPlus1 Phase) {p next : Phase}
    (succ : T.succ p next) : ¬ T.le next p := by
  intro back
  exact T.succ_ne p next succ (T.le_antisymm p next (T.succ_le p next succ) back)

/-- A node votes once in round 1 of a phase: it votes where it was never before. -/
theorem Ordered.single_step (ordered : Ordered T s) (step : Step T s s') {n : Node} {p : Phase}
    {v v' : StateValue} (voted : s'.voteRnd1 n p v) (voted' : s'.voteRnd1 n p v') : v = v' := by
  cases step.journey with
  | stays _ votes _ =>
      rw [votes] at voted voted'
      exact ordered.single n p v v' voted voted'
  | enters idle _ _ votes _ =>
      rw [votes] at voted voted'
      rcases voted with old | ⟨rfl, rfl, rfl⟩ <;> rcases voted' with old' | ⟨_, _, rfl⟩
      · exact ordered.single n p v v' old old'
      · subst_vars
        exact absurd ⟨v, old⟩ (idle.voteRnd1 _)
      · exact absurd ⟨v', old'⟩ (idle.voteRnd1 _)
      · rfl
  | advances here succ _ _ _ _ votes _ =>
      rw [votes] at voted voted'
      rcases voted with old | ⟨rfl, rfl, rfl⟩ <;> rcases voted' with old' | ⟨_, _, rfl⟩
      · exact ordered.single n p v v' old old'
      · subst_vars
        exact absurd (ordered.behind _ _ v _ old here) (T.not_le_of_succ succ)
      · exact absurd (ordered.behind _ _ v' _ old' here) (T.not_le_of_succ succ)
      · rfl

theorem ordered_step (ordered : Ordered T s) (step : Step T s s') : Ordered T s' := by
  have single : ∀ n p v v', s'.voteRnd1 n p v → s'.voteRnd1 n p v' → v = v' :=
    fun _ _ _ _ => ordered.single_step step
  cases step.journey with
  | stays phases votes decisions =>
      refine ⟨?_, ?_, ?_, ?_, single⟩
      · rw [phases]
        exact ordered.phase
      · rw [phases, votes]
        exact ordered.voted
      · rw [phases, votes]
        exact ordered.behind
      · rw [phases, decisions]
        exact ordered.decided
  | @enters n v idle _ phases votes decisions =>
      -- the node was nowhere before
      have there : ∀ p, s'.inPhase n p → p = T.zero := by
        intro p here
        rw [phases] at here
        exact here.elim (fun old => absurd old (idle.inPhase p)) And.right
      have others : ∀ m p, m ≠ n → s'.inPhase m p → s.inPhase m p := by
        intro m p other here
        rw [phases] at here
        exact here.elim id fun same => absurd same.1 other
      refine ⟨?_, ?_, ?_, ?_, single⟩
      · intro m p p' here here'
        by_cases same : m = n
        · subst same
          rw [there p here, there p' here']
        · exact ordered.phase m p p' (others m p same here) (others m p' same here')
      · intro m p here
        rw [votes]
        by_cases same : m = n
        · subst same
          exact ⟨v, Or.inr ⟨rfl, there p here, rfl⟩⟩
        · obtain ⟨w, voted⟩ := ordered.voted m p (others m p same here)
          exact ⟨w, Or.inl voted⟩
      · intro m p w p' voted here
        rw [votes] at voted
        by_cases same : m = n
        · subst same
          rw [there p' here]
          rcases voted with old | ⟨-, rfl, -⟩
          · exact absurd ⟨w, old⟩ (idle.voteRnd1 p)
          · exact T.le_refl _
        · rcases voted with old | ⟨same', -, -⟩
          · exact ordered.behind m p w p' old (others m p' same here)
          · exact absurd same' same
      · intro m p w p' decided here
        rw [decisions] at decided
        by_cases same : m = n
        · subst same
          exact absurd ⟨w, decided⟩ (idle.decisionBc p)
        · exact ordered.decided m p w p' decided (others m p' same here)
  | @advances n p next q v here succ _ _ _ phases votes decisions =>
      -- the node has left `p`, the only phase that it was in
      have there : ∀ p', s'.inPhase n p' → p' = next := by
        intro p' here'
        rw [phases] at here'
        obtain ⟨old | ⟨-, same⟩, left⟩ := here'
        · exact absurd ⟨rfl, ordered.phase n p' p old here⟩ left
        · exact same
      have others : ∀ m p', m ≠ n → s'.inPhase m p' → s.inPhase m p' := by
        intro m p' other here'
        rw [phases] at here'
        exact here'.1.elim id fun same => absurd same.1 other
      refine ⟨?_, ?_, ?_, ?_, single⟩
      · intro m p₁ p₂ here₁ here₂
        by_cases same : m = n
        · subst same
          rw [there p₁ here₁, there p₂ here₂]
        · exact ordered.phase m p₁ p₂ (others m p₁ same here₁) (others m p₂ same here₂)
      · intro m p' here'
        rw [votes]
        by_cases same : m = n
        · subst same
          exact ⟨v, Or.inr ⟨rfl, there p' here', rfl⟩⟩
        · obtain ⟨w, voted⟩ := ordered.voted m p' (others m p' same here')
          exact ⟨w, Or.inl voted⟩
      · intro m p₁ w p₂ voted here'
        rw [votes] at voted
        by_cases same : m = n
        · subst same
          rw [there p₂ here']
          rcases voted with old | ⟨-, rfl, -⟩
          · exact T.le_trans _ _ _ (ordered.behind m p₁ w p old here) (T.succ_le p next succ)
          · exact T.le_refl _
        · rcases voted with old | ⟨same', -, -⟩
          · exact ordered.behind m p₁ w p₂ old (others m p₂ same here')
          · exact absurd same' same
      · intro m p₁ w p₂ decided here'
        have before : s.decisionBc m p₁ w ∨ m = n ∧ p₁ = p := by
          rcases decisions with same | ⟨-, same⟩
          · exact Or.inl (same ▸ decided)
          · rw [same] at decided
            exact decided.imp id fun now => ⟨now.1, now.2.1⟩
        by_cases same : m = n
        · subst same
          rw [there p₂ here']
          rcases before with old | ⟨-, rfl⟩
          · obtain ⟨-, below⟩ := ordered.decided m p₁ w p old here
            refine ⟨?_, T.le_trans _ _ _ below (T.succ_le p next succ)⟩
            rintro rfl
            exact T.not_le_of_succ succ below
          · exact ⟨T.succ_ne p₁ next succ, T.succ_le p₁ next succ⟩
        · rcases before with old | ⟨same', -⟩
          · exact ordered.decided m p₁ w p₂ old (others m p₂ same here')
          · exact absurd same' same

/-! ## Where votes, coins and decisions come from -/

structure Sourced (T : Theory Node SetMajority SetFPlus1 Phase) (s : State Node Phase Value) :
    Prop where
  clear : ∀ n p v, s.voteRnd1 n p v → v ≠ .vQuestion
  /-- A node that voted in round 2 voted in round 1, and votes once. -/
  after : ∀ n p v, s.voteRnd2 n p v → ∃ w, s.voteRnd1 n p w
  single : ∀ n p v v', s.voteRnd2 n p v → s.voteRnd2 n p v' → v = v'
  /-- A vote of round 2 repeats what a majority voted in round 1, or is `?` because
  votes differed. -/
  backed : ∀ n p v, s.voteRnd2 n p v → v ≠ .vQuestion →
    ∃ q, ∀ m, T.memberMaj m q → s.voteRnd1 m p v
  torn : ∀ n p, s.voteRnd2 n p .vQuestion → (∃ m, s.voteRnd1 m p .v0) ∧ ∃ m, s.voteRnd1 m p .v1
  /-- A coin is tossed once, where a majority voted `?`. -/
  coin : ∀ p v, s.coin p v → v ≠ .vQuestion ∧
    ∃ q, ∀ m, T.memberMaj m q → s.voteRnd2 m p .vQuestion
  fair : ∀ p v v', s.coin p v → s.coin p v' → v = v'
  /-- A vote in the next phase comes from round 2 of this one. -/
  carried : ∀ n p next v, T.succ p next → s.voteRnd1 n next v →
    ∃ q, (∀ m, T.memberMaj m q → ∃ w, s.voteRnd2 m p w) ∧
      ((∃ m, T.memberMaj m q ∧ s.voteRnd2 m p v) ∨
        s.coin p v ∧ ∀ m, T.memberMaj m q → s.voteRnd2 m p .vQuestion)
  /-- Enough nodes voted for what is decided. -/
  decided : ∀ n p v, s.decisionBc n p v → v ≠ .vQuestion ∧
    ∃ r, (∃ m, T.memberFp1 m r) ∧ ∀ m, T.memberFp1 m r → s.voteRnd2 m p v
  /-- The phases with votes are those that the first one leads to. -/
  counted : ∀ n p v, s.voteRnd1 n p v → Relation.ReflTransGen T.succ T.zero p

theorem sourced_init : Sourced T (State.init : State Node Phase Value) where
  clear _ _ _ voted := voted.elim
  after _ _ _ voted := voted.elim
  single _ _ _ _ voted := voted.elim
  backed _ _ _ voted := voted.elim
  torn _ _ voted := voted.elim
  coin _ _ tossed := tossed.elim
  fair _ _ _ tossed := tossed.elim
  carried _ _ _ _ _ voted := voted.elim
  decided _ _ _ decided := decided.elim
  counted _ _ _ voted := voted.elim

theorem Theory.exists_member (T : Theory Node SetMajority SetFPlus1 Phase) (q : SetMajority) :
    ∃ n, T.memberMaj n q := by
  obtain ⟨n, member, -⟩ := T.majority_meets_majority q q
  exact ⟨n, member⟩

/-- A majority that voted in round 2 without a hint voted `?`. -/
theorem undecided_of_noHint {p : Phase} {q : SetMajority} (noHint : ¬ ∃ v, Hints T s p q v)
    (heard : ∀ n, T.memberMaj n q → ∃ v, s.voteRnd2 n p v) :
    ∀ n, T.memberMaj n q → s.voteRnd2 n p .vQuestion := by
  intro n member
  obtain ⟨v, voted⟩ := heard n member
  by_cases clear : v = .vQuestion
  · exact clear ▸ voted
  · exact absurd ⟨v, clear, n, member, voted⟩ noHint

/-- Where a majority voted V0 or V1 in round 1, but not all the same, there are both. -/
theorem Sourced.torn_of_split (sourced : Sourced T s) {p : Phase} {q : SetMajority}
    (heard : ∀ n, T.memberMaj n q → ∃ v, s.voteRnd1 n p v)
    (none : ¬ ∃ v, ∀ n, T.memberMaj n q → s.voteRnd1 n p v) :
    (∃ m, s.voteRnd1 m p .v0) ∧ ∃ m, s.voteRnd1 m p .v1 := by
  have either : ∀ n, T.memberMaj n q → s.voteRnd1 n p .v0 ∨ s.voteRnd1 n p .v1 := by
    intro n member
    obtain ⟨v, voted⟩ := heard n member
    cases v with
    | v0 => exact Or.inl voted
    | v1 => exact Or.inr voted
    | vQuestion => exact absurd rfl (sourced.clear n p _ voted)
  constructor
  · by_contra noZero
    refine none ⟨.v1, fun n member => (either n member).resolve_left fun zero => ?_⟩
    exact noZero ⟨n, zero⟩
  · by_contra noOne
    refine none ⟨.v0, fun n member => (either n member).resolve_right fun one => ?_⟩
    exact noOne ⟨n, one⟩

/-- A vote of round 1 that was not there before. -/
theorem Journey.voteRnd1_cases (journey : Journey T s s') {n : Node} {p : Phase}
    {v : StateValue} (voted : s'.voteRnd1 n p v) :
    s.voteRnd1 n p v ∨ v ≠ .vQuestion ∧
      (p = T.zero ∨ ∃ before q, s.inPhase n before ∧ T.succ before p ∧
        (∀ n, T.memberMaj n q → ∃ v, s.voteRnd2 n before v) ∧ Origin T s s' before q v) := by
  cases journey with
  | stays _ votes _ =>
      rw [votes] at voted
      exact Or.inl voted
  | enters _ clear _ votes _ =>
      rw [votes] at voted
      rcases voted with old | ⟨rfl, rfl, rfl⟩
      · exact Or.inl old
      · exact Or.inr ⟨clear, Or.inl rfl⟩
  | advances here succ heard clear origin _ votes _ =>
      rw [votes] at voted
      rcases voted with old | ⟨rfl, rfl, rfl⟩
      · exact Or.inl old
      · exact Or.inr ⟨clear, Or.inr ⟨_, _, here, succ, heard, origin⟩⟩

/-- A decision that was not there before. -/
theorem Journey.decisionBc_cases (journey : Journey T s s') {n : Node} {p : Phase}
    {v : StateValue} (decided : s'.decisionBc n p v) :
    s.decisionBc n p v ∨ ∃ q, Decides T s p q v := by
  cases journey with
  | stays _ _ decisions | enters _ _ _ _ decisions =>
      rw [decisions] at decided
      exact Or.inl decided
  | advances _ _ _ _ _ _ _ decisions =>
      rcases decisions with same | ⟨enough, same⟩
      · rw [same] at decided
        exact Or.inl decided
      · rw [same] at decided
        rcases decided with old | ⟨rfl, rfl, rfl⟩
        · exact Or.inl old
        · exact Or.inr ⟨_, enough⟩

/-- A vote of round 2 that was not there before. -/
theorem Step.voteRnd2_new (step : Step T s s') {n : Node} {p : Phase} {v : StateValue}
    (voted : s'.voteRnd2 n p v) :
    s.voteRnd2 n p v ∨ s.inPhase n p ∧ ∃ q, (∀ n, T.memberMaj n q → ∃ v, s.voteRnd1 n p v) ∧
      Rnd2Value T s p q v := by
  rcases step.voteRnd2_cases with same | ⟨_, _, q, _, here, _, heard, value, same⟩
  · rw [same] at voted
    exact Or.inl voted
  · rw [same] at voted
    rcases voted with old | ⟨rfl, rfl, rfl⟩
    · exact Or.inl old
    · exact Or.inr ⟨here, q, heard, value⟩

theorem sourced_step (ordered : Ordered T s) (sourced : Sourced T s) (step : Step T s s') :
    Sourced T s' where
  clear n p v voted := by
    rcases step.journey.voteRnd1_cases voted with old | ⟨clear, -⟩
    · exact sourced.clear n p v old
    · exact clear
  after n p v voted := by
    have some : ∃ w, s.voteRnd1 n p w := by
      rcases step.voteRnd2_new voted with old | ⟨here, -⟩
      · exact sourced.after n p v old
      · exact ordered.voted n p here
    exact some.imp fun w => step.grows.voteRnd1 n p w
  single n p v v' voted voted' := by
    rcases step.voteRnd2_cases with same | ⟨_, _, _, _, _, first, _, _, same⟩
    · rw [same] at voted voted'
      exact sourced.single n p v v' voted voted'
    · rw [same] at voted voted'
      rcases voted with old | ⟨rfl, rfl, now⟩ <;> rcases voted' with old' | ⟨here', at', now'⟩
      · exact sourced.single n p v v' old old'
      · subst here' at'
        exact absurd ⟨v, old⟩ first
      · exact absurd ⟨v', old'⟩ first
      · rw [now, now']
  backed n p v voted clear := by
    have majority : ∃ q, ∀ m, T.memberMaj m q → s.voteRnd1 m p v := by
      rcases step.voteRnd2_new voted with old | ⟨-, q, -, value⟩
      · exact sourced.backed n p v old clear
      · cases value with
        | agreed all => exact ⟨q, all⟩
        | split _ => exact absurd rfl clear
    obtain ⟨q, all⟩ := majority
    exact ⟨q, fun m member => step.grows.voteRnd1 m p v (all m member)⟩
  torn n p voted := by
    have both : (∃ m, s.voteRnd1 m p .v0) ∧ ∃ m, s.voteRnd1 m p .v1 := by
      rcases step.voteRnd2_new voted with old | ⟨-, q, heard, value⟩
      · exact sourced.torn n p old
      · cases value with
        | agreed all =>
            -- nobody votes `?` in round 1
            obtain ⟨m, member⟩ := T.exists_member q
            exact absurd rfl (sourced.clear m p _ (all m member))
        | split none => exact sourced.torn_of_split heard none
    exact both.imp (.imp fun m => step.grows.voteRnd1 m p _)
      (.imp fun m => step.grows.voteRnd1 m p _)
  coin p v tossed := by
    have undecided : v ≠ .vQuestion ∧ ∃ q, ∀ m, T.memberMaj m q →
        s.voteRnd2 m p .vQuestion := by
      rcases step.coin_cases with same | ⟨_, q, _, clear, _, heard, noHint, same⟩
      · rw [same] at tossed
        exact sourced.coin p v tossed
      · rw [same] at tossed
        rcases tossed with old | ⟨rfl, rfl⟩
        · exact sourced.coin p v old
        · exact ⟨clear, q, undecided_of_noHint noHint heard⟩
    obtain ⟨clear, q, all⟩ := undecided
    exact ⟨clear, q, fun m member => step.grows.voteRnd2 m p _ (all m member)⟩
  fair p v v' tossed tossed' := by
    rcases step.coin_cases with same | ⟨_, _, _, _, noCoin, _, _, same⟩
    · rw [same] at tossed tossed'
      exact sourced.fair p v v' tossed tossed'
    · rw [same] at tossed tossed'
      rcases tossed with old | ⟨rfl, now⟩ <;> rcases tossed' with old' | ⟨at', now'⟩
      · exact sourced.fair p v v' old old'
      · subst at'
        exact absurd ⟨v, (sourced.coin p v old).1, old⟩ noCoin
      · exact absurd ⟨v', (sourced.coin p v' old').1, old'⟩ noCoin
      · rw [now, now']
  carried n p next v succ voted := by
    rcases step.journey.voteRnd1_cases voted with old | ⟨-, rfl | ⟨before, q, -, succ', heard,
        origin⟩⟩
    · obtain ⟨q, heard, origin⟩ := sourced.carried n p next v succ old
      refine ⟨q, fun m member => (heard m member).imp fun w => step.grows.voteRnd2 m p w, ?_⟩
      refine origin.imp ?_ ?_
      · exact .imp fun m => And.imp_right (step.grows.voteRnd2 m p v)
      · exact .imp (step.grows.coin p v)
          fun all m member => step.grows.voteRnd2 m p _ (all m member)
    · exact absurd succ (T.not_succ_zero p)
    · cases T.succ_injective p before next succ succ'
      refine ⟨q, fun m member => (heard m member).imp fun w => step.grows.voteRnd2 m p w, ?_⟩
      rcases origin with ⟨-, m, member, hinted⟩ | ⟨noHint, coin⟩
      · exact Or.inl ⟨m, member, step.grows.voteRnd2 m p v hinted⟩
      · refine Or.inr ⟨coin, fun m member => step.grows.voteRnd2 m p _ ?_⟩
        exact undecided_of_noHint noHint heard m member
  decided n p v decided := by
    have enough : v ≠ .vQuestion ∧ ∃ r, (∃ m, T.memberFp1 m r) ∧
        ∀ m, T.memberFp1 m r → s.voteRnd2 m p v := by
      rcases step.journey.decisionBc_cases decided with old | ⟨q, clear, m, r, member, all⟩
      · exact sourced.decided n p v old
      · exact ⟨clear, r, ⟨m, member⟩, fun m member => (all m member).2⟩
    obtain ⟨clear, r, some, all⟩ := enough
    exact ⟨clear, r, some, fun m member => step.grows.voteRnd2 m p v (all m member)⟩
  counted n p v voted := by
    rcases step.journey.voteRnd1_cases voted with old | ⟨-, rfl | ⟨before, _, here, succ, -⟩⟩
    · exact sourced.counted n p v old
    · exact .refl
    · obtain ⟨w, voted⟩ := ordered.voted n before here
      exact (sourced.counted n before w voted).tail succ

/-! ## What full decisions rest on -/

structure Final (T : Theory Node SetMajority SetFPlus1 Phase) (s : State Node Phase Value) :
    Prop where
  propose : ∀ n v v', s.propose n v → s.propose n v' → v = v'
  fullVal : ∀ n p v, s.decisionFullVal n p v → s.decisionBc n p .v1 ∧
    ∃ q, ∀ m, T.memberMaj m q → s.propose m v
  fullNoval : ∀ n p, s.decisionFullNoval n p → s.decisionBc n p .v0

theorem final_init : Final T (State.init : State Node Phase Value) where
  propose _ _ _ proposed := proposed.elim
  fullVal _ _ _ decided := decided.elim
  fullNoval _ _ decided := decided.elim

theorem Final.of_grows (final : Final T s) (grows : Grows s s') (propose : s'.propose = s.propose)
    (fullVal : s'.decisionFullVal = s.decisionFullVal)
    (fullNoval : s'.decisionFullNoval = s.decisionFullNoval) : Final T s' := by
  refine ⟨?_, ?_, ?_⟩
  · rw [propose]
    exact final.propose
  · rw [fullVal, propose]
    intro n p v decided
    exact (final.fullVal n p v decided).imp_left (grows.decisionBc n p .v1)
  · rw [fullNoval]
    intro n p decided
    exact grows.decisionBc n p .v0 (final.fullNoval n p decided)

theorem final_step (final : Final T s) (step : Step T s s') : Final T s' := by
  have grows := step.grows
  cases step with
  | initialProposal first _ =>
      refine ⟨?_, ?_, final.fullNoval⟩
      · rintro m v v' (old | ⟨rfl, now⟩) (old' | ⟨here', now'⟩)
        · exact final.propose m v v' old old'
        · subst here'
          exact absurd ⟨v, old⟩ first
        · exact absurd ⟨v', old'⟩ first
        · rw [now, now']
      · intro m p v decided
        obtain ⟨decided, q, all⟩ := final.fullVal m p v decided
        exact ⟨decided, q, fun k member => Or.inl (all k member)⟩
  | decideBcDecideFullVal decided all =>
      refine ⟨final.propose, ?_, final.fullNoval⟩
      rintro m p v (old | ⟨rfl, rfl, rfl⟩)
      · exact final.fullVal m p v old
      · exact ⟨decided, _, all⟩
  | decideBcDecideFullNoval decided =>
      refine ⟨final.propose, final.fullVal, ?_⟩
      rintro m p (old | ⟨rfl, rfl⟩)
      · exact final.fullNoval m p old
      · exact decided
  | initialVote1 _ _ _ | phaseRnd1 _ _ _ _ => exact final.of_grows grows rfl rfl rfl
  | phaseRnd2 _ _ _ _ outcome => cases outcome <;> exact final.of_grows grows rfl rfl rfl

/-! ## The invariant -/

structure Sound (T : Theory Node SetMajority SetFPlus1 Phase) (s : State Node Phase Value) :
    Prop where
  ordered : Ordered T s
  sourced : Sourced T s
  final : Final T s

theorem sound_of_reachable (reachable : Reachable T s) : Sound T s := by
  induction reachable with
  | refl => exact ⟨ordered_init, sourced_init, final_init⟩
  | tail _ step ih => exact ⟨ordered_step ih.ordered step,
      sourced_step ih.ordered ih.sourced step, final_step ih.final step⟩

end Rabia.WeakMvc
