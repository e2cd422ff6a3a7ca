import Rabia.Cluster.Agreement
import Rabia.Cluster.Domain

/-!
# Decisions on record

`set_decision` overwrites whatever the record holds. It is reached by every
round-2 vote that finds a majority and by every `Decision` message, so a decision
lasts only as long as all of these name the same value.

* `Accounted` — a majority stands behind every decision, on record or announced;
* `decisions_final` — where votes are not changed, this keeps decisions for good;
* `decision_overwritten` — where they are, a node that applied its batch goes over
  to rejecting it.
-/

namespace Rabia

open Rabia.Lib Engine

variable {SM : Type}

/-! ## What a record says of its decision -/

namespace World

/-- The decision on the record of `p` at the node `i`. -/
def decisionOf (w : World SM) (i : NodeId) (p : PhaseId) : Option StateValue :=
  ((w.engines i).getPhase p).bind (·.decision)

/-- No record that is still there gave up a decision for V0 or V1. -/
def KeepsDecisions (w w' : World SM) : Prop :=
  ∀ i p v, v ≠ .vQuestion → w.decisionOf i p = some v → (w'.engines i).getPhase p ≠ none →
    w'.decisionOf i p = some v

/-- A record is committed exactly when its decision is V0 or V1. -/
def CommitsDecided (w : World SM) : Prop :=
  ∀ i p phase, (w.engines i).getPhase p = some phase →
    (phase.isCommitted = true ↔ phase.decision = some .v0 ∨ phase.decision = some .v1)

/-- A majority cast round-2 votes for the value. -/
def Ratified (members : List NodeId) (w : World SM) (p : PhaseId) (v : StateValue) : Prop :=
  Backed members.toFinset (fun j v => w.Said j (.round2 p v)) v

theorem decisionOf_eq_some {w : World SM} {i : NodeId} {p : PhaseId} {v : StateValue} :
    w.decisionOf i p = some v ↔
      ∃ phase, (w.engines i).getPhase p = some phase ∧ phase.decision = some v :=
  Option.bind_eq_some_iff

theorem Ratified.act [StateMachine SM] {members : List NodeId} {w : World SM} {p : PhaseId}
    {v : StateValue} (h : w.Ratified members p v) (node : NodeId) (env : Env) (event : Event) :
    (w.act node env event).Ratified members p v :=
  h.mono fun _ voted => voted.act node env event

end World

/-- A majority stands behind every decision on record and every one announced. -/
structure Accounted (members : List NodeId) (w : World SM) : Prop where
  recorded : ∀ i p v, w.decisionOf i p = some v → w.Ratified members p v
  announced : ∀ i p v batch, w.Said i (.decision p v batch) → w.Ratified members p v

theorem accounted_start (members : List NodeId) (config : NodeId → RabiaConfig)
    (stateMachine : NodeId → SM) :
    Accounted members (Cluster.start members config stateMachine).toWorld where
  recorded _ _ _ decided := nomatch decided
  announced _ _ _ _ said := absurd said List.not_mem_nil

theorem commitsDecided_start (members : List NodeId) (config : NodeId → RabiaConfig)
    (stateMachine : NodeId → SM) :
    (Cluster.start members config stateMachine).toWorld.CommitsDecided :=
  fun _ _ _ present => nomatch present

section Act

variable [StateMachine SM] {members : List NodeId} {w : World SM} {node : NodeId} {env : Env}
  {event : Event}

/-- The decision on a record of the acting engine has a ruling; the others keep theirs. -/
theorem ruling_of_act {i : NodeId} {p : PhaseId} {phase' : PhaseData}
    (present : ((w.act node env event).engines i).getPhase p = some phase') :
    (w.engines i).getPhase p = some phase' ∨
      i = node ∧ Ruling env (w.engines node) p (handle env event (w.engines node)).effects
        event phase' := by
  by_cases same : i = node
  · subst same
    rw [World.act_engines_self] at present
    exact Or.inr ⟨rfl, ruling_of_deed (deed_of_handle env event (w.engines i)) present⟩
  · rw [World.act_engines_of_ne w env event same] at present
    exact Or.inl present

theorem accounted_act (traced : Traced members w)
    (traced' : Traced members (w.act node env event)) (genuine : w.Genuine members node event)
    (accounted : Accounted members w) : Accounted members (w.act node env event) := by
  constructor
  · intro i p v decided
    obtain ⟨phase', present, decision⟩ := World.decisionOf_eq_some.mp decided
    rcases ruling_of_act present with old | ⟨rfl, ruling⟩
    · have before := World.decisionOf_eq_some.mpr ⟨phase', old, decision⟩
      exact (accounted.recorded i p v before).act node env event
    cases ruling with
    | kept before same _ =>
        rw [same] at decision
        have before := World.decisionOf_eq_some.mpr ⟨_, before, decision⟩
        exact (accounted.recorded i p v before).act i env event
    | fresh absent => cases decision
    | tallied before said ruled =>
        rw [ruled.decision] at decision
        cases decision
        exact traced'.decided i p v (World.said_of_effect said rfl)
    | learned before received about ruled =>
        rw [ruled.decision] at decision
        cases decision
        subst about
        exact (accounted.announced _ _ _ _ (said_of_received genuine received rfl)).act i env _
  · intro i p v batch said
    rcases reason_of_said said with old | ⟨rfl, reason⟩
    · exact (accounted.announced i p v batch old).act node env event
    · cases reason with
      | decision received present majority =>
          have ratified : w.Ratified members _ v :=
            traced.named2 genuine received present majority
          exact ratified.act i env _

theorem commitsDecided_act (settled : Settled w) (settled' : Settled (w.act node env event))
    (genuine : w.Genuine members node event) (commits : w.CommitsDecided) :
    (w.act node env event).CommitsDecided := by
  intro i p phase' present
  rcases ruling_of_act present with old | ⟨rfl, ruling⟩
  · exact commits i p phase' old
  cases ruling with
  | kept before decision isCommitted =>
      rw [decision, isCommitted]
      exact commits i p _ before
  | fresh absent =>
      refine iff_of_false ?_ ?_
      · exact Bool.noConfusion
      · rintro (decided | decided)
        · cases decided
        · cases decided
  | tallied before said ruled =>
      exact ruled.commits (settled'.decided i p _ (World.said_of_effect said rfl))
  | learned before received about ruled =>
      have clear := settled.decision _ _ _ _ (said_of_received genuine received rfl)
      exact ruled.commits clear

omit [StateMachine SM] in
/-- One value of a phase is ratified when nobody votes for two. -/
theorem SingleRound2.ratified {p : PhaseId} {v v' : StateValue} (single : SingleRound2 w)
    (h : w.Ratified members p v) (h' : w.Ratified members p v') : v = v' :=
  Backed.unique (fun k => single.single k p) h h'

theorem keepsDecisions_act (single' : SingleRound2 (w.act node env event))
    (accounted : Accounted members w) (accounted' : Accounted members (w.act node env event)) :
    w.KeepsDecisions (w.act node env event) := by
  intro i p v clear decided there
  obtain ⟨phase, present, decision⟩ := World.decisionOf_eq_some.mp decided
  obtain ⟨phase', present'⟩ := Option.ne_none_iff_exists'.mp there
  refine World.decisionOf_eq_some.mpr ⟨phase', present', ?_⟩
  -- a decision on record before and one on record now are backed by majorities that meet
  have agrees : ∀ v', phase'.decision = some v' → phase'.decision = some v := by
    intro v' decision'
    have now := accounted'.recorded i p v' (World.decisionOf_eq_some.mpr ⟨_, present', decision'⟩)
    have before := (accounted.recorded i p v decided).act node env event
    rw [decision', single'.ratified now before]
  rcases ruling_of_act present' with old | ⟨rfl, ruling⟩
  · rw [present] at old
    cases old
    exact decision
  cases ruling with
  | kept before same _ =>
      rw [present] at before
      cases before
      rw [same, decision]
  | fresh absent =>
      rw [present] at absent
      cases absent
  | tallied _ _ ruled => exact agrees _ ruled.decision
  | learned _ _ _ ruled => exact agrees _ ruled.decision

end Act

/-! ## The result -/

variable [StateMachine SM]

/-- What is decided stays: on its record for as long as that is there, and as the only
value that a record of the node shows for the phase later on. And a record tells by
`is_committed` that it is decided. -/
structure DecisionsFinal (members : List NodeId) (config : NodeId → RabiaConfig)
    (stateMachine : NodeId → SM) (actions : List Action) : Prop where
  kept : Along (Cluster.step members)
    (fun c action => c.toWorld.KeepsDecisions (c.step members action).toWorld)
    (Cluster.start members config stateMachine) actions
  lasting : ∀ earlier later, actions = earlier ++ later → ∀ i p v v',
    (Cluster.world members config stateMachine earlier).decisionOf i p = some v →
      (Cluster.world members config stateMachine actions).decisionOf i p = some v' → v = v'
  committed : (Cluster.world members config stateMachine actions).CommitsDecided

/-- What the votes and the decisions of a run go by when no vote is changed. -/
structure Steadfast (members : List NodeId) (w : World SM) : Prop where
  single : SingleRound2 w
  settled : Settled w
  accounted : Accounted members w
  commits : w.CommitsDecided

omit [StateMachine SM] in
theorem steadfast_start (members : List NodeId) (config : NodeId → RabiaConfig)
    (stateMachine : NodeId → SM) :
    Steadfast members (Cluster.start members config stateMachine).toWorld where
  single := singleRound2_start members config stateMachine
  settled := settled_start members config stateMachine
  accounted := accounted_start members config stateMachine
  commits := commitsDecided_start members config stateMachine

theorem steadfast_act {members : List NodeId} {w : World SM} {node : NodeId} {env : Env}
    {event : Event} (traced : Traced members w) (traced' : Traced members (w.act node env event))
    (genuine : w.Genuine members node event) (steadfast : Steadfast members w)
    (ok : PhaseRecordsPresent w node env event ∧ Reaffirms w node env event) :
    Steadfast members (w.act node env event) := by
  have settled' : Settled (w.act node env event) :=
    settled_act traced genuine steadfast.settled
  refine ⟨?_, settled', ?_, ?_⟩
  · exact singleRound2_act traced genuine steadfast.single ok.1 ok.2
  · exact accounted_act traced traced' genuine steadfast.accounted
  · exact commitsDecided_act steadfast.settled settled' genuine steadfast.commits

/-- What was said stays said for the rest of the run. -/
theorem said_run {members : List NodeId} {c : Cluster SM} {i : NodeId} {u : Utterance}
    (said : c.toWorld.Said i u) (later : List Action) :
    (run (Cluster.step members) c later).toWorld.Said i u := by
  induction later generalizing c with
  | nil => exact said
  | cons action later ih =>
      apply ih
      unfold Cluster.step
      cases c.occurrence members action with
      | none => exact said
      | some o => exact said.act o.1 o.2.1 o.2.2

/-- Where no engine that enters round 2 again comes out with another vote than it
recorded, decisions are final. -/
theorem decisions_final (members : List NodeId) (config : NodeId → RabiaConfig)
    (stateMachine : NodeId → SM) (actions : List Action)
    (meets : Cluster.Meets members config stateMachine
      (fun w node env event => PhaseRecordsPresent w node env event ∧
        Reaffirms w node env event) actions) :
    DecisionsFinal members config stateMachine actions := by
  have start := steadfast_start members config stateMachine
  have reached : ∀ actions, Cluster.Meets members config stateMachine
      (fun w node env event => PhaseRecordsPresent w node env event ∧
        Reaffirms w node env event) actions →
      Steadfast members (Cluster.world members config stateMachine actions) :=
    fun _ meets => (traced_invariant (fun _ _ _ _ => steadfast_act) start meets).2
  refine ⟨?_, ?_, (reached actions meets).commits⟩
  · refine traced_along (fun _ _ _ _ => steadfast_act) ?_ ?_ start meets
    · intro w i p v _ decided _
      exact decided
    · intro w node env event _ _ _ steadfast steadfast' _
      exact keepsDecisions_act steadfast'.single steadfast.accounted steadfast'.accounted
  · rintro earlier later rfl i p v v' before after
    have steadfast := reached _ (along_append.mp meets).1
    have steadfast' := reached _ meets
    have ratified : (Cluster.world members config stateMachine (earlier ++ later)).Ratified
        members p v := by
      refine (steadfast.accounted.recorded i p v before).mono fun j voted => ?_
      unfold Cluster.world
      rw [run_append]
      exact said_run voted later
    exact steadfast'.single.ratified ratified (steadfast'.accounted.recorded i p v' after)

theorem decisions_final_two_proposers :
    (worldOf 3 (twoProposers 65 65)).decisionOf ⟨0⟩ 1 = some .v1 ∧
      DecisionsFinal (nodesBelow 3) newConfig emptyLog (twoProposers 65 65) :=
  ⟨by decide +kernel,
    decisions_final (nodesBelow 3) newConfig emptyLog (twoProposers 65 65) (by decide +kernel)⟩

/-- Node 4 decides V1 and applies the batch. Then the decision of node 3 arrives,
which is V0. -/
theorem decision_overwritten :
    Cluster.Meets (nodesBelow 5) newConfig emptyLog PhaseRecordsPresent
        (changedVotes ++ [delivering 21 true]) ∧
      ¬ DecisionsFinal (nodesBelow 5) newConfig emptyLog
        (changedVotes ++ [delivering 21 true]) := by
  refine ⟨by decide +kernel, fun final => ?_⟩
  have differ := final.lasting changedVotes [delivering 21 true] rfl ⟨4⟩ 1 .v1 .v0
    (by decide +kernel) (by decide +kernel)
  cases differ

end Rabia
