import Rabia.Cluster.Voting

/-!
# Agreement

What the cluster agrees on, and under which conditions on its events:

* `votes_single` — a node casts one vote a round;
* `round2_votes_backed` — the rule of the Ivy model for round-2 votes;
* `decisions_agree` — one value is decided in a phase;
* `batches_agree` — one batch is applied in a phase.

Each of these follows from the invariants of `Traced` and `Voting` at the end of
the run, and is followed by a run of the engines that breaks it without its condition.
-/

namespace Rabia

open Rabia.Lib Engine

variable {SM : Type} [StateMachine SM]

/-! ## Runs of a new cluster

The runs that this module looks at start from new engines with empty logs. -/

/-- The nodes `0` to `n - 1`. -/
def nodesBelow (n : Nat) : List NodeId := (List.range n).map NodeId.mk

def newConfig : NodeId → RabiaConfig := fun _ => ⟨10⟩

def emptyLog : NodeId → ByteLog := fun _ => ⟨[]⟩

/-- A node makes a record of phase 1. -/
def creating (node : Nat) : Action := .atNode ⟨node⟩ {} (.createPhase 1)

/-- A client submits, at a node, a batch that writes the byte `b`. -/
def submitting (node : Nat) (b : UInt8) : Action :=
  .atNode ⟨node⟩ {} (.command (.processBatch ⟨writing b, 0⟩))

/-- A message on its way is delivered, and its receiver draws `draw`. -/
def delivering (index : Nat) (draw : Bool) : Action := .deliver index { draw }

/-- Two of three nodes propose in phase 1, and messages arrive in the order in
which they were sent. -/
def twoProposers (first second : UInt8) : List Action :=
  (List.range 3).map creating ++ [submitting 0 first, submitting 1 second] ++
    List.replicate 20 (delivering 0 true)

/-- The world after these actions in a new cluster of `n` nodes. -/
def worldOf (n : Nat) (actions : List Action) : World ByteLog :=
  Cluster.world (nodesBelow n) newConfig emptyLog actions

/-! ## One vote a round -/

/-- A node casts one vote a round. -/
def World.VotesSingle (w : World SM) : Prop :=
  ∀ i p v v', (w.Said i (.round1 p v) → w.Said i (.round1 p v') → v = v') ∧
    (w.Said i (.round2 p v) → w.Said i (.round2 p v') → v = v')

/-- Where no engine answers a further proposal after answering `?`, and no engine
that enters round 2 again comes out with another vote than it recorded, a node
casts one vote a round. -/
theorem votes_single (members : List NodeId) (config : NodeId → RabiaConfig)
    (stateMachine : NodeId → SM) (actions : List Action)
    (meets : Cluster.Meets members config stateMachine
      (fun w node env event => PhaseRecordsPresent w node env event ∧
        AnswersOnce w node env event ∧ Reaffirms w node env event) actions) :
    (Cluster.world members config stateMachine actions).VotesSingle := by
  have both := traced_invariant (I := fun w => SingleRound1 w ∧ SingleRound2 w)
    (fun w node env event traced traced' genuine holds ok =>
      ⟨singleRound1_act traced traced' genuine holds.1 ok.1 ok.2.1,
        singleRound2_act traced genuine holds.2 ok.1 ok.2.2⟩)
    ⟨singleRound1_start members config stateMachine,
      singleRound2_start members config stateMachine⟩ meets
  intro i p v v'
  exact ⟨both.2.1.single i p v v', both.2.2.single i p v v'⟩

theorem votes_single_two_proposers :
    (worldOf 3 (twoProposers 65 65)).Said ⟨2⟩ (.round1 1 .v1) ∧
      (worldOf 3 (twoProposers 65 65)).VotesSingle :=
  ⟨by decide +kernel,
    votes_single (nodesBelow 3) newConfig emptyLog (twoProposers 65 65) (by decide +kernel)⟩

/-- Node 2 answers the proposal of node 0 with `?` and that of node 1 with V1. -/
def answeredTwice : List Action :=
  (List.range 3).map creating ++
    [submitting 0 65, submitting 1 65, delivering 1 false, delivering 2 true]

theorem votes_differ :
    Cluster.Meets (nodesBelow 3) newConfig emptyLog PhaseRecordsPresent answeredTwice ∧
      ¬ (worldOf 3 answeredTwice).VotesSingle := by
  refine ⟨by decide +kernel, fun single => ?_⟩
  have differ := (single ⟨2⟩ 1 .vQuestion .v1).1 (by decide +kernel) (by decide +kernel)
  cases differ

/-! ## Round-2 votes -/

/-- A round-2 vote has a majority of round-1 votes behind it. -/
def BackedRound2 (members : List NodeId) (w : World SM) : Prop :=
  ∀ i p v, w.Said i (.round2 p v) →
    v ≠ .vQuestion ∧ Backed members.toFinset (fun j v => w.Said j (.round1 p v)) v

theorem backedRound2_act {members : List NodeId} {w : World SM} {node : NodeId} {env : Env}
    {event : Event} (traced : Traced members w) (genuine : w.Genuine members node event)
    (backed : BackedRound2 members w) (conclusive : Conclusive w node env event) :
    BackedRound2 members (w.act node env event) := by
  intro i p v said
  rcases reason_of_said said with old | ⟨rfl, reason⟩
  · obtain ⟨clear, behind⟩ := backed i p v old
    exact ⟨clear, behind.mono fun j voted => voted.act node env event⟩
  · generalize same : Utterance.round2 p v = u at reason
    cases reason with
    | @round2 sender message m phase result received present reached =>
        cases same
        have clear := conclusive _ (entryOf_received received present reached)
        have majority := majority_of_round1Result reached clear
        have voted : ∀ j v, (phase.addRound1Vote sender m.vote).round1Votes.lookup j = some v →
            j ∈ members ∧ w.Said j (.round1 m.phaseId v) := fun j v counted =>
          have said := traced.tally1 genuine received present counted
          ⟨traced.member j _ said, said⟩
        -- with an outcome there is no draw
        have unchanged : round2VoteFor env.draw
            (phase.addRound1Vote sender m.vote).round1Votes result = result := by
          cases result with
          | v0 => rfl
          | v1 => rfl
          | vQuestion => exact absurd rfl clear
        rw [unchanged]
        refine ⟨clear, (backed_of_tally (traced.quorum i) voted majority).mono fun j voted => ?_⟩
        exact voted.act i env _
    | _ => cases same

/-- A majority of round-1 votes stands behind every round-2 vote for V0 or V1, and
all of these votes of a phase agree. -/
def World.Round2VotesBacked (members : List NodeId) (w : World SM) : Prop :=
  ∀ i p v, v ≠ .vQuestion → w.Said i (.round2 p v) →
    Backed members.toFinset (fun j v => w.Said j (.round1 p v)) v ∧
      ∀ j v', v' ≠ .vQuestion → w.Said j (.round2 p v') → v = v'

/-- Where round 2 is entered only with a majority for V0 or V1 in round 1, round-2
votes keep the rule. -/
theorem round2_votes_backed (members : List NodeId) (config : NodeId → RabiaConfig)
    (stateMachine : NodeId → SM) (actions : List Action)
    (meets : Cluster.Meets members config stateMachine Conclusive actions) :
    (Cluster.world members config stateMachine actions).Round2VotesBacked members := by
  obtain ⟨traced, backed⟩ := traced_invariant (I := BackedRound2 members)
    (fun w node env event traced _ genuine holds ok => backedRound2_act traced genuine holds ok)
    (fun i p v said => absurd said List.not_mem_nil) meets
  -- nobody votes V0 in round 1, so only V1 can be backed
  have onlyOne : ∀ i p v,
      (Cluster.world members config stateMachine actions).Said i (.round2 p v) → v = .v1 := by
    intro i p v said
    obtain ⟨clear, behind⟩ := backed i p v said
    obtain ⟨j, -, voted⟩ := behind.exists
    have notZero := traced.round1 j p v voted
    cases v with
    | v0 => exact absurd rfl notZero
    | v1 => rfl
    | vQuestion => exact absurd rfl clear
  intro i p v _ said
  refine ⟨(backed i p v said).2, fun j v' _ said' => ?_⟩
  rw [onlyOne i p v said, onlyOne j p v' said']

theorem round2_votes_backed_two_proposers :
    (worldOf 3 (twoProposers 65 65)).Said ⟨0⟩ (.round2 1 .v1) ∧
      (worldOf 3 (twoProposers 65 65)).Round2VotesBacked (nodesBelow 3) :=
  ⟨by decide +kernel, round2_votes_backed (nodesBelow 3) newConfig emptyLog
    (twoProposers 65 65) (by decide +kernel)⟩

/-- Node 0 hears `?` from one node and V1 from the other, and draws. -/
def drawnWithoutMajority : List Action :=
  (List.range 3).map creating ++ [submitting 0 65, delivering 0 false, delivering 0 true,
    delivering 0 true, delivering 0 false]

/-- It votes V0 in round 2, in a phase in which nobody voted V0 in round 1. -/
theorem round2_vote_unbacked :
    Cluster.Meets (nodesBelow 3) newConfig emptyLog PhaseRecordsPresent
        drawnWithoutMajority ∧
      ¬ (worldOf 3 drawnWithoutMajority).Round2VotesBacked (nodesBelow 3) := by
  refine ⟨by decide +kernel, fun backed => ?_⟩
  have behind := (backed ⟨0⟩ 1 .v0 (by decide) (by decide +kernel)).1
  revert behind
  decide +kernel

/-! ## Decisions -/

/-- One value is decided in a phase. -/
def World.DecisionsAgree (w : World SM) : Prop :=
  ∀ i j p v v', w.Said i (.decided p v) → w.Said j (.decided p v') → v = v'

/-- Where no engine that enters round 2 again comes out with another vote than it
recorded, one value is decided in a phase. -/
theorem decisions_agree (members : List NodeId) (config : NodeId → RabiaConfig)
    (stateMachine : NodeId → SM) (actions : List Action)
    (meets : Cluster.Meets members config stateMachine
      (fun w node env event => PhaseRecordsPresent w node env event ∧
        Reaffirms w node env event) actions) :
    (Cluster.world members config stateMachine actions).DecisionsAgree := by
  obtain ⟨traced, single⟩ := traced_invariant (I := SingleRound2)
    (fun w node env event traced _ genuine holds ok =>
      singleRound2_act traced genuine holds ok.1 ok.2)
    (singleRound2_start members config stateMachine) meets
  intro i j p v v' said said'
  exact (traced.decided i p v said).unique (fun k => single.single k p)
    (traced.decided j p v' said')

theorem decisions_agree_two_proposers :
    (worldOf 3 (twoProposers 65 65)).Said ⟨0⟩ (.decided 1 .v1) ∧
      (worldOf 3 (twoProposers 65 65)).DecisionsAgree :=
  ⟨by decide +kernel,
    decisions_agree (nodesBelow 3) newConfig emptyLog (twoProposers 65 65) (by decide +kernel)⟩

/-- The nodes 0, 1 and 2 of five vote V0 and then V1 in round 2. The votes for V0
arrive at node 3 and those for V1 at node 4. -/
def changedVotes : List Action :=
  (List.range 5).map creating ++
    [submitting 2 65, delivering 0 false, submitting 0 65, submitting 1 65] ++
    -- the other proposals: `?` from nodes 3 and 4, then V1 from all
    [(6, false), (10, false), (4, true), (4, true), (4, true), (4, true), (4, true),
      (4, true), (0, true), (0, true), (0, true),
    -- round-1 votes to the nodes 0, 1 and 2: each hears `?` and V1 twice, draws V0,
    -- and has a majority for V1 with the next vote
      (1, true), (2, true), (2, false), (2, true), (1, true), (1, true), (1, false),
      (1, true), (0, true), (0, true), (0, false), (0, true),
    -- round-2 votes
      (2, true), (9, true), (16, true), (6, true), (12, true), (18, true)].map
      fun (index, draw) => delivering index draw

/-- Node 3 decides V0 and node 4 decides V1. -/
theorem decisions_differ :
    Cluster.Meets (nodesBelow 5) newConfig emptyLog PhaseRecordsPresent changedVotes ∧
      ¬ (worldOf 5 changedVotes).DecisionsAgree := by
  refine ⟨by decide +kernel, fun agree => ?_⟩
  have differ := agree ⟨3⟩ ⟨4⟩ 1 .v0 .v1 (by decide +kernel) (by decide +kernel)
  cases differ

/-! ## Batches -/

/-- The batch a client submits with an event. -/
def submittedBatch : Event → Option CommandBatch
  | .command (.processBatch request) => some request.batch
  | _ => none

/-- The batch of an utterance that proposes one in the phase `p`. -/
def Utterance.proposedBatch (p : PhaseId) : Utterance → Option CommandBatch
  | .proposal q _ batch => if q = p then batch else none
  | _ => none

/-- What an engine proposes is what was proposed in that phase before, if anything was. -/
def OneBatch (w : World SM) (node : NodeId) (_env : Env) (event : Event) : Prop :=
  ∀ batch ∈ submittedBatch event, (w.engines node).engineState.hasQuorum = true →
    ∀ said ∈ w.utterances, ∀ other ∈ said.2.proposedBatch (nextPhase (w.engines node)),
      other = batch

instance (w : World SM) (node : NodeId) (env : Env) (event : Event) :
    Decidable (OneBatch w node env event) :=
  inferInstanceAs (Decidable (∀ batch ∈ submittedBatch event, _))

/-- One batch is proposed in a phase. -/
def SingleProposal (w : World SM) : Prop :=
  ∀ p batch batch', w.Proposed p batch → w.Proposed p batch' → batch = batch'

theorem singleProposal_act {w : World SM} {node : NodeId} {env : Env} {event : Event}
    (single : SingleProposal w) (one : OneBatch w node env event) :
    SingleProposal (w.act node env event) := by
  -- a batch proposed now is the one that was proposed before
  have agrees : ∀ p batch batch',
      Reason env (w.engines node) event (.proposal p .v1 (some batch)) →
        w.Proposed p batch' → batch' = batch := by
    intro p batch batch' reason old
    obtain ⟨i, said⟩ := old
    cases reason with
    | proposal quorum => exact one _ rfl quorum _ said batch' (if_pos rfl)
  have now : ∀ p batch batch',
      Reason env (w.engines node) event (.proposal p .v1 (some batch)) →
        Reason env (w.engines node) event (.proposal p .v1 (some batch')) → batch' = batch := by
    intro p batch batch' reason reason'
    cases reason with
    | proposal quorum =>
        cases reason' with
        | proposal quorum' => rfl
  rintro p batch batch' ⟨i, said⟩ ⟨j, said'⟩
  rcases reason_of_said said with old | ⟨-, reason⟩
  · rcases reason_of_said said' with old' | ⟨-, reason'⟩
    · exact single p batch batch' ⟨i, old⟩ ⟨j, old'⟩
    · exact agrees p batch' batch reason' ⟨i, old⟩
  · rcases reason_of_said said' with old' | ⟨-, reason'⟩
    · exact (agrees p batch batch' reason ⟨j, old'⟩).symm
    · exact now p batch' batch reason' reason

/-- One batch is applied in a phase. -/
def World.BatchesAgree (w : World SM) : Prop :=
  ∀ i j p batch batch', w.Said i (.applied p batch) → w.Said j (.applied p batch') →
    batch = batch'

/-- Where all proposals of a phase carry one batch, one batch is applied in a phase. -/
theorem batches_agree (members : List NodeId) (config : NodeId → RabiaConfig)
    (stateMachine : NodeId → SM) (actions : List Action)
    (meets : Cluster.Meets members config stateMachine OneBatch actions) :
    (Cluster.world members config stateMachine actions).BatchesAgree := by
  obtain ⟨traced, single⟩ := traced_invariant (I := SingleProposal)
    (fun w node env event _ _ _ holds ok => singleProposal_act holds ok)
    (fun p batch batch' proposed => absurd proposed.choose_spec List.not_mem_nil) meets
  intro i j p batch batch' said said'
  exact single p batch batch' (traced.applied i p batch said) (traced.applied j p batch' said')

theorem batches_agree_two_proposers :
    (worldOf 3 (twoProposers 65 65)).Said ⟨0⟩ (.applied 1 (writing 65)) ∧
      (worldOf 3 (twoProposers 65 65)).BatchesAgree :=
  ⟨by decide +kernel,
    batches_agree (nodesBelow 3) newConfig emptyLog (twoProposers 65 65) (by decide +kernel)⟩

/-- Each of two proposers applies the batch that it proposed. -/
theorem batches_differ :
    Cluster.Meets (nodesBelow 3) newConfig emptyLog PhaseRecordsPresent
        (twoProposers 65 66) ∧
      ¬ (worldOf 3 (twoProposers 65 66)).BatchesAgree := by
  refine ⟨by decide +kernel, fun agree => ?_⟩
  have differ := agree ⟨0⟩ ⟨1⟩ 1 (writing 65) (writing 66) (by decide +kernel)
    (by decide +kernel)
  revert differ
  decide

end Rabia
