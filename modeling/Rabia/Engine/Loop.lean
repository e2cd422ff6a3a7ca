import Rabia.Engine.Run

/-!
# The run loop

`RabiaEngine::run`: initialise, then turn after turn take in the messages that have
arrived and serve whichever branch of the `select!` is ready first. A handler's error
is logged and the loop goes on. Only a closed command channel ends it: `Shutdown` is
answered with an error like any other, so taking it is a turn in which nothing
happens (`turn_shutdown`), and the loop stops afterwards exactly when nothing comes in
before the channel is closed (`stops_iff`).
-/

namespace Rabia

open Rabia.Lib Engine

/-- The branch of the `select!` that was ready, with the surroundings of its handler. -/
inductive Branch where
  /-- `command_rx.recv()` returned; `none` when the channel is closed. -/
  | command (env : Env) (command : Option EngineCommand)
  | cleanup (env : Env)
  | heartbeat (env : Env)
  | sleep

/-- What one turn of the loop meets. -/
structure Turn where
  /-- The messages that `receive_messages` collected, none when it failed: it fails
  only at its first message, and the buffer was emptied in the turn before. -/
  received : List (Env × NodeId × ProtocolMessage)
  branch : Branch

namespace Turn

/-- The handlers that the turn calls for messages. -/
def messages (t : Turn) : List (Env × Event) :=
  t.received.map fun r => (r.1, .message r.2.1 r.2.2)

/-- The handler that the turn calls for its branch. -/
def served (t : Turn) : List (Env × Event) :=
  match t.branch with
  | .command env (some command) => [(env, .command command)]
  | .cleanup env => [(env, .cleanup)]
  | .heartbeat env => [(env, .heartbeat)]
  | .command _ none | .sleep => []

/-- The command channel is closed. -/
def Closes (t : Turn) : Prop := ∃ env, t.branch = .command env none

/-- The turn takes a command. -/
def Takes (t : Turn) (command : EngineCommand) : Prop :=
  ∃ env, t.branch = .command env (some command)

/-- No message and no command is handed to a handler in the turn. -/
def Quiet (t : Turn) : Prop := t.received = [] ∧ ∀ command, ¬ t.Takes command

/-- The turn without its messages and its command. -/
def withoutRequests (t : Turn) : Turn where
  received := []
  branch := match t.branch with
    | .command _ (some _) => .sleep
    | branch => branch

instance (t : Turn) : Decidable t.Closes :=
  match h : t.branch with
  | .command env none => isTrue ⟨env, h⟩
  | .command _ (some _) | .cleanup _ | .heartbeat _ | .sleep =>
    isFalse fun ⟨_, same⟩ => by rw [h] at same; cases same

end Turn

/-- The loop with everything that it handled. -/
structure Loop (SM : Type) where
  run : Run SM
  handled : List (Env × Event)
  /-- What `run` returned, once it has. -/
  returned : Option (Except RabiaError Unit)

namespace Loop

variable {SM : Type} [StateMachine SM]

/-- `run` up to the loop. It returns when `initialize` fails. -/
def start (env : Env) (e : RabiaEngine SM) : Loop SM :=
  let o := initializeEngine env e
  ⟨⟨o.state, o.effects⟩, [], match o.result with
    | .ok _ => none
    | .error err => some (.error err)⟩

/-- One turn. -/
def turn (l : Loop SM) (t : Turn) : Loop SM :=
  match l.returned with
  | some _ => l
  | none =>
    let inputs := t.messages ++ t.served
    ⟨Lib.run Run.step l.run inputs, l.handled ++ inputs,
      if t.Closes then some (.ok ()) else none⟩

/-- The loop has not returned. -/
def Live (l : Loop SM) : Prop := l.returned = none

/-- The messages and commands among what was handled. -/
def requests (inputs : List (Env × Event)) : List (Env × Event) :=
  inputs.filter fun input =>
    match input.2 with
    | .message _ _ | .command _ => true
    | _ => false

/-! ## Turns -/

theorem turn_of_live {l : Loop SM} (live : l.Live) (t : Turn) :
    l.turn t = ⟨Lib.run Run.step l.run (t.messages ++ t.served),
      l.handled ++ (t.messages ++ t.served), if t.Closes then some (.ok ()) else none⟩ := by
  unfold turn
  rw [show l.returned = none from live]

theorem turn_of_returned {l : Loop SM} (done : ¬ l.Live) (t : Turn) : l.turn t = l := by
  unfold turn
  cases h : l.returned with
  | none => exact absurd h done
  | some result => rfl

/-- Nothing happens after the loop has returned. -/
theorem run_of_returned {l : Loop SM} (done : ¬ l.Live) (turns : List Turn) :
    Lib.run turn l turns = l := by
  induction turns with
  | nil => rfl
  | cons t turns ih => rw [run_cons, turn_of_returned done, ih]

/-- A loop is live as long as the channel was not closed. -/
theorem live_turn_iff {l : Loop SM} (live : l.Live) (t : Turn) :
    (l.turn t).Live ↔ ¬ t.Closes := by
  rw [turn_of_live live]
  unfold Live
  by_cases closes : t.Closes <;> simp [closes]

theorem live_run_iff {l : Loop SM} (live : l.Live) (turns : List Turn) :
    (Lib.run turn l turns).Live ↔ ∀ t ∈ turns, ¬ t.Closes := by
  induction turns generalizing l with
  | nil => exact iff_of_true live fun t member => nomatch member
  | cons t turns ih =>
      rw [run_cons, List.forall_mem_cons, ← live_turn_iff live t]
      by_cases next : (l.turn t).Live
      · simp [ih next, next]
      · simp [run_of_returned next, next]

/-! ## What is handled -/

theorem requests_append (inputs inputs' : List (Env × Event)) :
    requests (inputs ++ inputs') = requests inputs ++ requests inputs' := List.filter_append ..

theorem requests_eq_nil_iff (t : Turn) : requests (t.messages ++ t.served) = [] ↔ t.Quiet := by
  obtain ⟨received, branch⟩ := t
  rw [requests_append, List.append_eq_nil_iff]
  apply and_congr
  · cases received <;> simp [requests, Turn.messages]
  · cases branch with
    | command env command =>
        cases command <;> simp [requests, Turn.served, Turn.Takes]
    | cleanup _ | heartbeat _ | sleep => simp [requests, Turn.served, Turn.Takes]

theorem withoutRequests_of_quiet {t : Turn} (quiet : t.Quiet) : t.withoutRequests = t := by
  obtain ⟨received, branch⟩ := t
  obtain ⟨rfl, untaken⟩ := quiet
  cases branch with
  | command env command =>
      cases command with
      | none => rfl
      | some command => exact absurd ⟨env, rfl⟩ (untaken command)
  | cleanup _ | heartbeat _ | sleep => rfl

/-- What was handled stays handled. -/
theorem handled_run (l : Loop SM) (turns : List Turn) :
    ∃ more, (Lib.run turn l turns).handled = l.handled ++ more := by
  induction turns generalizing l with
  | nil => exact ⟨[], (List.append_nil _).symm⟩
  | cons t turns ih =>
      rw [run_cons]
      obtain ⟨more, later⟩ := ih (l.turn t)
      by_cases live : l.Live
      · rw [turn_of_live live] at later ⊢
        exact ⟨(t.messages ++ t.served) ++ more, by rw [later, List.append_assoc]⟩
      · rw [turn_of_returned live] at later ⊢
        exact ⟨more, later⟩

/-! ## Shutdown -/

/-- Taking `Shutdown` changes nothing and says nothing: the turn is one in which no
branch was ready. -/
theorem turn_shutdown {l : Loop SM} {t : Turn} (live : l.Live) (takes : t.Takes .shutdown) :
    (l.turn t).run = (l.turn { t with branch := .sleep }).run ∧
      (l.turn t).returned = (l.turn { t with branch := .sleep }).returned := by
  obtain ⟨received, branch⟩ := t
  obtain ⟨env, rfl⟩ := takes
  rw [turn_of_live live, turn_of_live live]
  refine ⟨?_, by simp [Turn.Closes]⟩
  show Lib.run Run.step l.run (Turn.messages ⟨received, .sleep⟩ ++ [(env, .command .shutdown)]) =
    Lib.run Run.step l.run (Turn.messages ⟨received, .sleep⟩ ++ [])
  rw [run_append, List.append_nil, run_cons]
  generalize Lib.run Run.step l.run _ = r
  show Run.mk r.engine (r.trace ++ []) = r
  rw [List.append_nil]

/-- After this the loop hands nothing to a handler that came in, returns, and ends as if
nothing had come in. -/
structure Stops (l : Loop SM) (after : List Turn) : Prop where
  unhandled : requests (Lib.run turn l after).handled = requests l.handled
  returns : ¬ (Lib.run turn l after).Live
  unchanged : (Lib.run turn l after).run =
    (Lib.run turn l (after.map Turn.withoutRequests)).run

/-- The command channel is closed before a message or a command comes in. -/
def ClosesFirst : List Turn → Prop
  | [] => False
  | t :: rest => t.Quiet ∧ (t.Closes ∨ ClosesFirst rest)

theorem closesFirst_of_stops {l : Loop SM} (live : l.Live) {after : List Turn}
    (unhandled : requests (Lib.run turn l after).handled = requests l.handled)
    (returns : ¬ (Lib.run turn l after).Live) : ClosesFirst after := by
  induction after generalizing l with
  | nil => exact returns live
  | cons t rest ih =>
      rw [run_cons] at unhandled returns
      have now : requests (l.turn t).handled =
          requests l.handled ++ requests (t.messages ++ t.served) := by
        rw [turn_of_live live, ← requests_append]
      obtain ⟨more, later⟩ := handled_run (l.turn t) rest
      -- nothing that comes in is handled in this turn, and nothing later
      rw [later, requests_append, now, List.append_assoc, List.append_right_eq_self,
        List.append_eq_nil_iff] at unhandled
      obtain ⟨quiet, none⟩ := unhandled
      refine ⟨(requests_eq_nil_iff t).mp quiet, ?_⟩
      by_cases closes : t.Closes
      · exact Or.inl closes
      · refine Or.inr (ih ((live_turn_iff live t).mpr closes) ?_ returns)
        rw [later, requests_append, none, List.append_nil]

theorem stops_of_closesFirst {l : Loop SM} (live : l.Live) {after : List Turn}
    (closes : ClosesFirst after) : Stops l after := by
  induction after generalizing l with
  | nil => exact closes.elim
  | cons t rest ih =>
      obtain ⟨quiet, next⟩ := closes
      have same := withoutRequests_of_quiet quiet
      have now : requests (l.turn t).handled = requests l.handled := by
        rw [turn_of_live live, requests_append, (requests_eq_nil_iff t).mpr quiet,
          List.append_nil]
      by_cases closed : t.Closes
      · -- the turns that are left find a loop that has returned
        have done : ¬ (l.turn t).Live := fun h => (live_turn_iff live t).mp h closed
        refine ⟨?_, ?_, ?_⟩
        · rw [run_cons, run_of_returned done, now]
        · rw [run_cons, run_of_returned done]
          exact done
        · rw [List.map_cons, run_cons, run_cons, same, run_of_returned done,
            run_of_returned done]
      · have opened := (live_turn_iff live t).mpr closed
        have stops := ih opened (next.resolve_left closed)
        refine ⟨?_, stops.returns, ?_⟩
        · rw [run_cons, stops.unhandled, now]
        · rw [List.map_cons, run_cons, run_cons, same]
          exact stops.unchanged

/-- A live loop stops exactly when the channel is closed before anything comes in. -/
theorem stops_iff {l : Loop SM} (live : l.Live) (after : List Turn) :
    Stops l after ↔ ClosesFirst after :=
  ⟨fun stops => closesFirst_of_stops live stops.unhandled stops.returns,
    stops_of_closesFirst live⟩

theorem live_start_iff (env : Env) (e : RabiaEngine SM) :
    (start env e).Live ↔ (initializeEngine env e).result = .ok () := by
  unfold start Live
  dsimp only
  cases (initializeEngine env e).result with
  | ok _ => simp
  | error err => simp

/-- Whenever the loop takes `Shutdown`, it stops. -/
def StopsOnShutdown (env : Env) (e : RabiaEngine SM) (turns : List Turn) : Prop :=
  ∀ before t after, turns = before ++ t :: after →
    (Lib.run turn (start env e) before).Live → t.Takes .shutdown →
      Stops (Lib.run turn (start env e) (before ++ [t])) after

/-- Over every sequence of turns, the loop stops on `Shutdown` exactly when it did not
get as far as the loop, or the channel is closed before anything comes in after each
`Shutdown` that is taken. -/
theorem stopsOnShutdown_iff (env : Env) (e : RabiaEngine SM) (turns : List Turn) :
    StopsOnShutdown env e turns ↔
      ((initializeEngine env e).result = .ok () → ∀ before t after,
        turns = before ++ t :: after → (∀ t' ∈ before, ¬ t'.Closes) → t.Takes .shutdown →
          ClosesFirst after) := by
  rw [← live_start_iff]
  have taken : ∀ before t, t.Takes .shutdown → (Lib.run turn (start env e) before).Live →
      (Lib.run turn (start env e) (before ++ [t])).Live := by
    intro before t takes live
    rw [run_append, run_cons]
    refine (live_turn_iff live t).mpr ?_
    rintro ⟨env', closed⟩
    obtain ⟨env'', command⟩ := takes
    rw [closed] at command
    cases command
  constructor
  · intro stops live before t after split opened takes
    have reached := (live_run_iff live before).mpr opened
    exact (stops_iff (taken before t takes reached) after).mp
      (stops before t after split reached takes)
  · intro closes before t after split reached takes
    have live : (start env e).Live := by
      by_contra done
      rw [run_of_returned done] at reached
      exact done reached
    refine (stops_iff (taken before t takes reached) after).mpr ?_
    exact closes live before t after split ((live_run_iff live before).mp reached) takes

section ThreeNodes

/-- The loop takes `Shutdown` and then a command to advance the phase. -/
def shutdownThenAdvance : List Turn :=
  [⟨[], .command {} (some .shutdown)⟩, ⟨[], .command {} (some .forcePhaseAdvance)⟩]

/-- After `Shutdown` the command to advance the phase is still handled. -/
theorem handled_after_shutdown : ¬ StopsOnShutdown {} (threeNodes 0) shutdownThenAdvance := by
  intro stops
  have unhandled := (stops [] _ _ rfl rfl ⟨{}, rfl⟩).unhandled
  have count := congrArg List.length unhandled
  revert count
  decide +kernel

end ThreeNodes

end Loop

end Rabia
