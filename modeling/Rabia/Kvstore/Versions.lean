import Rabia.Kvstore.Mirror

/-!
# Version numbers across restores

One counter numbers notifications and snapshots, and `restore_snapshot` sets it back
to the version of the snapshot. So the versions of a store's notifications repeat
after a restore, and increase between one restore and the next.
-/

namespace Rabia

open Rabia.Lib

/-- Expected notifications carry the versions from the next one on. -/
theorem Replica.versions_consecutive {r : Replica} {w : List ChangeNotification}
    (expected : Along take Expects r w) (room : r.next + w.length < u64Size) :
    w.map ChangeNotification.version = List.range' r.next w.length ∧
      (run take r w).next = r.next + w.length := by
  induction w generalizing r with
  | nil => exact ⟨rfl, rfl⟩
  | cons n w ih =>
      obtain ⟨⟨version, -⟩, later⟩ := expected
      rw [List.length_cons] at room
      have step : (r.take n).next = r.next + 1 := Nat.mod_eq_of_lt (by omega)
      obtain ⟨consecutive, reached⟩ := ih later (by omega)
      rw [step] at consecutive reached
      refine ⟨?_, ?_⟩
      · rw [List.map_cons, consecutive, version, List.length_cons, List.range'_succ]
      · rw [run_cons, reached, List.length_cons]
        omega

namespace KVStore

/-! ## Histories with snapshots -/

/-- The notifications published between two restores, with the version from which the
store numbers them. -/
structure Epoch where
  first : Nat
  published : List ChangeNotification

/-- The versions of an epoch increase from its first one on. -/
def Epoch.Increasing (epoch : Epoch) : Prop :=
  (epoch.published.map ChangeNotification.version).Pairwise (· < ·) ∧
    ∀ n ∈ epoch.published, epoch.first ≤ n.version

/-- A store with the snapshots that it has created and what it has published. -/
structure History where
  store : KVStore
  snapshots : List StoreSnapshot
  closed : List Epoch
  current : Epoch

/-- A request to a store that only restores snapshots of its own: `restoreSnapshot` names
them by the order in which they were created. -/
inductive HistoryRequest where
  | serve (request : Request)
  | createSnapshot (order : List String) (clock : Clock)
  | restoreSnapshot (order : List String) (created : Nat)

namespace History

def start (config : KVStoreConfig) : History := ⟨new config, [], [], ⟨0, []⟩⟩

def epochs (h : History) : List Epoch := h.closed ++ [h.current]

/-- Everything published, in order. -/
def published (h : History) : List ChangeNotification := h.epochs.flatMap Epoch.published

/-- The store goes on to `store` and publishes `w`. -/
def goOn (store : KVStore) (w : List ChangeNotification) (h : History) : History :=
  { h with store := store, current := ⟨h.current.first, h.current.published ++ w⟩ }

/-- The history after a request. A restore that is accepted opens an epoch. -/
def step {η : Type} (hasher : Hasher η) (h : History) : HistoryRequest → History
  | .serve request =>
    let outcome := serveRequest request h.store
    h.goOn outcome.state outcome.effects
  | .createSnapshot order clock =>
    let outcome := createSnapshot hasher order clock h.store
    { h.goOn outcome.state outcome.effects with
      snapshots := h.snapshots ++ outcome.result.toOption.toList }
  | .restoreSnapshot order created =>
    match h.snapshots[created]? with
    | none => h
    | some snapshot =>
      let outcome := restoreSnapshot hasher order snapshot h.store
      match outcome.result with
      | .ok _ =>
        ⟨outcome.state, h.snapshots, h.epochs, ⟨snapshot.version, outcome.effects⟩⟩
      | .error _ => h.goOn outcome.state outcome.effects

/-- How many versions the store has given out. -/
def taken (h : History) : Nat := h.published.length + h.snapshots.length

theorem published_goOn (store : KVStore) (w : List ChangeNotification) (h : History) :
    (h.goOn store w).published = h.published ++ w := by
  simp [published, epochs, goOn]

theorem taken_goOn (store : KVStore) (w : List ChangeNotification) (h : History) :
    (h.goOn store w).taken = h.taken + w.length := by
  unfold taken
  rw [published_goOn, List.length_append]
  show _ + h.snapshots.length = _
  omega

/-! ## What the counter guarantees -/

/-- The counter is above every version of the current epoch, and it and the versions of
the snapshots are within the number of versions given out. -/
structure Sound (h : History) : Prop where
  notifies : h.store.config.enableNotifications = true
  counter : h.store.version ≤ h.taken
  snapshots : ∀ snapshot ∈ h.snapshots, snapshot.version ≤ h.taken
  closed : ∀ epoch ∈ h.closed, epoch.Increasing
  current : h.current.Increasing
  first : h.current.first ≤ h.store.version
  below : ∀ n ∈ h.current.published, n.version < h.store.version

theorem sound_start {config : KVStoreConfig} (on : config.enableNotifications = true) :
    (start config).Sound where
  notifies := on
  counter := Nat.zero_le _
  snapshots _ member := absurd member List.not_mem_nil
  closed _ member := absurd member List.not_mem_nil
  current := ⟨List.Pairwise.nil, fun _ member => absurd member List.not_mem_nil⟩
  first := Nat.le_refl 0
  below _ member := absurd member List.not_mem_nil

/-- Publishing under the next versions keeps the history sound. -/
theorem Sound.goOn {h : History} (sound : h.Sound) {store : KVStore}
    {w : List ChangeNotification} (mirrors : Mirrors h.store w store)
    (room : h.taken + w.length < u64Size) : (h.goOn store w).Sound := by
  obtain ⟨config, told⟩ := mirrors
  obtain ⟨reached, expected⟩ := told sound.notifies
  have counter := sound.counter
  have space : h.store.replica.next + w.length < u64Size := by
    show h.store.version + w.length < u64Size
    omega
  -- the counter does not wrap on the way, so it ends above all that is published
  obtain ⟨consecutive, next⟩ := Replica.versions_consecutive expected space
  rw [reached] at next
  replace next : store.version = h.store.version + w.length := next
  have range : ∀ n ∈ w, h.store.version ≤ n.version ∧ n.version < store.version := by
    intro n member
    have named : n.version ∈ w.map ChangeNotification.version := List.mem_map_of_mem member
    rw [consecutive, List.mem_range'_1] at named
    show _ ∧ _ < store.version
    rw [next]
    exact named
  refine ⟨?_, ?_, ?_, sound.closed, ⟨?_, ?_⟩, ?_, ?_⟩
  · show store.config.enableNotifications = true
    rw [config]
    exact sound.notifies
  · rw [taken_goOn]
    show store.version ≤ _
    omega
  · intro snapshot member
    have old := sound.snapshots snapshot member
    rw [taken_goOn]
    omega
  · show (List.map _ (h.current.published ++ w)).Pairwise (· < ·)
    rw [List.map_append, List.pairwise_append]
    refine ⟨sound.current.1, consecutive ▸ List.pairwise_lt_range', ?_⟩
    intro version before version' after
    obtain ⟨n, old, rfl⟩ := List.mem_map.mp before
    obtain ⟨n', fresh, rfl⟩ := List.mem_map.mp after
    exact Nat.lt_of_lt_of_le (sound.below n old) (range n' fresh).1
  · intro n member
    rcases List.mem_append.mp member with old | fresh
    · exact sound.current.2 n old
    · exact sound.first.trans (range n fresh).1
  · show h.current.first ≤ store.version
    have first := sound.first
    omega
  · intro n member
    show n.version < store.version
    rcases List.mem_append.mp member with old | fresh
    · have below := sound.below n old
      omega
    · exact (range n fresh).2

/-! ## Requests -/

section Requests

variable {η : Type} (hasher : Hasher η)

theorem step_createSnapshot (h : History) (order : List String) (clock : Clock) :
    h.step hasher (.createSnapshot order clock) =
      { h.goOn (createSnapshot hasher order clock h.store).state [] with
        snapshots := h.snapshots ++ [⟨h.store.data, h.store.version, clock.notice,
          calculateChecksum hasher order h.store.data⟩] } := rfl

/-- A restore is refused without a trace, or opens an epoch at the version of a snapshot of
the store's own. -/
theorem step_restoreSnapshot (h : History) (order : List String) (created : Nat) :
    h.step hasher (.restoreSnapshot order created) = h ∨
      ∃ snapshot ∈ h.snapshots, h.step hasher (.restoreSnapshot order created) =
        ⟨{ h.store with data := snapshot.data, version := snapshot.version }, h.snapshots,
          h.epochs, ⟨snapshot.version, []⟩⟩ := by
  simp only [step]
  cases found : h.snapshots[created]? with
  | none => exact .inl rfl
  | some snapshot =>
      by_cases accepted : Accepts hasher order snapshot
      · refine .inr ⟨snapshot, List.mem_of_getElem? found, ?_⟩
        simp only [restoreSnapshot_accepted hasher order accepted]
      · left
        simp only [restoreSnapshot_refused hasher order accepted, goOn, List.append_nil]

theorem taken_createSnapshot (h : History) (order : List String) (clock : Clock) :
    (h.step hasher (.createSnapshot order clock)).taken = h.taken + 1 := by
  have counted := taken_goOn (createSnapshot hasher order clock h.store).state [] h
  rw [step_createSnapshot]
  unfold taken at counted ⊢
  rw [List.length_append, List.length_singleton, ← Nat.add_assoc]
  exact congrArg (· + 1) counted

theorem taken_le_step (h : History) (request : HistoryRequest) :
    h.taken ≤ (h.step hasher request).taken := by
  cases request with
  | serve request =>
      show h.taken ≤ (h.goOn _ _).taken
      rw [taken_goOn]
      omega
  | createSnapshot order clock =>
      rw [taken_createSnapshot]
      omega
  | restoreSnapshot order created =>
      rcases step_restoreSnapshot hasher h order created with same | ⟨snapshot, -, opened⟩
      · rw [same]
      · rw [opened]
        simp [taken, published, epochs]

theorem taken_le_run (h : History) (requests : List HistoryRequest) :
    h.taken ≤ (run (step hasher) h requests).taken := by
  induction requests generalizing h with
  | nil => exact Nat.le_refl _
  | cons request requests ih => exact (taken_le_step hasher h request).trans (ih _)

/-- A snapshot takes the next version. -/
theorem Sound.createSnapshot {h : History} (sound : h.Sound) (order : List String) (clock : Clock)
    (room : (h.step hasher (.createSnapshot order clock)).taken < u64Size) :
    (h.step hasher (.createSnapshot order clock)).Sound := by
  have counter := sound.counter
  have more := taken_createSnapshot hasher h order clock
  have next : (h.store.version + 1) % u64Size = h.store.version + 1 :=
    Nat.mod_eq_of_lt (by omega)
  refine ⟨sound.notifies, ?_, ?_, sound.closed, ?_, ?_, ?_⟩
  · rw [more]
    show (h.store.version + 1) % u64Size ≤ _
    omega
  · intro snapshot member
    rw [more]
    rcases List.mem_append.mp member with old | fresh
    · have kept := sound.snapshots snapshot old
      omega
    · cases List.mem_singleton.mp fresh
      show h.store.version ≤ _
      omega
  · show Epoch.Increasing ⟨_, h.current.published ++ []⟩
    rw [List.append_nil]
    exact sound.current
  · show h.current.first ≤ (h.store.version + 1) % u64Size
    have first := sound.first
    omega
  · intro n member
    show n.version < (h.store.version + 1) % u64Size
    rcases List.mem_append.mp member with old | none_new
    · have kept := sound.below n old
      omega
    · exact absurd none_new List.not_mem_nil

/-- A restore closes the epoch, and the next one is empty. -/
theorem Sound.restoreSnapshot {h : History} (sound : h.Sound) (order : List String)
    (created : Nat) : (h.step hasher (.restoreSnapshot order created)).Sound := by
  rcases step_restoreSnapshot hasher h order created with same | ⟨snapshot, member, opened⟩
  · rw [same]
    exact sound
  · have more := taken_le_step hasher h (.restoreSnapshot order created)
    rw [opened] at more ⊢
    refine ⟨sound.notifies, (sound.snapshots snapshot member).trans more, ?_, ?_, ?_,
      Nat.le_refl _, fun _ absurd_member => absurd absurd_member List.not_mem_nil⟩
    · intro other old
      exact (sound.snapshots other old).trans more
    · intro epoch old
      rcases List.mem_append.mp old with closed | last
      · exact sound.closed epoch closed
      · rw [List.mem_singleton.mp last]
        exact sound.current
    · exact ⟨List.Pairwise.nil, fun _ absurd_member => absurd absurd_member List.not_mem_nil⟩

/-- A request keeps the history sound while versions last. -/
theorem sound_step {h : History} (sound : h.Sound) (request : HistoryRequest)
    (room : (h.step hasher request).taken < u64Size) : (h.step hasher request).Sound := by
  cases request with
  | serve request =>
      have mirrors := serveRequest_within mirrors_path (fun makes => makes.mirrors) request h.store
      refine sound.goOn mirrors ?_
      rw [← taken_goOn]
      exact room
  | createSnapshot order clock => exact sound.createSnapshot hasher order clock room
  | restoreSnapshot order created => exact sound.restoreSnapshot hasher order created

theorem sound_run {h : History} (sound : h.Sound) (requests : List HistoryRequest)
    (room : (run (step hasher) h requests).taken < u64Size) :
    (run (step hasher) h requests).Sound := by
  induction requests generalizing h with
  | nil => exact sound
  | cons request requests ih =>
      have later : (h.step hasher request).taken < u64Size :=
        Nat.lt_of_le_of_lt (taken_le_run hasher _ requests) room
      exact ih (sound_step hasher sound request later) room

end Requests

end History

/-- While a store has given out fewer than `2 ^ 64` versions, those of the notifications
between two restores increase, from the version of the snapshot restored on. -/
theorem versions_increase_between_restores {η : Type} (hasher : Hasher η)
    (config : KVStoreConfig) (on : config.enableNotifications = true)
    (requests : List HistoryRequest)
    (room : (run (History.step hasher) (.start config) requests).taken < u64Size) :
    ∀ epoch ∈ (run (History.step hasher) (.start config) requests).epochs,
      epoch.Increasing := by
  have sound := History.sound_run hasher (History.sound_start on) requests room
  intro epoch member
  rcases List.mem_append.mp member with closed | last
  · exact sound.closed epoch closed
  · rw [List.mem_singleton.mp last]
    exact sound.current

/-- A store that restores its first snapshot between two writes. -/
def restoring : List HistoryRequest :=
  [.createSnapshot [] ⟨0, 0⟩, .serve (.call ⟨1, 1⟩ (.set "a" "1")), .restoreSnapshot [] 0,
    .serve (.call ⟨2, 2⟩ (.set "a" "2")), .serve (.call ⟨3, 3⟩ (.set "b" "3"))]

theorem versions_increase_while_restoring :
    (run (History.step polynomialHasher) (.start .default) restoring).current.Increasing :=
  versions_increase_between_restores polynomialHasher .default rfl restoring (by decide) _
    (List.mem_append_right _ (List.mem_singleton_self _))

/-- After the restore the versions start over. -/
theorem versions_repeat :
    ¬ ∀ (η : Type) (hasher : Hasher η) (config : KVStoreConfig) (requests : List HistoryRequest),
      config.enableNotifications = true →
        let versions := (run (History.step hasher) (.start config) requests).published.map
          ChangeNotification.version
        versions.Nodup ∧ versions.Pairwise (· < ·) := by
  intro distinct
  have versions := (distinct Nat polynomialHasher .default restoring rfl).1
  revert versions
  decide

end KVStore

end Rabia
