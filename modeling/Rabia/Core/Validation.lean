import Rabia.Core.Messages

/-!
# Message validation

`rabia-core/src/validation.rs`. The clock reading `now` stands for the readings
of one call.
-/

namespace Rabia

/-- `ValidationConfig`. -/
structure ValidationConfig where
  maxBatchSize : Nat
  maxCommandSize : Nat
  maxClockSkewMs : Nat
  minPhaseId : Nat
  maxPhaseId : Nat

/-- `ValidationConfig::default`. -/
def ValidationConfig.default : ValidationConfig where
  maxBatchSize := 1000
  maxCommandSize := 1024 * 1024
  maxClockSkewMs := 60000
  minPhaseId := 0
  maxPhaseId := u64Size - 1

def validatePhaseId (phaseId : PhaseId) : Except RabiaError Unit :=
  let config := ValidationConfig.default
  if phaseId < config.minPhaseId ∨ config.maxPhaseId < phaseId then
    .error <| .internal <|
      s!"Phase ID {phaseId} is out of valid range " ++
        s!"[{config.minPhaseId}, {config.maxPhaseId}]"
  else .ok ()

/-- The batch id is not checked. -/
def validateBatchId (_batchId : BatchId) : Except RabiaError Unit := .ok ()

/-- The node id is not checked. -/
def validateNodeId (_nodeId : NodeId) : Except RabiaError Unit := .ok ()

/-- The checks on one command of a batch. -/
def Command.validate (command : Command) : Except RabiaError Unit :=
  let config := ValidationConfig.default
  let size := command.data.length
  if config.maxCommandSize < size then
    .error (.internal s!"Command size {size} exceeds maximum {config.maxCommandSize}")
  else if command.data = [] then
    .error (.internal "Command data cannot be empty")
  else .ok ()

/-- `CommandBatch::validate`. -/
def CommandBatch.validate (now : Nat) (batch : CommandBatch) : Except RabiaError Unit := do
  let config := ValidationConfig.default
  let size := batch.commands.length
  if config.maxBatchSize < size then
    throw (.internal s!"Batch size {size} exceeds maximum {config.maxBatchSize}")
  if batch.commands = [] then
    throw (.internal "Batch cannot be empty")
  batch.commands.forM Command.validate
  if now + config.maxClockSkewMs < batch.timestamp then
    throw (.internal s!"Batch timestamp {batch.timestamp} is too far in the future")

/-- The checks on the payload of a message. -/
def MessageType.validate (now : Nat) : MessageType → Except RabiaError Unit
  | .propose msg => do
    validatePhaseId msg.phaseId
    validateBatchId msg.batchId
    match msg.batch with
    | some batch => batch.validate now
    | none => pure ()
  | .voteRound1 msg => do
    validatePhaseId msg.phaseId
    validateBatchId msg.batchId
    validateNodeId msg.voterId
  | .voteRound2 msg => do
    validatePhaseId msg.phaseId
    validateBatchId msg.batchId
    validateNodeId msg.voterId
    if msg.round1Votes = ∅ then
      throw (.internal "Round 2 vote must include round 1 votes")
  | .decision msg => do
    validatePhaseId msg.phaseId
    validateBatchId msg.batchId
    match msg.batch with
    | some batch => batch.validate now
    | none => pure ()
  | .syncRequest msg => validatePhaseId msg.requesterPhase
  | .syncResponse msg => do
    validatePhaseId msg.responderPhase
    msg.pendingBatches.forM fun (batchId, batch) => do
      validateBatchId batchId
      batch.validate now
  | .newBatch msg => do
    msg.batch.validate now
    validateNodeId msg.originator
  | .heartBeat msg => do
    validatePhaseId msg.currentPhase
    validatePhaseId msg.lastCommittedPhase
    if msg.currentPhase < msg.lastCommittedPhase then
      throw (.invalidStateTransition s!"committed={msg.lastCommittedPhase}"
        s!"current={msg.currentPhase}")
  | .quorumNotification msg => msg.activeNodes.forM validateNodeId

/-- `ProtocolMessage::validate`. -/
def ProtocolMessage.validate (now : Nat) (message : ProtocolMessage) :
    Except RabiaError Unit := do
  let config := ValidationConfig.default
  if now + config.maxClockSkewMs < message.timestamp then
    throw (.internal (s!"Message timestamp {message.timestamp} is too far in the future " ++
      s!"(current: {now})"))
  if config.maxClockSkewMs * 10 < now - message.timestamp then
    throw (.internal s!"Message timestamp {message.timestamp} is too old (current: {now})")
  message.messageType.validate now

/-! ## What passes -/

theorem validatePhaseId_eq_ok {p : Nat} : validatePhaseId p = .ok () ↔ p < u64Size := by
  have top : p ≤ ValidationConfig.default.maxPhaseId ↔ p < u64Size := by
    show p ≤ u64Size - 1 ↔ p < u64Size
    have : 0 < u64Size := by decide
    omega
  unfold validatePhaseId
  dsimp only
  split
  · next outside =>
    have above := outside.resolve_left (Nat.not_lt_zero p)
    exact ⟨fun h => (nomatch h), fun h => absurd (top.mpr h) (Nat.not_le.mpr above)⟩
  · next inside =>
    exact ⟨fun _ => top.mp (Nat.not_lt.mp fun h => inside (Or.inr h)), fun _ => rfl⟩

theorem forM_eq_ok {α : Type} {f : α → Except RabiaError Unit} {l : List α} :
    l.forM f = .ok () ↔ ∀ a ∈ l, f a = .ok () := by
  induction l with
  | nil => exact ⟨fun _ a h => absurd h List.not_mem_nil, fun _ => rfl⟩
  | cons a l ih =>
      rw [List.forall_mem_cons, ← ih]
      show (f a >>= fun _ => l.forM f) = .ok () ↔ _
      cases f a with
      | error err => exact ⟨fun h => (nomatch h), fun h => (nomatch h.1)⟩
      | ok _ => exact ⟨fun h => ⟨rfl, h⟩, And.right⟩

/-- A batch passes when it has between 1 and 1000 commands, each of them passes, and it
is not dated too far ahead. -/
theorem CommandBatch.validate_eq_ok {now : Nat} {batch : CommandBatch} :
    batch.validate now = .ok () ↔
      batch.commands.length ≤ ValidationConfig.default.maxBatchSize ∧ batch.commands ≠ [] ∧
        (∀ command ∈ batch.commands, command.validate = .ok ()) ∧
          batch.timestamp ≤ now + ValidationConfig.default.maxClockSkewMs := by
  rw [← forM_eq_ok, ← Nat.not_lt, ← Nat.not_lt]
  unfold CommandBatch.validate
  dsimp only
  by_cases large : ValidationConfig.default.maxBatchSize < batch.commands.length
  · rw [if_pos large]
    exact ⟨fun h => (nomatch h), fun h => absurd large h.1⟩
  rw [if_neg large]
  by_cases empty : batch.commands = []
  · rw [if_pos empty]
    exact ⟨fun h => (nomatch h), fun h => absurd empty h.2.1⟩
  rw [if_neg empty]
  cases batch.commands.forM Command.validate with
  | error err => exact ⟨fun h => (nomatch h), fun h => (nomatch h.2.2.1)⟩
  | ok _ =>
      by_cases ahead : now + ValidationConfig.default.maxClockSkewMs < batch.timestamp
      · rw [if_pos ahead]
        exact ⟨fun h => (nomatch h), fun h => absurd ahead h.2.2.2⟩
      · rw [if_neg ahead]
        exact ⟨fun _ => ⟨large, empty, rfl, ahead⟩, fun _ => rfl⟩

/-- What passes once passes later. -/
theorem CommandBatch.validate_mono {now now' : Nat} (later : now ≤ now') {batch : CommandBatch}
    (valid : batch.validate now = .ok ()) : batch.validate now' = .ok () := by
  obtain ⟨size, nonempty, commands, dated⟩ := validate_eq_ok.mp valid
  exact validate_eq_ok.mpr ⟨size, nonempty, commands, by omega⟩

/-! ### Payloads -/

namespace MessageType

/-- The checks that proposals and decisions share: a phase and a batch, if there is one. -/
theorem validate_carrying {now : Nat} {p : Nat} {batchId : BatchId}
    {carried : Option CommandBatch} :
    (do
        validatePhaseId p
        validateBatchId batchId
        match carried with
        | some batch => batch.validate now
        | none => pure () : Except RabiaError Unit) = .ok () ↔
      p < u64Size ∧ ∀ batch, carried = some batch → batch.validate now = .ok () := by
  rw [← validatePhaseId_eq_ok]
  cases validatePhaseId p with
  | error err => exact ⟨fun h => (nomatch h), fun h => (nomatch h.1)⟩
  | ok _ =>
      cases carried with
      | none => exact ⟨fun _ => ⟨rfl, fun _ h => (nomatch h)⟩, fun _ => rfl⟩
      | some batch =>
          constructor
          · intro valid
            refine ⟨rfl, fun batch' same => ?_⟩
            cases same
            exact valid
          · intro valid
            exact valid.2 batch rfl

theorem validate_propose {now : Nat} {m : ProposeMessage} :
    (MessageType.propose m).validate now = .ok () ↔
      m.phaseId < u64Size ∧ ∀ batch, m.batch = some batch → batch.validate now = .ok () :=
  validate_carrying

theorem validate_decision {now : Nat} {m : DecisionMessage} :
    (MessageType.decision m).validate now = .ok () ↔
      m.phaseId < u64Size ∧ ∀ batch, m.batch = some batch → batch.validate now = .ok () :=
  validate_carrying

theorem validate_voteRound1 {now : Nat} {m : VoteRound1Message} :
    (MessageType.voteRound1 m).validate now = .ok () ↔ m.phaseId < u64Size := by
  rw [← validatePhaseId_eq_ok]
  show (validatePhaseId m.phaseId >>= fun _ => _) = _ ↔ _
  cases validatePhaseId m.phaseId with
  | error err => exact ⟨fun h => (nomatch h), fun h => (nomatch h)⟩
  | ok _ => exact ⟨fun _ => rfl, fun _ => rfl⟩

theorem validate_voteRound2 {now : Nat} {m : VoteRound2Message} :
    (MessageType.voteRound2 m).validate now = .ok () ↔
      m.phaseId < u64Size ∧ m.round1Votes ≠ ∅ := by
  rw [← validatePhaseId_eq_ok]
  show (validatePhaseId m.phaseId >>= fun _ =>
    if m.round1Votes = ∅ then throw _ else pure ()) = _ ↔ _
  cases validatePhaseId m.phaseId with
  | error err => exact ⟨fun h => (nomatch h), fun h => (nomatch h.1)⟩
  | ok _ =>
      by_cases missing : m.round1Votes = ∅
      · rw [if_pos missing]
        exact ⟨fun h => (nomatch h), fun h => absurd missing h.2⟩
      · rw [if_neg missing]
        exact ⟨fun _ => ⟨rfl, missing⟩, fun _ => rfl⟩

theorem validate_syncRequest {now : Nat} {m : SyncRequestMessage} :
    (MessageType.syncRequest m).validate now = .ok () ↔ m.requesterPhase < u64Size :=
  validatePhaseId_eq_ok

theorem validate_heartBeat {now : Nat} {m : HeartBeatMessage} :
    (MessageType.heartBeat m).validate now = .ok () ↔
      m.currentPhase < u64Size ∧ m.lastCommittedPhase ≤ m.currentPhase := by
  show (validatePhaseId m.currentPhase >>= fun _ => validatePhaseId m.lastCommittedPhase >>=
    fun _ => if m.currentPhase < m.lastCommittedPhase then throw _ else pure ()) = _ ↔ _
  constructor
  · intro valid
    cases current : validatePhaseId m.currentPhase with
    | error err =>
        rw [current] at valid
        cases valid
    | ok _ =>
        refine ⟨validatePhaseId_eq_ok.mp current, ?_⟩
        rw [current] at valid
        cases mark : validatePhaseId m.lastCommittedPhase with
        | error err =>
            rw [mark] at valid
            cases valid
        | ok _ =>
            rw [mark] at valid
            by_contra ahead
            rw [if_pos (Nat.not_le.mp ahead)] at valid
            cases valid
  · rintro ⟨below, behind⟩
    rw [validatePhaseId_eq_ok.mpr below,
      validatePhaseId_eq_ok.mpr (Nat.lt_of_le_of_lt behind below),
      if_neg (Nat.not_lt.mpr behind)]
    rfl

end MessageType

/-! ### Delivery -/

/-- The payload of a message that passes passes. -/
theorem ProtocolMessage.payload_validate {now : Nat} {message : ProtocolMessage}
    (valid : message.validate now = .ok ()) : message.messageType.validate now = .ok () := by
  unfold ProtocolMessage.validate at valid
  dsimp only at valid
  split at valid
  · cases valid
  · split at valid
    · cases valid
    · exact valid

/-- A message that is delivered within the allowed skew passes when its payload does. -/
theorem ProtocolMessage.validate_delivered {sender : NodeId} {recipient : Option NodeId}
    {now delay : Nat} {payload : MessageType}
    (inTime : delay ≤ ValidationConfig.default.maxClockSkewMs) :
    ProtocolMessage.validate (now + delay) ⟨sender, recipient, now, payload⟩ =
      payload.validate (now + delay) := by
  unfold ProtocolMessage.validate
  dsimp only
  rw [if_neg (by omega : ¬ now + delay + ValidationConfig.default.maxClockSkewMs < now),
    if_neg (by omega : ¬ ValidationConfig.default.maxClockSkewMs * 10 < now + delay - now)]

end Rabia
