import LiveRoute.Execution.OutboxRuns

/-! One pass of the dispatcher over the database: it recovers the confirmations
that are missing, claims a batch of due rows and dispatches each of them. The
planner answers every request as it likes, or not at all. -/
namespace LiveRoute.Execution
open Domain Persistence Dispatch

/-- `New` asks for a positive batch size and claim duration. It lets a duration
below one millisecond pass, with which every claim fails. -/
structure DispatcherConfig where
  claimOwner : ClaimOwner
  (batchSize claimDurationMilliseconds : Int)
  batchSize_pos : 0 < batchSize
  claimDuration_pos : 0 < claimDurationMilliseconds

structure ConfirmFinalizedMutations where
  requestId : RequestId
  tripId : TripId
  (runtimeEpoch finalizedMutationSequence : UInt64)
deriving DecidableEq

structure FinalizedMutationsAcknowledged where
  status : StatusCode
  finalizedMutationSequence : UInt64
deriving DecidableEq

structure ConfirmationResponse where
  requestId : RequestId
  tripId : TripId
  runtimeEpoch : UInt64
  acknowledged : Option FinalizedMutationsAcknowledged
deriving DecidableEq

inductive PassRequest where
  | recovery | delivery | confirmation
deriving DecidableEq

/-- What a pass meets outside the database. An exchange that fails or times out
has no response. The clock moves between the entries of a batch. -/
structure PassContext where
  config : DispatcherConfig
  leases : TripId → Option UInt64
  requestId : TripId → PassRequest → Option RequestId
  applyEvent : PlannerStreamRequest → Option PlannerStreamResponse
  confirmFinalized : ConfirmFinalizedMutations → Option ConfirmationResponse
  retryDelay : Nat → Option Int
  elapses : TripId → Nat

def ConfirmFinalizedMutations.isConfirmedBy (request : ConfirmFinalizedMutations)
    (response : ConfirmationResponse) : Bool :=
  decide (response.requestId = request.requestId) && decide (response.tripId = request.tripId) &&
    decide (response.runtimeEpoch = request.runtimeEpoch) && response.acknowledged.any fun ack =>
      (decide (ack.status = .ok) || decide (ack.status = .duplicate)) &&
        decide (request.finalizedMutationSequence ≤ ack.finalizedMutationSequence)

structure PendingFinalizationConfirmation where
  tripId : TripId
  finalizedMutationSequence : Nat
deriving DecidableEq

def OutboxRow.awaitsConfirmation (row : OutboxRow) : Bool :=
  row.command.deliveryState.isResolved && row.columns.finalizationConfirmedAt.isNone

def TripStore.pendingConfirmation? (store : TripStore) : Option PendingFinalizationConfirmation :=
  ((store.outboxRows.filter OutboxRow.awaitsConfirmation).map fun row =>
    row.command.mutationSequence).max?.map fun sequence => ⟨store.record.tripId, sequence⟩

/-- `PendingFinalizationConfirmations`. -/
def pendingFinalizationConfirmations (stores : List TripStore) (limit : Nat) :
    List PendingFinalizationConfirmation :=
  (Sequence.sortBy (fun left right => decide (left.tripId.value < right.tripId.value))
    (stores.filterMap TripStore.pendingConfirmation?)).take limit

inductive PassWork where
  | confirmation (sequence : Nat)
  | delivery (eventId : EventId)
deriving DecidableEq

structure Attempt where
  tripId : TripId
  work : PassWork
deriving DecidableEq

structure PassState where
  world : OutboxWorld
  attempts : List Attempt

def PassState.step (state : PassState) (step : OutboxStep) : PassState :=
  { state with world := state.world.step step }

def PassState.attempting (state : PassState) (attempt : Attempt) : PassState :=
  { state with attempts := state.attempts ++ [attempt] }

def PassContext.confirms (context : PassContext) (tripId : TripId) (stage : PassRequest)
    (runtimeEpoch : UInt64) (sequence : Nat) : Bool :=
  (context.requestId tripId stage).any fun requestId =>
    let request : ConfirmFinalizedMutations := ⟨requestId, tripId, runtimeEpoch, .ofNat sequence⟩
    (context.confirmFinalized request).any request.isConfirmedBy

def OutboxWorld.acceptsConfirmation (world : OutboxWorld) (tripId : TripId) (sequence : Nat) :
    Bool :=
  (world.store? tripId).any fun store =>
    (store.confirmFinalizedMutations world.now (.ofNat sequence)).toOption.isSome

/-- `confirm`, and whether it came back without an error. -/
def PassContext.confirm (context : PassContext) (tripId : TripId) (stage : PassRequest)
    (runtimeEpoch : UInt64) (sequence : Nat) (state : PassState) : PassState × Bool :=
  let attempted := state.attempting ⟨tripId, .confirmation sequence⟩
  if context.confirms tripId stage runtimeEpoch sequence then
    (attempted.step (.confirm tripId (.ofNat sequence)),
      state.world.acceptsConfirmation tripId sequence)
  else (attempted, false)

/-- Where a recovery broke off: the trip whose confirmation failed, and the
confirmations that it did not come to. -/
structure BrokenRecovery where
  tripId : TripId
  unserved : List PendingFinalizationConfirmation

/-- `recoverConfirmations`, for the trips that `serves` picks out of the batch.
A trip without a lease is passed over; a confirmation that fails ends it. -/
def PassContext.recoverConfirmations (context : PassContext) (serves : TripId → Bool) :
    List PendingFinalizationConfirmation → PassState → PassState × Option BrokenRecovery
  | [], state => (state, none)
  | value :: rest, state =>
    let state := state.step (.elapse (context.elapses value.tripId))
    if !serves value.tripId then context.recoverConfirmations serves rest state
    else
      match context.leases value.tripId with
      | none => context.recoverConfirmations serves rest state
      | some runtimeEpoch =>
        let (confirmed, succeeded) := context.confirm value.tripId .recovery runtimeEpoch
          value.finalizedMutationSequence state
        if succeeded then context.recoverConfirmations serves rest confirmed
        else (confirmed, some ⟨value.tripId, rest⟩)

/-- The transaction with which `RuntimeFinalizer.Finalize` stores an outcome. -/
def runtimeTransaction (row : CommandRow) (plannerStateVersion : UInt64)
    (ack : EventAcknowledged) : Option TripTransaction :=
  if ack.isAccepted then
    match row.event.payload with
    | .planDecision decision =>
      let request := proposalRequest row decision plannerStateVersion
        ⟨row.eventId, .ok, plannerStateVersion.toNat⟩
      match decision.decision with
      | .accept => some (.acceptProposal request)
      | .reject => some (.rejectProposal request)
    | _ => (acceptedMutation row.event).map fun mutation =>
      .finalizeAccepted (acceptedMutationRequest row plannerStateVersion mutation)
  else
    (terminalStatus ack.status).map fun status =>
      let refused :=
        TripTransaction.finalizeTerminal (terminalRequest row plannerStateVersion status)
      match row.event.payload with
      | .planDecision decision =>
        if status = .stale ∧ ack.staleReason = some .planProposal then
          .staleProposal (proposalRequest row decision plannerStateVersion
            ⟨row.eventId, .terminal status, plannerStateVersion.toNat⟩)
        else refused
      | _ => refused

def mirrorTransaction (row : CommandRow) (response : PlannerStreamResponse)
    (ack : EventAcknowledged) : TripTransaction :=
  .finalizeMirror
    { eventId := row.eventId, mutationSequence := row.mutationSequence
      expectedTripRevision := row.expectedTripRevision
      resultingTripRevision := response.tripRevision.toNat
      resultingCurrentPlanId := ack.resultingCurrentPlanId }

def finalization (row : CommandRow) (response : PlannerStreamResponse) : Option TripTransaction :=
  match response.payload with
  | .error _ => none
  | .eventAcknowledged ack =>
    if row.kind.isRuntimeFirst then runtimeTransaction row response.plannerStateVersion ack
    else some (mirrorTransaction row response ack)

def PassContext.request? (context : PassContext) (row : ClaimedOutboxRow) :
    Option PlannerStreamRequest := do
  let runtimeEpoch ← context.leases row.tripId
  let requestId ← context.requestId row.tripId .delivery
  some (dispatchRequest requestId row.tripId row.command runtimeEpoch)

def PassContext.response? (context : PassContext) (row : ClaimedOutboxRow) :
    Option PlannerStreamResponse :=
  (context.request? row).bind context.applyEvent

def PassContext.outcome (context : PassContext) (trip : CanonicalTrip) (row : ClaimedOutboxRow) :
    DispatchOutcome :=
  match context.request? row with
  | none => if storedEventIsValid row.command then .retried else .paused
  | some request => (Dispatch.dispatch trip row.command request (context.applyEvent request)).2

def PassContext.retry (context : PassContext) (row : ClaimedOutboxRow) (state : PassState) :
    PassState :=
  match context.retryDelay row.attemptCount with
  | none => state
  | some delay => state.step (.release ⟨context.config.claimOwner, row⟩ delay)

/-- A confirmation that fails after the outcome is stored is left to the next
pass. -/
def PassContext.finalizeAndConfirm (context : PassContext) (row : ClaimedOutboxRow)
    (record : TripRecord) (state : PassState) : PassState :=
  match (context.response? row).bind (finalization row.command), context.leases row.tripId with
  | some transaction, some runtimeEpoch =>
    match record.commit transaction with
    | .error _ => state
    | .ok _ =>
      (context.confirm row.tripId .confirmation runtimeEpoch row.command.mutationSequence
        (state.step (.finalize ⟨context.config.claimOwner, row⟩ transaction))).1
  | _, _ => state

/-- `FinalizeCanonicalMirror` commits the pause of a mirror that conflicts. -/
def PassContext.finalizeOnly (context : PassContext) (row : ClaimedOutboxRow)
    (state : PassState) : PassState :=
  match (context.response? row).bind (finalization row.command) with
  | some transaction => state.step (.finalize ⟨context.config.claimOwner, row⟩ transaction)
  | none => state

def PassContext.dispatchFor (context : PassContext) (row : ClaimedOutboxRow)
    (record : TripRecord) (state : PassState) : PassState :=
  match context.outcome record.rows row with
  | .retried => context.retry row state
  | .paused => state.step (.pause ⟨context.config.claimOwner, row⟩)
  | .failed _ => state
  | .mirrorFailed _ => context.finalizeOnly row state
  | .resolved => context.finalizeAndConfirm row record state

/-- `dispatch` of a claimed row. Its errors are collected and end nothing. -/
def PassContext.dispatch (context : PassContext) (row : ClaimedOutboxRow) (state : PassState) :
    PassState :=
  let attempted := state.attempting ⟨row.tripId, .delivery row.command.eventId⟩
  match state.world.store? row.tripId with
  | none => attempted
  | some store => context.dispatchFor row store.record attempted

def PassContext.dispatchRows (context : PassContext) (serves : TripId → Bool)
    (rows : List ClaimedOutboxRow) (state : PassState) : PassState :=
  rows.foldl (fun state row =>
    let state := state.step (.elapse (context.elapses row.tripId))
    if serves row.tripId then context.dispatch row state else state) state

def PassContext.claimStep (context : PassContext) : OutboxStep :=
  .claim context.config.claimOwner context.config.batchSize
    context.config.claimDurationMilliseconds []

def PassContext.claimedRows (context : PassContext) (world : OutboxWorld) : List ClaimedOutboxRow :=
  match claimDue world.stores world.now context.config.claimOwner context.config.batchSize
      context.config.claimDurationMilliseconds [] with
  | .error _ => []
  | .ok (_, rows) => rows

def PassContext.claimAndDispatch (context : PassContext) (serves : TripId → Bool)
    (state : PassState) : PassState :=
  context.dispatchRows serves (context.claimedRows state.world) (state.step context.claimStep)

/-- The recovery with which a pass begins. -/
def PassContext.recovery (context : PassContext) (serves : TripId → Bool) (world : OutboxWorld) :
    PassState × Option BrokenRecovery :=
  context.recoverConfirmations serves
    (pendingFinalizationConfirmations world.stores context.config.batchSize.toNat) ⟨world, []⟩

/-- A pass that works on the trips of its batch that `serves` picks out; the
others keep their places in the batch and are left alone. -/
def PassContext.pass (context : PassContext) (serves : TripId → Bool) (world : OutboxWorld) :
    PassState :=
  match context.recovery serves world with
  | (state, some _) => state
  | (state, none) => context.claimAndDispatch serves state

/-- `RunOnce`. -/
def PassContext.runOnce (context : PassContext) (world : OutboxWorld) : PassState :=
  context.pass (fun _ => true) world

end LiveRoute.Execution
