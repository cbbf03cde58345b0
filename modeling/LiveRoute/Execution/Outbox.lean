import LiveRoute.Execution.TripTransactions
import LiveRoute.Persistence.CommitFacts
import LiveRoute.Persistence.Snapshots

/-! The outbox of a trip: its rows with their claims and confirmations, and the
transactions that sweep them. The delivery state of a row stands with its
command; the other columns of `planner_outbox` stand here, by event. -/
namespace LiveRoute.Execution
open Domain Persistence

structure ClaimOwner where
  value : BitVec 128
deriving DecidableEq

structure OutboxClaim where
  owner : ClaimOwner
  expiresAt : DatabaseTime
deriving DecidableEq

structure OutboxColumns where
  attemptCount : Nat
  nextAttemptAt : DatabaseTime
  claim : Option OutboxClaim
  finalizationConfirmedAt : Option DatabaseTime
deriving DecidableEq

/-- The rows of one trip in every table. An event without columns has no outbox
row: its command is not recorded, or the row was pruned. -/
structure TripStore where
  record : TripRecord
  outbox : EventId → Option OutboxColumns
  snapshots : List SnapshotRow

def TripRecord.commandBy? (record : TripRecord) (eventId : EventId) : Option CommandRow :=
  record.commands.find? fun row => decide (row.eventId = eventId)

def TripRecord.delivery? (record : TripRecord) (eventId : EventId) : Option DeliveryState :=
  (record.commandBy? eventId).map CommandRow.deliveryState

def TripStore.setColumns (store : TripStore) (eventId : EventId)
    (update : OutboxColumns → OutboxColumns) : TripStore :=
  { store with outbox := fun event =>
      if event = eventId then (store.outbox event).map update else store.outbox event }

def OutboxColumns.unclaimed (columns : OutboxColumns) : OutboxColumns :=
  { columns with claim := none }

/-- A transaction that inserts a command inserts its outbox row, due at once;
every statement that writes a delivery state gives the claim up. -/
def committedColumns (now : DatabaseTime) :
    Option DeliveryState → Option DeliveryState → Option OutboxColumns → Option OutboxColumns
  | none, some _, _ => some ⟨0, now, none, none⟩
  | some before, some after, columns =>
    if after = before then columns else columns.map OutboxColumns.unclaimed
  | _, none, columns => columns

def TripStore.commit (store : TripStore) (now : DatabaseTime) (transaction : TripTransaction) :
    TripStore :=
  let committed := store.record.step transaction
  { store with
    record := committed
    outbox := fun eventId => committedColumns now (store.record.delivery? eventId)
      (committed.delivery? eventId) (store.outbox eventId) }

@[ext]
structure OutboxRow where
  command : CommandRow
  columns : OutboxColumns
deriving DecidableEq

def TripStore.outboxRows (store : TripStore) : List OutboxRow :=
  store.record.commands.filterMap fun command =>
    (store.outbox command.eventId).map fun columns => ⟨command, columns⟩

def OutboxRow.isDue (row : OutboxRow) (now : DatabaseTime) : Bool :=
  decide (row.command.deliveryState = .pending) && decide (row.columns.nextAttemptAt ≤ now) &&
    row.columns.claim.all fun claim => decide (claim.expiresAt ≤ now)

def TripStore.hasPredecessor (store : TripStore) (row : OutboxRow) : Bool :=
  store.outboxRows.any fun predecessor =>
    decide (predecessor.command.mutationSequence < row.command.mutationSequence) &&
      !predecessor.command.deliveryState.isResolved

def TripStore.candidates (store : TripStore) (now : DatabaseTime) : List OutboxRow :=
  store.outboxRows.filter fun row => row.isDue now && !store.hasPredecessor row

structure ClaimedOutboxRow where
  tripId : TripId
  command : CommandRow
  attemptCount : Nat
  claimExpiresAt : DatabaseTime
deriving DecidableEq

structure HeldClaim where
  owner : ClaimOwner
  row : ClaimedOutboxRow
deriving DecidableEq

def OutboxRow.isHeldBy (row : OutboxRow) (now : DatabaseTime) (claim : HeldClaim) : Bool :=
  decide (row.command.deliveryState = .pending) && decide
    (row.columns.attemptCount = claim.row.attemptCount) && row.columns.claim.any fun stored =>
      decide (stored.owner = claim.owner) && decide (now < stored.expiresAt)

def TripStore.row? (store : TripStore) (eventId : EventId) : Option OutboxRow :=
  (store.record.commandBy? eventId).bind fun command =>
    (store.outbox eventId).map fun columns => ⟨command, columns⟩

def TripStore.holds (store : TripStore) (now : DatabaseTime) (claim : HeldClaim) : Bool :=
  (store.row? claim.row.command.eventId).any fun row => row.isHeldBy now claim

inductive ClaimError where
  | invalidRequest | claimLost
deriving DecidableEq

/-- `ReleaseForRetry`, with the delay in microseconds. -/
def TripStore.releaseForRetry (store : TripStore) (now : DatabaseTime) (claim : HeldClaim)
    (delay : Int) : Except ClaimError TripStore :=
  if claim.row.attemptCount = 0 ∨ delay < 0 ∨ 30000000 < delay then .error .invalidRequest
  else if store.holds now claim then
    .ok (store.setColumns claim.row.command.eventId fun columns =>
      { columns.unclaimed with nextAttemptAt := now + delay })
  else .error .claimLost

def TripRecord.setDelivery (record : TripRecord) (eventId : EventId) (delivery : DeliveryState) :
    TripRecord :=
  { record with commands := record.commands.map fun row =>
      if row.eventId = eventId then { row with deliveryState := delivery } else row }

/-- `PauseInternal` writes the outbox row only; the state of a mirror stays. -/
def TripStore.pauseInternal (store : TripStore) (now : DatabaseTime) (claim : HeldClaim) :
    Except ClaimError TripStore :=
  if claim.row.attemptCount = 0 then .error .invalidRequest
  else if store.holds now claim then
    .ok ({ store with
      record := store.record.setDelivery claim.row.command.eventId .pausedInternal }.setColumns
        claim.row.command.eventId OutboxColumns.unclaimed)
  else .error .claimLost

inductive ConfirmationError where
  | invalidRequest | ahead | blocked
deriving DecidableEq

def OutboxColumns.confirm (now : DatabaseTime) (columns : OutboxColumns) : OutboxColumns :=
  if columns.finalizationConfirmedAt.isSome then columns
  else { columns with finalizationConfirmedAt := some now }

def TripRecord.covered? (record : TripRecord) (sequence : Nat) (eventId : EventId) :
    Option CommandRow :=
  (record.commandBy? eventId).filter fun row => decide (row.mutationSequence ≤ sequence)

def TripStore.confirmCovered (store : TripStore) (now : DatabaseTime) (sequence : Nat) :
    TripStore :=
  { store with outbox := fun eventId =>
      if (store.record.covered? sequence eventId).any fun row => row.deliveryState.isResolved then
        (store.outbox eventId).map (OutboxColumns.confirm now)
      else store.outbox eventId }

/-- `ConfirmFinalizedMutations`. -/
def TripStore.confirmFinalizedMutations (store : TripStore) (now : DatabaseTime)
    (sequence : UInt64) : Except ConfirmationError TripStore :=
  if sequence = 0 ∨ maxInt64 < sequence.toNat then .error .invalidRequest
  else if store.record.finalizedMutationSequence < sequence.toNat then .error .ahead
  else if store.outboxRows.any fun row =>
      decide (row.command.mutationSequence ≤ sequence.toNat) &&
        !row.command.deliveryState.isResolved then .error .blocked
  else .ok (store.confirmCovered now sequence.toNat)

structure ResolveCanonicalBootstrapRequest where
  (tripRevision acceptedMutationSequence finalizedMutationSequence : UInt64)
  currentPlanId : PlanId
deriving DecidableEq

def ResolveCanonicalBootstrapRequest.isValid (request : ResolveCanonicalBootstrapRequest) : Bool :=
  [request.tripRevision, request.acceptedMutationSequence,
    request.finalizedMutationSequence].all fun version =>
      !(version == 0) && decide (version.toNat ≤ maxInt64)

inductive BootstrapResolutionError where
  | invalidRequest | noCurrentPlan | conflict | blocked
deriving DecidableEq

def OutboxRow.blocksBootstrap (row : OutboxRow) : Bool := row.command.kind.isRuntimeFirst &&
    ((row.command.mirror.any fun mirror => decide (mirror.runtimeSyncState = .pending)) ||
      !row.command.deliveryState.isResolved)

def syncedMirror (mirror : CanonicalMirror) : CanonicalMirror :=
  { mirror with runtimeSyncState := .synced }

def resolvedMirror (row : CommandRow) : CommandRow :=
  if row.kind.isRuntimeFirst then row
  else
    { row with
      mirror := row.mirror.map syncedMirror
      deliveryState := if row.deliveryState.isResolved then row.deliveryState else .accepted }

def TripStore.resolveCommand (store : TripStore) (sequence : Nat) (row : CommandRow) : CommandRow :=
  if decide (row.mutationSequence ≤ sequence) && (store.outbox row.eventId).isSome then
    resolvedMirror row
  else row

def TripStore.resolveCovered (store : TripStore) (now : DatabaseTime) (sequence : Nat) :
    TripStore :=
  { store with
    record := { store.record with
      commands := store.record.commands.map (store.resolveCommand sequence) }
    outbox := fun eventId =>
      match store.record.covered? sequence eventId with
      | none => store.outbox eventId
      | some row => (store.outbox eventId).map fun columns =>
        if !row.kind.isRuntimeFirst && !row.deliveryState.isResolved then
          { columns.unclaimed with finalizationConfirmedAt := some now }
        else columns.confirm now }

/-- `ResolveCanonicalBootstrap`. -/
def TripStore.resolveCanonicalBootstrap (store : TripStore) (now : DatabaseTime)
    (request : ResolveCanonicalBootstrapRequest) : Except BootstrapResolutionError TripStore :=
  if !request.isValid then .error .invalidRequest
  else
    match store.record.lifecycle.currentPlanId with
    | none => .error .noCurrentPlan
    | some planId =>
      if store.record.tripRevision ≠ request.tripRevision.toNat ∨
          store.record.finalizedMutationSequence ≠ request.finalizedMutationSequence.toNat ∨
          request.acceptedMutationSequence ≠ request.finalizedMutationSequence ∨
          planId ≠ request.currentPlanId then .error .conflict
      else if store.outboxRows.any fun row =>
          decide (row.command.mutationSequence ≤ request.finalizedMutationSequence.toNat) &&
            row.blocksBootstrap then .error .blocked
      else .ok (store.resolveCovered now request.finalizedMutationSequence.toNat)

def TripStore.isReadyAt (store : TripStore) (sequence : Nat) : Bool :=
  store.outboxRows.all fun row =>
    !decide (row.command.mutationSequence ≤ sequence) ||
      (row.command.deliveryState.isResolved && row.columns.finalizationConfirmedAt.isSome)

/-- `DELETE FROM planner_outbox` of the resolved rows at or below the sequence. -/
def TripStore.pruneCovered (store : TripStore) (sequence : Nat) : TripStore :=
  { store with outbox := fun eventId =>
      if (store.record.covered? sequence eventId).any fun row => row.deliveryState.isResolved then
        none
      else store.outbox eventId }

/-- `SnapshotStore.Persist`: a repeated snapshot prunes nothing. -/
def TripStore.persistSnapshot (store : TripStore) (now : DatabaseTime) (blob : SnapshotBlob) :
    Except SnapshotError TripStore :=
  match Persistence.persistSnapshot store.snapshots store.record.tripRevision
      store.record.finalizedMutationSequence
      (store.isReadyAt blob.coveredFinalizedMutationSequence.toNat) blob now with
  | .error error => .error error
  | .ok (snapshots, inserted) =>
    if inserted then
      .ok { store.pruneCovered blob.coveredFinalizedMutationSequence.toNat with
        snapshots := snapshots }
    else .ok store

end LiveRoute.Execution
