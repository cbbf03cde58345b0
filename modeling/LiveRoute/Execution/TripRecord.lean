import LiveRoute.Execution.SavedPlan
import LiveRoute.Persistence.CanonicalCommands
import LiveRoute.Persistence.Leases

/-! The database rows of one trip, saved and executed. The transactions on
current plans see a part of them; the lifecycle columns of `trips` carry the
constraint that ties the execution state to the plan it executes. -/
namespace LiveRoute.Execution
open Domain Persistence

structure OperationId where
  value : BitVec 128
deriving DecidableEq

structure IdempotencyRecordId where
  value : BitVec 128
deriving DecidableEq

structure IdempotencyKey where
  value : BitVec 128
deriving DecidableEq

structure LifecycleColumns where
  executionState : ExecutionState
  (currentPlanId activeExecutionPlanId : Option PlanId)
  activatedAt : Option UnixTimeMilliseconds
  transitionOperationId : Option OperationId
deriving DecidableEq

def LifecycleColumns.executesCurrentPlan (columns : LifecycleColumns) : Bool :=
  columns.currentPlanId.isSome &&
    decide (columns.activeExecutionPlanId = columns.currentPlanId) && columns.activatedAt.isSome

/-- `trips_execution_lifecycle_check`. -/
def LifecycleColumns.check (columns : LifecycleColumns) : Bool :=
  match columns.executionState with
  | .inactive =>
    columns.activeExecutionPlanId.isNone && columns.activatedAt.isNone &&
      columns.transitionOperationId.isNone
  | .activating | .deactivating =>
    columns.executesCurrentPlan && columns.transitionOperationId.isSome
  | .active => columns.executesCurrentPlan && columns.transitionOperationId.isNone

structure Lifecycle extends LifecycleColumns where
  valid : toLifecycleColumns.check
deriving DecidableEq

inductive OperationKind where
  | activate | deactivate
deriving DecidableEq

inductive OperationState where
  | pending | succeeded
deriving DecidableEq

/-- A row of `trip_execution_operations`. -/
structure ExecutionOperation where
  operationId : OperationId
  recordId : IdempotencyRecordId
  kind : OperationKind
  state : OperationState
  sourceTripRevision : Nat
  targetPlanId : Option PlanId
deriving DecidableEq

/-- A completed row of `http_idempotency_records` for an activation or a
deactivation of the trip by its owner. -/
structure IdempotencyRecord where
  recordId : IdempotencyRecordId
  kind : OperationKind
  key : IdempotencyKey
  requestDigest : PayloadDigest
  responseStatus : Nat
deriving DecidableEq

/-- The intent of `create_trip`. It has sequence 1 and no outbox row. -/
structure CreationIntent where
  messageId : EventId
  payloadDigest : PayloadDigest
  planId : PlanId
deriving DecidableEq

structure TripRecord where
  tripId : TripId
  ownerUserId : UserId
  defaultTimeZoneName : String
  (tripRevision nextMutationSequence finalizedMutationSequence : Nat)
  savedPlan : Option SavedPlan
  lifecycle : Lifecycle
  activities : List ActivityRow
  travelDelays : List TravelDelayRow
  plans : List CurrentPlan
  proposals : List ProposalRow
  creation : Option CreationIntent
  commands : List CommandRow
  operations : List ExecutionOperation
  idempotencyRecords : List IdempotencyRecord
  lease : Option LeaseRow
deriving DecidableEq

/-- The rows that the transactions on current plans work on, for a trip whose
current plan is `planId`. -/
@[simps]
def TripRecord.canonicalTrip (record : TripRecord) (planId : PlanId) : CanonicalTrip where
  tripId := record.tripId
  ownerUserId := record.ownerUserId
  defaultTimeZoneName := record.defaultTimeZoneName
  tripRevision := record.tripRevision
  nextMutationSequence := record.nextMutationSequence
  finalizedMutationSequence := record.finalizedMutationSequence
  currentPlanId := planId
  activities := record.activities
  travelDelays := record.travelDelays
  plans := record.plans
  proposals := record.proposals
  commands := record.commands

/-- The rows as a transaction sees them that does not read the current plan, so
that it commits for a trip without one too. -/
def TripRecord.rows (record : TripRecord) : CanonicalTrip :=
  record.canonicalTrip (record.lifecycle.currentPlanId.getD ⟨0⟩)

/-- Everything a transaction on current plans writes, but the plan pointer. -/
@[simps]
def TripRecord.withRows (record : TripRecord) (trip : CanonicalTrip) : TripRecord where
  tripId := record.tripId
  ownerUserId := record.ownerUserId
  defaultTimeZoneName := record.defaultTimeZoneName
  tripRevision := trip.tripRevision
  nextMutationSequence := trip.nextMutationSequence
  finalizedMutationSequence := trip.finalizedMutationSequence
  savedPlan := record.savedPlan
  lifecycle := record.lifecycle
  activities := trip.activities
  travelDelays := trip.travelDelays
  plans := trip.plans
  proposals := trip.proposals
  creation := record.creation
  commands := trip.commands
  operations := record.operations
  idempotencyRecords := record.idempotencyRecords
  lease := record.lease

/-- `CanonicalStateStore.Load`, which a trip without a current plan fails
before any row is checked. -/
inductive LoadResult where
  | noCurrentPlan | corrupt
  | loaded (state : CanonicalTripState)
deriving DecidableEq

def TripRecord.load (record : TripRecord) : LoadResult :=
  match record.lifecycle.currentPlanId with
  | none => .noCurrentPlan
  | some planId =>
    match Persistence.load (record.canonicalTrip planId) with
    | none => .corrupt
    | some state => .loaded state

/-- `UPDATE trips` of lifecycle columns, which the constraint can refuse. -/
def TripRecord.setLifecycle (record : TripRecord) (columns : LifecycleColumns) :
    Option TripRecord :=
  if valid : columns.check then some { record with lifecycle := ⟨columns, valid⟩ }
  else none

end LiveRoute.Execution
