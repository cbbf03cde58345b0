import LiveRoute.Execution.TripCommands

/-! Activation and deactivation of a saved trip. Each is recorded as a pending
operation and completed by a second transaction, once the runtime has followed. -/
namespace LiveRoute.Execution
open Domain Persistence

structure ActivateSavedTripRequest where
  userId : UserId
  idempotencyKey : IdempotencyKey
  expectedRevision : UInt64
  requestDigest : PayloadDigest
  startingLocation : Location
deriving DecidableEq

/-- What an activation meets outside its trip: the clock of the database, the
local day at that instant when the zone of the trip is known, the identifiers it
draws, and the rows of other trips. -/
structure ActivationContext where
  activatedAt : UnixTimeMilliseconds
  day : Option ActivationDay
  planId : PlanId
  operationId : OperationId
  recordId : IdempotencyRecordId
  otherTripExecutes : Bool
  foreignPlanIds : List PlanId
  foreignActivityIds : List ActivityId
  activatedAtFits : fitsTimestamp activatedAt

/-- What `reserveTripMutation` finds under the key of a request. -/
inductive Reservation where
  | reserved | replayed | reused
deriving DecidableEq

def TripRecord.reserve (record : TripRecord) (kind : OperationKind) (key : IdempotencyKey)
    (requestDigest : PayloadDigest) : Reservation :=
  match record.idempotencyRecords.find? fun stored =>
      decide (stored.kind = kind) && decide (stored.key = key) with
  | none => .reserved
  | some stored => if stored.requestDigest = requestDigest then .replayed else .reused

def validateActivateSavedTrip (request : ActivateSavedTripRequest) : Bool :=
  !(request.expectedRevision == 0) && decide (request.expectedRevision.toNat ≤ maxInt64) &&
    request.startingLocation.isValid

structure ActivationActivity where
  saved : SavedActivity
  displayName : String
  (startOffset endOffset : Nat)
deriving DecidableEq

/-- A place without an address would be named by its coordinates, but
PostgreSQL's `format` knows no `%.6f` and fails the statement. -/
def loadActivationActivity (saved : SavedActivity) : Except ExecutionError ActivationActivity :=
  match saved.place.formattedAddress with
  | none => .error .storage
  | some displayName =>
    match saved.schedule with
    | .unscheduled => .error .activationUnscheduled
    | .scheduled startOffset endOffset _ => .ok ⟨saved, displayName, startOffset, endOffset⟩

def loadActivationActivities (plan : SavedPlan) : Except ExecutionError (List ActivationActivity) :=
  plan.activities.mapM loadActivationActivity

def ActivationActivity.insideDay (activity : ActivationActivity)
    (activatedAt : UnixTimeMilliseconds) (day : ActivationDay) : Bool :=
  activity.saved.insideDay activatedAt day activity.startOffset activity.endOffset

def ActivationActivity.segment (activatedAt : UnixTimeMilliseconds)
    (activity : ActivationActivity) : CurrentPlanSegment :=
  executionSegment activity.saved.activityId activatedAt activity.startOffset activity.endOffset

def ActivationActivity.activity (activatedAt : UnixTimeMilliseconds)
    (activity : ActivationActivity) : Activity :=
  activity.saved.activity activatedAt activity.displayName

def executionPlan (record : TripRecord) (context : ActivationContext)
    (activities : List ActivationActivity) : CurrentPlan :=
  userCurrentPlan
    ⟨context.planId, .ofNat (record.rows.maximumPlanRevision + 1), context.activatedAt⟩
    (activities.map (ActivationActivity.segment context.activatedAt))

/-- The inserts of an activation, each of which a constraint can refuse: the
keys of the plan, the columns and keys of the activities, and the index that
allows one pending operation. -/
def TripRecord.insertExecution (record : TripRecord) (request : ActivateSavedTripRequest)
    (context : ActivationContext) (activities : List ActivationActivity) :
    Except TripError TripRecord :=
  if record.rows.maximumPlanRevision = maxInt64 || context.foreignPlanIds.contains context.planId ||
      record.plans.any (fun plan => decide (plan.planId = context.planId)) ||
      activities.any (fun activity =>
        context.foreignActivityIds.contains activity.saved.activityId) then
    .error (.execution .storage)
  else
    match (activities.map (ActivationActivity.activity context.activatedAt)).mapM storeActivity with
    | none => .error (.execution .storage)
    | some rows =>
      if record.nextMutationSequence = 0 || record.nextMutationSequence = maxInt64 then
        .error (.execution .sequenceOverflow)
      else if record.operations.any (fun operation => decide (operation.state = .pending)) then
        .error (.execution .operationPending)
      else if record.operations.any (fun operation =>
          decide (operation.operationId = context.operationId)) ||
          record.idempotencyRecords.any (fun stored =>
            decide (stored.recordId = context.recordId)) then
        .error (.execution .storage)
      else
        match { record with
            plans := record.plans ++ [executionPlan record context activities], travelDelays := []
            activities := rows
            operations := record.operations ++ [⟨context.operationId, context.recordId, .activate,
              .pending, record.tripRevision, some context.planId⟩]
            nextMutationSequence := record.nextMutationSequence + 1
            finalizedMutationSequence := record.nextMutationSequence
            idempotencyRecords := record.idempotencyRecords ++ [⟨context.recordId, .activate,
              request.idempotencyKey, request.requestDigest, 202⟩] : TripRecord }.setLifecycle
            ⟨.activating, some context.planId, some context.planId, some context.activatedAt,
              some context.operationId⟩ with
        | none => .error .lifecycleCheck
        | some activated => .ok activated

/-- `SavedTripStore.Activate`. -/
def TripRecord.activate (record : TripRecord) (request : ActivateSavedTripRequest)
    (context : ActivationContext) : Except TripError TripRecord :=
  if !validateActivateSavedTrip request then .error (.execution .savedTripInput)
  else if record.ownerUserId ≠ request.userId then .error (.execution .tripNotFound)
  else
    match record.reserve .activate request.idempotencyKey request.requestDigest with
    | .reused => .error (.execution .idempotencyReused)
    | .replayed => .ok record
    | .reserved =>
      match record.savedPlan with
      | none => .error (.execution .storage)
      | some plan =>
        if record.lifecycle.executionState ≠ .inactive then .error (.execution .notInactive)
        else if record.tripRevision ≠ request.expectedRevision.toNat then
          .error (.execution .tripRevisionStale)
        else if context.otherTripExecutes then .error (.execution .executionTripConflict)
        else
          match loadActivationActivities plan with
          | .error error => .error (.execution error)
          | .ok activities =>
            match context.day with
            | none => .error (.execution .timeZone)
            | some day =>
              if activities.all fun activity => activity.insideDay context.activatedAt day then
                record.insertExecution request context activities
              else .error (.execution .activationOutsideDay)

def IdempotencyRecord.awaitsCompletion (stored : IdempotencyRecord)
    (operation : ExecutionOperation) : Bool :=
  decide (stored.recordId = operation.recordId) && decide (stored.responseStatus = 202) &&
    (decide (operation.kind = .deactivate) || decide (stored.kind = .activate))

/-- The update of a response that is still 202; it must find its row. -/
def completeRecord (operation : ExecutionOperation) (records : List IdempotencyRecord) :
    Option (List IdempotencyRecord) :=
  if records.countP (fun stored => stored.awaitsCompletion operation) = 1 then
    some (records.map fun stored =>
      if stored.awaitsCompletion operation then { stored with responseStatus := 200 } else stored)
  else none

def succeedOperation (operationId : OperationId) (operations : List ExecutionOperation) :
    List ExecutionOperation :=
  operations.map fun operation =>
    if operation.operationId = operationId ∧ operation.state = .pending then
      { operation with state := .succeeded }
    else operation

def TripRecord.operation? (record : TripRecord) (operationId : OperationId) :
    Option ExecutionOperation :=
  record.operations.find? fun operation => decide (operation.operationId = operationId)

structure CompleteActivationRequest where
  operationId : OperationId
  holderId : HolderId
  runtimeEpoch : Nat
deriving DecidableEq

/-- The last statements of a completion: the lifecycle columns, the operation
and the stored response. -/
def TripRecord.completeOperation (record : TripRecord) (operation : ExecutionOperation)
    (columns : LifecycleColumns) : Except TripError TripRecord :=
  match { record with operations := succeedOperation operation.operationId record.operations
      }.setLifecycle columns with
  | none => .error .lifecycleCheck
  | some completed =>
    match completeRecord operation record.idempotencyRecords with
    | none => .error (.execution .idempotencyNotPending)
    | some records => .ok { completed with idempotencyRecords := records }

def TripRecord.completeActivation (record : TripRecord) (request : CompleteActivationRequest)
    (now : DatabaseTime) : Except TripError TripRecord :=
  if request.runtimeEpoch = 0 ∨ maxInt64 < request.runtimeEpoch then
    .error (.execution .savedTripInput)
  else if record.lifecycle.currentPlanId.isNone then .error .noCurrentPlan
  else
    match record.lease.filter fun lease => decide (lease.holderId = request.holderId) with
    | none => .error (.execution .leaseLost)
    | some lease =>
      if lease.runtimeEpoch ≠ request.runtimeEpoch ∨ lease.leaseExpiresAt ≤ now then
        .error (.execution .leaseLost)
      else
        match record.operation? request.operationId with
        | none => .error (.execution .operationNotFound)
        | some operation =>
          if operation.kind ≠ .activate ∨ operation.state ≠ .pending ∨
              operation.sourceTripRevision ≠ record.tripRevision then
            .error (.execution .operationMismatch)
          else if record.lifecycle.executionState ≠ .activating then
            .error (.execution .notActivating)
          else
            record.completeOperation operation
              { record.lifecycle.toLifecycleColumns with
                executionState := .active, transitionOperationId := none }

structure DeactivateSavedTripRequest where
  userId : UserId
  idempotencyKey : IdempotencyKey
  expectedRevision : UInt64
  requestDigest : PayloadDigest
deriving DecidableEq

structure DeactivationDraws where
  operationId : OperationId
  recordId : IdempotencyRecordId
deriving DecidableEq

def TripRecord.insertDeactivation (record : TripRecord) (request : DeactivateSavedTripRequest)
    (draws : DeactivationDraws) : Except TripError TripRecord :=
  if record.operations.any (fun operation => decide (operation.state = .pending)) then
    .error (.execution .operationPending)
  else if record.operations.any (fun operation =>
      decide (operation.operationId = draws.operationId)) ||
      record.idempotencyRecords.any (fun stored => decide (stored.recordId = draws.recordId)) then
    .error (.execution .storage)
  else
    match { record with
        operations := record.operations ++
          [⟨draws.operationId, draws.recordId, .deactivate, .pending, record.tripRevision, none⟩]
        proposals := record.rows.invalidateProposals.proposals
        idempotencyRecords := record.idempotencyRecords ++ [⟨draws.recordId, .deactivate,
          request.idempotencyKey, request.requestDigest, 202⟩] : TripRecord }.setLifecycle
        { record.lifecycle.toLifecycleColumns with
          executionState := .deactivating, transitionOperationId := some draws.operationId } with
    | none => .error .lifecycleCheck
    | some deactivating => .ok deactivating

/-- `SavedTripStore.Deactivate`. -/
def TripRecord.deactivate (record : TripRecord) (request : DeactivateSavedTripRequest)
    (draws : DeactivationDraws) : Except TripError TripRecord :=
  if maxInt64 < request.expectedRevision.toNat then .error (.execution .savedTripInput)
  else if record.ownerUserId ≠ request.userId then .error (.execution .tripNotFound)
  else
    match record.reserve .deactivate request.idempotencyKey request.requestDigest with
    | .reused => .error (.execution .idempotencyReused)
    | .replayed => .ok record
    | .reserved =>
      if record.lifecycle.currentPlanId.isNone then .error .noCurrentPlan
      else if record.tripRevision ≠ request.expectedRevision.toNat then
        .error (.execution .tripRevisionStale)
      else if record.lifecycle.executionState ≠ .active ∧
          record.lifecycle.executionState ≠ .activating then
        .error (.execution .notExecuting)
      else record.insertDeactivation request draws

/-- The activities of an execution go with their windows and delays; the plans
and the commands of the trip stay. -/
def TripRecord.completeDeactivation (record : TripRecord) (operationId : OperationId) :
    Except TripError TripRecord :=
  if record.lease.isSome then .error (.execution .leaseHeld)
  else
    match record.operation? operationId with
    | none => .error (.execution .operationNotFound)
    | some operation =>
      if record.lifecycle.executionState ≠ .deactivating ∨ operation.kind ≠ .deactivate ∨
          operation.state ≠ .pending then
        .error (.execution .operationMismatch)
      else if record.savedPlan.isNone then .error (.execution .tripNotFound)
      else
        { record with activities := [], travelDelays := [] : TripRecord }.completeOperation
          operation ⟨.inactive, none, none, none, none⟩

structure ReviseSavedTripRequest where
  userId : UserId
  expectedRevision : UInt64
  defaultTimeZoneName : String
  plan : SavedPlan
  zoneNamed : defaultTimeZoneName ≠ ""

/-- What `Update` and the three activity mutations share: a new saved plan of
an inactive trip, at the next trip revision. -/
def TripRecord.reviseSavedPlan (record : TripRecord) (request : ReviseSavedTripRequest) :
    Except TripError TripRecord :=
  if record.ownerUserId ≠ request.userId ∨ record.savedPlan.isNone then
    .error (.execution .tripNotFound)
  else if record.lifecycle.executionState ≠ .inactive then .error (.execution .notInactive)
  else if maxInt64 < request.expectedRevision.toNat ∨
      record.tripRevision ≠ request.expectedRevision.toNat then
    .error (.execution .tripRevisionStale)
  else if record.tripRevision = maxInt64 then .error (.execution .storage)
  else
    .ok { record with
      savedPlan := some request.plan, defaultTimeZoneName := request.defaultTimeZoneName
      tripRevision := record.tripRevision + 1 }

end LiveRoute.Execution
