import LiveRoute.Persistence.Commands

/-! Canonical-first commands. A transaction edits the rows of a trip under a
new user-authored plan and leaves a pending mirror of the edit for the planner.
The five transactions share their steps and differ in the rows they write. -/
namespace LiveRoute.Persistence
open Domain

inductive CanonicalCommandError where
  | invalid (reason : String)
  | tripConflict | idempotencyKeyReused | tripRevisionStale | mutationSequenceExhausted
  | durableCommandBlocked | canonicalMirrorCapacity | storage
deriving DecidableEq

structure CanonicalPlanMetadata where
  planId : PlanId
  revision : UInt64
  createdAt : UnixTimeMilliseconds
deriving DecidableEq

/-- The fields that the requests of all canonical-first commands share. The
builder makes the stored event once the plan has its revision and time. -/
structure CanonicalEditRequest where
  ownerUserId : UserId
  (messageId eventId : EventId)
  planId : PlanId
  expectedTripRevision : UInt64
  commandExpiresAt : Option UnixTimeMilliseconds
  maxPendingCanonicalMirror : UInt32
  planSegments : List CurrentPlanSegment
  payloadDigest : PayloadDigest
  eventPayloadBuilder : CanonicalPlanMetadata → TripEvent

/-- What a transaction meets outside its trip: the clock of the database and
the identifiers that the rows of other trips use. -/
structure CommitContext where
  createdAt : UnixTimeMilliseconds
  foreignPlanIds : List PlanId
  foreignActivityIds : List ActivityId
deriving DecidableEq

def draftSegment (segment : CurrentPlanSegment) : CurrentPlanSegment :=
  match segment.state with
  | .scheduled => segment
  | .omitted => ⟨segment.activityId, .omitted, none, none⟩

/-- The plan that `userCurrentPlanPayload` encodes. -/
def userCurrentPlan (metadata : CanonicalPlanMetadata) (segments : List CurrentPlanSegment) :
    CurrentPlan :=
  { planId := metadata.planId, planRevision := metadata.revision, origin := .userAuthored
    segments := segments.map draftSegment, createdAt := metadata.createdAt
    sourceProposalId := none }

def validateCanonicalActivity (activity : Activity) : Except String Unit :=
  let timing := activity.timing
  if activity.placeId.isEmpty || activity.displayName.isEmpty || activity.timeZoneName.isEmpty ||
      !fitsInteger activity.activityDelaySeconds || !fitsInteger timing.reservationGraceSeconds ||
      !fitsInteger timing.minDurationSeconds || !fitsInteger timing.preferredDurationSeconds ||
      !fitsInteger timing.maxDurationSeconds ||
      decide (timing.preferredDurationSeconds < timing.minDurationSeconds) ||
      decide (timing.maxDurationSeconds < timing.preferredDurationSeconds) then
    .error "activity draft is invalid"
  else if !activity.location.isValid then .error "activity location is invalid"
  else if !windowsNormalized none timing.openWindows then
    .error "activity opening windows are not normalized"
  else .ok ()

def replacementTimes (previousEnd : Option UnixTimeMilliseconds) (segment : CurrentPlanSegment) :
    Except String (Option UnixTimeMilliseconds) :=
  match segment.state with
  | .scheduled =>
    match segment.scheduledStart, segment.scheduledEnd with
    | some start, some finish =>
      if decide (finish.toInt ≤ start.toInt) ||
          previousEnd.any (fun prior => decide (start.toInt < prior.toInt)) then
        .error "replacement scheduled segment is invalid"
      else .ok (some finish)
    | _, _ => .error "replacement scheduled segment is invalid"
  | .omitted =>
    if segment.scheduledStart.isSome || segment.scheduledEnd.isSome then
      .error "replacement omitted segment has times"
    else .ok previousEnd

structure ReplacementScan where
  seen : List ActivityId
  (prefixOpen started : Bool)
  previousEnd : Option UnixTimeMilliseconds
deriving DecidableEq

/-- One pass of the loop in `validateReplacementPlan`. -/
def scanReplacementSegment (activities : List Activity) (index : Nat) (scan : ReplacementScan)
    (segment : CurrentPlanSegment) : Except String ReplacementScan :=
  match activityFor activities segment.activityId with
  | none => .error "replacement plan references an unknown activity"
  | some activity =>
    if segment.activityId ∈ scan.seen then .error "replacement plan repeats an activity"
    else
      match replacementTimes scan.previousEnd segment with
      | .error reason => .error reason
      | .ok previousEnd =>
        let seen := segment.activityId :: scan.seen
        if scan.prefixOpen && activity.activityState.isTerminal then
          .ok ⟨seen, true, scan.started, previousEnd⟩
        else if activity.activityState.isTerminal then
          .error "replacement terminal activity is outside the prefix"
        else if activity.activityState = .started then
          -- The segment is already counted, so this index comparison never fails.
          if scan.started || !decide (index = seen.length - 1) then
            .error "replacement started activity is out of order"
          else .ok ⟨seen, false, true, previousEnd⟩
        else .ok ⟨seen, false, scan.started, previousEnd⟩

def scanReplacement (activities : List Activity) :
    Nat → ReplacementScan → List CurrentPlanSegment → Except String ReplacementScan
  | _, scan, [] => .ok scan
  | index, scan, segment :: rest =>
    match scanReplacementSegment activities index scan segment with
    | .error reason => .error reason
    | .ok next => scanReplacement activities (index + 1) next rest

/-- The states of the plan's activities are looked up among `activities`. -/
def validateReplacementPlan (segments : List CurrentPlanSegment) (activities : List Activity) :
    Except String Unit :=
  if segments.length ≠ activities.length then
    .error "replacement plan must cover every activity"
  else
    match scanReplacement activities 0 ⟨[], true, false, none⟩ segments with
    | .error reason => .error reason
    | .ok scan =>
      if scan.seen.length ≠ activities.length then .error "replacement plan omits an activity"
      else .ok ()

/-- What distinguishes one canonical-first transaction from another: the checks
of its request, the activities its plan must cover, and the statements on the
rows of activities, opening windows and delays. -/
structure CanonicalTransaction where
  kind : CommandKind
  validateRequest : CanonicalEditRequest → Except String Unit
  resulting : List Activity → Except String (List Activity)
  write : CommitContext → CanonicalTrip → Option CanonicalTrip

def mirrorRow (kind : CommandKind) (trip : CanonicalTrip) (request : CanonicalEditRequest)
    (metadata : CanonicalPlanMetadata)
    (sequenceFits : 0 < trip.nextMutationSequence ∧ trip.nextMutationSequence ≤ maxInt64)
    (revisionFits : trip.tripRevision ≤ maxInt64) : CommandRow :=
  { eventId := request.eventId, mutationSequence := trip.nextMutationSequence
    expectedTripRevision := trip.tripRevision, kind := kind, payloadDigest := request.payloadDigest
    event := request.eventPayloadBuilder metadata, plannedCurrentPlan := none
    intentState := .applied, outcome := none
    mirror := some ⟨trip.tripRevision + 1, metadata.planId, .pending⟩, deliveryState := .pending
    sequenceFits := sequenceFits, revisionFits := revisionFits }

def CanonicalTrip.supersedeProposals (trip : CanonicalTrip) : CanonicalTrip :=
  { trip with proposals := trip.proposals.map fun row =>
      if row.state = .pending then { row with state := .superseded } else row }

/-- `trip` is what the transaction has read and `written` its rows after the
statements on activities and delays. -/
def publishEdit (trip written : CanonicalTrip) (plan : CurrentPlan) (row : CommandRow) :
    CanonicalTrip :=
  { written.supersedeProposals with
    plans := trip.plans ++ [plan], tripRevision := trip.tripRevision + 1
    nextMutationSequence := trip.nextMutationSequence + 1
    finalizedMutationSequence := trip.nextMutationSequence, currentPlanId := plan.planId
    commands := trip.commands ++ [row] }

def planKeyTaken (trip : CanonicalTrip) (context : CommitContext)
    (metadata : CanonicalPlanMetadata) : Bool :=
  context.foreignPlanIds.contains metadata.planId || trip.plans.any fun plan =>
      decide (plan.planId = metadata.planId) || plan.planRevision == metadata.revision

def editMetadata (trip : CanonicalTrip) (request : CanonicalEditRequest)
    (context : CommitContext) : CanonicalPlanMetadata :=
  ⟨request.planId, .ofNat (trip.tripRevision + 1), context.createdAt⟩

def CommandRow.isPendingRuntimeFirst (row : CommandRow) : Bool :=
  row.kind.isRuntimeFirst && decide (row.intentState = .pending)

def CommandRow.isPendingMirror (row : CommandRow) : Bool := !row.kind.isRuntimeFirst &&
    row.mirror.any fun mirror => !decide (mirror.runtimeSyncState = .synced)

namespace CanonicalTransaction

/-- The inserts and updates, each of which a constraint can refuse. -/
def insertRows (transaction : CanonicalTransaction) (trip : CanonicalTrip)
    (request : CanonicalEditRequest) (context : CommitContext)
    (sequenceFits : 0 < trip.nextMutationSequence ∧ trip.nextMutationSequence ≤ maxInt64)
    (revisionFits : trip.tripRevision ≤ maxInt64) :
    Except CanonicalCommandError (CanonicalTrip × RecordedCommand) :=
  let metadata := editMetadata trip request context
  if trip.currentPlan.isNone || planKeyTaken trip context metadata ||
      !request.commandExpiresAt.all fitsTimestamp then
    .error .storage
  else
    match transaction.write context trip with
    | none => .error .storage
    | some written =>
      let row := mirrorRow transaction.kind trip request metadata sequenceFits revisionFits
      .ok (publishEdit trip written (userCurrentPlan metadata request.planSegments) row,
        ⟨row, false⟩)

def recordNew (transaction : CanonicalTransaction) (trip : CanonicalTrip)
    (request : CanonicalEditRequest) (context : CommitContext) :
    Except CanonicalCommandError (CanonicalTrip × RecordedCommand) :=
  if trip.tripRevision ≠ request.expectedTripRevision.toNat then .error .tripRevisionStale
  else if hroom : trip.tripRevision < maxInt64 ∧ 0 < trip.nextMutationSequence ∧
      trip.nextMutationSequence < maxInt64 then
    if trip.commands.any CommandRow.isPendingRuntimeFirst then .error .durableCommandBlocked
    else if request.maxPendingCanonicalMirror.toNat ≤
        trip.commands.countP CommandRow.isPendingMirror then
      .error .canonicalMirrorCapacity
    else
      match transaction.resulting (trip.activities.map ActivityRow.activity) with
      | .error reason => .error (.invalid reason)
      | .ok resulting =>
        match validateReplacementPlan request.planSegments resulting with
        | .error reason => .error (.invalid reason)
        | .ok () =>
          transaction.insertRows trip request context ⟨hroom.2.1, Nat.le_of_lt hroom.2.2⟩
            (Nat.le_of_lt hroom.1)
  else .error .mutationSequenceExhausted

def run (transaction : CanonicalTransaction) (trip : CanonicalTrip) (request : CanonicalEditRequest)
    (context : CommitContext) : Except CanonicalCommandError (CanonicalTrip × RecordedCommand) :=
  match transaction.validateRequest request with
  | .error reason => .error (.invalid reason)
  | .ok () =>
    if trip.ownerUserId ≠ request.ownerUserId then .error .tripConflict
    else
      match trip.commands.find? fun row => decide (row.eventId = request.messageId) with
      | some row =>
        if row.payloadDigest = request.payloadDigest ∧ row.kind = transaction.kind then
          .ok (trip, ⟨row, true⟩)
        else .error .idempotencyKeyReused
      | none => transaction.recordNew trip request context

end CanonicalTransaction

def validateEditRequest (reason : String) (request : CanonicalEditRequest) : Except String Unit :=
  if request.messageId ≠ request.eventId ∨ request.maxPendingCanonicalMirror = 0 then .error reason
  else .ok ()

/-- `ReplaceCurrentPlan` writes no activity. -/
def replaceCurrentPlan : CanonicalTransaction where
  kind := .replaceCurrentPlan
  validateRequest := validateEditRequest "replacement request is invalid"
  resulting := .ok
  write := fun _ trip => some trip

def validateReorderActivitiesRequest (activityIds : List ActivityId)
    (request : CanonicalEditRequest) : Except String Unit :=
  if activityIds.isEmpty then .error "trip-edit request is invalid"
  else
    match validateEditRequest "trip-edit request is invalid" request with
    | .error reason => .error reason
    | .ok () =>
      if activityIds.Nodup then .ok () else .error "trip-edit activity ids must be unique"

/-- The loop over the requested order, which compares neighbours only. -/
def checkReorder (activities : List Activity) :
    Option ActivityId → List ActivityId → Except String Unit
  | _, [] => .ok ()
  | previous, activityId :: rest =>
    if !containsActivity activities activityId then
      .error "trip-edit reorder references unknown activity"
    else if previous = some activityId then .error "trip-edit reorder repeats an activity"
    else checkReorder activities (some activityId) rest

def rowFor (rows : List ActivityRow) (activityId : ActivityId) : Option ActivityRow :=
  rows.find? fun row => decide (row.activity.activityId = activityId)

def reorderActivities (activityIds : List ActivityId) : CanonicalTransaction where
  kind := .tripEdited
  validateRequest := validateReorderActivitiesRequest activityIds
  resulting := fun activities =>
    if activities.length ≠ activityIds.length then
      .error "trip-edit reorder must cover every activity"
    else
      (checkReorder activities none activityIds).map fun _ =>
        activityIds.filterMap (activityFor activities)
  write := fun _ trip =>
    some { trip with activities := activityIds.filterMap (rowFor trip.activities) }

def delayTouches (activityId : ActivityId) (delay : TravelDelayState) : Bool :=
  decide (delay.fromActivityId = activityId) || decide (delay.toActivityId = activityId)

def removeActivity (activityId : ActivityId) : CanonicalTransaction where
  kind := .tripEdited
  validateRequest := validateEditRequest "trip-edit remove request is invalid"
  resulting := fun activities =>
    if containsActivity activities activityId then
      .ok (activities.filter fun activity => !decide (activity.activityId = activityId))
    else .error "trip-edit remove references unknown activity"
  write := fun _ trip =>
    some { trip with
      activities := trip.activities.filter fun row => !decide (row.activity.activityId = activityId)
      travelDelays := trip.travelDelays.filter fun row => !delayTouches activityId row.delay }

def validateActivityRequest (reason : String) (activity : Activity)
    (request : CanonicalEditRequest) : Except String Unit :=
  match validateEditRequest reason request with
  | .error reason => .error reason
  | .ok () => validateCanonicalActivity activity

def replaceActivity (activity : Activity) : CanonicalTransaction where
  kind := .tripEdited
  validateRequest := validateActivityRequest "trip-edit replace request is invalid" activity
  resulting := fun activities =>
    if containsActivity activities activity.activityId then
      .ok (updateActivity activity.activityId (fun _ => activity) activities)
    else .error "trip-edit replace references unknown activity"
  write := fun _ trip =>
    (updateActivityRows activity.activityId (fun _ => activity) trip.activities).map fun rows =>
      { trip with activities := rows }

def addActivity (activity : Activity) (ordinal : UInt32) : CanonicalTransaction where
  kind := .tripEdited
  validateRequest := validateActivityRequest "trip-edit add request is invalid" activity
  resulting := fun activities =>
    if 64 ≤ activities.length then .error "trip-edit activity limit is exceeded"
    else if activities.length < ordinal.toNat then .error "trip-edit add ordinal is invalid"
    else if containsActivity activities activity.activityId then
      .error "trip-edit add repeats an activity"
    else .ok (activities.insertIdx ordinal.toNat activity)
  write := fun context trip =>
    if context.foreignActivityIds.contains activity.activityId then none
    else
      (storeActivity activity).map fun row =>
        { trip with activities := trip.activities.insertIdx ordinal.toNat row }

end LiveRoute.Persistence
