import LiveRoute.Execution.TripCommands

/-! The two ways a trip comes into being: a legacy trip with its current plan,
and a saved trip that has no current plan until it is activated. -/
namespace LiveRoute.Execution
open Domain Persistence

inductive CreateTripError where
  | invalid (reason : String)
  | tripConflict | idempotencyKeyReused | ownerMissing | storage
deriving DecidableEq

structure CreateTripRequest where
  tripId : TripId
  ownerUserId : UserId
  (messageId eventId : EventId)
  planId : PlanId
  defaultTimeZoneName : String
  activities : List Activity
  travelDelays : List TravelDelayState
  planSegments : List CurrentPlanSegment
  payloadDigest : PayloadDigest
deriving DecidableEq

def createTripReason : String → String
  | "replacement plan must cover every activity" => "create-trip plan must cover every activity"
  | "replacement plan references an unknown activity" =>
    "create-trip plan references an unknown activity"
  | "replacement plan repeats an activity" => "create-trip plan repeats an activity"
  | "replacement scheduled segment is invalid" => "create-trip scheduled plan segment is invalid"
  | "replacement omitted segment has times" => "create-trip omitted segment has times"
  | "replacement terminal activity is outside the prefix" =>
    "create-trip terminal activity is outside the prefix"
  | "replacement started activity is out of order" => "create-trip started activity is out of order"
  | "replacement plan omits an activity" => "create-trip plan omits an activity"
  | reason => reason

def validateCreateTripActivities : List ActivityId → List Activity → Except String Unit
  | _, [] => .ok ()
  | seen, activity :: rest =>
    match validateCanonicalActivity activity with
    | .error reason => .error reason
    | .ok () =>
      if activity.activityId ∈ seen then .error "create-trip activities must be unique"
      else validateCreateTripActivities (activity.activityId :: seen) rest

def validateCreateTripDelays (activities : List Activity) :
    List TravelDelayState → Except String Unit
  | [] => .ok ()
  | delay :: rest =>
    if !fitsInteger delay.additionalSeconds then .error "create-trip travel delay is invalid"
    else if !containsActivity activities delay.fromActivityId then
      .error "create-trip delay origin is unknown"
    else if !containsActivity activities delay.toActivityId then
      .error "create-trip delay destination is unknown"
    else validateCreateTripDelays activities rest

def createTripPlan (request : CreateTripRequest) (createdAt : UnixTimeMilliseconds) : CurrentPlan :=
  userCurrentPlan ⟨request.planId, 1, createdAt⟩ request.planSegments

def validateCreateTripRequest (request : CreateTripRequest) : Except String Unit :=
  if request.messageId ≠ request.eventId ∨ request.defaultTimeZoneName.isEmpty ∨
      request.activities = [] ∨ 64 < request.activities.length then
    .error "create-trip draft is invalid"
  else if request.planSegments.length ≠ request.activities.length then
    .error "create-trip plan must cover every activity"
  else
    match validateCreateTripActivities [] request.activities with
    | .error reason => .error reason
    | .ok () =>
      match validateReplacementPlan request.planSegments request.activities with
      | .error reason => .error (createTripReason reason)
      | .ok () =>
        if !parsedPlanIsValid (createTripPlan request 1) then .error "create-trip plan is invalid"
        else validateCreateTripDelays request.activities request.travelDelays

structure CreateTripContext where
  createdAt : UnixTimeMilliseconds
  ownerExists : Bool
  foreignPlanIds : List PlanId
  foreignActivityIds : List ActivityId
deriving DecidableEq

def storeDelay (delay : TravelDelayState) : Option TravelDelayRow :=
  if h : delayFits delay then some ⟨delay, h⟩ else none

def inactiveLifecycle (currentPlanId : Option PlanId) : Lifecycle :=
  ⟨⟨.inactive, currentPlanId, none, none, none⟩, rfl⟩

/-- `CreateTrip` of a trip that does not exist. -/
def createTrip (request : CreateTripRequest) (context : CreateTripContext) :
    Except CreateTripError TripRecord :=
  match validateCreateTripRequest request with
  | .error reason => .error (.invalid reason)
  | .ok () =>
    if !context.ownerExists then .error .ownerMissing
    else if context.foreignPlanIds.contains request.planId ||
        request.activities.any (fun activity =>
          context.foreignActivityIds.contains activity.activityId) ||
        !decide (request.travelDelays.map TravelDelayState.key).Nodup then
      .error .storage
    else
      match request.activities.mapM storeActivity, request.travelDelays.mapM storeDelay with
      | some activities, some delays =>
        .ok
          { tripId := request.tripId, ownerUserId := request.ownerUserId
            defaultTimeZoneName := request.defaultTimeZoneName, tripRevision := 1
            nextMutationSequence := 2, finalizedMutationSequence := 1, savedPlan := none
            lifecycle := inactiveLifecycle (some request.planId), activities := activities
            travelDelays := delays, plans := [createTripPlan request context.createdAt]
            proposals := []
            creation := some ⟨request.messageId, request.payloadDigest, request.planId⟩
            commands := [], operations := [], idempotencyRecords := [], lease := none }
      | _, _ => .error .storage

structure NewTrip (request : CreateTripRequest) (context : CreateTripContext)
    (activities : List ActivityRow) (delays : List TravelDelayRow) (record : TripRecord) :
    Prop where
  validated : validateCreateTripRequest request = .ok ()
  storedActivities : request.activities.mapM storeActivity = some activities
  storedDelays : request.travelDelays.mapM storeDelay = some delays
  delayKeys : (request.travelDelays.map TravelDelayState.key).Nodup
  record_eq : record =
    { tripId := request.tripId, ownerUserId := request.ownerUserId
      defaultTimeZoneName := request.defaultTimeZoneName, tripRevision := 1
      nextMutationSequence := 2, finalizedMutationSequence := 1, savedPlan := none
      lifecycle := inactiveLifecycle (some request.planId), activities := activities
      travelDelays := delays, plans := [createTripPlan request context.createdAt], proposals := []
      creation := some ⟨request.messageId, request.payloadDigest, request.planId⟩, commands := []
      operations := [], idempotencyRecords := [], lease := none }

theorem createTrip_ok (h : createTrip request context = .ok record) :
    ∃ activities delays, NewTrip request context activities delays record := by
  revert h
  fun_cases createTrip request context
  case case4 hval _ hkeys activities delays hdelays hacts =>
    intro h
    cases h
    simp only [Bool.not_eq_true, Bool.or_eq_false_iff, Bool.not_eq_false',
      decide_eq_true_eq] at hkeys
    exact ⟨activities, delays, hval, hacts, hdelays, hkeys.2, rfl⟩
  all_goals nofun

/-- `CreateTrip` of a trip that exists: only its own creation is found again. -/
def TripRecord.createAgain (record : TripRecord) (request : CreateTripRequest) :
    Except CreateTripError CreationIntent :=
  match validateCreateTripRequest request with
  | .error reason => .error (.invalid reason)
  | .ok () =>
    if record.ownerUserId ≠ request.ownerUserId then .error .tripConflict
    else
      match record.creationBy? request.messageId with
      | none => .error .tripConflict
      | some intent =>
        if intent.payloadDigest = request.payloadDigest then .ok intent
        else .error .idempotencyKeyReused

def savedTrip (tripId : TripId) (ownerUserId : UserId) (defaultTimeZoneName : String)
    (plan : SavedPlan) : TripRecord where
  tripId := tripId
  ownerUserId := ownerUserId
  defaultTimeZoneName := defaultTimeZoneName
  tripRevision := 1
  nextMutationSequence := 1
  finalizedMutationSequence := 0
  savedPlan := some plan
  lifecycle := inactiveLifecycle none
  activities := []
  travelDelays := []
  plans := []
  proposals := []
  creation := none
  commands := []
  operations := []
  idempotencyRecords := []
  lease := none

end LiveRoute.Execution
