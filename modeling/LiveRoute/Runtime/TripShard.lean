import LiveRoute.Runtime.PlanningWork

/-! One trip on its shard. Requests wait in the lanes of the shard's queue,
dispatched attempts run on the executors and come back as completions; the shard
runs one task or completion at a time, in any order the lanes allow. What other
trips leave of the shared capacity is an argument of each step. -/
namespace LiveRoute.Runtime
open Domain Planner

/-- The trip with its planning fields. The stop source is left out: it can only
change how the search ends. -/
structure ShardTrip extends ActiveTrip where
  streamBinding : Option UInt64
  planningRunning : Bool
  planningPriority : EventPriority
  planningTrigger : TripEventPayload
  pending : Option PendingPlanning
deriving DecidableEq

structure RuntimePlanningDelivery where
  streamBinding : Option UInt64
  versions : TripRuntimeVersionSnapshot
  status : RuntimePlanningStatus
  (retryable coalescedReplacementPending : Bool)
  proposal : Option StoredPlanProposal
deriving DecidableEq

/-- What a step shows outside: answers of callbacks, calls of
`dispatch_planning`, and deliveries. -/
inductive ShardEffect where
  | bootstrapped (result : RuntimeBootstrapResult)
  | acknowledged (payload : TripEventPayload) (priority : EventPriority)
      (result : EventCoordinatorResult) (seed : Option ImmutablePlanningSeed)
      (runtime : TripRuntime)
  | unavailable (result : EventCoordinatorResult)
  | answered (result : RuntimeControlResult)
  | dispatching (pending : PendingPlanning) (started : Bool)
  | delivered (delivery : RuntimePlanningDelivery)
deriving DecidableEq

structure DispatchCapacity where
  (completionSlot providerPlace : Bool)
deriving DecidableEq

/-- What is left of a trip after some work on it: the attempt it started, if
any, and what it showed. -/
structure TripWork where
  trip : ShardTrip
  started : Option PendingPlanning
  effects : List ShardEffect
deriving DecidableEq

def TripWork.after (effect : ShardEffect) (work : TripWork) : TripWork :=
  { work with effects := effect :: work.effects }

def ShardTrip.deliver (trip : ShardTrip) (status : RuntimePlanningStatus)
    (proposal : Option StoredPlanProposal) (pending : PendingPlanning)
    (replacementPending : Bool) : ShardEffect :=
  .delivered {
    streamBinding := trip.streamBinding
    versions := pending.seed.sourceVersions
    status := status
    retryable := status.retryable
    coalescedReplacementPending := replacementPending || trip.pending.isSome
    proposal := proposal }

def ShardTrip.deliverFailure (trip : ShardTrip) (status : RuntimePlanningStatus)
    (pending : PendingPlanning) (replacementPending : Bool) : ShardEffect :=
  trip.deliver status none pending replacementPending

def ShardTrip.dispatchPlanning (trip : ShardTrip) (capacity : DispatchCapacity)
    (pending : PendingPlanning) : TripWork :=
  if !capacity.completionSlot then
    ⟨trip, none, [.dispatching pending false, trip.deliverFailure .resourceExhausted pending false]⟩
  else
    let marked := { trip with
      planningRunning := true, planningPriority := pending.priority
      planningTrigger := pending.seed.trigger }
    if capacity.providerPlace then ⟨marked, some pending, [.dispatching pending true]⟩
    else
      ⟨{ marked with planningRunning := false }, none, [.dispatching pending false,
        trip.deliverFailure .resourceExhausted pending false]⟩

structure ShardView where
  (accepting normalQueued : Bool)
  capacity : DispatchCapacity
deriving DecidableEq

def ShardTrip.dispatchPending (trip : ShardTrip) (view : ShardView) : TripWork :=
  match trip.pending with
  | none => ⟨trip, none, []⟩
  | some pending =>
    if !view.accepting then ⟨trip, none, []⟩
    else if pending.latestInputIsOrdinaryObservation && view.normalQueued then ⟨trip, none, []⟩
    else ShardTrip.dispatchPlanning { trip with pending := none } view.capacity pending

def ShardTrip.commitSearch (trip : ShardTrip) (pending : PendingPlanning) (report : SearchReport) :
    ShardTrip × RuntimePlanningStatus × Option StoredPlanProposal :=
  let status := mapSearchOutcome report.outcome
  match assembleStoredPlanProposal pending report with
  | some stored =>
    let committed := { trip with
      runtime := commitPlanningResult trip.runtime pending.seed.workToken stored }
    match planningCommitStatus trip.runtime pending.seed.workToken stored with
    | .committed => (committed, status, some stored)
    | .stale => (committed, .stale, none)
    | .invalidArgument => (committed, .internal, none)
  | none => (trip, if status = .ok then .internal else status, none)

/-- `finish_planning` and `finish_failure`. -/
def ShardTrip.finish (trip : ShardTrip) (view : ShardView) (completion : Completion) : TripWork :=
  let pending := completion.pending
  let idle := { trip with planningRunning := false }
  if !idle.runtime.versions.canCommitPlanningWork pending.seed.workToken then
    idle.dispatchPending view
  else
    match completion.result with
    | .searched report =>
      let (committed, status, proposal) := idle.commitSearch pending report
      (committed.dispatchPending view).after (committed.deliver status proposal pending false)
    | .failed status =>
      (idle.dispatchPending view).after (idle.deliverFailure status pending idle.pending.isSome)

/-- The planning context is read before its presence is tested, so every
request carries one. -/
structure RuntimeEventRequest where
  admission : EventAdmissionRequest
  planning : RuntimePlanningContext
deriving DecidableEq

def refreshSeed (request : RuntimeEventRequest) (admitted : TripRuntime)
    (result : EventCoordinatorResult) (seed : Option ImmutablePlanningSeed) :
    EventCoordinatorResult × Option ImmutablePlanningSeed :=
  if isRecommendationRefresh request.admission.event.payload &&
      decide (result.status = .accepted) && seed.isNone then
    match admitted.versions.capturePlanningWork with
    | none => ({ result with status := .internal }, none)
    | some token => (result, some ⟨admitted.state, request.admission.event.payload,
        admitted.versions.snapshot, token⟩)
  else (result, seed)

/-- Telemetry starts no attempt of its own, and a refresh none beside another. -/
def ShardTrip.avoidsReplan (trip : ShardTrip) (payload : TripEventPayload) : Bool :=
  (isOrdinaryObservation payload && !trip.planningRunning && !trip.pending.isSome) ||
    (isRecommendationRefresh payload && (trip.planningRunning || trip.pending.isSome))

def ShardTrip.admitRequest (trip : ShardTrip) (maxAdvisoryPayloadBytes : Nat)
    (request : RuntimeEventRequest) :
    TripRuntime × EventCoordinatorResult × Option ImmutablePlanningSeed :=
  let (admitted, result, seed) := admitEvent trip.runtime request.admission
    request.planning.currentTime maxAdvisoryPayloadBytes
  let (result, seed) := refreshSeed request admitted result seed
  (admitted, result, if trip.avoidsReplan request.admission.event.payload then none else seed)

def ShardTrip.plan (trip : ShardTrip) (view : ShardView) (pending : PendingPlanning) : TripWork :=
  if !pending.context.isValid then
    ⟨trip, none, [trip.deliverFailure .invalidArgument pending false]⟩
  else if trip.planningRunning then
    let replacement := preserveHigherPriorityTrigger pending trip.planningPriority
      trip.planningTrigger
    let replacement := match trip.pending with
      | some waiting => preserveHigherPriorityTrigger replacement waiting.priority
          waiting.seed.trigger
      | none => replacement
    ⟨{ trip with pending := some replacement }, none, []⟩
  else
    match trip.pending with
    | some waiting =>
      let replacement := preserveHigherPriorityTrigger pending waiting.priority
        waiting.seed.trigger
      ShardTrip.dispatchPending { trip with pending := some replacement } view
    | none => trip.dispatchPlanning view.capacity pending

def ShardTrip.applyEvent (trip : ShardTrip) (view : ShardView) (maxAdvisoryPayloadBytes : Nat)
    (request : RuntimeEventRequest) : TripWork :=
  if trip.deactivationPending then
    ⟨trip, none, [.unavailable (inactiveResult trip.runtime.versions.snapshot)]⟩
  else
    let payload := request.admission.event.payload
    let priority := priorityFor payload trip.runtime.state.activities
    let (admitted, result, seed) := trip.admitRequest maxAdvisoryPayloadBytes request
    let applied := { trip with runtime := admitted }
    let acknowledgement := ShardEffect.acknowledged payload priority result seed admitted
    match seed with
    | none => ⟨applied, none, [acknowledgement]⟩
    | some seed => (applied.plan view
        ⟨seed, request.planning, priority, isOrdinaryObservation payload⟩).after acknowledgement

/-- The trip that a bootstrap leaves; a new one takes one of the active places. -/
def bootstrapTrip (placeFree : Bool) (trip : Option ShardTrip) (request : RuntimeBootstrapRequest)
    (streamBinding : Option UInt64) : Option ShardTrip × RuntimeBootstrapResult :=
  if !request.state.isValid || request.state.activeProposal.isSome then
    (trip, refusedBootstrap .invalidArgument)
  else if request.isHigherEpoch (trip.map ShardTrip.toActiveTrip) &&
      (!(request.currentObservationSequence == 0) ||
        observationIsPresent request.state.currentObservation) then
    (trip, refusedBootstrap .invalidArgument)
  else
    match trip with
    | none =>
      if !placeFree then (none, refusedBootstrap .resourceExhausted)
      else
        match bootstrapVersions .initial request with
        | (versions, .accepted) =>
          let runtime : TripRuntime := ⟨request.state, versions⟩
          (some {
              runtime := runtime
              ownerUserId := request.ownerUserId
              deactivationPending := false
              streamBinding := streamBinding
              planningRunning := false
              planningPriority := .normal
              planningTrigger := .unset
              pending := none }, bootstrapAnswer .accepted runtime)
        | _ => (none, refusedBootstrap .invalidArgument)
    | some trip =>
      match bootstrapVersions trip.runtime.versions request with
      | (versions, .accepted) =>
        let runtime : TripRuntime := ⟨request.state, versions⟩
        (some { trip with
            runtime := runtime, ownerUserId := request.ownerUserId, deactivationPending := false
            streamBinding := streamBinding, pending := none }, bootstrapAnswer .accepted runtime)
      | (_, .duplicate) =>
        (some { trip with streamBinding := streamBinding.or trip.streamBinding },
          bootstrapAnswer .duplicate trip.runtime)
      | (_, status) => (some trip, bootstrapAnswer (mapBootstrapStatus status) trip.runtime)

def ShardTrip.confirmFinalized (trip : ShardTrip) (runtimeEpoch
    finalizedMutationSequence : UInt64) : ShardTrip × RuntimeControlResult :=
  let confirmed := trip.runtime.versions.confirmFinalized runtimeEpoch finalizedMutationSequence
  let updated := { trip with runtime := ⟨trip.runtime.state, confirmed.1⟩ }
  (updated, controlAnswer (mapControlStatus confirmed.2) updated.toActiveTrip)

def ShardTrip.snapshot (trip : ShardTrip) (runtimeEpoch minimumFinalizedMutationSequence
    minimumPlannerStateVersion : UInt64) : RuntimeControlResult :=
  let versions := trip.runtime.versions.snapshot
  if !(runtimeEpoch == versions.runtimeEpoch) then controlAnswer (.stale .epoch) trip.toActiveTrip
  else if !trip.runtime.versions.snapshotReady ||
      decide (versions.finalizedMutationSequence < minimumFinalizedMutationSequence) ||
      decide (versions.plannerStateVersion < minimumPlannerStateVersion) then
    controlAnswer .snapshotNotReady trip.toActiveTrip
  else
    ⟨.ok, versions, some (snapshotState trip.runtime.state), some trip.ownerUserId⟩

def ShardTrip.deactivate (trip : ShardTrip) (runtimeEpoch : UInt64)
    (finalSnapshotRequired : Bool) : Option ShardTrip × RuntimeControlResult :=
  let versions := trip.runtime.versions.snapshot
  if !(runtimeEpoch == versions.runtimeEpoch) then
    (some trip, controlAnswer (.stale .epoch) trip.toActiveTrip)
  else if finalSnapshotRequired && !trip.runtime.versions.snapshotReady then
    (some trip, controlAnswer .snapshotNotReady trip.toActiveTrip)
  else if finalSnapshotRequired then
    (some { trip with deactivationPending := true, pending := none },
      ⟨.ok, versions, some (snapshotState trip.runtime.state), some trip.ownerUserId⟩)
  else (none, ⟨.ok, versions, none, some trip.ownerUserId⟩)

def ShardTrip.abortDeactivation (trip : ShardTrip) (runtimeEpoch : UInt64) :
    ShardTrip × RuntimeControlResult :=
  if !(runtimeEpoch == trip.runtime.versions.snapshot.runtimeEpoch) then
    (trip, controlAnswer (.stale .epoch) trip.toActiveTrip)
  else if !trip.deactivationPending then (trip, controlAnswer .duplicate trip.toActiveTrip)
  else ({ trip with deactivationPending := false }, controlAnswer .ok trip.toActiveTrip)

def ShardTrip.unbind (trip : ShardTrip) (runtimeEpoch streamBinding : UInt64) : ShardTrip :=
  if trip.runtime.versions.snapshot.runtimeEpoch == runtimeEpoch &&
      decide (trip.streamBinding = some streamBinding) then
    { trip with streamBinding := none, pending := none }
  else trip

inductive ShardTask where
  | bootstrap (request : RuntimeBootstrapRequest) (streamBinding : Option UInt64)
  | applyEvent (request : RuntimeEventRequest)
  | confirmFinalized (runtimeEpoch finalizedMutationSequence : UInt64)
  | snapshot (runtimeEpoch minimumFinalizedMutationSequence minimumPlannerStateVersion : UInt64)
  | deactivate (runtimeEpoch : UInt64) (finalSnapshotRequired : Bool)
  | abortDeactivation (runtimeEpoch : UInt64)
  | unbind (runtimeEpoch streamBinding : UInt64)
deriving DecidableEq

/-- Control requests are critical; an event is queued without a look at the
activities. -/
def ShardTask.lane : ShardTask → EventPriority
  | .applyEvent request => priorityFor request.admission.event.payload []
  | _ => .critical

structure TripShard where
  maxAdvisoryPayloadBytes : Nat
  accepting : Bool
  trip : Option ShardTrip
  queue : List ShardTask
  inFlight : List PendingPlanning
  completions : List Completion
deriving DecidableEq

def TripShard.initial (maxAdvisoryPayloadBytes : Nat) : TripShard :=
  ⟨maxAdvisoryPayloadBytes, true, none, [], [], []⟩

def TripShard.outstanding (shard : TripShard) : List PendingPlanning :=
  shard.inFlight ++ shard.completions.map Completion.pending

def popLane (lane : EventPriority) (queue : List ShardTask) : Option (ShardTask × List ShardTask) :=
  (queue.find? fun task => decide (task.lane = lane)).map
    fun task => (task, queue.eraseP fun task => decide (task.lane = lane))

structure SharedCapacity where
  tripPlace : Bool
  dispatch : DispatchCapacity
deriving DecidableEq

def TripShard.view (shard : TripShard) (capacity : DispatchCapacity) : ShardView :=
  ⟨shard.accepting, shard.queue.any fun task => decide (task.lane = .normal), capacity⟩

def TripShard.settleWork (shard : TripShard) (work : TripWork) : TripShard × List ShardEffect :=
  ({ shard with
      trip := some work.trip, inFlight := shard.inFlight ++ work.started.toList }, work.effects)

def TripShard.answer (shard : TripShard) (trip : Option ShardTrip)
    (result : RuntimeControlResult) : TripShard × List ShardEffect :=
  ({ shard with trip := trip }, [.answered result])

def TripShard.runTask (shard : TripShard) (capacity : SharedCapacity) (task : ShardTask) :
    TripShard × List ShardEffect :=
  match task, shard.trip with
  | .bootstrap request streamBinding, trip =>
    let bootstrapped := bootstrapTrip capacity.tripPlace trip request streamBinding
    ({ shard with trip := bootstrapped.1 }, [.bootstrapped bootstrapped.2])
  | .applyEvent _, none => (shard, [.unavailable (inactiveResult .zero)])
  | .applyEvent request, some trip =>
    shard.settleWork (trip.applyEvent (shard.view capacity.dispatch)
      shard.maxAdvisoryPayloadBytes request)
  | .unbind runtimeEpoch streamBinding, some trip =>
    ({ shard with trip := some (trip.unbind runtimeEpoch streamBinding) }, [])
  | .unbind _ _, none => (shard, [])
  | .confirmFinalized runtimeEpoch finalized, some trip =>
    let confirmed := trip.confirmFinalized runtimeEpoch finalized
    shard.answer (some confirmed.1) confirmed.2
  | .snapshot runtimeEpoch minimumFinalized minimumVersion, some trip =>
    shard.answer (some trip) (trip.snapshot runtimeEpoch minimumFinalized minimumVersion)
  | .deactivate runtimeEpoch finalSnapshotRequired, some trip =>
    let deactivated := trip.deactivate runtimeEpoch finalSnapshotRequired
    shard.answer deactivated.1 deactivated.2
  | .abortDeactivation runtimeEpoch, some trip =>
    let aborted := trip.abortDeactivation runtimeEpoch
    shard.answer (some aborted.1) aborted.2
  | _, none => shard.answer none missingTrip

def TripShard.runCompletion (shard : TripShard) (capacity : DispatchCapacity)
    (completion : Completion) : TripShard × List ShardEffect :=
  match shard.trip with
  | none => (shard, [])
  | some trip => shard.settleWork (trip.finish (shard.view capacity) completion)

inductive ShardStep where
  /-- A request is queued; a full queue refuses it, which leaves no trace. -/
  | submit (task : ShardTask)
  | runTask (lane : EventPriority) (capacity : SharedCapacity)
  /-- A worker ends the attempt at the index and posts its result. -/
  | post (index : Nat) (result : AttemptResult)
  | runCompletion (capacity : DispatchCapacity)
  | stopAccepting
deriving DecidableEq

def TripShard.step (shard : TripShard) : ShardStep → TripShard × List ShardEffect
  | .submit task =>
    if shard.accepting then ({ shard with queue := shard.queue ++ [task] }, []) else (shard, [])
  | .runTask lane capacity =>
    match popLane lane shard.queue with
    | none => (shard, [])
    | some (task, rest) => TripShard.runTask { shard with queue := rest } capacity task
  | .post index result =>
    match shard.inFlight[index]? with
    | none => (shard, [])
    | some pending =>
      ({ shard with
          inFlight := shard.inFlight.eraseIdx index
          completions := shard.completions ++ [⟨pending, result⟩] }, [])
  | .runCompletion capacity =>
    match shard.completions with
    | [] => (shard, [])
    | completion :: rest =>
      TripShard.runCompletion { shard with completions := rest } capacity completion
  | .stopAccepting => ({ shard with accepting := false }, [])

def TripShard.next (shard : TripShard) (action : ShardStep) : TripShard := (shard.step action).1

def TripShard.run (shard : TripShard) (history : List ShardStep) : TripShard :=
  history.foldl TripShard.next shard

end LiveRoute.Runtime
