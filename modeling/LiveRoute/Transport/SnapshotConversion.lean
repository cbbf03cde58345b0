import LiveRoute.Runtime.TripMap
import LiveRoute.Transport.Messages
import LiveRoute.Transport.Uuid

/-! Conversion of trip states from and to messages, snapshots and the bootstrap
from them. Every converter from a message checks what it has built. -/
namespace LiveRoute.Transport
open Domain LiveRoute.Runtime

def travelModeFromProto : Proto.TravelMode → Option TravelMode
  | .walking => some .walking
  | .driving => some .driving
  | _ => none

def activityClassFromProto : Proto.ActivityClass → Option ActivityClass
  | .fixed => some .fixed
  | .flexible => some .flexible
  | _ => none

def activityStateFromProto : Proto.ActivityState → Option ActivityState
  | .planned => some .planned
  | .started => some .started
  | .completed => some .completed
  | .skipped => some .skipped
  | _ => none

def planOriginFromProto : Proto.PlanOrigin → Option PlanOrigin
  | .userAuthored => some .userAuthored
  | .acceptedEngineProposal => some .acceptedEngineProposal
  | _ => none

def planEntryStateFromProto : Proto.PlanEntryState → Option PlanEntryState
  | .scheduled => some .scheduled
  | .omitted => some .omitted
  | _ => none

def locationFromProto (value : Proto.Location) : Option Location :=
  let result : Location := ⟨value.latitude, value.longitude⟩
  if !result.isValid then none else some result

def windowFromProto (value : Proto.TimeWindow) : Option TimeWindow :=
  let result : TimeWindow := ⟨value.opensAtUnixMs, value.closesAtUnixMs⟩
  if !result.isValid then none else some result

def timingFromProto (value : Proto.ActivityTiming) : Option ActivityTiming := do
  let openWindows ← value.openWindows.mapM windowFromProto
  let result : ActivityTiming := {
    openWindows := openWindows
    reservationStart := value.reservationStartUnixMs
    reservationGraceSeconds := value.reservationGraceSeconds
    minDurationSeconds := value.minDurationSeconds
    preferredDurationSeconds := value.preferredDurationSeconds
    maxDurationSeconds := value.maxDurationSeconds
    mandatory := value.mandatory
    canShorten := value.canShorten
    canMove := value.canMove
    canSkip := value.canSkip
    mandatoryDeadline := value.mandatoryDeadlineUnixMs }
  if !result.isValid then none else some result

def activityFromProto (value : Proto.Activity) : Option Activity := do
  let activityId ← parseUuid value.activityId
  let location ← value.location.bind locationFromProto
  let mode ← travelModeFromProto value.inboundTravelMode
  let activityClass ← activityClassFromProto value.activityClass
  let activityState ← activityStateFromProto value.activityState
  let timing ← value.timing.bind timingFromProto
  let result : Activity := {
    activityId := ⟨activityId⟩
    placeId := value.placeId
    displayName := value.displayName
    location := location
    timeZoneName := value.timeZoneName
    inboundTravelMode := mode
    activityClass := activityClass
    activityState := activityState
    priorityRank := value.priorityRank
    utilityScore := value.utilityScore
    timing := timing
    activityDelaySeconds := value.activityDelaySeconds
    foundClosedAt := value.foundClosedAtUnixMs }
  if !result.isValid then none else some result

def segmentFromProto (segment : Proto.CurrentPlanSegment) : Option CurrentPlanSegment := do
  let activityId ← parseUuid segment.activityId
  let state ← planEntryStateFromProto segment.state
  let converted : CurrentPlanSegment :=
    ⟨⟨activityId⟩, state, segment.scheduledStartUnixMs, segment.scheduledEndUnixMs⟩
  if !converted.isValid then none else some converted

def parsePresent : Option String → Option (Option (BitVec 128))
  | none => some none
  | some text => (parseUuid text).map some

def currentPlanFromProto (value : Proto.CurrentPlan) : Option CurrentPlan := do
  let planId ← parseUuid value.planId
  let origin ← planOriginFromProto value.origin
  let sourceProposalId ← parsePresent value.sourceProposalId
  let segments ← value.segments.mapM segmentFromProto
  some {
    planId := ⟨planId⟩
    planRevision := value.planRevision
    origin := origin
    segments := segments
    createdAt := value.createdAtUnixMs
    sourceProposalId := sourceProposalId.map ProposalId.mk }

def travelDelayFromProto (delay : Proto.TravelDelayState) : Option TravelDelayState := do
  let fromActivityId ← parseUuid delay.fromActivityId
  let toActivityId ← parseUuid delay.toActivityId
  some ⟨⟨fromActivityId⟩, ⟨toActivityId⟩, delay.additionalSeconds, delay.observedAtUnixMs⟩

def tripFromProto (trip : Proto.TripDefinition) (plan : Proto.CurrentPlan) : Option TripState := do
  let tripId ← parseUuid trip.tripId
  let _ ← parseUuid trip.ownerUserId
  let currentPlan ← currentPlanFromProto plan
  let declaredPlan ← parseUuid trip.currentPlanId
  if !decide (declaredPlan = currentPlan.planId.value) then none
  let currentActivityId ← parsePresent
    (if trip.currentActivityId.isEmpty then none else some trip.currentActivityId)
  let activities ← trip.activities.mapM activityFromProto
  let travelDelays ← trip.travelDelays.mapM travelDelayFromProto
  let result : TripState := {
    tripId := ⟨tripId⟩
    defaultTimeZoneName := trip.defaultTimeZoneName
    activities := activities
    completedPrefixCount := trip.completedPrefixCount.toNat
    currentActivityId := currentActivityId.map ActivityId.mk
    currentPlan := currentPlan
    travelDelays := travelDelays
    currentObservation := .empty
    activeProposal := none }
  if !result.isValid then none else some result

/-- The state with the observation, or `none` where the source answers false. -/
def applyObservation (value : Proto.CurrentObservation) (state : TripState) : Option TripState := do
  let location ← value.location.bind locationFromProto
  let observation : CurrentObservationState := {
    location := some location
    observedAt := some value.observedAtUnixMs
    velocityMetersPerSecond :=
      value.velocityMetersPerSecond.or state.currentObservation.velocityMetersPerSecond
    headingDegrees := value.headingDegrees.or state.currentObservation.headingDegrees }
  if observation.isValid then some { state with currentObservation := observation } else none

/-- What the converters use of protobuf and of the digest: a parse inverts a
serialization, and the digest is 64 digits of text. -/
structure PayloadCodec (Bytes : Type) where
  size : Bytes → Nat
  serialize : Proto.TripStateSnapshot → Option Bytes
  parse : Bytes → Option Proto.TripStateSnapshot
  sha256Hex : Bytes → List Char
  parse_serialize : ∀ {payload bytes}, serialize payload = some bytes → parse bytes = some payload
  length_sha256Hex : ∀ bytes, (sha256Hex bytes).length = 64

/-- `(high << 4) | low` cut to a byte, where a character that is no digit is -1. -/
def hexByte (first second : Char) : UInt8 :=
  match hexValue second with
  | none => 0xff
  | some low => UInt8.ofNat ((hexValue first).getD 15 * 16 + low)

def checksumBytes : List Char → List UInt8
  | first :: second :: rest => hexByte first second :: checksumBytes rest
  | _ => []

variable {Bytes : Type}

def snapshotVersions (blob : Proto.SnapshotBlob Bytes) (payload : Proto.TripStateSnapshot) :
    TripRuntimeVersionSnapshot where
  runtimeEpoch := blob.sourceRuntimeEpoch
  tripRevision := payload.tripRevision
  plannerStateVersion := blob.sourcePlannerStateVersion
  planningGeneration := 0
  acceptedMutationSequence := payload.acceptedMutationSequence
  finalizedMutationSequence := payload.finalizedMutationSequence
  acceptedObservationSequence := 0

def stateFromSnapshot (codec : PayloadCodec Bytes) (blob : Proto.SnapshotBlob Bytes) :
    Option (TripState × TripRuntimeVersionSnapshot) := do
  if !(blob.snapshotSchemaVersion == 1) ||
      !decide (blob.payloadSizeBytes.toNat = codec.size blob.payload) ||
      !decide (blob.checksumSha256.length = 32) then none
  if !(checksumBytes (codec.sha256Hex blob.payload) == blob.checksumSha256) then none
  let payload ← codec.parse blob.payload
  if !(payload.snapshotSchemaVersion == 1) then none
  let trip ← payload.trip
  let currentPlan ← payload.currentPlan
  if !(payload.tripRevision == blob.tripRevision) ||
      !(payload.finalizedMutationSequence == blob.coveredFinalizedMutationSequence) ||
      !(payload.acceptedMutationSequence == payload.finalizedMutationSequence) then none
  let state ← tripFromProto trip currentPlan
  some (state, snapshotVersions blob payload)

def bootstrapBase (codec : PayloadCodec Bytes) (bootstrap : Proto.BootstrapTrip Bytes)
    (envelopeTrip : TripId) : Except String (TripState × String) :=
  match bootstrap.base with
  | .fullTrip trip =>
    match bootstrap.currentPlan with
    | none => .error "full bootstrap requires current plan"
    | some plan =>
      match tripFromProto trip plan with
      | none => .error "invalid full bootstrap state"
      | some converted =>
        if !decide (converted.tripId = envelopeTrip) then .error "invalid full bootstrap state"
        else .ok (converted, trip.ownerUserId)
  | .snapshot blob =>
    if bootstrap.currentPlan.isSome then .error "snapshot bootstrap forbids current plan"
    else
      match stateFromSnapshot codec blob with
      | none => .error "incompatible snapshot"
      | some (converted, versions) =>
        if !decide (converted.tripId = envelopeTrip) ||
            !(versions.tripRevision == bootstrap.tripRevision) ||
            !(versions.finalizedMutationSequence == bootstrap.finalizedMutationSequence) then
          .error "incompatible snapshot"
        else
          match codec.parse blob.payload with
          | none => .error "invalid snapshot payload"
          -- A missing trip reads as the default message, whose owner is empty.
          | some payload => .ok (converted, (payload.trip.map (·.ownerUserId)).getD "")
  | .unset => .error "bootstrap base is required"

/-- The owner is kept as text by the source; here it is the identifier that the
text names, which every base has checked. -/
def ownerFromText (text : String) : UserId := ⟨(parseUuid text).getD 0⟩

def bootstrapFromProto (codec : PayloadCodec Bytes) (envelope : Proto.PlannerStreamRequest Bytes) :
    Except String RuntimeBootstrapRequest :=
  match envelope.bootstrapTrip with
  | none => .error "invalid bootstrap envelope"
  | some bootstrap =>
    if envelope.runtimeEpoch == 0 || envelope.tripId.isEmpty then
      .error "invalid bootstrap envelope"
    else
      match parseUuid envelope.tripId with
      | none => .error "invalid trip id"
      | some envelopeTrip =>
        match bootstrapBase codec bootstrap ⟨envelopeTrip⟩ with
        | .error message => .error message
        | .ok (base, owner) =>
          let request (state : TripState) : RuntimeBootstrapRequest := {
            state := state
            ownerUserId := ownerFromText owner
            runtimeEpoch := envelope.runtimeEpoch
            tripRevision := bootstrap.tripRevision
            finalizedMutationSequence := bootstrap.finalizedMutationSequence
            currentObservationSequence := bootstrap.currentObservationSequence }
          match bootstrap.currentObservation with
          | some observation =>
            match applyObservation observation base with
            | none => .error "invalid current observation"
            | some state => .ok (request state)
          | none =>
            if !(bootstrap.currentObservationSequence == 0) then
              .error "observation sequence requires observation"
            else .ok (request base)

def locationToProto (source : Location) : Proto.Location := ⟨source.latitude, source.longitude⟩

def segmentToProto (segment : CurrentPlanSegment) : Proto.CurrentPlanSegment where
  activityId := formatUuid segment.activityId.value
  state := if segment.state = .scheduled then .scheduled else .omitted
  scheduledStartUnixMs := segment.scheduledStart
  scheduledEndUnixMs := segment.scheduledEnd

def currentPlanToProto (source : CurrentPlan) : Proto.CurrentPlan where
  planId := formatUuid source.planId.value
  planRevision := source.planRevision
  origin := if source.origin = .userAuthored then .userAuthored else .acceptedEngineProposal
  segments := source.segments.map segmentToProto
  createdAtUnixMs := source.createdAt
  sourceProposalId := source.sourceProposalId.map fun proposalId => formatUuid proposalId.value

def windowToProto (window : TimeWindow) : Proto.TimeWindow := ⟨window.opensAt, window.closesAt⟩

def timingToProto (source : ActivityTiming) : Proto.ActivityTiming where
  openWindows := source.openWindows.map windowToProto
  reservationStartUnixMs := source.reservationStart
  reservationGraceSeconds := source.reservationGraceSeconds
  minDurationSeconds := source.minDurationSeconds
  preferredDurationSeconds := source.preferredDurationSeconds
  maxDurationSeconds := source.maxDurationSeconds
  mandatory := source.mandatory
  canShorten := source.canShorten
  canMove := source.canMove
  canSkip := source.canSkip
  mandatoryDeadlineUnixMs := source.mandatoryDeadline

/-- The source indexes a table by the number of the state. -/
def activityStateToProto : ActivityState → Proto.ActivityState
  | .planned => .planned
  | .started => .started
  | .completed => .completed
  | .skipped => .skipped

def activityToProto (source : Activity) : Proto.Activity where
  activityId := formatUuid source.activityId.value
  placeId := source.placeId
  displayName := source.displayName
  location := some (locationToProto source.location)
  timeZoneName := source.timeZoneName
  inboundTravelMode := if source.inboundTravelMode = .walking then .walking else .driving
  activityClass := if source.activityClass = .fixed then .fixed else .flexible
  activityState := activityStateToProto source.activityState
  priorityRank := source.priorityRank
  utilityScore := source.utilityScore
  timing := some (timingToProto source.timing)
  activityDelaySeconds := source.activityDelaySeconds
  foundClosedAtUnixMs := source.foundClosedAt

def travelDelayToProto (delay : TravelDelayState) : Proto.TravelDelayState where
  fromActivityId := formatUuid delay.fromActivityId.value
  toActivityId := formatUuid delay.toActivityId.value
  additionalSeconds := delay.additionalSeconds
  observedAtUnixMs := delay.observedAt

def tripToProto (source : TripState) (ownerUserId : String) : Proto.TripDefinition where
  tripId := formatUuid source.tripId.value
  ownerUserId := ownerUserId
  defaultTimeZoneName := source.defaultTimeZoneName
  activities := source.activities.map activityToProto
  completedPrefixCount := UInt32.ofNat source.completedPrefixCount
  currentActivityId :=
    (source.currentActivityId.map fun activityId => formatUuid activityId.value).getD ""
  currentPlanId := formatUuid source.currentPlan.planId.value
  travelDelays := source.travelDelays.map travelDelayToProto

def snapshotPayload (state : TripState) (versions : TripRuntimeVersionSnapshot)
    (ownerUserId : String) : Proto.TripStateSnapshot where
  trip := some (tripToProto state ownerUserId)
  tripRevision := versions.tripRevision
  acceptedMutationSequence := versions.acceptedMutationSequence
  finalizedMutationSequence := versions.finalizedMutationSequence
  currentPlan := some (currentPlanToProto state.currentPlan)
  snapshotSchemaVersion := 1

def snapshotBlob (codec : PayloadCodec Bytes) (versions : TripRuntimeVersionSnapshot)
    (bytes : Bytes) : Proto.SnapshotBlob Bytes where
  snapshotSchemaVersion := 1
  sourceRuntimeEpoch := versions.runtimeEpoch
  sourcePlannerStateVersion := versions.plannerStateVersion
  tripRevision := versions.tripRevision
  coveredFinalizedMutationSequence := versions.finalizedMutationSequence
  payloadSizeBytes := UInt32.ofNat (codec.size bytes)
  checksumSha256 := checksumBytes (codec.sha256Hex bytes)
  payload := bytes

def snapshotToProto (codec : PayloadCodec Bytes) (state : TripState)
    (versions : TripRuntimeVersionSnapshot) (ownerUserId : String) :
    Except String (Proto.SnapshotBlob Bytes) :=
  if !(versions.acceptedMutationSequence == versions.finalizedMutationSequence) ||
      !state.isValid || !(parseUuid ownerUserId).isSome then .error "snapshot is not ready"
  else
    match codec.serialize (snapshotPayload state versions ownerUserId) with
    | none => .error "snapshot serialization failed"
    | some bytes =>
      if decide (2 ^ 32 - 1 < codec.size bytes) then .error "snapshot serialization failed"
      else .ok (snapshotBlob codec versions bytes)

end LiveRoute.Transport
