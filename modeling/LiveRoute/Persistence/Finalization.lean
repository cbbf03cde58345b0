import LiveRoute.Persistence.CanonicalTrip

/-! Finalization of runtime-first commands. Each function is one transaction:
it returns the rows it commits, or the error that rolls it back. -/
namespace LiveRoute.Persistence
open Domain Sequence

inductive FinalizeError where
  | invalidRequest | commandNotFound | finalizationConflict | proposalFinalizationRequired
  | tripRevisionStale | outOfOrder | mutationTargetNotFound | storage | proposalStale
  | proposalPayloadInvalid
deriving DecidableEq

abbrev Transaction := Except FinalizeError CanonicalTrip

inductive AcceptedMutation where
  | activityStatus (activityId : ActivityId) (state : ActivityState)
  | activityDelay (activityId : ActivityId) (delaySeconds : UInt32)
  | reservation (activityId : ActivityId) (reservationStart : Option UnixTimeMilliseconds)
      (reservationGraceSeconds : UInt32)
  | mandatoryDeadline (activityId : ActivityId) (latestFinish : UnixTimeMilliseconds)
  | operatingHours (activityId : ActivityId) (openWindows : List TimeWindow)
  | placeFoundClosed (activityId : ActivityId) (observedAt : UnixTimeMilliseconds)
  | travelDelay (fromActivityId toActivityId : ActivityId) (additionalSeconds : UInt32)
      (observedAt : UnixTimeMilliseconds)
deriving DecidableEq

def AcceptedMutation.kind : AcceptedMutation → CommandKind
  | .activityStatus .. => .activityStatusChanged
  | .activityDelay .. => .activityDelayed
  | .reservation .. => .reservationChanged
  | .mandatoryDeadline .. => .mandatoryDeadlineChanged
  | .operatingHours .. => .operatingHoursChanged
  | .placeFoundClosed .. => .placeFoundClosed
  | .travelDelay .. => .travelDelay

/-- The value checks of `validateAcceptedMutationRequest`. -/
def AcceptedMutation.valuesInRange : AcceptedMutation → Bool
  | .activityDelay _ delaySeconds => fitsInteger delaySeconds
  | .reservation _ _ graceSeconds => fitsInteger graceSeconds
  | .operatingHours _ windows => windowsNormalized none windows
  | .travelDelay _ _ additionalSeconds _ => fitsInteger additionalSeconds
  | .activityStatus .. | .mandatoryDeadline .. | .placeFoundClosed .. => true

structure FinalizeAcceptedMutationRequest where
  eventId : EventId
  (mutationSequence expectedTripRevision resultingPlannerStateVersion : Nat)
  mutation : AcceptedMutation
  outcomePayload : OutcomePayload
deriving DecidableEq

def storeActivity (activity : Activity) : Option ActivityRow :=
  if h : activityFits activity then some { activity := activity, fits := h } else none

/-- `UPDATE trip_activities ... WHERE id = $2`: every matching row is
rewritten. -/
def updateActivityRows (activityId : ActivityId) (update : Activity → Activity)
    (rows : List ActivityRow) : Option (List ActivityRow) :=
  rows.mapM fun row =>
    if row.activity.activityId = activityId then storeActivity (update row.activity)
    else some row

def affectedRows (activityId : ActivityId) (rows : List ActivityRow) : Nat :=
  rows.countP fun row => decide (row.activity.activityId = activityId)

def updateActivityStatement (trip : CanonicalTrip) (activityId : ActivityId)
    (update : Activity → Activity) : Transaction :=
  match updateActivityRows activityId update trip.activities with
  | none => .error .storage
  | some rows =>
    if affectedRows activityId trip.activities = 1 then .ok { trip with activities := rows }
    else .error .mutationTargetNotFound

def upsertDelayRow (replacement : TravelDelayRow) : List TravelDelayRow → List TravelDelayRow
  | [] => [replacement]
  | row :: rest =>
    if row.delay.key = replacement.delay.key then replacement :: rest
    else row :: upsertDelayRow replacement rest

/-- `INSERT ... ON CONFLICT DO UPDATE`, with both foreign keys. -/
def upsertDelayStatement (trip : CanonicalTrip) (delay : TravelDelayState) : Transaction :=
  let activities := trip.activities.map ActivityRow.activity
  if h : delayFits delay then
    if containsActivity activities delay.fromActivityId &&
        containsActivity activities delay.toActivityId then
      .ok { trip with travelDelays := upsertDelayRow ⟨delay, h⟩ trip.travelDelays }
    else .error .storage
  else .error .storage

def applyAcceptedMutation (trip : CanonicalTrip) : AcceptedMutation → Transaction
  | .activityStatus activityId state =>
    updateActivityStatement trip activityId fun activity => { activity with activityState := state }
  | .activityDelay activityId delaySeconds =>
    updateActivityStatement trip activityId fun activity =>
      { activity with activityDelaySeconds := delaySeconds }
  | .reservation activityId reservationStart graceSeconds =>
    updateActivityStatement trip activityId fun activity =>
      { activity with timing := { activity.timing with
        reservationStart := reservationStart, reservationGraceSeconds := graceSeconds } }
  | .mandatoryDeadline activityId latestFinish =>
    updateActivityStatement trip activityId fun activity =>
      { activity with timing := { activity.timing with mandatoryDeadline := some latestFinish } }
  | .operatingHours activityId windows =>
    updateActivityStatement trip activityId fun activity =>
      { activity with timing := { activity.timing with openWindows := windows } }
  | .placeFoundClosed activityId observedAt =>
    updateActivityStatement trip activityId fun activity =>
      { activity with foundClosedAt := some observedAt }
  | .travelDelay fromActivityId toActivityId additionalSeconds observedAt =>
    upsertDelayStatement trip ⟨fromActivityId, toActivityId, additionalSeconds, observedAt⟩

def CanonicalTrip.command? (trip : CanonicalTrip) (eventId : EventId) : Option CommandRow :=
  trip.commands.find? fun row => decide (row.eventId = eventId) && row.kind.isRuntimeFirst

def CanonicalTrip.resolve (trip : CanonicalTrip) (eventId : EventId) (state : IntentState)
    (delivery : DeliveryState) (outcome : ResolvedOutcome) : CanonicalTrip :=
  { trip with commands := trip.commands.map fun row =>
      if row.eventId = eventId then
        { row with intentState := state, deliveryState := delivery, outcome := some outcome }
      else row }

def CanonicalTrip.advance (trip : CanonicalTrip) (tripRevision finalized : Nat) : CanonicalTrip :=
  { trip with tripRevision := tripRevision, finalizedMutationSequence := finalized }

def CanonicalTrip.invalidateProposals (trip : CanonicalTrip) : CanonicalTrip :=
  { trip with proposals := trip.proposals.map fun row =>
      if row.state = .pending then { row with state := .stale } else row }

def CanonicalTrip.isNext (trip : CanonicalTrip) (mutationSequence : Nat) : Bool :=
  !decide (trip.finalizedMutationSequence = maxInt64) &&
    decide (trip.finalizedMutationSequence + 1 = mutationSequence)

def repeatsOutcome (row : CommandRow) (state : IntentState) (delivery : DeliveryState)
    (outcome : ResolvedOutcome) : Bool :=
  decide (row.intentState = state) && decide (row.deliveryState = delivery) &&
    decide (row.outcome = some outcome)

def FinalizeAcceptedMutationRequest.isValid (request : FinalizeAcceptedMutationRequest) : Bool :=
  decide (0 < request.mutationSequence) && decide (request.mutationSequence ≤ maxInt64) &&
    decide (request.expectedTripRevision < maxInt64) &&
    decide (request.resultingPlannerStateVersion ≤ maxInt64) && request.mutation.valuesInRange

def finalizeAcceptedMutation (trip : CanonicalTrip) (request : FinalizeAcceptedMutationRequest) :
    Transaction :=
  if !request.isValid then .error .invalidRequest
  else
    match trip.command? request.eventId with
    | none => .error .commandNotFound
    | some row =>
      let outcome : ResolvedOutcome := ⟨.ok, request.outcomePayload,
        request.expectedTripRevision + 1, request.resultingPlannerStateVersion⟩
      if !decide (row.mutationSequence = request.mutationSequence) ||
          !decide (row.expectedTripRevision = request.expectedTripRevision) ||
          !decide (row.kind = request.mutation.kind) then
        .error .finalizationConflict
      else if row.intentState ≠ .pending then
        if repeatsOutcome row .applied .accepted outcome then .ok trip
        else .error .finalizationConflict
      else if trip.tripRevision ≠ row.expectedTripRevision then .error .tripRevisionStale
      else if !trip.isNext row.mutationSequence then .error .outOfOrder
      else
        (applyAcceptedMutation trip request.mutation).map fun mutated =>
          ((mutated.invalidateProposals).advance (request.expectedTripRevision + 1)
            row.mutationSequence).resolve request.eventId .applied .accepted outcome

structure FinalizeTerminalCommandRequest where
  eventId : EventId
  (mutationSequence expectedTripRevision resultingPlannerStateVersion : Nat)
  status : TerminalStatus
  outcomePayload : OutcomePayload
deriving DecidableEq

def terminalIntentState (status : TerminalStatus) : IntentState :=
  if status = .commandExpired then .expired else .rejected

def CommandKind.isProposalDecision (kind : CommandKind) : Bool :=
  decide (kind = .acceptProposal) || decide (kind = .rejectProposal)

def FinalizeTerminalCommandRequest.isValid (request : FinalizeTerminalCommandRequest) : Bool :=
  decide (0 < request.mutationSequence) && decide (request.mutationSequence ≤ maxInt64) &&
    decide (request.expectedTripRevision ≤ maxInt64) &&
    decide (request.resultingPlannerStateVersion ≤ maxInt64)

def finalizeTerminal (trip : CanonicalTrip) (request : FinalizeTerminalCommandRequest) :
    Transaction :=
  if !request.isValid then .error .invalidRequest
  else
    match trip.command? request.eventId with
    | none => .error .commandNotFound
    | some row =>
      let state := terminalIntentState request.status
      let outcome : ResolvedOutcome := ⟨.terminal request.status, request.outcomePayload,
        row.expectedTripRevision, request.resultingPlannerStateVersion⟩
      if !decide (row.mutationSequence = request.mutationSequence) ||
          !decide (row.expectedTripRevision = request.expectedTripRevision) then
        .error .finalizationConflict
      else if request.status = .stale ∧ row.kind.isProposalDecision then
        .error .proposalFinalizationRequired
      else if row.intentState ≠ .pending then
        if repeatsOutcome row state .terminalRejected outcome then .ok trip
        else .error .finalizationConflict
      else if trip.tripRevision ≠ row.expectedTripRevision then .error .tripRevisionStale
      else if !trip.isNext row.mutationSequence then .error .outOfOrder
      else
        .ok ((trip.advance trip.tripRevision row.mutationSequence).resolve request.eventId state
          .terminalRejected outcome)

structure ProposalDecisionIdentity where
  proposalId : ProposalId
  (sourceRuntimeEpoch sourcePlannerStateVersion : Nat)
  baseCurrentPlanId : PlanId
deriving DecidableEq

structure FinalizeProposalDecisionRequest where
  eventId : EventId
  (mutationSequence expectedTripRevision resultingPlannerStateVersion : Nat)
  identity : ProposalDecisionIdentity
  outcomePayload : OutcomePayload
deriving DecidableEq

def FinalizeProposalDecisionRequest.isValid (request : FinalizeProposalDecisionRequest) : Bool :=
  decide (0 < request.mutationSequence) && decide (request.mutationSequence ≤ maxInt64) &&
    decide (request.expectedTripRevision ≤ maxInt64) &&
    decide (request.resultingPlannerStateVersion ≤ maxInt64) &&
    decide (0 < request.identity.sourceRuntimeEpoch) &&
    decide (request.identity.sourceRuntimeEpoch ≤ maxInt64) &&
    decide (request.identity.sourcePlannerStateVersion ≤ maxInt64)

def CanonicalTrip.proposal? (trip : CanonicalTrip) (proposalId : ProposalId) : Option ProposalRow :=
  trip.proposals.find? fun row => decide (row.stored.proposal.proposalId = proposalId)

def CanonicalTrip.decideProposal (trip : CanonicalTrip) (proposalId : ProposalId)
    (update : ProposalRow → ProposalRow) : CanonicalTrip :=
  { trip with proposals := trip.proposals.map fun row =>
      if row.stored.proposal.proposalId = proposalId then update row else row }

def decisionMatches (row : CommandRow) (proposal : PlanProposal)
    (request : FinalizeProposalDecisionRequest) : Bool :=
  decide (row.mutationSequence = request.mutationSequence) && decide
    (row.expectedTripRevision = request.expectedTripRevision) && decide
    (proposal.sourceRuntimeEpoch.toNat = request.identity.sourceRuntimeEpoch) && decide
    (proposal.sourcePlannerStateVersion.toNat = request.identity.sourcePlannerStateVersion) &&
    decide (proposal.baseCurrentPlanId = request.identity.baseCurrentPlanId)

/-- A repeated stale finalization tolerates a proposal that some other command
has decided in the meantime. -/
def proposalOutcomeMatches (stale : Bool) (row : ProposalRow) (eventId : EventId) : Bool :=
  if stale && !decide (row.state = .pending) && !decide (row.state = .stale) then
    row.decisionMessageId.all fun message => decide (message = eventId)
  else
    decide (row.state = if stale then .stale else .rejected) &&
      decide (row.decisionMessageId = some eventId)

/-- A stale decision is a terminal refusal; a rejection is an applied command. -/
def decisionOutcome (request : FinalizeProposalDecisionRequest) (stale : Bool) : ResolvedOutcome :=
  { status := if stale then .terminal .stale else .ok
    payload := request.outcomePayload
    tripRevision :=
      if stale then request.expectedTripRevision else request.expectedTripRevision + 1
    plannerStateVersion := request.resultingPlannerStateVersion }

def decisionIntentState (stale : Bool) : IntentState := if stale then .rejected else .applied

def decisionDeliveryState (stale : Bool) : DeliveryState :=
  if stale then .terminalRejected else .accepted

/-- `finalizeProposalDecision`, for a rejection or for a stale decision. -/
def finalizeProposalDecision (trip : CanonicalTrip) (request : FinalizeProposalDecisionRequest)
    (stale : Bool) : Transaction :=
  if !request.isValid then .error .invalidRequest
  else
    match trip.command? request.eventId with
    | none => .error .commandNotFound
    | some row =>
      match trip.proposal? request.identity.proposalId with
      | none => .error .proposalStale
      | some proposalRow =>
        let proposal := proposalRow.stored.proposal
        let outcome := decisionOutcome request stale
        let state := decisionIntentState stale
        let delivery := decisionDeliveryState stale
        if !decisionMatches row proposal request || !row.kind.isProposalDecision ||
            (!stale && !decide (row.kind = .rejectProposal)) then
          .error .finalizationConflict
        else if row.intentState ≠ .pending then
          if repeatsOutcome row state delivery outcome &&
              proposalOutcomeMatches stale proposalRow request.eventId then .ok trip
          else .error .finalizationConflict
        else if trip.tripRevision ≠ row.expectedTripRevision ∨
            (stale = false ∧ trip.currentPlanId ≠ request.identity.baseCurrentPlanId) then
          .error .tripRevisionStale
        else if !trip.isNext row.mutationSequence then .error .outOfOrder
        else if stale = false ∧ (proposalRow.state ≠ .pending ∨
            proposal.sourceTripRevision.toNat ≠ row.expectedTripRevision) then
          .error .proposalStale
        else
          let decided :=
            if stale = false ∨ proposalRow.state = .pending then
              trip.decideProposal request.identity.proposalId fun found =>
                { found with
                  state := if stale then .stale else .rejected
                  decisionMessageId := some request.eventId }
            else trip
          .ok ((decided.advance outcome.tripRevision row.mutationSequence).resolve request.eventId
            state delivery outcome)

def finalizeProposalRejection (trip : CanonicalTrip)
    (request : FinalizeProposalDecisionRequest) : Transaction :=
  if request.expectedTripRevision = maxInt64 then .error .invalidRequest
  else finalizeProposalDecision trip request false

def finalizeStaleProposalDecision (trip : CanonicalTrip)
    (request : FinalizeProposalDecisionRequest) : Transaction :=
  finalizeProposalDecision trip request true

def proposalPlanSegment (segment : ProposalSegment) : Option CurrentPlanSegment :=
  match segment.disposition with
  | .skipped =>
    if segment.scheduledStart.isNone && segment.scheduledEnd.isNone then
      some ⟨segment.activityId, .omitted, none, none⟩
    else none
  | .preserved | .moved | .added =>
    match segment.scheduledStart, segment.scheduledEnd with
    | some start, some finish =>
      if start.toInt < finish.toInt then
        some ⟨segment.activityId, .scheduled, some start, some finish⟩
      else none
    | _, _ => none
  | .shortened => none

def proposalCurrentPlanSegments (proposal : PlanProposal) : Option (List CurrentPlanSegment) :=
  (proposal.preservedPrefix ++ proposal.revisedSuffix).mapM proposalPlanSegment

def plannedPlanIsValid (trip : CanonicalTrip) (plan : CurrentPlan) (proposal : PlanProposal) :
    Bool :=
  let ids := trip.activities.map fun row => row.activity.activityId
  parsedPlanIsValid plan && decide (plan.origin = .acceptedEngineProposal) &&
    decide (plan.sourceProposalId = some proposal.proposalId) &&
    decide (proposalCurrentPlanSegments proposal = some plan.segments) &&
    decide (ids.length = plan.segments.length) &&
    plan.segments.all fun segment => ids.contains segment.activityId

def CanonicalTrip.maximumPlanRevision (trip : CanonicalTrip) : Nat :=
  trip.plans.foldl (fun maximum plan => max maximum plan.planRevision.toNat) 0

def finalizeProposalAcceptance (trip : CanonicalTrip)
    (request : FinalizeProposalDecisionRequest) : Transaction :=
  if !request.isValid || decide (request.expectedTripRevision = maxInt64) then
    .error .invalidRequest
  else
    match trip.command? request.eventId with
    | none => .error .commandNotFound
    | some row =>
      match trip.proposal? request.identity.proposalId with
      | none => .error .proposalStale
      | some proposalRow =>
        let proposal := proposalRow.stored.proposal
        let outcome : ResolvedOutcome := ⟨.ok, request.outcomePayload,
          request.expectedTripRevision + 1, request.resultingPlannerStateVersion⟩
        if !decisionMatches row proposal request || !decide (row.kind = .acceptProposal) then
          .error .finalizationConflict
        else
          match row.plannedCurrentPlan with
          | none => .error .proposalPayloadInvalid
          | some plan =>
            let known := trip.plans.any fun stored => decide (stored.planId = plan.planId)
            if !plannedPlanIsValid trip plan proposal then .error .proposalPayloadInvalid
            else if row.intentState = .pending ∧ (trip.maximumPlanRevision = maxInt64 ∨
                  plan.planRevision.toNat ≠ trip.maximumPlanRevision + 1) then
              .error .proposalPayloadInvalid
            else if row.intentState ≠ .pending then
              if repeatsOutcome row .applied .accepted outcome &&
                  decide (proposalRow.state = .accepted) &&
                  decide (trip.currentPlanId = plan.planId) &&
                  trip.plans.contains plan then .ok trip
              else .error .finalizationConflict
            else if trip.tripRevision ≠ row.expectedTripRevision ∨
                trip.currentPlanId ≠ request.identity.baseCurrentPlanId ∨
                proposal.sourceTripRevision.toNat ≠ row.expectedTripRevision ∨
                proposalRow.state ≠ .pending ∨ trip.isNext row.mutationSequence = false ∨
                known then
              .error .proposalStale
            else
              let accepted := trip.decideProposal request.identity.proposalId fun found =>
                { found with
                  state := .accepted, decisionMessageId := some request.eventId
                  resultingCurrentPlanId := some plan.planId }
              .ok (({ accepted with
                  plans := accepted.plans ++ [plan]
                  currentPlanId := plan.planId }.advance (request.expectedTripRevision + 1)
                row.mutationSequence).resolve request.eventId .applied .accepted outcome)

end LiveRoute.Persistence
