import LiveRoute.Execution.TripTransactions
import LiveRoute.Gateway.ProposalDecision

/-! The commands of a client as the gateway handles them: an adapter turns the
message into a request, the transaction looks the message up, and the stored
intent is acknowledged. -/
namespace LiveRoute.Execution
open Domain Persistence Gateway

structure RuntimeMutationMessage where
  messageId : EventId
  userId : UserId
  kind : CommandKind
  expectedTripRevision : UInt64
  commandExpiresAt : Option UnixTimeMilliseconds
  mutation : TripEventPayload
  payloadDigest : PayloadDigest
deriving DecidableEq

/-- The digest is taken over the canonical payload, the message without its
identifier. -/
inductive ClientCommand where
  | create (request : CreateTripRequest)
  | edit (message : CanonicalEditMessage)
  | mutate (message : RuntimeMutationMessage)
  | decideProposal (message : ProposalDecisionMessage)
deriving DecidableEq

def ClientCommand.messageId : ClientCommand → EventId
  | .create request => request.messageId
  | .edit message => message.messageId
  | .mutate message => message.messageId
  | .decideProposal message => message.messageId

def ClientCommand.userId : ClientCommand → UserId
  | .create request => request.ownerUserId
  | .edit message => message.userId
  | .mutate message => message.userId
  | .decideProposal message => message.userId

def ClientCommand.payloadDigest : ClientCommand → PayloadDigest
  | .create request => request.payloadDigest
  | .edit message => message.payloadDigest
  | .mutate message => message.payloadDigest
  | .decideProposal message => message.payloadDigest

/-- What the handling of a message meets outside its trip: two clocks, a new
plan identifier, the rows of others and the configured capacity. -/
structure GatewayContext where
  (now createdAt : UnixTimeMilliseconds)
  planId : PlanId
  ownerExists : Bool
  foreignPlanIds : List PlanId
  foreignActivityIds : List ActivityId
  maxPendingCanonicalMirror : UInt32
  capacity : maxPendingCanonicalMirror ≠ 0
deriving DecidableEq

inductive GatewayError where
  | commandExpired | scheduledSegmentIncomplete | notAnOrdinaryMutation | storedEventIncomplete
  | tripNotFound
  | decision (error : ProposalDecisionError)
  | create (error : CreateTripError)
  | trip (error : TripError)
deriving DecidableEq

inductive ErrorStatus where
  | notFound | stale | idempotencyKeyReused | commandExpired | resourceExhausted | unavailable
  | internal
deriving DecidableEq

def recordErrorStatus : RecordError → ErrorStatus
  | .tripNotFound => .notFound
  | .idempotencyKeyReused => .idempotencyKeyReused
  | .tripRevisionStale => .stale
  | .durableCommandBlocked => .unavailable
  | .invalidRequest | .mutationSequenceExhausted | .storage => .internal

def canonicalErrorStatus : CanonicalCommandError → ErrorStatus
  | .idempotencyKeyReused => .idempotencyKeyReused
  | .tripRevisionStale => .stale
  | .durableCommandBlocked => .unavailable
  | .canonicalMirrorCapacity => .resourceExhausted
  | .invalid _ | .tripConflict | .mutationSequenceExhausted | .storage => .internal

/-- `ErrorStatus` of the gateway. -/
def GatewayError.status : GatewayError → ErrorStatus
  | .commandExpired => .commandExpired
  | .tripNotFound => .notFound
  | .decision .pendingProposalNotFound => .notFound
  | .decision .proposalStale => .stale
  | .decision (.record error) => recordErrorStatus error
  | .create .idempotencyKeyReused => .idempotencyKeyReused
  | .trip (.record error) => recordErrorStatus error
  | .trip (.edit error) => canonicalErrorStatus error
  | .trip (.lease _) => .unavailable
  | .scheduledSegmentIncomplete | .notAnOrdinaryMutation | .storedEventIncomplete
  | .decision _ | .create _ | .trip _ => .internal

inductive AcknowledgementPhase where
  | canonicalCommitted (tripRevision : Option UInt64) (currentPlanId : PlanId)
  | durableRecorded
deriving DecidableEq

structure Acknowledgement where
  messageId : EventId
  phase : AcknowledgementPhase
  (tripRevision mutationSequence : Nat)
deriving DecidableEq

def createTripAcknowledgement (request : CreateTripRequest) : Acknowledgement :=
  ⟨request.messageId, .canonicalCommitted (some 1) request.planId, 1, 1⟩

def editOutcome (message : CanonicalEditMessage) : AcknowledgementPhase :=
  match message.edit with
  | .currentPlan => .canonicalCommitted (some (message.expectedTripRevision + 1)) message.planId
  | .trip _ => .canonicalCommitted none message.planId

/-- The columns of `command_intents` that a lookup compares and acknowledges. A
creation has no kind of its own here; a runtime-first row is acknowledged by
the revision it expected, so its resulting one is left out. -/
structure IntentColumns where
  kind : Option CommandKind
  payloadDigest : PayloadDigest
  expectedTripRevision : Nat
  resultingTripRevision : Option Nat
  mutationSequence : Nat
deriving DecidableEq

def intentColumns (row : CommandRow) : IntentColumns :=
  ⟨some row.kind, row.payloadDigest, row.expectedTripRevision,
    row.mirror.map CanonicalMirror.resultingTripRevision, row.mutationSequence⟩

def creationColumns (intent : CreationIntent) : IntentColumns :=
  ⟨none, intent.payloadDigest, 0, some 1, 1⟩

def RecordedIntent.columns : RecordedIntent → IntentColumns
  | .command recorded => intentColumns recorded.row
  | .creation intent => creationColumns intent

def canonicalCommittedAcknowledgement (message : CanonicalEditMessage) (intent : IntentColumns) :
    Acknowledgement :=
  ⟨message.messageId, editOutcome message, intent.resultingTripRevision.getD 0,
    intent.mutationSequence⟩

def runtimeDurableAcknowledgement (messageId : EventId) (intent : IntentColumns) :
    Acknowledgement :=
  ⟨messageId, .durableRecorded, intent.expectedTripRevision, intent.mutationSequence⟩

def isOrdinaryRuntimeMutation : CommandKind → Bool
  | .activityStatusChanged | .activityDelayed | .reservationChanged | .mandatoryDeadlineChanged
  | .operatingHoursChanged | .placeFoundClosed | .travelDelay => true
  | _ => false

def preparedEdit (message : CanonicalEditMessage) (context : GatewayContext) :
    Except GatewayError CanonicalEditRequest :=
  if canonicalCommandExpired message.commandExpiresAt context.now then .error .commandExpired
  else
    match planSegments message.segments with
    | none => .error .scheduledSegmentIncomplete
    | some segments => .ok (editRequest message segments context.maxPendingCanonicalMirror)

def preparedMutation (message : RuntimeMutationMessage) (context : GatewayContext) :
    Except GatewayError RecordRuntimeCommandRequest :=
  if !isOrdinaryRuntimeMutation message.kind then .error .notAnOrdinaryMutation
  else if context.now.toInt ≤ 0 then .error .storedEventIncomplete
  else
    .ok
      { ownerUserId := message.userId, messageId := message.messageId, eventId := message.messageId
        expectedTripRevision := message.expectedTripRevision, kind := message.kind
        payloadDigest := message.payloadDigest
        event := ⟨message.messageId, context.now, message.commandExpiresAt, message.mutation⟩
        plannedCurrentPlan := none }

def TripRecord.preparedDecision (record : TripRecord) (message : ProposalDecisionMessage)
    (context : GatewayContext) : Except GatewayError RecordRuntimeCommandRequest :=
  if message.sourceRuntimeEpoch == 0 then .error (.decision .identityInvalid)
  else if !message.kind.isProposalDecision then .error (.decision .notAProposalDecision)
  else
    match record.lifecycle.currentPlanId with
    | none => .error (.trip .noCurrentPlan)
    | some planId =>
      match prepareProposalAcceptance (record.canonicalTrip planId) message.proposalId
          context.createdAt with
      | .error error => .error (.decision error)
      | .ok preparation =>
        if !sourceMatches preparation.source message then .error (.decision .proposalStale)
        else
          match plannedFor message preparation context.planId with
          | .error error => .error (.decision error)
          | .ok planned =>
            if context.now.toInt ≤ 0 then .error .storedEventIncomplete
            else .ok (recordRequest message preparation (decisionEvent message context.now) planned)

def TripRecord.handleRuntimeFirst (record : TripRecord) (messageId : EventId) :
    Except GatewayError RecordRuntimeCommandRequest →
      Except GatewayError (TripRecord × Acknowledgement)
  | .error error => .error error
  | .ok request =>
    match record.recordCommand request with
    | .error error => .error (.trip error)
    | .ok (recorded, intent) =>
      .ok (recorded, runtimeDurableAcknowledgement messageId intent.columns)

def TripRecord.handleEdit (record : TripRecord) (message : CanonicalEditMessage)
    (context : GatewayContext) : Except GatewayError (TripRecord × Acknowledgement) :=
  match preparedEdit message context with
  | .error error => .error error
  | .ok request =>
    match record.edit message.edit request
        ⟨context.createdAt, context.foreignPlanIds, context.foreignActivityIds⟩ with
    | .error error => .error (.trip error)
    | .ok (committed, intent) =>
      .ok (committed, canonicalCommittedAcknowledgement message intent.columns)

/-- `Dispatch` of a command for a trip that exists. -/
def TripRecord.handle (record : TripRecord) (context : GatewayContext) :
    ClientCommand → Except GatewayError (TripRecord × Acknowledgement)
  | .create request =>
    match record.createAgain request with
    | .error error => .error (.create error)
    | .ok _ => .ok (record, createTripAcknowledgement request)
  | .edit message => record.handleEdit message context
  | .mutate message =>
    record.handleRuntimeFirst message.messageId (preparedMutation message context)
  | .decideProposal message =>
    record.handleRuntimeFirst message.messageId (record.preparedDecision message context)

/-- `Dispatch` of a command for a trip that does not exist. -/
def handleMissing (context : GatewayContext) :
    ClientCommand → Except GatewayError (TripRecord × Acknowledgement)
  | .create request =>
    match createTrip request ⟨context.createdAt, context.ownerExists, context.foreignPlanIds,
        context.foreignActivityIds⟩ with
    | .error error => .error (.create error)
    | .ok record => .ok (record, createTripAcknowledgement request)
  | .edit message =>
    match preparedEdit message context with
    | .error error => .error error
    | .ok request =>
      match message.edit.transaction.validateRequest request with
      | .error reason => .error (.trip (.edit (.invalid reason)))
      | .ok () => .error (.trip (.edit .tripConflict))
  | .mutate message =>
    match preparedMutation message context with
    | .error error => .error error
    | .ok request =>
      if !validateRecordRuntimeCommand request then .error (.trip (.record .invalidRequest))
      else .error (.trip (.record .tripNotFound))
  | .decideProposal message =>
    if message.sourceRuntimeEpoch == 0 then .error (.decision .identityInvalid)
    else if !message.kind.isProposalDecision then .error (.decision .notAProposalDecision)
    else .error .tripNotFound

end LiveRoute.Execution
