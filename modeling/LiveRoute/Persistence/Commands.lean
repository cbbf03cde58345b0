import LiveRoute.Persistence.Finalization

/-! Admission of runtime-first commands. A command is recorded once for each
message, against the current revision, and only while no other durable command
of the trip is unresolved. -/
namespace LiveRoute.Persistence
open Domain

inductive RecordError where
  | invalidRequest | tripNotFound | idempotencyKeyReused | tripRevisionStale
  | mutationSequenceExhausted | durableCommandBlocked | storage
deriving DecidableEq

structure RecordRuntimeCommandRequest where
  ownerUserId : UserId
  (messageId eventId : EventId)
  expectedTripRevision : UInt64
  kind : CommandKind
  payloadDigest : PayloadDigest
  event : TripEvent
  plannedCurrentPlan : Option CurrentPlan
deriving DecidableEq

structure RecordedCommand where
  row : CommandRow
  duplicate : Bool
deriving DecidableEq

def plannedCurrentPlanMatches (kind : CommandKind) (planned : Option CurrentPlan) : Bool :=
  if kind = .acceptProposal then
    planned.any fun plan => parsedPlanIsValid plan && decide (plan.origin = .acceptedEngineProposal)
  else planned.isNone

def validateRecordRuntimeCommand (request : RecordRuntimeCommandRequest) : Bool :=
  decide (request.eventId = request.messageId) &&
    decide (request.expectedTripRevision.toNat ≤ maxInt64) && request.kind.isRuntimeFirst &&
    plannedCurrentPlanMatches request.kind request.plannedCurrentPlan

/-- A runtime-first command without an outcome, or a canonical-first one that
the planner has not mirrored. -/
def CommandRow.isUnresolved (row : CommandRow) : Bool :=
  if row.kind.isRuntimeFirst then decide (row.intentState = .pending)
  else row.mirror.any fun mirror => !decide (mirror.runtimeSyncState = .synced)

def pendingRow (request : RecordRuntimeCommandRequest) (mutationSequence : Nat)
    (sequenceFits : 0 < mutationSequence ∧ mutationSequence ≤ maxInt64)
    (revisionFits : request.expectedTripRevision.toNat ≤ maxInt64) : CommandRow :=
  { eventId := request.eventId, mutationSequence := mutationSequence
    expectedTripRevision := request.expectedTripRevision.toNat, kind := request.kind
    payloadDigest := request.payloadDigest, event := request.event
    plannedCurrentPlan := request.plannedCurrentPlan, intentState := .pending, outcome := none
    mirror := none, deliveryState := .pending, sequenceFits := sequenceFits
    revisionFits := revisionFits }

def insertCommand (trip : CanonicalTrip) (request : RecordRuntimeCommandRequest) :
    Except RecordError (CanonicalTrip × RecordedCommand) :=
  if hsequence : 0 < trip.nextMutationSequence ∧ trip.nextMutationSequence < maxInt64 then
    if trip.commands.any CommandRow.isUnresolved then .error .durableCommandBlocked
    else if hrevision : request.expectedTripRevision.toNat ≤ maxInt64 then
      if request.event.commandExpiresAt.all fitsTimestamp then
        let row := pendingRow request trip.nextMutationSequence
          ⟨hsequence.1, Nat.le_of_lt hsequence.2⟩ hrevision
        .ok ({ trip with
            nextMutationSequence := trip.nextMutationSequence + 1
            commands := trip.commands ++ [row] }, ⟨row, false⟩)
      else .error .storage
    else .error .invalidRequest
  else .error .mutationSequenceExhausted

def recordRuntimeFirst (trip : CanonicalTrip) (request : RecordRuntimeCommandRequest) :
    Except RecordError (CanonicalTrip × RecordedCommand) :=
  if !validateRecordRuntimeCommand request then .error .invalidRequest
  else if trip.ownerUserId ≠ request.ownerUserId then .error .tripNotFound
  else
    match trip.commands.find? fun row => decide (row.eventId = request.messageId) with
    | some row =>
      if row.payloadDigest = request.payloadDigest then .ok (trip, ⟨row, true⟩)
      else .error .idempotencyKeyReused
    | none =>
      if trip.tripRevision ≠ request.expectedTripRevision.toNat then .error .tripRevisionStale
      else insertCommand trip request

/-- A command that was not recorded before has become the last row of the trip,
under the sequence that was next. -/
structure NewlyRecorded (trip recorded : CanonicalTrip) (request : RecordRuntimeCommandRequest)
    (row : CommandRow) : Prop where
  kind : request.kind.isRuntimeFirst
  planned : plannedCurrentPlanMatches request.kind request.plannedCurrentPlan
  revision : trip.tripRevision = request.expectedTripRevision.toNat
  settled : trip.commands.all (fun stored => !stored.isUnresolved)
  fresh : ∀ stored ∈ trip.commands, stored.eventId ≠ request.messageId
  inserted : ∃ sequenceFits revisionFits,
    row = pendingRow request trip.nextMutationSequence sequenceFits revisionFits
  trip_eq : recorded = { trip with
    nextMutationSequence := trip.nextMutationSequence + 1, commands := trip.commands ++ [row] }

theorem insertCommand_eq (h : insertCommand trip request = .ok (recorded, command)) :
    trip.commands.all (fun stored => !stored.isUnresolved) ∧ (∃ sequenceFits revisionFits,
        command.row = pendingRow request trip.nextMutationSequence sequenceFits revisionFits) ∧
      recorded = { trip with
        nextMutationSequence := trip.nextMutationSequence + 1
        commands := trip.commands ++ [command.row] } := by
  revert h
  fun_cases insertCommand trip request
  case case2 hsettled hrev _ _ =>
    intro h
    cases h
    refine ⟨?_, ⟨_, hrev, rfl⟩, rfl⟩
    simpa [List.any_eq_true, List.all_eq_true] using hsettled
  all_goals simp

theorem recordRuntimeFirst_recorded
    (h : recordRuntimeFirst trip request = .ok (recorded, ⟨row, false⟩)) :
    NewlyRecorded trip recorded request row := by
  revert h
  fun_cases recordRuntimeFirst trip request
  case case6 hvalid _ hfresh hrev =>
    intro h
    obtain ⟨hsettled, hins, htrip⟩ := insertCommand_eq h
    simp only [validateRecordRuntimeCommand, Bool.not_eq_true', Bool.not_eq_false,
      Bool.and_eq_true] at hvalid
    refine ⟨hvalid.1.2, hvalid.2, not_not.mp hrev, hsettled, ?_, hins, htrip⟩
    intro stored hstored
    simpa using List.find?_eq_none.mp hfresh stored hstored
  all_goals nofun

end LiveRoute.Persistence
