import LiveRoute.Persistence.Finalization

/-! Finalization of canonical-first commands, whose rows are already applied:
only the state of their mirror in the runtime is resolved. -/
namespace LiveRoute.Persistence
open Domain

inductive MirrorError where
  | invalidRequest | commandNotFound | identity | paused | conflict
deriving DecidableEq

structure FinalizeCanonicalMirrorRequest where
  eventId : EventId
  (mutationSequence expectedTripRevision resultingTripRevision : Nat)
  resultingCurrentPlanId : Option PlanId
deriving DecidableEq

def FinalizeCanonicalMirrorRequest.isValid (request : FinalizeCanonicalMirrorRequest) : Bool :=
  decide (request.mutationSequence ≤ maxInt64) && decide
    (request.expectedTripRevision ≤ maxInt64) && decide (request.resultingTripRevision ≤ maxInt64)

def CanonicalTrip.mirror? (trip : CanonicalTrip) (eventId : EventId) :
    Option (CommandRow × CanonicalMirror) :=
  (trip.commands.find? fun row =>
    decide (row.eventId = eventId) && !row.kind.isRuntimeFirst).bind fun row =>
      row.mirror.map fun mirror => (row, mirror)

def canonicalMirrorIdentityMatches (row : CommandRow) (mirror : CanonicalMirror)
    (request : FinalizeCanonicalMirrorRequest) : Bool :=
  decide (row.intentState = .applied) && decide (row.mutationSequence = request.mutationSequence) &&
    decide (row.expectedTripRevision = request.expectedTripRevision) && decide
    (mirror.resultingTripRevision = request.resultingTripRevision) && decide
    (request.resultingCurrentPlanId = some mirror.resultingCurrentPlanId)

def CanonicalTrip.setMirror (trip : CanonicalTrip) (eventId : EventId)
    (syncState : RuntimeSyncState) (delivery : DeliveryState) : CanonicalTrip :=
  { trip with commands := trip.commands.map fun row =>
      if row.eventId = eventId then
        { row with
          mirror := row.mirror.map fun mirror => { mirror with runtimeSyncState := syncState }
          deliveryState := delivery }
      else row }

/-- An acknowledgement that names another result pauses the mirror, and that
pause is committed. -/
def finalizeCanonicalMirror (trip : CanonicalTrip) (request : FinalizeCanonicalMirrorRequest) :
    CanonicalTrip × Option MirrorError :=
  if !request.isValid then (trip, some .invalidRequest)
  else
    match trip.mirror? request.eventId with
    | none => (trip, some .commandNotFound)
    | some (row, mirror) =>
      let matched := canonicalMirrorIdentityMatches row mirror request
      if mirror.runtimeSyncState = .synced ∨ row.deliveryState = .accepted then
        if matched ∧ mirror.runtimeSyncState = .synced ∧ row.deliveryState = .accepted then
          (trip, none)
        else (trip, some .conflict)
      else if mirror.runtimeSyncState = .pausedInternal ∨ row.deliveryState = .pausedInternal then
        (trip, some .paused)
      else if row.deliveryState ≠ .pending then (trip, some .conflict)
      else if matched then (trip.setMirror request.eventId .synced .accepted, none)
      else (trip.setMirror request.eventId .pausedInternal .pausedInternal, some .identity)

end LiveRoute.Persistence
