import LiveRoute.Dispatch.Simulation
import LiveRoute.Persistence.CanonicalCommandFacts

/-! Edits by the owner of a trip. The gateway commits the edit first and stores
an event from which the planner makes the same edit. -/
namespace LiveRoute.Gateway
open Domain LiveRoute.Runtime Persistence Dispatch

inductive CanonicalEdit where
  | currentPlan
  | trip (operation : TripEditOperation)
deriving DecidableEq

/-- A decoded `replace_current_plan` or `trip_edited` message. -/
structure CanonicalEditMessage where
  messageId : EventId
  userId : UserId
  expectedTripRevision : UInt64
  commandExpiresAt : Option UnixTimeMilliseconds
  edit : CanonicalEdit
  planId : PlanId
  segments : List CurrentPlanSegment
  payloadDigest : PayloadDigest
deriving DecidableEq

inductive CanonicalEditError where
  | commandExpired | scheduledSegmentIncomplete
  | commit (error : CanonicalCommandError)
deriving DecidableEq

def planSegment (segment : CurrentPlanSegment) : Option CurrentPlanSegment :=
  match segment.state with
  | .scheduled =>
    if segment.scheduledStart.isSome && segment.scheduledEnd.isSome then some segment else none
  | .omitted => some (draftSegment segment)

def planSegments (segments : List CurrentPlanSegment) : Option (List CurrentPlanSegment) :=
  segments.mapM planSegment

def currentPlanProto (metadata : CanonicalPlanMetadata) (segments : List CurrentPlanSegment) :
    CurrentPlan :=
  userCurrentPlan metadata segments

def CanonicalEdit.payload (plan : CurrentPlan) : CanonicalEdit → TripEventPayload
  | .currentPlan => .currentPlanReplaced plan
  | .trip operation => .tripEdited operation plan

/-- The event does not repeat the expiry of the message. -/
def editEvent (message : CanonicalEditMessage) (metadata : CanonicalPlanMetadata) : TripEvent :=
  { eventId := message.messageId, occurredAt := metadata.createdAt, commandExpiresAt := none
    payload := message.edit.payload (currentPlanProto metadata message.segments) }

def editRequest (message : CanonicalEditMessage) (segments : List CurrentPlanSegment)
    (maxPendingCanonicalMirror : UInt32) : CanonicalEditRequest :=
  { ownerUserId := message.userId, messageId := message.messageId, eventId := message.messageId
    planId := message.planId, expectedTripRevision := message.expectedTripRevision
    commandExpiresAt := message.commandExpiresAt
    maxPendingCanonicalMirror := maxPendingCanonicalMirror, planSegments := segments
    payloadDigest := message.payloadDigest, eventPayloadBuilder := editEvent message }

def CanonicalEdit.transaction : CanonicalEdit → CanonicalTransaction
  | .currentPlan => replaceCurrentPlan
  | .trip (.addActivity activity ordinal) => addActivity activity ordinal
  | .trip (.replaceActivity activity) => replaceActivity activity
  | .trip (.removeActivity activityId) => removeActivity activityId
  | .trip (.reorderActivities activityIds) => reorderActivities activityIds

def canonicalCommandExpired (expiresAt : Option UnixTimeMilliseconds)
    (now : UnixTimeMilliseconds) : Bool :=
  expiresAt.any fun expiry => decide (expiry.toInt ≤ now.toInt)

/-- `Handle` of the two adapters, up to the acknowledgement. -/
def commitEdit (trip : CanonicalTrip) (message : CanonicalEditMessage)
    (maxPendingCanonicalMirror : UInt32) (now : UnixTimeMilliseconds) (context : CommitContext) :
    Except CanonicalEditError (CanonicalTrip × RecordedCommand) :=
  if canonicalCommandExpired message.commandExpiresAt now then .error .commandExpired
  else
    match planSegments message.segments with
    | none => .error .scheduledSegmentIncomplete
    | some segments =>
      match message.edit.transaction.run trip
          (editRequest message segments maxPendingCanonicalMirror) context with
      | .error error => .error (.commit error)
      | .ok recorded => .ok recorded

@[simp] theorem draftSegment_draftSegment (segment : CurrentPlanSegment) :
    draftSegment (draftSegment segment) = draftSegment segment := by
  obtain ⟨-, state, -, -⟩ := segment
  cases state <;> rfl

theorem planSegments_eq
    (h : planSegments segments = some drafts) : drafts = segments.map draftSegment := by
  refine (List.map_id _).symm.trans (Sequence.map_of_mapM (fun segment draft hdraft => ?_) h)
  cases hstate : segment.state with
  | scheduled =>
    simp only [planSegment, hstate] at hdraft
    split at hdraft <;> cases hdraft
    simp only [draftSegment, hstate, id]
  | omitted =>
    simp only [planSegment, hstate] at hdraft
    cases hdraft
    rfl

theorem currentPlanProto_eq {message : CanonicalEditMessage}
    (h : planSegments message.segments = some drafts) :
    currentPlanProto metadata message.segments = userCurrentPlan metadata drafts := by
  unfold currentPlanProto userCurrentPlan
  rw [planSegments_eq h, List.map_map]
  congr 1
  apply List.map_congr_left
  simp

theorem commitEdit_committed (h : commitEdit trip message maxPendingCanonicalMirror now context =
      .ok (committed, ⟨row, false⟩)) :
    ∃ drafts, planSegments message.segments = some drafts ∧
      CanonicallyCommitted message.edit.transaction trip committed
        (editRequest message drafts maxPendingCanonicalMirror) context row := by
  revert h
  fun_cases commitEdit trip message maxPendingCanonicalMirror now context
  case case4 drafts hdrafts _ hrun =>
    intro h
    cases h
    exact ⟨drafts, hdrafts, CanonicalTransaction.run_committed hrun⟩
  all_goals simp

end LiveRoute.Gateway
