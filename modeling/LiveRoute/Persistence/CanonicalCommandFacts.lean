import LiveRoute.Domain.PlanOrder
import LiveRoute.Persistence.CanonicalCommands
import Mathlib.Data.List.Perm.Subperm

/-! What a committed canonical-first command has passed and what it has
written. -/
namespace LiveRoute.Persistence
open Domain List

theorem replacementTimes_ok {next : Option UnixTimeMilliseconds}
    {segment : CurrentPlanSegment} (h : replacementTimes previousEnd segment = .ok next) :
    draftSegment segment = segment ∧ ∀ rest, segmentsOrdered next rest →
        segmentsOrdered previousEnd (segment :: rest) := by
  obtain ⟨activityId, state, scheduledStart, scheduledEnd⟩ := segment
  cases state with
  | scheduled =>
    refine ⟨rfl, fun rest hrest => ?_⟩
    cases scheduledStart with
    | none => cases h
    | some =>
      cases scheduledEnd with
      | none => cases h
      | some =>
        simp only [replacementTimes] at h
        split at h
        · cases h
        rename_i hord
        cases h
        simp only [Bool.or_eq_true, decide_eq_true_eq, not_or, Int.not_le] at hord
        simpa [segmentsOrdered, CurrentPlanSegment.isValid, hrest, hord.1] using hord.2
  | omitted =>
    simp only [replacementTimes] at h
    split at h
    · cases h
    rename_i htimes
    cases h
    simp only [Bool.or_eq_true, not_or, Bool.not_eq_true, Option.isSome_eq_false_iff,
      Option.isNone_iff_eq_none] at htimes
    obtain ⟨rfl, rfl⟩ := htimes
    exact ⟨rfl,
      fun rest hrest => by simpa [segmentsOrdered, CurrentPlanSegment.isValid] using hrest⟩

structure ScannedSegment (activities : List Activity) (scan next : ReplacementScan)
    (segment : CurrentPlanSegment) (activity : Activity) : Prop where
  known : activityFor activities segment.activityId = some activity
  fresh : segment.activityId ∉ scan.seen
  seen : next.seen = segment.activityId :: scan.seen
  times : replacementTimes scan.previousEnd segment = .ok next.previousEnd
  place : scan.prefixOpen ∧ activity.isFinished ∧ next.prefixOpen ∨
    activity.isFinished = false ∧ next.prefixOpen = false

theorem scanReplacementSegment_ok {segment : CurrentPlanSegment} {next : ReplacementScan}
    (h : scanReplacementSegment activities index scan segment = .ok next) :
    ∃ activity, ScannedSegment activities scan next segment activity := by
  revert h
  fun_cases scanReplacementSegment activities index scan segment
  case case4 activity hact hfresh _ htimes _ hfin =>
    rintro ⟨⟩
    rw [Bool.and_eq_true] at hfin
    exact ⟨activity, hact, hfresh, rfl, htimes, .inl ⟨hfin.1, hfin.2, rfl⟩⟩
  case case7 activity hact hfresh _ htimes _ _ hopen _ _ =>
    rintro ⟨⟩
    have hopen : activity.isFinished = false := by simpa [Activity.isFinished] using hopen
    exact ⟨activity, hact, hfresh, rfl, htimes, .inr ⟨hopen, rfl⟩⟩
  case case8 activity hact hfresh _ htimes _ _ hopen _ =>
    rintro ⟨⟩
    have hopen : activity.isFinished = false := by simpa [Activity.isFinished] using hopen
    exact ⟨activity, hact, hfresh, rfl, htimes, .inr ⟨hopen, rfl⟩⟩
  all_goals simp

structure ScannedPlan (activities : List Activity) (scan : ReplacementScan)
    (segments : List CurrentPlanSegment) : Prop where
  known : ∀ activityId ∈ segments.map CurrentPlanSegment.activityId,
    activityId ∈ activityIds activities
  distinct : (segments.map CurrentPlanSegment.activityId).Nodup
  fresh : ∀ activityId ∈ segments.map CurrentPlanSegment.activityId, activityId ∉ scan.seen
  ordered : segmentsOrdered scan.previousEnd segments
  written : segments.map draftSegment = segments
  finishedFirst : FinishedFirst
    (inPlanOrder activities (segments.map CurrentPlanSegment.activityId))
  closed : scan.prefixOpen = false → ∀ activity ∈ inPlanOrder activities
    (segments.map CurrentPlanSegment.activityId), activity.isFinished = false

theorem scanReplacement_ok (h : scanReplacement activities index scan segments = .ok final) :
    ScannedPlan activities scan segments := by
  induction segments generalizing index scan with
  | nil => exact ⟨by simp, by simp, by simp, rfl, rfl, ⟨0, by simp, by simp⟩, by simp⟩
  | cons segment rest ih =>
    unfold scanReplacement at h
    cases hstep : scanReplacementSegment activities index scan segment with
    | error => simp [hstep] at h
    | ok =>
      rw [hstep] at h
      obtain ⟨activity, hseg⟩ := scanReplacementSegment_ok hstep
      have hrest := ih h
      obtain ⟨hwrote, hord⟩ := replacementTimes_ok hseg.times
      have hfresh := hrest.fresh
      rw [hseg.seen] at hfresh
      simp only [mem_cons, not_or] at hfresh
      have hplan := inPlanOrder_cons hseg.known (rest.map CurrentPlanSegment.activityId)
      constructor
      case known =>
        rw [map_cons, forall_mem_cons]
        exact ⟨activityFor_isSome_iff.mp ⟨activity, hseg.known⟩, hrest.known⟩
      case distinct =>
        rw [map_cons, nodup_cons]
        exact ⟨fun hmem => (hfresh _ hmem).1 rfl, hrest.distinct⟩
      case fresh =>
        rw [map_cons, forall_mem_cons]
        exact ⟨hseg.fresh, fun activityId hmem => (hfresh activityId hmem).2⟩
      case ordered => exact hord rest hrest.ordered
      case written => rw [map_cons, hwrote, hrest.written]
      case finishedFirst =>
        rw [map_cons, hplan]
        rcases hseg.place with ⟨-, hfin, -⟩ | ⟨hopen, hclosed⟩
        · obtain ⟨count, hhead, htail⟩ := hrest.finishedFirst
          exact ⟨count + 1, forall_mem_cons.mpr ⟨hfin, hhead⟩, htail⟩
        · exact ⟨0, by simp, forall_mem_cons.mpr ⟨hopen, hrest.closed hclosed⟩⟩
      case closed =>
        intro hclosed
        rw [map_cons, hplan]
        rcases hseg.place with ⟨hopen, -, -⟩ | ⟨hopen, hnext⟩
        · rw [hopen] at hclosed
          cases hclosed
        · exact forall_mem_cons.mpr ⟨hopen, hrest.closed hnext⟩

/-- A replacement plan that passes the backend orders the activities with the
finished ones first. -/
structure ReplacementPlan (segments : List CurrentPlanSegment) (activities : List Activity) :
    Prop where
  order : (segments.map CurrentPlanSegment.activityId).Perm (activityIds activities)
  ordered : segmentsOrdered none segments
  written : segments.map draftSegment = segments
  finishedFirst : FinishedFirst
    (inPlanOrder activities (segments.map CurrentPlanSegment.activityId))

theorem validateReplacementPlan_ok (h : validateReplacementPlan segments activities = .ok ()) :
    ReplacementPlan segments activities := by
  unfold validateReplacementPlan at h
  split at h
  · cases h
  rename_i hlen
  cases hscan : scanReplacement activities 0 ⟨[], true, false, none⟩ segments with
  | error => simp [hscan] at h
  | ok =>
    have hplan := scanReplacement_ok hscan
    refine ⟨?_, hplan.ordered, hplan.written, hplan.finishedFirst⟩
    apply (subperm_of_subset hplan.distinct hplan.known).perm_of_length_le
    simpa [activityIds] using Nat.le_of_eq (not_not.mp hlen).symm

/-- A command that was not recorded before has passed every check, and its rows
are those of the transaction. -/
structure CanonicallyCommitted (transaction : CanonicalTransaction) (trip committed : CanonicalTrip)
    (request : CanonicalEditRequest) (context : CommitContext) (row : CommandRow) : Prop where
  validated : transaction.validateRequest request = .ok ()
  fresh : ∀ stored ∈ trip.commands, stored.eventId ≠ request.messageId
  revision : trip.tripRevision < maxInt64
  plan : ∃ activities,
    transaction.resulting (trip.activities.map ActivityRow.activity) = .ok activities ∧
      validateReplacementPlan request.planSegments activities = .ok ()
  planFresh : planKeyTaken trip context (editMetadata trip request context) = false
  row_eq : ∃ sequenceFits revisionFits, row = mirrorRow transaction.kind trip request
    (editMetadata trip request context) sequenceFits revisionFits
  trip_eq : ∃ written, transaction.write context trip = some written ∧
    committed = publishEdit trip written
      (userCurrentPlan (editMetadata trip request context) request.planSegments) row

namespace CanonicalTransaction
variable {transaction : CanonicalTransaction} {trip committed : CanonicalTrip}
  {request : CanonicalEditRequest} {context : CommitContext} {command : RecordedCommand}

theorem insertRows_ok (h : transaction.insertRows trip request context sequenceFits revisionFits =
      .ok (committed, command)) :
    planKeyTaken trip context (editMetadata trip request context) = false ∧
      command.row = mirrorRow transaction.kind trip request
      (editMetadata trip request context) sequenceFits revisionFits ∧ ∃ written,
      transaction.write context trip = some written ∧ committed = publishEdit trip written
      (userCurrentPlan (editMetadata trip request context) request.planSegments) command.row := by
  unfold insertRows at h
  dsimp only at h
  split at h
  · cases h
  rename_i hkeys
  simp only [Bool.or_eq_true, not_or, Bool.not_eq_true] at hkeys
  split at h
  · cases h
  rename_i written hwrote
  cases h
  exact ⟨hkeys.1.2, rfl, written, hwrote, rfl⟩

theorem run_committed (h : transaction.run trip request context = .ok (committed, ⟨row, false⟩)) :
    CanonicallyCommitted transaction trip committed request context row := by
  revert h
  fun_cases run transaction trip request context
  case case5 hval _ hfresh =>
    fun_cases recordNew transaction trip request context
    case case6 _ hroom _ _ activities hnext hplan =>
      intro h
      obtain ⟨hplanFresh, hrow, hwrote⟩ := insertRows_ok h
      refine ⟨hval, fun stored hstored => ?_, hroom.1,
        ⟨activities, hnext, hplan⟩, hplanFresh, ⟨_, _, hrow⟩, hwrote⟩
      simpa using find?_eq_none.mp hfresh stored hstored
    all_goals nofun
  all_goals nofun

end CanonicalTransaction

theorem currentPlan_publishEdit {trip : CanonicalTrip} {plan : CurrentPlan}
    (hfresh : ∀ stored ∈ trip.plans, stored.planId ≠ plan.planId) :
    (publishEdit trip written plan row).currentPlan = some plan := by
  have hnone : trip.plans.find? (fun stored => decide (stored.planId = plan.planId)) = none := by
    rw [find?_eq_none]
    intro stored hstored
    simpa using hfresh stored hstored
  unfold CanonicalTrip.currentPlan publishEdit
  rw [find?_append, hnone]
  simp

theorem planId_fresh (h : planKeyTaken trip context metadata = false) :
    ∀ stored ∈ trip.plans, stored.planId ≠ metadata.planId := by
  intro stored hstored
  simp only [planKeyTaken, Bool.or_eq_false_iff, any_eq_false] at h
  have hkey := h.2 stored hstored
  simp only [Bool.or_eq_true, decide_eq_true_eq, not_or] at hkey
  exact hkey.1

theorem validateCanonicalActivity_ok
    (h : validateCanonicalActivity activity = .ok ()) : activity.isValid := by
  revert h
  fun_cases validateCanonicalActivity activity
  case case4 timing hfields hlocation hwindows =>
    simp only [timing, Bool.or_eq_true, not_or, decide_eq_true_eq, Bool.not_eq_true,
      Bool.not_eq_false', UInt32.not_lt] at hfields
    simp only [timing, Bool.not_eq_true', Bool.not_eq_false] at hlocation hwindows
    simp [Activity.isValid, ActivityTiming.isValid, hfields, hlocation, hwindows]
  all_goals simp

theorem validateActivityRequest_ok
    (h : validateActivityRequest reason activity request = .ok ()) : activity.isValid := by
  unfold validateActivityRequest at h
  split at h
  · cases h
  exact validateCanonicalActivity_ok h

end LiveRoute.Persistence
