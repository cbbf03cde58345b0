import LiveRoute.Gateway.EditSimulation

/-! Delivery of the event of a committed edit, up to the resolution of its
mirror by the dispatcher. -/
namespace LiveRoute.Gateway
open Domain LiveRoute.Runtime Persistence Dispatch

variable {trip : CanonicalTrip} {row : CommandRow} {loaded : CanonicalTripState}
  {mirror : CanonicalMirror}

theorem load_revision_pos (h : load trip = some loaded) : 0 < trip.tripRevision := by
  unfold load at h
  split at h
  · cases h
  rename_i hrows
  simp only [CanonicalTrip.rowsAreValid, Bool.not_eq_true', Bool.not_eq_false, Bool.and_eq_true,
    decide_eq_true_eq] at hrows
  exact hrows.1.1.1.1.1

theorem canIncrement_of_lt {value : UInt64} (h : value.toNat < maxInt64) :
    canIncrement value := by
  unfold maxInt64 at h
  simp only [canIncrement, maxUInt64, Bool.not_eq_true', beq_eq_false_iff_ne, ne_eq,
    ← UInt64.toNat_inj]
  intro hmax
  rw [hmax] at h
  simp at h

theorem transaction_kind (edit : CanonicalEdit) : edit.transaction.kind.isRuntimeFirst = false := by
  cases edit with
  | currentPlan => rfl
  | trip operation => cases operation <;> rfl

theorem eventMatches_edit (edit : CanonicalEdit) :
    eventMatchesCommand edit.transaction.kind (edit.payload plan) := by
  cases edit with
  | currentPlan => rfl
  | trip operation => cases operation <;> rfl

theorem mirror?_publishEdit (hfresh : ∀ stored ∈ trip.commands, stored.eventId ≠ row.eventId)
    (hkind : row.kind.isRuntimeFirst = false) (hmirror : row.mirror = some mirror) :
    (publishEdit trip written plan row).mirror? row.eventId = some (row, mirror) := by
  have hnone : trip.commands.find? (fun stored =>
      decide (stored.eventId = row.eventId) && !stored.kind.isRuntimeFirst) = none := by
    rw [List.find?_eq_none]
    intro stored hstored
    simp [hfresh stored hstored]
  unfold CanonicalTrip.mirror? publishEdit
  rw [List.find?_append, hnone]
  simp [hkind, hmirror]

structure PendingMirror (trip : CanonicalTrip) (row : CommandRow) (mirror : CanonicalMirror) :
    Prop where
  stored : trip.mirror? row.eventId = some (row, mirror)
  carried : row.mirror = some mirror
  kind : row.kind.isRuntimeFirst = false
  event : row.event.eventId = row.eventId
  payload : eventMatchesCommand row.kind row.event.payload
  applied : row.intentState = .applied
  delivery : row.deliveryState = .pending
  sync : mirror.runtimeSyncState = .pending
  revision : 0 < mirror.resultingTripRevision ∧ mirror.resultingTripRevision ≤ maxInt64

theorem dispatch_accepted_mirror {result : EventCoordinatorResult}
    (requestId : RequestId) (tripId : TripId) (hmirror : PendingMirror trip row mirror)
    (hstatus : result.status = .accepted)
    (hepoch : result.versionSnapshot.runtimeEpoch = leaseEpoch)
    (hseq : result.versionSnapshot.acceptedMutationSequence.toNat = row.mutationSequence)
    (hrev : result.versionSnapshot.tripRevision.toNat = mirror.resultingTripRevision)
    (hplan : result.resultingCurrentPlanId = some mirror.resultingCurrentPlanId) :
    dispatch trip row (dispatchRequest requestId tripId row leaseEpoch)
        (some (eventResponse (dispatchRequest requestId tripId row leaseEpoch) result)) =
      (trip.setMirror row.eventId .synced .accepted, .resolved) := by
  have hvalid : storedEventIsValid row := by
    have hpos := Nat.ne_of_gt hmirror.revision.1
    simp [storedEventIsValid, hmirror.event, hmirror.payload, hmirror.carried, hpos]
  have hcovers : acknowledgementCovers (dispatchRequest requestId tripId row leaseEpoch) row
      (eventResponse (dispatchRequest requestId tripId row leaseEpoch) result)
      (eventAcknowledgement (dispatchRequest requestId tripId row leaseEpoch) result) := by
    simp [acknowledgementCovers, eventResponse, eventAcknowledgement, dispatchRequest,
      admissionRequest, hepoch, hmirror.event, hseq]
  unfold dispatch
  rw [if_neg (by simp [hvalid])]
  simp only [eventResponse, hmirror.kind, Bool.false_eq_true, if_false]
  unfold dispatchCanonicalFirst
  rw [if_neg (by simp [eventAcknowledgement, EventAcknowledged.isAccepted,
    EventAcknowledged.hasAcceptedStatus, hstatus, coordinatorDisposition, coordinatorStatusCode])]
  rw [if_neg (by simpa [eventResponse] using hcovers)]
  simp [eventAcknowledgement, finalizeCanonicalMirror, FinalizeCanonicalMirrorRequest.isValid,
    canonicalMirrorIdentityMatches, row.sequenceFits.2, row.revisionFits, hrev, hplan,
    hmirror.revision.2, hmirror.stored, hmirror.applied, hmirror.sync, hmirror.delivery]

structure NextEdit (trip : CanonicalTrip) (runtime : TripRuntime) (leaseEpoch : UInt64) : Prop where
  active : runtime.versions.active
  epoch : leaseEpoch = runtime.versions.snapshot.runtimeEpoch
  order : trip.nextMutationSequence = trip.finalizedMutationSequence + 1

theorem expects_edit (hload : load trip = some loaded)
    (hmirr : Mirrors loaded runtime) (hnext : NextEdit trip runtime leaseEpoch)
    (hseq : row.mutationSequence = trip.nextMutationSequence)
    (hrev : row.expectedTripRevision = trip.tripRevision)
    (hpay : expectedPlannerStateVersion row.event.payload = none) :
    envelopeMatches true (admissionRequest row leaseEpoch) ∧
      runtime.versions.Expects (admissionRequest row leaseEpoch) := by
  obtain ⟨-, -, hloadedRevision, hfin, -⟩ := load_fields hload
  have hpos := load_revision_pos hload
  have hsequenceNat := ofNat_toNat_of_le row.sequenceFits.2
  have hrevisionNat := ofNat_toNat_of_le row.revisionFits
  constructor
  · have hfirst : UInt64.ofNat row.mutationSequence ≠ 0 := by
      intro hzero
      rw [hzero] at hsequenceNat
      exact absurd hsequenceNat (Nat.ne_of_lt row.sequenceFits.1)
    have hsecond : UInt64.ofNat row.expectedTripRevision ≠ 0 := by
      intro hzero
      rw [hzero, hrev] at hrevisionNat
      exact absurd hrevisionNat (Nat.ne_of_lt hpos)
    simp [envelopeMatches, admissionRequest, hfirst, hsecond]
  · refine ⟨hnext.active, hnext.epoch, ?_, ?_, ?_⟩
    · change (UInt64.ofNat row.mutationSequence).toNat = _
      rw [hsequenceNat, hseq, hnext.order, ← hfin, hmirr.sequence]
    · apply UInt64.toNat_inj.mp
      change (UInt64.ofNat row.expectedTripRevision).toNat = _
      rw [hrevisionNat, hrev, ← hloadedRevision, hmirr.revision]
    · intro expected hexp
      simp [admissionRequest, hpay] at hexp

theorem committed_mirrors {edit : CanonicalEdit}
    (hload : load trip = some loaded) (hmirr : Mirrors loaded runtime)
    (hstate : runtime.state.Valid)
    (hedited : EditedRows trip written resulting (edit.apply runtime.state))
    (hsettled : (edit.settled runtime.state plan).Valid)
    (hplanFresh : ∀ stored ∈ trip.plans, stored.planId ≠ plan.planId)
    (hrow : row.mutationSequence = trip.nextMutationSequence)
    (hrev : canIncrement runtime.versions.snapshot.tripRevision)
    (hcom : committed = publishEdit trip written plan row) :
    ∃ reloaded, load committed = some reloaded ∧ Mirrors reloaded ⟨edit.settled runtime.state plan,
        runtime.versions.advance (.ofNat row.mutationSequence)⟩ := by
  obtain ⟨htrip, hzone, hloadedRevision, -, -⟩ := load_fields hload
  obtain ⟨rows, delays, hshape⟩ := hedited.rows
  obtain ⟨hkeptTrip, hkeptZone, -, -⟩ := apply_keeps hstate edit
  have hreload : load committed = some _ := load_of_valid hsettled (by
      rw [hcom, hshape]
      exact (hzone.symm.trans hmirr.zone).trans hkeptZone.symm)
    (by rw [hcom]; exact hedited.activities)
    (by rw [hcom]; exact hedited.delays)
    (by rw [hcom]; exact currentPlan_publishEdit hplanFresh)
    (by rw [hcom]; exact Nat.succ_pos _)
    (by
      rw [hcom]
      change 0 < trip.nextMutationSequence
      exact hrow ▸ row.sequenceFits.1)
  refine ⟨_, hreload, ?_⟩
  subst hcom
  constructor
  case tripId =>
    rw [hshape]
    exact (htrip.symm.trans hmirr.tripId).trans hkeptTrip.symm
  case revision =>
    have hcount := canIncrement_toNat hrev
    exact (congrArg (· + 1) (hloadedRevision.symm.trans hmirr.revision)).trans hcount.symm
  case sequence => exact hrow.symm.trans (ofNat_toNat_of_le row.sequenceFits.2).symm
  case delays => exact hedited.delays
  all_goals rfl

structure CommittedEdit (trip committed : CanonicalTrip) (state : TripState)
    (message : CanonicalEditMessage) (row : CommandRow) (written : CanonicalTrip)
    (resulting : List Activity) (plan : CurrentPlan) : Prop where
  revision : trip.tripRevision < maxInt64
  edited : EditedRows trip written resulting (message.edit.apply state)
  payload : row.event.payload = message.edit.payload plan
  applies : ∀ bytes, (∃ mutated, Applied state row.event bytes mutated) ↔
    message.edit.mirrors state (message.segments.map CurrentPlanSegment.activityId)
  planFresh : ∀ stored ∈ trip.plans, stored.planId ≠ plan.planId
  sequence : row.mutationSequence = trip.nextMutationSequence
  expected : row.expectedTripRevision = trip.tripRevision
  committed_eq : committed = publishEdit trip written plan row
  pending : PendingMirror committed row ⟨trip.tripRevision + 1, plan.planId, .pending⟩

theorem commitEdit_spec (hsame : SameTrip trip state)
    (hcommit : commitEdit trip message maxPendingCanonicalMirror now context =
      .ok (committed, ⟨row, false⟩)) :
    ∃ written resulting plan,
      CommittedEdit trip committed state message row written resulting plan := by
  obtain ⟨drafts, hdrafts, hc⟩ := commitEdit_committed hcommit
  obtain ⟨resulting, hnext, hreplacement⟩ := hc.plan
  obtain ⟨written, hwrote, hcom⟩ := hc.trip_eq
  obtain ⟨hsequenceFits, hrevisionFits, rfl⟩ := hc.row_eq
  have hplan : ReplacementPlan drafts resulting := validateReplacementPlan_ok hreplacement
  have hedited := edit_edits (sameRows_of_sameTrip hsame) hc.validated hnext hwrote
  rw [hsame.activities] at hnext
  have hrev : (editMetadata trip (editRequest message drafts maxPendingCanonicalMirror)
      context).revision ≠ 0 := by
    have hnat := ofNat_toNat_of_le (Nat.succ_le_of_lt hc.revision)
    intro hzero
    change UInt64.ofNat trip.tripRevision.succ = 0 at hzero
    rw [hzero] at hnat
    simp at hnat
  have hpay : (editEvent message (editMetadata trip
      (editRequest message drafts maxPendingCanonicalMirror) context)).payload =
      message.edit.payload (userCurrentPlan (editMetadata trip
        (editRequest message drafts maxPendingCanonicalMirror) context) drafts) :=
    congrArg (fun plan => message.edit.payload plan) (currentPlanProto_eq hdrafts)
  have horder : drafts.map CurrentPlanSegment.activityId =
      message.segments.map CurrentPlanSegment.activityId := by
    rw [planSegments_eq hdrafts, List.map_map]
    apply List.map_congr_left
    rintro ⟨-, state, -, -⟩ _
    cases state <;> rfl
  have happlies := fun bytes => applied_edit_iff hrev hplan hedited bytes hsame.valid
    hc.validated hnext hpay
  simp only [horder] at happlies
  refine ⟨written, resulting, userCurrentPlan (editMetadata trip
    (editRequest message drafts maxPendingCanonicalMirror) context) drafts, hc.revision, hedited,
    hpay, happlies, planId_fresh hc.planFresh, rfl, rfl, hcom, ?_⟩
  constructor
  case stored =>
    rw [hcom]
    exact mirror?_publishEdit hc.fresh (transaction_kind _) rfl
  case kind => exact transaction_kind _
  case payload => exact eventMatches_edit _
  case revision => exact ⟨Nat.succ_pos _, hc.revision⟩
  all_goals rfl

/-- A committed edit of a trip that the rows and the runtime agree on is accepted
by the planner, resolved by the dispatcher and held by both sides afterwards,
exactly when it is an edit that the runtime mirrors and the two counters of its
planning state are not exhausted. -/
theorem commitEdit_mirrors_iff (trip committed : CanonicalTrip) (loaded : CanonicalTripState)
    (runtime : TripRuntime) (message : CanonicalEditMessage) (maxPendingCanonicalMirror : UInt32)
    (now : UnixTimeMilliseconds) (context : CommitContext) (row : CommandRow) (leaseEpoch : UInt64)
    (requestId : RequestId) (currentTime : UnixTimeMilliseconds) (bytes : Nat)
    (hload : load trip = some loaded) (hmirrors : Mirrors loaded runtime)
    (hvalid : runtime.state.isValid) (hnext : NextEdit trip runtime leaseEpoch)
    (hcommit : commitEdit trip message maxPendingCanonicalMirror now context =
      .ok (committed, ⟨row, false⟩)) :
    ((deliver runtime row leaseEpoch currentTime bytes).2.status = .accepted ∧
      dispatch committed row (dispatchRequest requestId trip.tripId row leaseEpoch)
        (some (eventResponse (dispatchRequest requestId trip.tripId row leaseEpoch)
          (deliver runtime row leaseEpoch currentTime bytes).2)) =
        (committed.setMirror row.eventId .synced .accepted, .resolved) ∧
      ∃ reloaded, load committed = some reloaded ∧
        Mirrors reloaded (deliver runtime row leaseEpoch currentTime bytes).1) ↔
    message.edit.mirrors runtime.state (message.segments.map CurrentPlanSegment.activityId) ∧
      canIncrement runtime.versions.snapshot.plannerStateVersion ∧
      canIncrement runtime.versions.snapshot.planningGeneration := by
  have hstate := (TripState.isValid_iff _).mp hvalid
  obtain ⟨-, -, hloadedRevision, -, hacts, hdelays, -⟩ := load_fields hload
  have hsame : SameTrip trip runtime.state :=
    ⟨hstate, hacts ▸ hmirrors.activities, hdelays ▸ hmirrors.delays⟩
  obtain ⟨written, resulting, plan, hedit⟩ := commitEdit_spec hsame hcommit
  have hclass : row.event.payload.eventClass = some .canonicalFirstDurableMirror := by
    rw [hedit.payload]
    cases message.edit <;> rfl
  obtain ⟨henv, hexp⟩ := expects_edit hload hmirrors hnext hedit.sequence hedit.expected
    (by rw [hedit.payload]; cases message.edit <;> rfl)
  have hrevisionNat : runtime.versions.snapshot.tripRevision.toNat = trip.tripRevision := by
    rw [← hmirrors.revision, hloadedRevision]
  have hrevisionRoom : canIncrement runtime.versions.snapshot.tripRevision :=
    canIncrement_of_lt (hrevisionNat ▸ hedit.revision)
  have hroomIff : runtime.versions.hasRoom ↔
      canIncrement runtime.versions.snapshot.plannerStateVersion ∧
        canIncrement runtime.versions.snapshot.planningGeneration := by
    simp [TripRuntimeVersions.hasRoom, hrevisionRoom]
  rw [← hedit.applies bytes, ← hroomIff]
  have hcases := coordinateEventAdmission_mirror currentTime bytes hclass henv hexp
  change (_ ∧ ∃ mutated, _ ∧ deliver runtime row leaseEpoch currentTime bytes = _) ∨
    (_ ∧ deliver runtime row leaseEpoch currentTime bytes = _) at hcases
  rcases hcases with ⟨hroom, mutated, hmut, hdel⟩ | ⟨href, hdel⟩
  · refine iff_of_true ?_ ⟨⟨mutated, hmut⟩, hroom⟩
    obtain ⟨other, hmutation, hsettle⟩ := mutateTrip_edit runtime.state hedit.payload
    obtain rfl := Option.some.inj (hmut.mutation.symm.trans hmutation)
    rw [hdel]
    refine ⟨rfl, ?_, ?_⟩
    · apply dispatch_accepted_mirror requestId trip.tripId hedit.pending rfl hnext.epoch.symm
      · exact ofNat_toNat_of_le row.sequenceFits.2
      · exact (canIncrement_toNat hrevisionRoom).trans (congrArg (· + 1) hrevisionNat)
      · exact congrArg (fun state => some state.currentPlan.planId) hsettle
    · have hsettled : (settle row.event mutated).Valid :=
        (TripState.isValid_iff _).mp hmut.settledValid
      rw [hsettle] at hsettled
      change ∃ reloaded, _ ∧ Mirrors reloaded ⟨settle row.event mutated, _⟩
      rw [hsettle]
      exact committed_mirrors hload hmirrors hstate hedit.edited hsettled hedit.planFresh
        hedit.sequence hrevisionRoom hedit.committed_eq
  · refine iff_of_false ?_ ?_
    · rw [hdel]
      rintro ⟨hacc, -⟩
      cases hacc
    · rintro ⟨⟨mutated, hmut⟩, hroom⟩
      rcases href with hexhausted | hunapplied
      · rw [hroom] at hexhausted
        cases hexhausted
      · exact hunapplied mutated hmut

def startedVisit : Activity := { museumVisit with activityState := .started }

def laterVisit : Activity := { museumVisit with activityId := ⟨2⟩ }

def omittedSegments (order : List ActivityId) : List CurrentPlanSegment :=
  order.map fun activityId => ⟨activityId, .omitted, none, none⟩

def startedPlan : CurrentPlan := ⟨⟨7⟩, 1, .userAuthored, omittedSegments [⟨1⟩, ⟨2⟩], 0, none⟩

def startedState : TripState :=
  ⟨⟨9⟩, "UTC", [startedVisit, laterVisit], 0, some ⟨1⟩, startedPlan, [], .empty, none⟩

def startedRuntime : TripRuntime := ⟨startedState, museumRuntime.versions⟩

def startedTrip : CanonicalTrip where
  tripId := ⟨9⟩
  ownerUserId := ⟨8⟩
  defaultTimeZoneName := "UTC"
  tripRevision := 1
  nextMutationSequence := 2
  finalizedMutationSequence := 1
  currentPlanId := ⟨7⟩
  activities := [⟨startedVisit, by decide⟩, ⟨laterVisit, by decide⟩]
  travelDelays := []
  plans := [startedPlan]
  proposals := []
  commands := []

def startedLoaded : CanonicalTripState :=
  ⟨⟨9⟩, "UTC", 1, 1, 0, some ⟨1⟩, [startedVisit, laterVisit], [], startedPlan⟩

theorem startedLoaded_mirrors : Mirrors startedLoaded startedRuntime :=
  ⟨rfl, rfl, rfl, rfl, rfl, rfl, List.Perm.nil, rfl, rfl⟩

theorem startedTrip_next : NextEdit startedTrip startedRuntime 1 := ⟨rfl, rfl, rfl⟩

def editMessage (edit : CanonicalEdit) (order : List ActivityId) : CanonicalEditMessage :=
  ⟨⟨5⟩, ⟨8⟩, 1, none, edit, ⟨6⟩, omittedSegments order, ⟨0⟩⟩

def editContext : CommitContext := ⟨1, [], []⟩

def editRow (message : CanonicalEditMessage) : CommandRow :=
  mirrorRow message.edit.transaction.kind startedTrip (editRequest message message.segments 4)
    ⟨⟨6⟩, 2, 1⟩ (by decide) (by decide)

def editedTrip (message : CanonicalEditMessage) (activities : List ActivityRow) : CanonicalTrip :=
  publishEdit startedTrip { startedTrip with activities := activities }
    (userCurrentPlan ⟨⟨6⟩, 2, 1⟩ message.segments) (editRow message)

def removeLater : CanonicalEditMessage := editMessage (.trip (.removeActivity ⟨2⟩)) [⟨1⟩]

theorem commitEdit_mirrors_removal : commitEdit startedTrip removeLater 4 0 editContext =
        .ok (editedTrip removeLater (startedTrip.activities.take 1), ⟨editRow removeLater, false⟩) ∧
      (deliver startedRuntime (editRow removeLater) 1 1 0).2.status = .accepted := by
  have hcommit : commitEdit startedTrip removeLater 4 0 editContext =
      .ok (editedTrip removeLater (startedTrip.activities.take 1),
        ⟨editRow removeLater, false⟩) := by decide +kernel
  exact ⟨hcommit,
    ((commitEdit_mirrors_iff startedTrip _ startedLoaded startedRuntime removeLater 4 0
    editContext _ 1 ⟨3⟩ 1 0 (by decide +kernel) startedLoaded_mirrors (by decide +kernel)
    startedTrip_next hcommit).mpr (by decide +kernel)).1⟩

def postponeStarted : CanonicalEditMessage := editMessage .currentPlan [⟨2⟩, ⟨1⟩]

/-- The backend commits the plan. The planner refuses the event, its mirror is
paused, and the backend can no longer load the trip. -/
theorem commitEdit_postpones_started :
    load startedTrip = some startedLoaded ∧ Mirrors startedLoaded startedRuntime ∧
      startedRuntime.state.isValid ∧ NextEdit startedTrip startedRuntime 1 ∧
      commitEdit startedTrip postponeStarted 4 0 editContext =
        .ok (editedTrip postponeStarted startedTrip.activities, ⟨editRow postponeStarted, false⟩) ∧
      (deliver startedRuntime (editRow postponeStarted) 1 1 0).2.status = .invalidArgument ∧
      (dispatch (editedTrip postponeStarted startedTrip.activities) (editRow postponeStarted)
        (dispatchRequest ⟨3⟩ ⟨9⟩ (editRow postponeStarted) 1)
        (some (eventResponse (dispatchRequest ⟨3⟩ ⟨9⟩ (editRow postponeStarted) 1)
          (deliver startedRuntime (editRow postponeStarted) 1 1 0).2))).2 = .paused ∧
      load (editedTrip postponeStarted startedTrip.activities) = none :=
  ⟨by decide +kernel, startedLoaded_mirrors, by decide +kernel, startedTrip_next,
    by decide +kernel, by decide +kernel, by decide +kernel, by decide +kernel⟩

end LiveRoute.Gateway
