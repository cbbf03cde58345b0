import LiveRoute.Dispatch.Dispatcher
import LiveRoute.Persistence.FinalizationFacts
import LiveRoute.Persistence.LoadFacts
import LiveRoute.Runtime.CoordinatorFacts

/-! Finalization against the runtime. Six of the seven mutation kinds rewrite
one activity and the seventh one travel delay; the rows follow the runtime as
long as the values fit the columns. -/
namespace LiveRoute.Dispatch
open Domain LiveRoute.Runtime Persistence Sequence

variable {event : TripEvent} {mutation : AcceptedMutation} {state : TripState}
  {activityId : ActivityId} {update : Activity → Activity} {trip : CanonicalTrip} {bytes : Nat}

/-- The loaded rows and the runtime hold the same trip, with the travel delays
compared as a map from legs. -/
structure Mirrors (loaded : CanonicalTripState) (runtime : TripRuntime) : Prop where
  tripId : loaded.tripId = runtime.state.tripId
  zone : loaded.defaultTimeZoneName = runtime.state.defaultTimeZoneName
  activities : loaded.activities = runtime.state.activities
  completed : loaded.completedPrefixCount = runtime.state.completedPrefixCount
  current : loaded.currentActivityId = runtime.state.currentActivityId
  plan : loaded.currentPlan = runtime.state.currentPlan
  delays : loaded.travelDelays.Perm runtime.state.travelDelays
  revision : loaded.tripRevision = runtime.versions.snapshot.tripRevision.toNat
  sequence : loaded.finalizedMutationSequence =
    runtime.versions.snapshot.acceptedMutationSequence.toNat

def fitsColumns : AcceptedMutation → Bool
  | .activityStatus .. => true
  | .activityDelay _ delaySeconds => fitsInteger delaySeconds
  | .reservation _ reservationStart graceSeconds =>
    reservationStart.all fitsTimestamp && fitsInteger graceSeconds
  | .mandatoryDeadline _ latestFinish => fitsTimestamp latestFinish
  | .operatingHours _ windows => windows.all windowFits
  | .placeFoundClosed _ observedAt => fitsTimestamp observedAt
  | .travelDelay _ _ additionalSeconds observedAt =>
    fitsInteger additionalSeconds && fitsTimestamp observedAt

def activityUpdate : TripEventPayload → Option (ActivityId × (Activity → Activity))
  | .activityStatusChanged activityId state =>
    some (activityId, fun activity => { activity with activityState := state })
  | .activityDelayed activityId delaySeconds =>
    some (activityId, fun activity => { activity with activityDelaySeconds := delaySeconds })
  | .reservationChanged activityId reservationStart graceSeconds =>
    some (activityId, fun activity => { activity with timing := { activity.timing with
      reservationStart := reservationStart, reservationGraceSeconds := graceSeconds } })
  | .mandatoryDeadlineChanged activityId latestFinish =>
    some (activityId, fun activity =>
      { activity with timing := { activity.timing with mandatoryDeadline := some latestFinish } })
  | .operatingHoursChanged activityId windows =>
    some (activityId, fun activity =>
      { activity with timing := { activity.timing with openWindows := windows } })
  | .placeFoundClosed activityId observedAt =>
    some (activityId, fun activity => { activity with foundClosedAt := some observedAt })
  | _ => none

section
variable (h : acceptedMutation event = some mutation)
include h

theorem acceptedMutation_cases :
    (∃ activityId update, activityUpdate event.payload = some (activityId, update)) ∨
      ∃ fromId toId seconds, event.payload = .travelDelay fromId toId seconds ∧
        mutation = .travelDelay fromId toId seconds event.occurredAt := by
  obtain ⟨eventId, occurredAt, expiresAt, payload⟩ := event
  cases payload
  case travelDelay fromId toId seconds =>
    cases h
    exact .inr ⟨fromId, toId, seconds, rfl, rfl⟩
  all_goals first | cases h; exact .inl ⟨_, _, rfl⟩ | cases h

theorem isRuntimeFirst_of_acceptedMutation : event.payload.isRuntimeFirst := by
  obtain ⟨eventId, occurredAt, expiresAt, payload⟩ := event
  cases payload <;> first | rfl | cases h

theorem kind_of_acceptedMutation
    (hkind : eventMatchesCommand kind event.payload) : kind = mutation.kind := by
  obtain ⟨eventId, occurredAt, expiresAt, payload⟩ := event
  cases payload <;> cases h <;> cases kind <;> first | rfl | cases hkind

theorem applyAcceptedMutation_eq (hupd : activityUpdate event.payload = some (activityId, update)) :
    applyAcceptedMutation trip mutation = updateActivityStatement trip activityId update := by
  obtain ⟨eventId, occurredAt, expiresAt, payload⟩ := event
  cases payload <;> cases h <;> cases hupd <;> rfl

end

theorem containsActivity_of_update (hupd : activityUpdate event.payload = some (activityId, update))
    (hvalid : event.isValidFor activities bytes) : containsActivity activities activityId := by
  obtain ⟨eventId, occurredAt, expiresAt, payload⟩ := event
  cases payload <;> cases hupd <;> simp_all [TripEvent.isValidFor]

theorem mutateTrip_of_update (hupd : activityUpdate event.payload = some (activityId, update))
    (h : mutateTrip state event = some mutated) :
    mutated.tripId = state.tripId ∧ mutated.defaultTimeZoneName = state.defaultTimeZoneName ∧
      mutated.activities = updateActivity activityId update state.activities ∧
      mutated.travelDelays = state.travelDelays ∧ mutated.currentPlan = state.currentPlan := by
  obtain ⟨eventId, occurredAt, expiresAt, payload⟩ := event
  cases payload
  case activityStatusChanged changedId target =>
    cases hupd
    simp only [mutateTrip, applyActivityStatusChange] at h
    split at h
    · cases target <;> simp only at h <;> split at h <;> cases h <;> exact ⟨rfl, rfl, rfl, rfl, rfl⟩
    · cases h
  all_goals cases hupd
  all_goals
    cases h
    exact ⟨rfl, rfl, rfl, rfl, rfl⟩

theorem fitsColumns_iff (h : acceptedMutation event = some mutation)
    (hupd : activityUpdate event.payload = some (activityId, update)) (row : ActivityRow) :
    activityFits (update row.activity) ↔ fitsColumns mutation := by
  have hfits := row.fits
  obtain ⟨eventId, occurredAt, expiresAt, payload⟩ := event
  cases payload <;> cases h <;> cases hupd <;>
    simp_all [activityFits, fitsColumns]

theorem valuesInRange_of_fits (h : acceptedMutation event = some mutation)
    (hvalid : event.isValidFor activities bytes) (hfits : fitsColumns mutation) :
    mutation.valuesInRange := by
  obtain ⟨eventId, occurredAt, expiresAt, payload⟩ := event
  cases payload <;> cases h <;>
    simp_all [fitsColumns, AcceptedMutation.valuesInRange, TripEvent.isValidFor]

structure SameTrip (trip : CanonicalTrip) (state : TripState) : Prop where
  valid : state.Valid
  activities : trip.activities.map ActivityRow.activity = state.activities
  delays : (trip.travelDelays.map TravelDelayRow.delay).Perm state.travelDelays

theorem delayKeys_nodup (h : state.Valid) :
    (state.travelDelays.map TravelDelayState.key).Nodup := by
  have hdelays := h.delays
  unfold travelDelaysAreValid at hdelays
  simp only [Bool.and_eq_true, decide_eq_true_eq] at hdelays
  exact hdelays.2

theorem applyAcceptedMutation_ok_iff (hsame : SameTrip trip state)
    (h : acceptedMutation event = some mutation)
    (hvalid : event.isValidFor state.activities bytes) :
    (∃ mutated, applyAcceptedMutation trip mutation = .ok mutated) ↔ fitsColumns mutation := by
  rcases acceptedMutation_cases h with ⟨activityId, update, hupd⟩ |
    ⟨fromId, toId, seconds, hpay, rfl⟩
  · have hmem := containsActivity_of_update hupd hvalid
    rw [← hsame.activities] at hmem
    have haff := affectedRows_eq_one (hsame.activities ▸ hsame.valid.distinct) hmem
    rw [applyAcceptedMutation_eq h hupd, updateActivityStatement_ok_iff, and_iff_right haff]
    constructor
    · intro hall
      -- The event names a stored activity, whose update witnesses the fit.
      obtain ⟨row, hrow, hid⟩ := exists_of_affectedRows haff
      exact (fitsColumns_iff h hupd row).mp (hall row hrow hid)
    · intro hfits row _ _
      exact (fitsColumns_iff h hupd row).mpr hfits
  · have hlegs : containsActivity state.activities fromId ∧
        containsActivity state.activities toId := by
      simp only [TripEvent.isValidFor, hpay, Bool.and_eq_true] at hvalid
      exact hvalid.2
    change _ ↔ delayFits ⟨fromId, toId, seconds, event.occurredAt⟩
    simp only [applyAcceptedMutation, upsertDelayStatement, hsame.activities, hlegs, Bool.and_self,
      if_true]
    split
    next hfits => simp [hfits]
    next hfits => simp [hfits]

theorem applyAcceptedMutation_ok
    (hsame : SameTrip trip state) (h : acceptedMutation event = some mutation)
    (hnext : mutateTrip state event = some next)
    (hok : applyAcceptedMutation trip mutation = .ok mutated) :
    (∃ rows delays, mutated = { trip with activities := rows, travelDelays := delays }) ∧
      mutated.activities.map ActivityRow.activity = next.activities ∧
      (mutated.travelDelays.map TravelDelayRow.delay).Perm next.travelDelays ∧
      next.tripId = state.tripId ∧ next.defaultTimeZoneName = state.defaultTimeZoneName ∧
      next.currentPlan = state.currentPlan := by
  rcases acceptedMutation_cases h with ⟨activityId, update, hupd⟩ |
    ⟨fromId, toId, seconds, hpay, rfl⟩
  · rw [applyAcceptedMutation_eq h hupd] at hok
    obtain ⟨rows, rfl, hrows⟩ := updateActivityStatement_ok
      (hsame.activities ▸ hsame.valid.distinct) hok
    obtain ⟨htrip, hzone, hacts, hdelays, hplan⟩ := mutateTrip_of_update hupd hnext
    refine ⟨⟨rows, trip.travelDelays, rfl⟩, ?_, ?_, htrip, hzone, hplan⟩
    · rw [hrows, hsame.activities, hacts]
    · rw [hdelays]; exact hsame.delays
  · simp only [mutateTrip, hpay, Option.some.injEq] at hnext
    subst hnext
    simp only [applyAcceptedMutation, upsertDelayStatement] at hok
    split at hok
    next hfits =>
      split at hok
      · cases hok
        refine ⟨⟨trip.activities, _, rfl⟩, hsame.activities, ?_, rfl, rfl, rfl⟩
        rw [upsertDelayRow_delays]
        exact upsertTravelDelay_congr hsame.delays (delayKeys_nodup hsame.valid)
      · cases hok
    · cases hok

theorem load_acceptCommand {mutated : CanonicalTrip} {row : CommandRow} {outcome : ResolvedOutcome}
    (hstate : state.Valid) (hzone : mutated.defaultTimeZoneName = state.defaultTimeZoneName)
    (hacts : mutated.activities.map ActivityRow.activity = state.activities)
    (hdelays : (mutated.travelDelays.map TravelDelayRow.delay).Perm state.travelDelays)
    (hplan : mutated.currentPlan = some state.currentPlan) :
    load (trip.acceptCommand mutated row outcome) = some
      { tripId := mutated.tripId, defaultTimeZoneName := state.defaultTimeZoneName
        tripRevision := trip.tripRevision + 1, finalizedMutationSequence := row.mutationSequence
        completedPrefixCount := state.completedPrefixCount
        currentActivityId := state.currentActivityId, activities := state.activities
        travelDelays := mutated.travelDelays.map TravelDelayRow.delay
        currentPlan := state.currentPlan } :=
  load_of_valid hstate hzone hacts hdelays hplan (Nat.succ_pos _) row.sequenceFits.1

theorem ofNat_toNat_of_le {value : Nat} (h : value ≤ maxInt64) :
    (UInt64.ofNat value).toNat = value := by
  rw [UInt64.toNat_ofNat']
  unfold maxInt64 at h
  omega

theorem awaits_of_expects {row : CommandRow} (hload : load trip = some loaded)
    (hmirr : Mirrors loaded runtime)
    (hstored : trip.command? row.eventId = some row) (hpend : row.intentState = .pending)
    (hexp : runtime.versions.Expects (admissionRequest row leaseEpoch)) :
    trip.Awaits row := by
  obtain ⟨-, -, hrev, hfin, -⟩ := load_fields hload
  have hexpected : UInt64.ofNat row.expectedTripRevision = runtime.versions.snapshot.tripRevision :=
    hexp.revision
  have hseq : (UInt64.ofNat row.mutationSequence).toNat =
      runtime.versions.snapshot.acceptedMutationSequence.toNat + 1 := hexp.sequence
  rw [ofNat_toNat_of_le row.sequenceFits.2] at hseq
  refine ⟨hstored, hpend, ?_, ?_⟩
  · rw [← hrev, hmirr.revision, ← hexpected, ofNat_toNat_of_le row.revisionFits]
  · rw [hseq, ← hfin, hmirr.sequence]

theorem acceptedMutationRequest_isValid_iff (row : CommandRow) (plannerStateVersion : UInt64)
    (mutation : AcceptedMutation) :
    (acceptedMutationRequest row plannerStateVersion mutation).isValid ↔
      row.expectedTripRevision < maxInt64 ∧ plannerStateVersion.toNat ≤ maxInt64 ∧
        mutation.valuesInRange := by
  simp only [FinalizeAcceptedMutationRequest.isValid, Bool.and_eq_true, decide_eq_true_eq]
  simp only [acceptedMutationRequest, row.sequenceFits, true_and, and_assoc]

/-- An accepted runtime-first mutation is finalized, and the rows load as the
new runtime state, exactly when its values and versions fit their columns. -/
theorem finalizeAcceptedMutation_simulates (trip : CanonicalTrip) (loaded : CanonicalTripState)
    (runtime : TripRuntime) (row : CommandRow) (mutation : AcceptedMutation) (leaseEpoch : UInt64)
    (currentTime : UnixTimeMilliseconds) (bytes : Nat)
    (hload : load trip = some loaded) (hmirrors : Mirrors loaded runtime)
    (hstored : trip.command? row.eventId = some row) (hpending : row.intentState = .pending)
    (hevent : storedEventIsValid row)
    (hmutation : acceptedMutation row.event = some mutation)
    (haccepted : (deliver runtime row leaseEpoch currentTime bytes).2.status = .accepted) :
    (∃ finalized reloaded, finalizeAcceptedMutation trip (acceptedMutationRequest row
        (deliver runtime row leaseEpoch currentTime bytes).2.versionSnapshot.plannerStateVersion
        mutation) = .ok finalized ∧
      load finalized = some reloaded ∧
      Mirrors reloaded (deliver runtime row leaseEpoch currentTime bytes).1) ↔
    fitsColumns mutation ∧ row.expectedTripRevision < maxInt64 ∧
      (deliver runtime row leaseEpoch currentTime bytes).2.versionSnapshot.plannerStateVersion.toNat
        ≤ maxInt64 := by
  have hfirst := isRuntimeFirst_of_acceptedMutation hmutation
  have hcases : Admission runtime (admissionRequest row leaseEpoch) currentTime bytes
      (deliver runtime row leaseEpoch currentTime bytes).1
      (deliver runtime row leaseEpoch currentTime bytes).2 :=
    coordinateEventAdmission_cases runtime _ currentTime bytes hfirst
  generalize (deliver runtime row leaseEpoch currentTime bytes).2 = result at hcases haccepted ⊢
  obtain ⟨hexp, hroom, next, happ, hadm, -⟩ := hcases.of_accepted haccepted
  rw [hadm]
  have hawaits := awaits_of_expects hload hmirrors hstored hpending hexp
  obtain ⟨htrip, hzone, hrev, -, hacts, hdelays, hplan⟩ := load_fields hload
  have hsame : SameTrip trip runtime.state :=
    ⟨(TripState.isValid_iff _).mp happ.valid, hacts ▸ hmirrors.activities,
      hdelays ▸ hmirrors.delays⟩
  have hkind : row.kind = mutation.kind := by
    simp only [storedEventIsValid, Bool.and_eq_true] at hevent
    exact kind_of_acceptedMutation hmutation hevent.1.2
  have hfin := finalizeAcceptedMutation_awaited (acceptedMutationRequest row
    result.versionSnapshot.plannerStateVersion mutation) hawaits rfl rfl rfl hkind
  have hfits := applyAcceptedMutation_ok_iff hsame hmutation happ.eventValid
  constructor
  · rintro ⟨finalized, -, hok, -⟩
    obtain ⟨hvalid, mutated, hmut, -⟩ := (hfin finalized).mp hok
    obtain ⟨hbound, hver, -⟩ := (acceptedMutationRequest_isValid_iff _ _ _).mp hvalid
    exact ⟨hfits.mp ⟨mutated, hmut⟩, hbound, hver⟩
  · rintro ⟨hcols, hbound, hver⟩
    have hvalid := (acceptedMutationRequest_isValid_iff row _ mutation).mpr ⟨hbound, hver,
      valuesInRange_of_fits hmutation happ.eventValid hcols⟩
    obtain ⟨mutated, hmut⟩ := hfits.mpr hcols
    obtain ⟨⟨rows, delays, hshape⟩, hnewActivities, hnewDelays, hnewTrip, hnewZone, hnewPlan⟩ :=
      applyAcceptedMutation_ok hsame hmutation happ.mutation hmut
    have hsettled : settle row.event next = { next with activeProposal := none } :=
      if_pos (planningInputChanged_of_runtimeFirst hfirst)
    have hstate : (TripState.Valid { next with activeProposal := none }) :=
      (TripState.isValid_iff _).mp (hsettled ▸ happ.settledValid)
    refine ⟨_, _, (hfin _).mpr ⟨hvalid, mutated, hmut, rfl⟩,
      load_acceptCommand hstate ?_ hnewActivities hnewDelays ?_, ?_⟩
    · rw [hshape]
      exact (hzone.symm.trans hmirrors.zone).trans hnewZone.symm
    · rw [hshape]
      change trip.currentPlan = some next.currentPlan
      rw [hplan, hmirrors.plan, hnewPlan]
    · have hcount : (runtime.versions.snapshot.tripRevision + 1).toNat =
          runtime.versions.snapshot.tripRevision.toNat + 1 := by
        apply canIncrement_toNat
        simp only [TripRuntimeVersions.hasRoom, Bool.and_eq_true] at hroom
        exact hroom.2
      constructor
      case tripId =>
        rw [hshape]
        exact (htrip.symm.trans hmirrors.tripId).trans (hsettled ▸ hnewTrip.symm)
      case revision => exact
        (congrArg (· + 1) (hrev.symm.trans hmirrors.revision)).trans hcount.symm
      case sequence => exact (ofNat_toNat_of_le row.sequenceFits.2).symm
      all_goals simp only [admissionRequest, hsettled, hnewDelays]

def museumVisit : Activity where
  activityId := ⟨1⟩
  placeId := "museum"
  displayName := "visit"
  location := ⟨some 1, some 1⟩
  timeZoneName := "UTC"
  inboundTravelMode := .walking
  activityClass := .flexible
  activityState := .planned
  priorityRank := 1
  utilityScore := 5
  timing := {
    openWindows := []
    reservationStart := none
    reservationGraceSeconds := 0
    minDurationSeconds := 1800
    preferredDurationSeconds := 3600
    maxDurationSeconds := 7200
    mandatory := false
    canShorten := false
    canMove := true
    canSkip := true
    mandatoryDeadline := none }
  activityDelaySeconds := 0
  foundClosedAt := none

def museumPlan : CurrentPlan := ⟨⟨7⟩, 1, .userAuthored, [⟨⟨1⟩, .omitted, none, none⟩], 0, none⟩

def museumState : TripState := ⟨⟨9⟩, "UTC", [museumVisit], 0, none, museumPlan, [], .empty, none⟩

def museumRuntime : TripRuntime := ⟨museumState, ⟨true, ⟨1, 1, 0, 0, 1, 1, 0⟩⟩⟩

def awaitedCommand (kind : CommandKind) (payload : TripEventPayload) : CommandRow where
  eventId := ⟨5⟩
  mutationSequence := 2
  expectedTripRevision := 1
  kind := kind
  payloadDigest := ⟨0⟩
  event := ⟨⟨5⟩, 1, none, payload⟩
  plannedCurrentPlan := none
  intentState := .pending
  outcome := none
  mirror := none
  deliveryState := .pending
  sequenceFits := by decide
  revisionFits := by decide

def delayCommand (delaySeconds : UInt32) : CommandRow :=
  awaitedCommand .activityDelayed (.activityDelayed ⟨1⟩ delaySeconds)

def museumTrip (row : CommandRow) : CanonicalTrip where
  tripId := ⟨9⟩
  ownerUserId := ⟨8⟩
  defaultTimeZoneName := "UTC"
  tripRevision := 1
  nextMutationSequence := 3
  finalizedMutationSequence := 1
  currentPlanId := ⟨7⟩
  activities := [⟨museumVisit, by decide⟩]
  travelDelays := []
  plans := [museumPlan]
  proposals := []
  commands := [row]

def museumLoaded : CanonicalTripState := ⟨⟨9⟩, "UTC", 1, 1, 0, none, [museumVisit], [], museumPlan⟩

theorem museumLoaded_mirrors : Mirrors museumLoaded museumRuntime :=
  ⟨rfl, rfl, rfl, rfl, rfl, rfl, List.Perm.nil, rfl, rfl⟩

def deliverDelay (delaySeconds : UInt32) : TripRuntime × EventCoordinatorResult :=
  deliver museumRuntime (delayCommand delaySeconds) 1 1 0

/-- A delay of half an hour is stored; the rows follow the runtime. -/
theorem finalizeAcceptedMutation_simulates_halfHour :
    fitsColumns (.activityDelay ⟨1⟩ 1800) ∧ ∃ finalized reloaded,
      finalizeAcceptedMutation (museumTrip (delayCommand 1800))
        (acceptedMutationRequest (delayCommand 1800)
          (deliverDelay 1800).2.versionSnapshot.plannerStateVersion (.activityDelay ⟨1⟩ 1800)) =
          .ok finalized ∧
      load finalized = some reloaded ∧ Mirrors reloaded (deliverDelay 1800).1 :=
  ⟨by decide, (finalizeAcceptedMutation_simulates (museumTrip (delayCommand 1800)) museumLoaded
    museumRuntime (delayCommand 1800) (.activityDelay ⟨1⟩ 1800) 1 1 0 (by decide +kernel)
    museumLoaded_mirrors (by decide +kernel) rfl (by decide) rfl (by decide +kernel)).mpr
    (by decide +kernel)⟩

/-- A delay of 2^31 seconds is accepted by the coordinator and refused by the
store. -/
theorem finalizeAcceptedMutation_longDelay :
    load (museumTrip (delayCommand 2147483648)) = some museumLoaded ∧
      Mirrors museumLoaded museumRuntime ∧
      (museumTrip (delayCommand 2147483648)).command? ⟨5⟩ = some (delayCommand 2147483648) ∧
      storedEventIsValid (delayCommand 2147483648) ∧
      acceptedMutation (delayCommand 2147483648).event = some (.activityDelay ⟨1⟩ 2147483648) ∧
      (deliverDelay 2147483648).2.status = .accepted ∧
      finalizeAcceptedMutation (museumTrip (delayCommand 2147483648))
        (acceptedMutationRequest (delayCommand 2147483648)
          (deliverDelay 2147483648).2.versionSnapshot.plannerStateVersion
          (.activityDelay ⟨1⟩ 2147483648)) = .error .invalidRequest :=
  ⟨by decide +kernel, museumLoaded_mirrors, by decide +kernel, by decide, rfl, by decide +kernel,
    by decide +kernel⟩

end LiveRoute.Dispatch
