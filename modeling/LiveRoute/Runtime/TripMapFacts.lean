import LiveRoute.Runtime.VersionTurns

/-! Which requests change what the planner holds. Events, confirmations and
finished planning keep every trip under its epoch; a bootstrap adds a trip or
raises its epoch, and is refused at or below the epoch that is held. -/
namespace LiveRoute.Runtime
open Domain

structure SameTenure (before after : TripRuntimeVersions) : Prop where
  active : after.active = before.active
  epoch : after.snapshot.runtimeEpoch = before.snapshot.runtimeEpoch

theorem SameTenure.refl (versions : TripRuntimeVersions) : SameTenure versions versions :=
  ⟨rfl, rfl⟩

theorem commitEvent_sameTenure (versions : TripRuntimeVersions) (eventClass : TripEventClass)
    (request : EventAdmissionRequest) (planningInputChanged : Bool) :
    SameTenure versions (commitEvent versions eventClass request planningInputChanged).1 := by
  unfold commitEvent TripRuntimeVersions.acceptDurable TripRuntimeVersions.acceptAdvisory
    TripRuntimeVersions.acceptObservation
  repeat' split
  all_goals exact ⟨rfl, rfl⟩

theorem consumeTerminal_sameTenure (runtime : TripRuntime) :
    SameTenure runtime.versions (consumeTerminal runtime request status).1.versions := by
  have hdone : SameTenure runtime.versions (runtime.versions.resolveTerminalDurable
      request.runtimeEpoch request.mutationSequence request.expectedTripRevision
      request.expectedPlannerStateVersion).1 := by
    unfold TripRuntimeVersions.resolveTerminalDurable
    split <;> exact ⟨rfl, rfl⟩
  unfold consumeTerminal
  split
  next versions heq => rw [heq] at hdone; exact hdone
  next versions status heq => rw [heq] at hdone; exact hdone

theorem coordinateEventAdmission_sameTenure (runtime : TripRuntime) : SameTenure runtime.versions
      (coordinateEventAdmission runtime request currentTime bytes).1.versions := by
  unfold coordinateEventAdmission
  split
  · exact .refl _
  rename_i eventClass _
  split
  · exact .refl _
  split
  · split
    · exact consumeTerminal_sameTenure runtime
    · unfold applyAdmitted
      split
      next changed _ _ =>
        have hcom := commitEvent_sameTenure runtime.versions eventClass request changed
        split
        next versions heq => rw [heq] at hcom; exact hcom
        next versions status _ heq => rw [heq] at hcom; exact hcom
      · split
        · exact consumeTerminal_sameTenure runtime
        · exact .refl _
  · exact .refl _

theorem confirmFinalized_sameTenure (sequence : UInt64) :
    SameTenure versions (versions.confirmFinalized runtimeEpoch sequence).1 := by
  fun_cases TripRuntimeVersions.confirmFinalized versions runtimeEpoch sequence
  all_goals exact ⟨rfl, rfl⟩

theorem commitPlanningResult_versions :
    (commitPlanningResult runtime token stored).versions = runtime.versions := by
  unfold commitPlanningResult
  split
  · rfl
  · split <;> rfl

theorem previewEvent_ne_inactive {versions : TripRuntimeVersions} (hactive : versions.active) :
    previewEvent versions eventClass request ≠ .inactive := by
  grind [previewEvent, TripRuntimeVersions.previewDurable, TripRuntimeVersions.previewAdvisory,
    TripRuntimeVersions.previewObservation, TripRuntimeVersions.compareDurable,
    TripRuntimeVersions.validateEpoch]

theorem coordinateEventAdmission_ne_inactive {runtime : TripRuntime}
    (hactive : runtime.versions.active) :
    (coordinateEventAdmission runtime request currentTime bytes).2.status ≠ .inactive := by
  have hconsume : ∀ {status}, status ≠ .inactive →
      (consumeTerminal runtime request status).2.status ≠ .inactive := by
    intro status hstatus
    unfold consumeTerminal
    split <;> simp [makeResult, hstatus]
  have hfailure : ∀ {status}, applyFailureStatus status ≠ .inactive := by
    intro status
    cases status <;> simp [applyFailureStatus]
  unfold coordinateEventAdmission
  split
  · simp [makeResult]
  rename_i eventClass _
  split
  · simp [makeResult]
  split
  · split
    · exact hconsume (by simp)
    · unfold applyAdmitted
      split
      · split <;> simp [makeResult]
      · split
        · exact hconsume hfailure
        · exact hfailure
  · have hrefused := @previewEvent_ne_inactive eventClass request _ hactive
    cases hpreview : previewEvent runtime.versions eventClass request <;>
      simp_all [makeResult, mapVersionStatus]

theorem confirmFinalized_ne_inactive {versions : TripRuntimeVersions} (hactive : versions.active)
    (sequence : UInt64) :
    mapControlStatus (versions.confirmFinalized runtimeEpoch sequence).2 ≠ .inactive := by
  grind [TripRuntimeVersions.confirmFinalized, TripRuntimeVersions.validateEpoch, mapControlStatus]

theorem bootstrap_running_iff {versions : TripRuntimeVersions} (hactive : versions.active) :
    (versions.bootstrap runtimeEpoch tripRevision finalized observation).2 = .accepted ↔
      runtimeEpoch ≠ 0 ∧ tripRevision ≠ 0 ∧ versions.snapshot.runtimeEpoch < runtimeEpoch := by
  fun_cases TripRuntimeVersions.bootstrap versions runtimeEpoch tripRevision finalized observation
  all_goals grind

namespace TripMap

theorem find_put_self (map : TripMap) : (map.put tripId trip).find tripId = some trip :=
  AList.lookup_insert _

theorem find_put_ne (map : TripMap)
    (h : other ≠ tripId) : (map.put tripId trip).find other = map.find other :=
  AList.lookup_insert_ne h

theorem length_put {map : TripMap} (hheld : map.find tripId = some held) :
    (map.put tripId trip).trips.keys.length = map.trips.keys.length := by
  have hmem : tripId ∈ map.trips.keys := by
    rw [← AList.mem_keys, ← AList.lookup_isSome]
    change (map.find tripId).isSome
    rw [hheld]
    rfl
  have hpos : 0 < map.trips.keys.length := List.length_pos_of_mem hmem
  change (map.trips.insert tripId trip).keys.length = map.trips.keys.length
  rw [AList.keys_insert, List.length_cons, List.length_erase_of_mem hmem]
  omega

structure Sound (map : TripMap) : Prop where
  count : map.activeTripCount = map.trips.keys.length
  running : ∀ tripId trip, map.find tripId = some trip → trip.runtime.versions.active ∧
    trip.runtime.versions.snapshot.runtimeEpoch ≠ 0 ∧ trip.deactivationPending = false

theorem sound_empty (maxActiveTrips : Nat) : (TripMap.empty maxActiveTrips).Sound := by
  refine ⟨rfl, ?_⟩
  intro tripId trip hfound
  cases hfound

def Touches (map next : TripMap) : Prop :=
  next = map ∨ ∃ tripId held trip, map.find tripId = some held ∧ next = map.put tripId trip ∧
    SameTenure held.runtime.versions trip.runtime.versions ∧
    trip.deactivationPending = held.deactivationPending

theorem Touches.isSome {map : TripMap} (h : map.Touches next) :
    (next.find tripId).isSome = (map.find tripId).isSome := by
  rcases h with rfl | ⟨touched, held, -, hheld, rfl, -⟩
  · rfl
  by_cases hsame : tripId = touched
  · subst hsame
    rw [find_put_self, hheld]
    rfl
  · rw [find_put_ne map hsame]

theorem Touches.sound {map : TripMap} (h : map.Touches next) (hsound : map.Sound) :
    next.Sound := by
  rcases h with rfl | ⟨touched, held, trip, hheld, rfl, htenure, hpend⟩
  · exact hsound
  refine ⟨?_, ?_⟩
  · rw [length_put hheld]
    exact hsound.count
  · intro tripId found hfound
    by_cases hsame : tripId = touched
    · subst hsame
      rw [find_put_self] at hfound
      cases hfound
      rw [htenure.active, htenure.epoch, hpend]
      exact hsound.running _ _ hheld
    · rw [find_put_ne map hsame] at hfound
      exact hsound.running _ _ hfound

theorem tryApplyEvent_touches (map : TripMap) :
    map.Touches (map.tryApplyEvent tripId request currentTime bytes).1 := by
  unfold tryApplyEvent
  split
  · exact .inl rfl
  rename_i trip hfound
  split
  · exact .inl rfl
  · exact .inr ⟨tripId, trip, _, hfound, rfl,
      coordinateEventAdmission_sameTenure trip.runtime, rfl⟩

theorem tryConfirmFinalized_touches (map : TripMap) (sequence : UInt64) :
    map.Touches (map.tryConfirmFinalized tripId runtimeEpoch sequence).1 := by
  unfold tryConfirmFinalized
  split
  · exact .inl rfl
  next trip hfound =>
    exact .inr ⟨tripId, trip, _, hfound, rfl, confirmFinalized_sameTenure sequence, rfl⟩

theorem finishPlanning_touches (map : TripMap) :
    map.Touches (map.finishPlanning tripId token stored) := by
  unfold finishPlanning
  split
  · exact .inl rfl
  rename_i trip hfound
  refine .inr ⟨tripId, trip, _, hfound, rfl, ?_, rfl⟩
  rw [commitPlanningResult_versions]
  exact .refl _

theorem Sound.tryApplyEvent_ne_inactive {map : TripMap} (h : map.Sound)
    (hheld : (map.find tripId).isSome) :
    (map.tryApplyEvent tripId request currentTime bytes).2.status ≠ .inactive := by
  obtain ⟨trip, htrip⟩ := Option.isSome_iff_exists.mp hheld
  obtain ⟨hactive, -, hpend⟩ := h.running _ _ htrip
  simp only [tryApplyEvent, htrip, hpend, Bool.false_eq_true, if_false]
  exact coordinateEventAdmission_ne_inactive hactive

theorem Sound.tryConfirmFinalized_ne_inactive {map : TripMap} (h : map.Sound)
    (hheld : (map.find tripId).isSome) (sequence : UInt64) :
    (map.tryConfirmFinalized tripId runtimeEpoch sequence).2.status ≠ .inactive := by
  obtain ⟨trip, htrip⟩ := Option.isSome_iff_exists.mp hheld
  simp only [tryConfirmFinalized, htrip, controlAnswer]
  exact confirmFinalized_ne_inactive (h.running _ _ htrip).1 sequence

inductive Bootstrapped (map : TripMap) (request : RuntimeBootstrapRequest) :
    TripMap → RuntimeBootstrapResult → Prop where
  | refused (result : RuntimeBootstrapResult) (hstatus : result.status ≠ .accepted)
    (hknown : result.status = .duplicate → (map.find request.state.tripId).isSome) :
    Bootstrapped map request map result
  | inserted (versions : TripRuntimeVersions) (hfound : map.find request.state.tripId = none)
    (hroom : map.activeTripCount < map.maxActiveTrips)
    (hversions : bootstrapVersions .initial request = (versions, .accepted)) :
    Bootstrapped map request
      { map.put request.state.tripId ⟨⟨request.state, versions⟩, request.ownerUserId, false⟩ with
        activeTripCount := map.activeTripCount + 1 }
      (bootstrapAnswer .accepted ⟨request.state, versions⟩)
  | replaced (held : ActiveTrip) (versions : TripRuntimeVersions)
    (hfound : map.find request.state.tripId = some held)
    (hversions : bootstrapVersions held.runtime.versions request = (versions, .accepted)) :
    Bootstrapped map request
      (map.put request.state.tripId ⟨⟨request.state, versions⟩, request.ownerUserId, false⟩)
      (bootstrapAnswer .accepted ⟨request.state, versions⟩)

theorem tryBootstrap_cases (map : TripMap) (request : RuntimeBootstrapRequest) :
    map.Bootstrapped request (map.tryBootstrap request).1 (map.tryBootstrap request).2 := by
  unfold tryBootstrap
  split
  · exact .refused _ (by simp [refusedBootstrap]) (by simp [refusedBootstrap])
  split
  · exact .refused _ (by simp [refusedBootstrap]) (by simp [refusedBootstrap])
  split
  next hfound =>
    unfold insertTrip
    split
    · exact .refused _ (by simp [refusedBootstrap]) (by simp [refusedBootstrap])
    rename_i hroom
    split
    next versions hvers => exact .inserted versions hfound (Nat.lt_of_not_le hroom) hvers
    · exact .refused _ (by simp [refusedBootstrap]) (by simp [refusedBootstrap])
  next held hfound =>
    unfold rebootstrap
    split
    next versions hvers => exact .replaced held versions hfound hvers
    next versions status hother _ =>
      refine .refused _ ?_ fun _ => by rw [hfound]; rfl
      cases status <;> simp_all [bootstrapAnswer, mapBootstrapStatus]

theorem Bootstrapped.sound {map : TripMap} (h : map.Bootstrapped request next result)
    (hsound : map.Sound) : next.Sound := by
  cases h with
  | refused => exact hsound
  | inserted _ hfound _ hvers =>
    obtain ⟨hactive, hepoch, hnz⟩ := TripRuntimeVersions.bootstrap_accepted hvers
    refine ⟨?_, ?_⟩
    · have hmiss : request.state.tripId ∉ map.trips.keys := by
        exact AList.lookup_eq_none.mp hfound
      change map.activeTripCount + 1 = (map.trips.insert request.state.tripId _).keys.length
      rw [AList.keys_insert, List.length_cons, List.erase_of_not_mem hmiss, hsound.count]
    · intro tripId trip htrip
      by_cases hsame : tripId = request.state.tripId
      · subst hsame
        cases (find_put_self map).symm.trans htrip
        exact ⟨hactive, hepoch ▸ hnz, rfl⟩
      · exact hsound.running tripId trip ((find_put_ne map hsame).symm.trans htrip)
  | replaced _ _ hfound hvers =>
    obtain ⟨hactive, hepoch, hnz⟩ := TripRuntimeVersions.bootstrap_accepted hvers
    refine ⟨?_, ?_⟩
    · rw [length_put hfound]
      exact hsound.count
    · intro tripId trip htrip
      by_cases hsame : tripId = request.state.tripId
      · subst hsame
        rw [find_put_self] at htrip
        cases htrip
        exact ⟨hactive, hepoch ▸ hnz, rfl⟩
      · rw [find_put_ne map hsame] at htrip
        exact hsound.running tripId trip htrip

theorem Bootstrapped.isSome {map : TripMap} (h : map.Bootstrapped request next result) :
    (next.find tripId).isSome = (decide (result.status = .accepted ∧
      tripId = request.state.tripId) || (map.find tripId).isSome) := by
  cases h with
  | refused _ hstatus => simp [hstatus]
  | inserted =>
    change ((map.put request.state.tripId _).find tripId).isSome = _
    by_cases hsame : tripId = request.state.tripId
    · subst hsame
      simp [find_put_self, bootstrapAnswer]
    · simp [find_put_ne map hsame, hsame]
  | replaced =>
    by_cases hsame : tripId = request.state.tripId
    · subst hsame
      simp [find_put_self, bootstrapAnswer]
    · simp [find_put_ne map hsame, hsame]

theorem Bootstrapped.held {map : TripMap} (h : map.Bootstrapped request next result)
    (hserved : result.status = .accepted ∨ result.status = .duplicate) :
    (next.find request.state.tripId).isSome := by
  rw [h.isSome]
  cases h with
  | refused _ hstatus hknown => simp [hknown (hserved.resolve_left hstatus)]
  | inserted | replaced => simp [bootstrapAnswer]

theorem tryBootstrap_unheld {map : TripMap} {request : RuntimeBootstrapRequest}
    (hrecovery : request.isRecovery) (hfound : map.find request.state.tripId = none) :
    (map.tryBootstrap request).2.status =
      if map.maxActiveTrips ≤ map.activeTripCount then .resourceExhausted else .accepted := by
  simp only [RuntimeBootstrapRequest.isRecovery, Bool.and_eq_true, Bool.not_eq_true',
    Option.isNone_iff_eq_none, beq_iff_eq, beq_eq_false_iff_ne] at hrecovery
  obtain ⟨⟨⟨⟨⟨hvalid, hprop⟩, hobs⟩, hseq⟩, hepoch⟩, hrev⟩ := hrecovery
  have hacc : (bootstrapVersions .initial request).2 = .accepted := by
    simp [bootstrapVersions, TripRuntimeVersions.bootstrap, TripRuntimeVersions.initial, hepoch,
      hrev]
  unfold tryBootstrap
  rw [if_neg (by simp [hvalid, hprop]), if_neg (by simp [hobs, hseq]), hfound]
  dsimp only
  unfold insertTrip
  split
  · rfl
  split
  · rfl
  next hother => exact (hother (bootstrapVersions .initial request).1 (Prod.ext rfl hacc)).elim

theorem tryBootstrap_held {map : TripMap} (hsound : map.Sound) {request : RuntimeBootstrapRequest}
    (hfound : map.find request.state.tripId = some held)
    (hepoch : request.runtimeEpoch ≤ held.runtime.versions.snapshot.runtimeEpoch) :
    (map.tryBootstrap request).2.status ≠ .accepted ∧ (map.tryBootstrap request).1 = map := by
  have hcases := map.tryBootstrap_cases request
  generalize map.tryBootstrap request = served at hcases ⊢
  obtain ⟨next, result⟩ := served
  cases hcases with
  | refused _ hstatus => exact ⟨hstatus, rfl⟩
  | inserted _ hmiss => rw [hfound] at hmiss; cases hmiss
  | replaced _ _ hother hvers =>
    rw [hfound] at hother
    cases hother
    obtain ⟨hactive, -⟩ := hsound.running _ _ hfound
    have hhigher := ((bootstrap_running_iff hactive).mp (congrArg Prod.snd hvers)).2.2
    exact absurd hepoch (UInt64.not_le.mpr hhigher)

end TripMap

end LiveRoute.Runtime
