import LiveRoute.Domain.TripStateFacts
import LiveRoute.Runtime.EventCoordinator

/-! What the admission of a runtime-first durable event can do. It leaves the
trip as it was, uses up the sequence of the event, or applies the event; every
later fact about delivery is read off these three cases. -/
namespace LiveRoute.Runtime
open Domain

theorem succ_toNat_iff (held next : UInt64) :
    ((¬ next ≤ held ∧ canIncrement held) ∧ next = held + 1) ↔
      next.toNat = held.toNat + 1 := by
  have hnext := next.toNat_lt
  have hmax : canIncrement held ↔ held.toNat ≠ 18446744073709551615 := by
    simp [canIncrement, maxUInt64, ← UInt64.toNat_inj]
  rw [hmax, UInt64.le_iff_toNat_le, ← UInt64.toNat_inj, UInt64.toNat_add]
  simp only [UInt64.toNat_one]
  omega

theorem canIncrement_toNat {value : UInt64} (h : canIncrement value) :
    (value + 1).toNat = value.toNat + 1 := by
  have hvalue := value.toNat_lt
  have hne : value.toNat ≠ 18446744073709551615 := by
    simpa [canIncrement, maxUInt64, ← UInt64.toNat_inj] using h
  rw [UInt64.toNat_add, UInt64.toNat_one]
  omega

namespace TripRuntimeVersions

structure Expects (versions : TripRuntimeVersions) (request : EventAdmissionRequest) : Prop where
  active : versions.active
  epoch : request.runtimeEpoch = versions.snapshot.runtimeEpoch
  sequence : request.mutationSequence.toNat = versions.snapshot.acceptedMutationSequence.toNat + 1
  revision : request.expectedTripRevision = versions.snapshot.tripRevision
  plannerState : ∀ expected ∈ request.expectedPlannerStateVersion,
    expected = versions.snapshot.plannerStateVersion

def hasRoom (versions : TripRuntimeVersions) : Bool :=
  canIncrement versions.snapshot.plannerStateVersion &&
    canIncrement versions.snapshot.planningGeneration && canIncrement versions.snapshot.tripRevision

def consume (versions : TripRuntimeVersions) (mutationSequence : UInt64) : TripRuntimeVersions :=
  { versions with snapshot := { versions.snapshot with
      acceptedMutationSequence := mutationSequence } }

def advance (versions : TripRuntimeVersions) (mutationSequence : UInt64) : TripRuntimeVersions :=
  { versions with snapshot := { versions.snapshot with
      acceptedMutationSequence := mutationSequence
      plannerStateVersion := versions.snapshot.plannerStateVersion + 1
      planningGeneration := versions.snapshot.planningGeneration + 1
      tripRevision := versions.snapshot.tripRevision + 1 } }

def compare (versions : TripRuntimeVersions) (request : EventAdmissionRequest) :
    VersionOperationStatus :=
  versions.compareDurable request.runtimeEpoch request.mutationSequence
    request.expectedTripRevision request.expectedPlannerStateVersion

theorem compare_accepted_iff (versions : TripRuntimeVersions) (request : EventAdmissionRequest) :
    versions.compare request = .accepted ↔ versions.Expects request := by
  have hseq := succ_toNat_iff versions.snapshot.acceptedMutationSequence request.mutationSequence
  have hplanner : (request.expectedPlannerStateVersion.any fun expected =>
      !(expected == versions.snapshot.plannerStateVersion)) ↔
        ¬∀ expected ∈ request.expectedPlannerStateVersion,
          expected = versions.snapshot.plannerStateVersion := by
    cases request.expectedPlannerStateVersion <;> simp
  grind [compare, compareDurable, validateEpoch, Expects]

theorem previewDurable_eq (versions : TripRuntimeVersions) (request : EventAdmissionRequest) :
    versions.previewDurable request.runtimeEpoch request.mutationSequence
      request.expectedTripRevision true request.expectedPlannerStateVersion true =
      match versions.compare request with
      | .accepted => if versions.hasRoom then .accepted else .invalidArgument
      | refused => refused := by
  unfold previewDurable compare hasRoom
  cases versions.compareDurable request.runtimeEpoch request.mutationSequence
    request.expectedTripRevision request.expectedPlannerStateVersion with
  | accepted =>
    dsimp only
    cases canIncrement versions.snapshot.plannerStateVersion <;>
      cases canIncrement versions.snapshot.planningGeneration <;>
      cases canIncrement versions.snapshot.tripRevision <;> simp
  | _ => rfl

end TripRuntimeVersions

/-- The cases of an admission. A refusal keeps the runtime; a consumed event
moves the watermark only; an applied one moves the state and every counter. -/
inductive Admission (runtime : TripRuntime) (request : EventAdmissionRequest)
    (currentTime : UnixTimeMilliseconds) (bytes : Nat) :
    TripRuntime → EventCoordinatorResult → Prop where
  | malformed (henvelope : envelopeMatches true request = false) :
    Admission runtime request currentTime bytes runtime
      (makeResult .invalidArgument runtime.versions)
  | refused (status : VersionOperationStatus) (henvelope : envelopeMatches true request)
    (hcompare : runtime.versions.compare request = status) (hrefused : status ≠ .accepted) :
    Admission runtime request currentTime bytes runtime
      (makeResult (mapVersionStatus status) runtime.versions)
  | exhausted (henvelope : envelopeMatches true request)
    (hexpects : runtime.versions.Expects request) (hroom : runtime.versions.hasRoom = false) :
    Admission runtime request currentTime bytes runtime
      (makeResult .invalidArgument runtime.versions)
  | expired (henvelope : envelopeMatches true request)
    (hexpects : runtime.versions.Expects request) (hroom : runtime.versions.hasRoom)
    (hexpired : isExpired request.event currentTime) :
    Admission runtime request currentTime bytes
      { runtime with versions := runtime.versions.consume request.mutationSequence }
      (makeResult .commandExpired (runtime.versions.consume request.mutationSequence))
  | rejected (status : TripStateApplyStatus) (henvelope : envelopeMatches true request)
    (hexpects : runtime.versions.Expects request) (hroom : runtime.versions.hasRoom)
    (hfresh : isExpired request.event currentTime = false)
    (happly : applyTripEvent runtime.state request.event bytes =
      (runtime.state, ⟨status, false, false⟩)) (hstatus : status ≠ .accepted) :
    Admission runtime request currentTime bytes
      { runtime with versions := runtime.versions.consume request.mutationSequence }
      (makeResult (applyFailureStatus status) (runtime.versions.consume request.mutationSequence))
  | applied (candidate : TripState) (planChanged : Bool)
    (henvelope : envelopeMatches true request)
    (hexpects : runtime.versions.Expects request) (hroom : runtime.versions.hasRoom)
    (hfresh : isExpired request.event currentTime = false)
    (happly : applyTripEvent runtime.state request.event bytes =
      (candidate, ⟨.accepted, true, planChanged⟩)) :
    Admission runtime request currentTime bytes
      ⟨candidate, runtime.versions.advance request.mutationSequence⟩
      ⟨.accepted, true, planChanged,
        (runtime.versions.advance request.mutationSequence).snapshot, none⟩

theorem consumeTerminal_eq {runtime : TripRuntime}
    (hexp : runtime.versions.Expects request) :
    consumeTerminal runtime request status =
      ({ runtime with versions := runtime.versions.consume request.mutationSequence },
        makeResult status (runtime.versions.consume request.mutationSequence)) := by
  have hcmp := (runtime.versions.compare_accepted_iff request).mpr hexp
  unfold TripRuntimeVersions.compare at hcmp
  simp only [consumeTerminal, TripRuntimeVersions.resolveTerminalDurable, hcmp,
    TripRuntimeVersions.consume]

theorem acceptDurable_eq {runtime : TripRuntime}
    (hexp : runtime.versions.Expects request) (hroom : runtime.versions.hasRoom) :
    runtime.versions.acceptDurable request.runtimeEpoch request.mutationSequence
      request.expectedTripRevision true request.expectedPlannerStateVersion true =
      (runtime.versions.advance request.mutationSequence, .accepted) := by
  have hprev := runtime.versions.previewDurable_eq request
  rw [(runtime.versions.compare_accepted_iff request).mpr hexp] at hprev
  simp only [hroom, if_true] at hprev
  simp [TripRuntimeVersions.acceptDurable, hprev, TripRuntimeVersions.advance]

theorem runtimeFirst_class {payload : TripEventPayload} (h : payload.isRuntimeFirst) :
    ∃ eventClass, payload.eventClass = some eventClass ∧ isDurable eventClass ∧
      isCanonicalMirror eventClass = false := by
  simp only [TripEventPayload.isRuntimeFirst, Bool.or_eq_true, decide_eq_true_eq] at h
  rcases h with h | h
  · exact ⟨_, h, rfl, rfl⟩
  · exact ⟨_, h, rfl, rfl⟩

theorem applyAdmitted_admission {runtime : TripRuntime} {request : EventAdmissionRequest}
    (hdur : isDurable eventClass) (hmirror : isCanonicalMirror eventClass = false)
    (hfirst : request.event.payload.isRuntimeFirst)
    (henv : envelopeMatches true request)
    (hexp : runtime.versions.Expects request) (hroom : runtime.versions.hasRoom)
    (hfresh : isExpired request.event currentTime = false) :
    Admission runtime request currentTime bytes (applyAdmitted runtime eventClass request bytes).1
      (applyAdmitted runtime eventClass request bytes).2 := by
  unfold applyAdmitted
  rcases applyTripEvent_cases with
    ⟨status, hstatus, href⟩ | ⟨mutated, -, hacc⟩
  · have hadm := Admission.rejected status henv hexp hroom hfresh href hstatus
    rw [href]
    cases status with
    | accepted => exact absurd rfl hstatus
    | invalidArgument =>
      simpa only [hdur, hmirror, Bool.not_false, Bool.and_self, if_true,
        consumeTerminal_eq hexp] using hadm
    | staleProposal =>
      simpa only [hdur, hmirror, Bool.not_false, Bool.and_self, if_true,
        consumeTerminal_eq hexp] using hadm
  · rw [planningInputChanged_of_runtimeFirst hfirst] at hacc
    have hadm := Admission.applied _ _ henv hexp hroom hfresh hacc
    rw [hacc]
    simpa only [commitEvent, hdur, if_true, advancesTripRevision,
      acceptDurable_eq hexp hroom, hmirror, Bool.false_eq_true, if_false] using hadm

theorem coordinateEventAdmission_cases (runtime : TripRuntime) (request : EventAdmissionRequest)
    (currentTime : UnixTimeMilliseconds) (bytes : Nat)
    (hfirst : request.event.payload.isRuntimeFirst) :
    Admission runtime request currentTime bytes
      (coordinateEventAdmission runtime request currentTime bytes).1
      (coordinateEventAdmission runtime request currentTime bytes).2 := by
  obtain ⟨eventClass, hclass, hdur, hmirror⟩ := runtimeFirst_class hfirst
  have hprev := runtime.versions.previewDurable_eq request
  unfold coordinateEventAdmission
  rw [hclass]
  dsimp only
  rw [hdur]
  split
  next henv => exact .malformed (by simpa using henv)
  next henv =>
    have henv : envelopeMatches true request := by simpa using henv
    simp only [previewEvent, hdur, if_true, advancesTripRevision, hprev]
    cases hcmp : runtime.versions.compare request with
    | accepted =>
      have hexp := (runtime.versions.compare_accepted_iff request).mp hcmp
      cases hroom : runtime.versions.hasRoom with
      | false => simpa [mapVersionStatus, makeResult] using Admission.exhausted henv hexp hroom
      | true =>
        cases hexpired : isExpired request.event currentTime with
        | true =>
          simpa [hmirror, consumeTerminal_eq hexp] using Admission.expired henv hexp hroom hexpired
        | false =>
          simpa [hmirror] using applyAdmitted_admission hdur hmirror hfirst henv hexp hroom hexpired
    | duplicate => simpa [hmirror, makeResult] using Admission.refused _ henv hcmp (by simp)
    | stale => simpa [makeResult] using Admission.refused _ henv hcmp (by simp)
    | invalidArgument => simpa [makeResult] using Admission.refused _ henv hcmp (by simp)
    | inactive => simpa [makeResult] using Admission.refused _ henv hcmp (by simp)

theorem mapVersionStatus_ne_accepted (h : status ≠ .accepted) :
    mapVersionStatus status ≠ .accepted := by
  cases status <;> simp_all [mapVersionStatus]

theorem applyFailureStatus_ne_accepted : applyFailureStatus status ≠ .accepted := by
  cases status <;> simp [applyFailureStatus]

theorem Admission.of_accepted (h : Admission runtime request currentTime bytes admitted result)
    (hacc : result.status = .accepted) : runtime.versions.Expects request ∧
    runtime.versions.hasRoom ∧ ∃ mutated, Applied runtime.state request.event bytes mutated ∧
    admitted = ⟨settle request.event mutated, runtime.versions.advance request.mutationSequence⟩ ∧
    result.versionSnapshot = (runtime.versions.advance request.mutationSequence).snapshot := by
  cases h with
  | malformed | exhausted | expired => simp [makeResult] at hacc
  | refused _ _ _ href => exact absurd hacc (mapVersionStatus_ne_accepted href)
  | rejected => exact absurd hacc applyFailureStatus_ne_accepted
  | applied _ _ _ hexp hroom _ happly =>
    obtain ⟨mutated, happ, rfl, -⟩ := applied_of_accepted happly
    exact ⟨hexp, hroom, mutated, happ, rfl, rfl⟩

/-- A canonical mirror that is the next event is applied, or refused without a
trace: its sequence is not used up. -/
theorem coordinateEventAdmission_mirror {runtime : TripRuntime} {request : EventAdmissionRequest}
    (currentTime : UnixTimeMilliseconds) (bytes : Nat)
    (hclass : request.event.payload.eventClass = some .canonicalFirstDurableMirror)
    (henv : envelopeMatches true request) (hexp : runtime.versions.Expects request) :
    (runtime.versions.hasRoom ∧ ∃ mutated,
      Applied runtime.state request.event bytes mutated ∧
      coordinateEventAdmission runtime request currentTime bytes =
        (⟨settle request.event mutated, runtime.versions.advance request.mutationSequence⟩,
          { status := .accepted, planningInputChanged := true
            currentPlanChanged := request.event.payload.currentPlanChanged
            versionSnapshot := (runtime.versions.advance request.mutationSequence).snapshot
            resultingCurrentPlanId := some (settle request.event mutated).currentPlan.planId })) ∨
    ((runtime.versions.hasRoom = false ∨
        ∀ mutated, ¬ Applied runtime.state request.event bytes mutated) ∧
      coordinateEventAdmission runtime request currentTime bytes =
        (runtime, makeResult .invalidArgument runtime.versions)) := by
  have hprev := runtime.versions.previewDurable_eq request
  rw [(runtime.versions.compare_accepted_iff request).mpr hexp] at hprev
  have hchanged : request.event.payload.planningInputChanged := by
    cases hpay : request.event.payload <;> simp_all [TripEventPayload.eventClass,
      TripEventPayload.planningInputChanged]
  have hfresh : runtime.state.proposalIsStale request.event.payload = false := by
    cases hpay : request.event.payload <;> simp_all [TripEventPayload.eventClass,
      TripState.proposalIsStale]
  unfold coordinateEventAdmission
  simp only [hclass, isDurable, henv, Bool.not_true, Bool.false_eq_true, if_false,
    previewEvent, if_true, advancesTripRevision, hprev]
  cases hroom : runtime.versions.hasRoom with
  | false => exact .inr ⟨.inl rfl, rfl⟩
  | true =>
    have hcommit := acceptDurable_eq hexp hroom
    simp only [if_true, isCanonicalMirror, decide_true, Bool.not_true, Bool.and_false,
      Bool.false_and, Bool.false_eq_true, if_false]
    unfold applyAdmitted
    rcases applyTripEvent_cases with
      ⟨status, hstatus, href⟩ | ⟨mutated, happ, hacc⟩
    · refine .inr ⟨.inr fun mutated happ => ?_, ?_⟩
      · rw [applyTripEvent_of_applied happ] at href
        exact hstatus (congrArg (fun pair => pair.2.status) href).symm
      · rw [href]
        cases status with
        | accepted => exact absurd rfl hstatus
        | invalidArgument => rfl
        | staleProposal =>
          exact absurd (congrArg (fun pair => pair.2.status) href) (applyTripEvent_not_stale hfresh)
    · refine .inl ⟨trivial, mutated, happ, ?_⟩
      rw [hacc, hchanged]
      simp [commitEvent, isDurable, advancesTripRevision, hcommit, isCanonicalMirror]

end LiveRoute.Runtime
