import LiveRoute.Runtime.TransactionalAdmission

/-! The calls on a trip's versions. One inversion says what each of them can do:
nothing, restart the counters under a new epoch, or count up within it. -/
namespace LiveRoute.Runtime
open Domain

inductive VersionCall where
  | bootstrap (runtimeEpoch tripRevision finalizedMutationSequence
      currentObservationSequence : UInt64)
  | acceptDurable (runtimeEpoch mutationSequence expectedTripRevision : UInt64)
      (advancesTripRevision : Bool) (expectedPlannerStateVersion : Option UInt64)
      (advancesPlanningGeneration : Bool)
  | resolveTerminalDurable (runtimeEpoch mutationSequence expectedTripRevision : UInt64)
      (expectedPlannerStateVersion : Option UInt64)
  | acceptObservation (runtimeEpoch observationSequence : UInt64)
      (expectedPlannerStateVersion : Option UInt64) (advancesPlanningGeneration : Bool)
  | acceptAdvisory (runtimeEpoch observationSequence : UInt64)
      (expectedPlannerStateVersion : Option UInt64)
  | confirmFinalized (runtimeEpoch finalizedMutationSequence : UInt64)
deriving DecidableEq

def VersionCall.fences : VersionCall → Bool
  | .bootstrap .. | .acceptDurable .. | .acceptObservation .. => true
  | .resolveTerminalDurable .. | .acceptAdvisory .. | .confirmFinalized .. => false

namespace TripRuntimeVersions

def answer (versions : TripRuntimeVersions) : VersionCall →
    TripRuntimeVersions × VersionOperationStatus
  | .bootstrap runtimeEpoch tripRevision finalized observation =>
    versions.bootstrap runtimeEpoch tripRevision finalized observation
  | .acceptDurable runtimeEpoch mutationSequence expectedRevision advancesRevision
      expectedPlannerState advancesGeneration =>
    versions.acceptDurable runtimeEpoch mutationSequence expectedRevision advancesRevision
      expectedPlannerState advancesGeneration
  | .resolveTerminalDurable runtimeEpoch mutationSequence expectedRevision expectedPlannerState =>
    versions.resolveTerminalDurable runtimeEpoch mutationSequence expectedRevision
      expectedPlannerState
  | .acceptObservation runtimeEpoch observationSequence expectedPlannerState advancesGeneration =>
    versions.acceptObservation runtimeEpoch observationSequence expectedPlannerState
      advancesGeneration
  | .acceptAdvisory runtimeEpoch observationSequence expectedPlannerState =>
    versions.acceptAdvisory runtimeEpoch observationSequence expectedPlannerState
  | .confirmFinalized runtimeEpoch finalized => versions.confirmFinalized runtimeEpoch finalized

def call (versions : TripRuntimeVersions) (operation : VersionCall) : TripRuntimeVersions :=
  (versions.answer operation).1

def calls (versions : TripRuntimeVersions) (operations : List VersionCall) : TripRuntimeVersions :=
  operations.foldl call versions

/-- An accepted durable event, observation or bootstrap; on an active trip only
a bootstrap under a higher epoch is accepted. -/
def supersedes (versions : TripRuntimeVersions) (operation : VersionCall) : Bool :=
  operation.fences && decide ((versions.answer operation).2 = .accepted)

end TripRuntimeVersions

/-- No counter falls; those that count events move by at most one. -/
structure CountsUp (before after : TripRuntimeVersionSnapshot) : Prop where
  tripRevision : after.tripRevision.toNat = before.tripRevision.toNat ∨
    after.tripRevision.toNat = before.tripRevision.toNat + 1
  plannerStateVersion : after.plannerStateVersion.toNat = before.plannerStateVersion.toNat ∨
    after.plannerStateVersion.toNat = before.plannerStateVersion.toNat + 1
  planningGeneration : after.planningGeneration.toNat = before.planningGeneration.toNat ∨
    after.planningGeneration.toNat = before.planningGeneration.toNat + 1
  acceptedMutationSequence :
    after.acceptedMutationSequence.toNat = before.acceptedMutationSequence.toNat ∨
      after.acceptedMutationSequence.toNat = before.acceptedMutationSequence.toNat + 1
  finalizedMutationSequence :
    before.finalizedMutationSequence.toNat ≤ after.finalizedMutationSequence.toNat
  acceptedObservationSequence :
    before.acceptedObservationSequence.toNat ≤ after.acceptedObservationSequence.toNat

theorem CountsUp.refl : CountsUp snapshot snapshot :=
  ⟨.inl rfl, .inl rfl, .inl rfl, .inl rfl, Nat.le_refl _, Nat.le_refl _⟩

inductive Turn (before after : TripRuntimeVersions) (supersedes : Bool) : Prop
  | unchanged (same : after = before) (kept : supersedes = false)
  | restarted (active : after.active) (superseded : supersedes)
      (epoch : before.active →
        before.snapshot.runtimeEpoch.toNat < after.snapshot.runtimeEpoch.toNat)
      (nonzero : after.snapshot.runtimeEpoch ≠ 0)
      (watermark : after.snapshot.finalizedMutationSequence =
        after.snapshot.acceptedMutationSequence)
  | advanced (active : before.active ∧ after.active) (superseded : supersedes)
      (epoch : after.snapshot.runtimeEpoch = before.snapshot.runtimeEpoch)
      (counts : CountsUp before.snapshot after.snapshot)
      (version : after.snapshot.plannerStateVersion.toNat =
        before.snapshot.plannerStateVersion.toNat + 1)
      (finalized : after.snapshot.finalizedMutationSequence =
        before.snapshot.finalizedMutationSequence)
  | noted (active : before.active ∧ after.active) (kept : supersedes = false)
      (epoch : after.snapshot.runtimeEpoch = before.snapshot.runtimeEpoch)
      (counts : CountsUp before.snapshot after.snapshot)
      (version : after.snapshot.plannerStateVersion = before.snapshot.plannerStateVersion)
      (generation : after.snapshot.planningGeneration = before.snapshot.planningGeneration)
      (watermark : before.snapshot.finalizedMutationSequence.toNat ≤
          before.snapshot.acceptedMutationSequence.toNat →
        after.snapshot.finalizedMutationSequence.toNat ≤
          after.snapshot.acceptedMutationSequence.toNat)

namespace TripRuntimeVersions

theorem compareDurable_next {versions : TripRuntimeVersions}
    (h : versions.compareDurable runtimeEpoch mutationSequence expectedTripRevision expected =
      .accepted) :
    versions.active ∧
      mutationSequence.toNat = versions.snapshot.acceptedMutationSequence.toNat + 1 := by
  have hexp := (versions.compare_accepted_iff ⟨runtimeEpoch, mutationSequence, 0,
    expectedTripRevision, expected, ⟨⟨0⟩, 0, none, .unset⟩⟩).mp h
  exact ⟨hexp.active, hexp.sequence⟩

theorem previewAdvisory_later {versions : TripRuntimeVersions}
    (h : versions.previewAdvisory runtimeEpoch observationSequence expected = .accepted) :
    versions.snapshot.acceptedObservationSequence.toNat ≤ observationSequence.toNat := by
  unfold previewAdvisory at h
  dsimp only at h
  split at h
  next =>
    split at h
    next => cases h
    next hlater =>
      rw [UInt64.not_le] at hlater
      exact Nat.le_of_lt (UInt64.lt_iff_toNat_lt.mp hlater)
  next href => exact absurd h href

theorem stepped {value : UInt64} (h : advances = true → canIncrement value) :
    (if advances then value + 1 else value).toNat = value.toNat ∨
      (if advances then value + 1 else value).toNat = value.toNat + 1 := by
  cases advances with
  | false => exact .inl rfl
  | true => exact .inr (canIncrement_toNat (h rfl))

section Turns
variable (versions : TripRuntimeVersions)

theorem bootstrap_turn :
    Turn versions (versions.call (.bootstrap runtimeEpoch tripRevision finalized observation))
      (versions.supersedes (.bootstrap runtimeEpoch tripRevision finalized observation)) := by
  unfold call supersedes
  simp only [answer, VersionCall.fences, Bool.true_and]
  unfold bootstrap
  dsimp only
  split
  next => exact .unchanged rfl rfl
  next hnz =>
    split
    next => exact .unchanged rfl rfl
    next hlower =>
      split
      next => split <;> exact .unchanged rfl rfl
      next hother =>
        simp only [Bool.or_eq_true, Bool.and_eq_true, beq_iff_eq, decide_eq_true_eq, not_or,
          not_and] at hnz hlower hother
        refine .restarted rfl rfl (fun hactive => ?_) hnz.1 rfl
        have hle := UInt64.le_iff_toNat_le.mp (UInt64.not_lt.mp (hlower hactive))
        have hne : runtimeEpoch.toNat ≠ versions.snapshot.runtimeEpoch.toNat :=
          fun hsame => hother hactive (UInt64.toNat_inj.mp hsame)
        dsimp only
        omega

theorem acceptDurable_turn :
    let operation := VersionCall.acceptDurable runtimeEpoch mutationSequence expectedTripRevision
      advancesRevision expected advancesGeneration
    Turn versions (versions.call operation) (versions.supersedes operation) := by
  simp only [call, supersedes, answer, VersionCall.fences, Bool.true_and]
  fun_cases acceptDurable
  next hprev =>
    simp only [acceptDurable, hprev]
    unfold previewDurable at hprev
    dsimp only at hprev
    split at hprev
    next hcmp =>
      split at hprev
      next => cases hprev
      next hroom =>
        simp only [Bool.or_eq_true, Bool.and_eq_true, Bool.not_eq_true', not_or, not_and,
          Bool.not_eq_false] at hroom
        obtain ⟨hactive, hnext⟩ := compareDurable_next hcmp
        refine .advanced ⟨hactive, hactive⟩ rfl rfl ?_ (canIncrement_toNat hroom.1.1) rfl
        exact { CountsUp.refl with
          tripRevision := stepped hroom.2
          plannerStateVersion := .inr (canIncrement_toNat hroom.1.1)
          planningGeneration := stepped hroom.1.2, acceptedMutationSequence := .inr hnext }
    next href => exact absurd hprev href
  next href =>
    simp only [acceptDurable]
    exact .unchanged rfl (decide_eq_false href)

theorem resolveTerminalDurable_turn :
    let operation := VersionCall.resolveTerminalDurable runtimeEpoch mutationSequence
      expectedTripRevision expected
    Turn versions (versions.call operation) (versions.supersedes operation) := by
  intro operation
  unfold call
  simp only [operation, answer]
  unfold resolveTerminalDurable
  split
  next hcmp =>
    obtain ⟨hactive, hnext⟩ := compareDurable_next hcmp
    refine .noted ⟨hactive, hactive⟩ rfl rfl ?_ rfl rfl fun h => ?_
    · exact { CountsUp.refl with acceptedMutationSequence := .inr hnext }
    · dsimp only
      omega
  next => exact .unchanged rfl rfl

theorem acceptObservation_turn :
    let operation := VersionCall.acceptObservation runtimeEpoch observationSequence expected
      advancesGeneration
    Turn versions (versions.call operation) (versions.supersedes operation) := by
  simp only [call, supersedes, answer, VersionCall.fences, Bool.true_and]
  fun_cases acceptObservation
  next hprev =>
    simp only [acceptObservation, hprev]
    have hcmp := previewObservation_compares hprev
    have hactive := previewAdvisory_active hcmp
    unfold previewObservation at hprev
    rw [hcmp] at hprev
    dsimp only at hprev
    split at hprev
    next => cases hprev
    next hroom =>
      simp only [Bool.or_eq_true, Bool.and_eq_true, Bool.not_eq_true', not_or, not_and,
        Bool.not_eq_false] at hroom
      refine .advanced ⟨hactive, hactive⟩ rfl rfl ?_ (canIncrement_toNat hroom.1) rfl
      exact { CountsUp.refl with
        plannerStateVersion := .inr (canIncrement_toNat hroom.1)
        planningGeneration := stepped hroom.2
        acceptedObservationSequence := previewAdvisory_later hcmp }
  next href =>
    simp only [acceptObservation]
    exact .unchanged rfl (decide_eq_false href)

theorem acceptAdvisory_turn :
    let operation := VersionCall.acceptAdvisory runtimeEpoch observationSequence expected
    Turn versions (versions.call operation) (versions.supersedes operation) := by
  intro operation
  unfold call
  simp only [operation, answer]
  unfold acceptAdvisory
  split
  next hprev =>
    have hactive := previewAdvisory_active hprev
    refine .noted ⟨hactive, hactive⟩ rfl rfl ?_ rfl rfl id
    exact { CountsUp.refl with acceptedObservationSequence := previewAdvisory_later hprev }
  next => exact .unchanged rfl rfl

theorem confirmFinalized_turn :
    let operation := VersionCall.confirmFinalized runtimeEpoch finalized
    Turn versions (versions.call operation) (versions.supersedes operation) := by
  intro operation
  unfold call
  simp only [operation, answer]
  unfold confirmFinalized
  dsimp only
  split
  next hepoch =>
    split
    next => exact .unchanged rfl rfl
    next hlater =>
      split
      next => exact .unchanged rfl rfl
      next hcov =>
        have hactive := validateEpoch_active hepoch
        rw [UInt64.not_le] at hlater
        rw [UInt64.not_lt] at hcov
        refine .noted ⟨hactive, hactive⟩ rfl rfl ?_ rfl rfl fun _ => hcov
        exact { CountsUp.refl with finalizedMutationSequence := Nat.le_of_lt hlater }
  next => exact .unchanged rfl rfl

/-- One inversion for all calls. -/
theorem call_turn (operation : VersionCall) :
    Turn versions (versions.call operation) (versions.supersedes operation) := by
  cases operation with
  | bootstrap => exact versions.bootstrap_turn
  | acceptDurable => exact versions.acceptDurable_turn
  | resolveTerminalDurable => exact versions.resolveTerminalDurable_turn
  | acceptObservation => exact versions.acceptObservation_turn
  | acceptAdvisory => exact versions.acceptAdvisory_turn
  | confirmFinalized => exact versions.confirmFinalized_turn

end Turns

end TripRuntimeVersions

end LiveRoute.Runtime
