import Mathlib.Data.Nat.Basic

/-! Sequencing of one active trip: the epoch it runs under, the revisions an
event is compared with, and the watermarks of accepted and finalized work. -/
namespace LiveRoute.Runtime

inductive VersionStaleReason where
  | epoch | mutationSequence | observationSequence | tripRevision | plannerStateVersion
deriving DecidableEq

/-- `kNone` is the absent reason of every status but a stale one. -/
inductive VersionOperationStatus where
  | accepted | duplicate
  | stale (reason : VersionStaleReason)
  | invalidArgument | inactive
deriving DecidableEq

structure TripRuntimeVersionSnapshot where
  (runtimeEpoch tripRevision plannerStateVersion planningGeneration : UInt64)
  (acceptedMutationSequence finalizedMutationSequence acceptedObservationSequence : UInt64)
deriving DecidableEq

def TripRuntimeVersionSnapshot.zero : TripRuntimeVersionSnapshot := ⟨0, 0, 0, 0, 0, 0, 0⟩

structure TripRuntimeVersions where
  active : Bool
  snapshot : TripRuntimeVersionSnapshot
deriving DecidableEq

def maxUInt64 : UInt64 := 18446744073709551615

def canIncrement (value : UInt64) : Bool := !(value == maxUInt64)

namespace TripRuntimeVersions

def initial : TripRuntimeVersions := ⟨false, .zero⟩

def bootstrap (versions : TripRuntimeVersions) (runtimeEpoch tripRevision
    finalizedMutationSequence currentObservationSequence : UInt64) :
    TripRuntimeVersions × VersionOperationStatus :=
  let held := versions.snapshot
  if runtimeEpoch == 0 || tripRevision == 0 then
    (versions, .invalidArgument)
  else if versions.active && decide (runtimeEpoch < held.runtimeEpoch) then
    (versions, .stale .epoch)
  else if versions.active && runtimeEpoch == held.runtimeEpoch then
    if !(tripRevision == held.tripRevision) ||
        !(finalizedMutationSequence == held.finalizedMutationSequence) ||
        !(finalizedMutationSequence == held.acceptedMutationSequence) ||
        !(currentObservationSequence == held.acceptedObservationSequence) then
      (versions, .invalidArgument)
    else
      (versions, .duplicate)
  else
    (⟨true, {
      runtimeEpoch := runtimeEpoch
      tripRevision := tripRevision
      plannerStateVersion := 0
      planningGeneration := 0
      acceptedMutationSequence := finalizedMutationSequence
      finalizedMutationSequence := finalizedMutationSequence
      acceptedObservationSequence := currentObservationSequence }⟩, .accepted)

theorem bootstrap_accepted {versions : TripRuntimeVersions}
    (h : versions.bootstrap runtimeEpoch tripRevision finalized observation = (next, .accepted)) :
    next.active ∧ next.snapshot.runtimeEpoch = runtimeEpoch ∧ runtimeEpoch ≠ 0 := by
  revert h
  fun_cases bootstrap versions runtimeEpoch tripRevision finalized observation
  case case5 hzero _ _ =>
    intro h
    cases h
    simp only [Bool.or_eq_true, beq_iff_eq, not_or] at hzero
    exact ⟨rfl, rfl, hzero.1⟩
  all_goals nofun

def validateEpoch (versions : TripRuntimeVersions) (runtimeEpoch : UInt64) :
    VersionOperationStatus :=
  if !versions.active then .inactive
  else if runtimeEpoch == versions.snapshot.runtimeEpoch then .accepted
  else .stale .epoch

def compareDurable (versions : TripRuntimeVersions)
    (runtimeEpoch mutationSequence expectedTripRevision : UInt64)
    (expectedPlannerStateVersion : Option UInt64) : VersionOperationStatus :=
  let held := versions.snapshot
  match versions.validateEpoch runtimeEpoch with
  | .accepted =>
    if mutationSequence ≤ held.acceptedMutationSequence then .duplicate
    else if !canIncrement held.acceptedMutationSequence ||
        !(mutationSequence == held.acceptedMutationSequence + 1) then .stale .mutationSequence
    else if !(expectedTripRevision == held.tripRevision) then .stale .tripRevision
    else if expectedPlannerStateVersion.any fun expected =>
        !(expected == held.plannerStateVersion) then .stale .plannerStateVersion
    else .accepted
  | refused => refused

def previewDurable (versions : TripRuntimeVersions)
    (runtimeEpoch mutationSequence expectedTripRevision : UInt64) (advancesTripRevision : Bool)
    (expectedPlannerStateVersion : Option UInt64) (advancesPlanningGeneration : Bool) :
    VersionOperationStatus :=
  let held := versions.snapshot
  match versions.compareDurable runtimeEpoch mutationSequence expectedTripRevision
      expectedPlannerStateVersion with
  | .accepted =>
    if !canIncrement held.plannerStateVersion ||
        (advancesPlanningGeneration && !canIncrement held.planningGeneration) ||
        (advancesTripRevision && !canIncrement held.tripRevision) then .invalidArgument
    else .accepted
  | refused => refused

def acceptDurable (versions : TripRuntimeVersions)
    (runtimeEpoch mutationSequence expectedTripRevision : UInt64) (advancesTripRevision : Bool)
    (expectedPlannerStateVersion : Option UInt64) (advancesPlanningGeneration : Bool) :
    TripRuntimeVersions × VersionOperationStatus :=
  let held := versions.snapshot
  match versions.previewDurable runtimeEpoch mutationSequence expectedTripRevision
      advancesTripRevision expectedPlannerStateVersion advancesPlanningGeneration with
  | .accepted =>
    ({ versions with snapshot := { held with
        acceptedMutationSequence := mutationSequence
        plannerStateVersion := held.plannerStateVersion + 1
        planningGeneration :=
          if advancesPlanningGeneration then held.planningGeneration + 1
          else held.planningGeneration
        tripRevision :=
          if advancesTripRevision then held.tripRevision + 1 else held.tripRevision } },
      .accepted)
  | refused => (versions, refused)

def resolveTerminalDurable (versions : TripRuntimeVersions)
    (runtimeEpoch mutationSequence expectedTripRevision : UInt64)
    (expectedPlannerStateVersion : Option UInt64) : TripRuntimeVersions × VersionOperationStatus :=
  match versions.compareDurable runtimeEpoch mutationSequence expectedTripRevision
      expectedPlannerStateVersion with
  | .accepted =>
    ({ versions with snapshot := { versions.snapshot with
        acceptedMutationSequence := mutationSequence } }, .accepted)
  | refused => (versions, refused)

def previewAdvisory (versions : TripRuntimeVersions) (runtimeEpoch observationSequence : UInt64)
    (expectedPlannerStateVersion : Option UInt64) : VersionOperationStatus :=
  let held := versions.snapshot
  match versions.validateEpoch runtimeEpoch with
  | .accepted =>
    if observationSequence ≤ held.acceptedObservationSequence then .stale .observationSequence
    else if expectedPlannerStateVersion.any fun expected =>
        !(expected == held.plannerStateVersion) then .stale .plannerStateVersion
    else .accepted
  | refused => refused

def previewObservation (versions : TripRuntimeVersions)
    (runtimeEpoch observationSequence : UInt64) (expectedPlannerStateVersion : Option UInt64)
    (advancesPlanningGeneration : Bool) : VersionOperationStatus :=
  let held := versions.snapshot
  match versions.previewAdvisory runtimeEpoch observationSequence
      expectedPlannerStateVersion with
  | .accepted =>
    if !canIncrement held.plannerStateVersion ||
        (advancesPlanningGeneration && !canIncrement held.planningGeneration) then
      .invalidArgument
    else .accepted
  | refused => refused

def acceptAdvisory (versions : TripRuntimeVersions) (runtimeEpoch observationSequence : UInt64)
    (expectedPlannerStateVersion : Option UInt64) : TripRuntimeVersions × VersionOperationStatus :=
  match versions.previewAdvisory runtimeEpoch observationSequence
      expectedPlannerStateVersion with
  | .accepted =>
    ({ versions with snapshot := { versions.snapshot with
        acceptedObservationSequence := observationSequence } }, .accepted)
  | refused => (versions, refused)

def acceptObservation (versions : TripRuntimeVersions)
    (runtimeEpoch observationSequence : UInt64) (expectedPlannerStateVersion : Option UInt64)
    (advancesPlanningGeneration : Bool) : TripRuntimeVersions × VersionOperationStatus :=
  let held := versions.snapshot
  match versions.previewObservation runtimeEpoch observationSequence
      expectedPlannerStateVersion advancesPlanningGeneration with
  | .accepted =>
    ({ versions with snapshot := { held with
        acceptedObservationSequence := observationSequence
        plannerStateVersion := held.plannerStateVersion + 1
        planningGeneration :=
          if advancesPlanningGeneration then held.planningGeneration + 1
          else held.planningGeneration } }, .accepted)
  | refused => (versions, refused)

def confirmFinalized (versions : TripRuntimeVersions)
    (runtimeEpoch finalizedMutationSequence : UInt64) :
    TripRuntimeVersions × VersionOperationStatus :=
  let held := versions.snapshot
  match versions.validateEpoch runtimeEpoch with
  | .accepted =>
    if finalizedMutationSequence ≤ held.finalizedMutationSequence then (versions, .duplicate)
    else if held.acceptedMutationSequence < finalizedMutationSequence then
      (versions, .invalidArgument)
    else
      ({ versions with snapshot := { held with
          finalizedMutationSequence := finalizedMutationSequence } }, .accepted)
  | refused => (versions, refused)

def snapshotReady (versions : TripRuntimeVersions) : Bool := versions.active &&
    versions.snapshot.acceptedMutationSequence == versions.snapshot.finalizedMutationSequence

end TripRuntimeVersions

end LiveRoute.Runtime
