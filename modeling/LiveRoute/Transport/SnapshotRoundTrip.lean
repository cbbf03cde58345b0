import LiveRoute.Domain.CompletedHistory
import LiveRoute.Transport.SnapshotConversion

/-! Snapshots survive the way through their messages: what a converter writes
of a valid value is read back as that value. -/
namespace LiveRoute.Transport
open Domain LiveRoute.Runtime Sequence Option

theorem travelModeFromProto_written :
    travelModeFromProto (if mode = .walking then .walking else .driving) = some mode := by
  cases mode <;> rfl

theorem activityClassFromProto_written :
    activityClassFromProto (if activityClass = .fixed then .fixed else .flexible) =
      some activityClass := by
  cases activityClass <;> rfl

theorem activityStateFromProto_toProto :
    activityStateFromProto (activityStateToProto state) = some state := by
  cases state <;> rfl

theorem planOriginFromProto_written :
    planOriginFromProto (if origin = .userAuthored then .userAuthored
      else .acceptedEngineProposal) = some origin := by
  cases origin <;> rfl

theorem planEntryStateFromProto_written :
    planEntryStateFromProto (if state = .scheduled then .scheduled else .omitted) = some state := by
  cases state <;> rfl

theorem locationFromProto_toProto {location : Location} (hvalid : location.isValid) :
    locationFromProto (locationToProto location) = some location := by
  change (if !location.isValid then none else some location) = some location
  simp [hvalid]

theorem windowFromProto_toProto {window : TimeWindow} (hvalid : window.isValid) :
    windowFromProto (windowToProto window) = some window := by
  change (if !window.isValid then none else some window) = some window
  simp [hvalid]

theorem isValid_of_windowsNormalized (h : windowsNormalized previous windows) :
    ∀ window ∈ windows, window.isValid := by
  induction windows generalizing previous with
  | nil => simp
  | cons _ _ ih =>
    simp only [windowsNormalized, Bool.and_eq_true] at h
    exact List.forall_mem_cons.mpr ⟨h.1.1, ih h.2⟩

theorem timingFromProto_toProto {timing : ActivityTiming} (hvalid : timing.isValid) :
    timingFromProto (timingToProto timing) = some timing := by
  have hwindows : (timing.openWindows.map windowToProto).mapM windowFromProto =
      some timing.openWindows := by
    have hnormalized := hvalid
    simp only [ActivityTiming.isValid, Bool.and_eq_true] at hnormalized
    apply mapM_map_eq_some
    intro window hmem
    exact windowFromProto_toProto (isValid_of_windowsNormalized hnormalized.2 window hmem)
  unfold timingFromProto timingToProto
  simp [hwindows, hvalid]

theorem activityFromProto_toProto {activity : Activity} (hvalid : activity.isValid) :
    activityFromProto (activityToProto activity) = some activity := by
  have hparts := hvalid
  simp only [Activity.isValid, Bool.and_eq_true] at hparts
  obtain ⟨⟨-, hlocation⟩, htiming⟩ := hparts
  unfold activityFromProto activityToProto
  simp [parseUuid_formatUuid, locationFromProto_toProto hlocation, travelModeFromProto_written,
    activityClassFromProto_written, activityStateFromProto_toProto,
    timingFromProto_toProto htiming, hvalid]

theorem segmentFromProto_toProto {segment : CurrentPlanSegment} (hvalid : segment.isValid) :
    segmentFromProto (segmentToProto segment) = some segment := by
  unfold segmentFromProto segmentToProto
  simp [parseUuid_formatUuid, planEntryStateFromProto_written, hvalid]

theorem isValid_of_segmentsOrdered (h : segmentsOrdered prior segments) :
    ∀ segment ∈ segments, segment.isValid := by
  induction segments generalizing prior with
  | nil => simp
  | cons _ _ ih =>
    simp only [segmentsOrdered, Bool.and_eq_true] at h
    obtain ⟨hseg, hrest⟩ := h
    refine List.forall_mem_cons.mpr ⟨hseg, ?_⟩
    split at hrest
    next => exact ih (Bool.and_eq_true_iff.mp hrest).2
    next => exact ih hrest

theorem parsePresent_format {ι : Type} (value : ι → BitVec 128) (id : Option ι) :
    parsePresent (id.map fun id => formatUuid (value id)) = some (id.map value) := by
  cases id with
  | none => rfl
  | some => simp [parsePresent, parseUuid_formatUuid]

theorem currentPlanFromProto_toProto {plan : CurrentPlan}
    (hord : segmentsOrdered none plan.segments) :
    currentPlanFromProto (currentPlanToProto plan) = some plan := by
  have hsegments : (plan.segments.map segmentToProto).mapM segmentFromProto =
      some plan.segments := by
    apply mapM_map_eq_some
    intro segment hmem
    exact segmentFromProto_toProto (isValid_of_segmentsOrdered hord segment hmem)
  have hsource : (plan.sourceProposalId.map ProposalId.value).map ProposalId.mk =
      plan.sourceProposalId := by
    cases plan.sourceProposalId <;> rfl
  unfold currentPlanFromProto currentPlanToProto
  simp [parseUuid_formatUuid, planOriginFromProto_written, hsegments,
    parsePresent_format ProposalId.value, hsource, -map_map]

theorem travelDelayFromProto_toProto :
    travelDelayFromProto (travelDelayToProto delay) = some delay := by
  simp [travelDelayFromProto, travelDelayToProto, parseUuid_formatUuid]

theorem formatUuid_ne_empty : formatUuid uuid ≠ "" := by
  intro hempty
  have hparsed := parseUuid_formatUuid uuid
  rw [hempty] at hparsed
  cases hparsed

theorem isValid_snapshotState {state : TripState} (hvalid : state.isValid) :
    (snapshotState state).isValid := by
  have h := (TripState.isValid_iff state).mp hvalid
  exact (TripState.isValid_iff _).mpr { h with observation := rfl, proposal := rfl }

theorem parsePresent_currentActivity (id : Option ActivityId) :
    parsePresent (if (id.map fun id => formatUuid id.value).getD "" = "" then none
      else some ((id.map fun id => formatUuid id.value).getD "")) =
        some (id.map ActivityId.value) := by
  cases id with
  | none => rfl
  | some => simp [formatUuid_ne_empty, parsePresent, parseUuid_formatUuid]

theorem tripFromProto_toProto {state : TripState}
    (hvalid : state.isValid) (howner : parseUuid owner = some ownerId) :
    tripFromProto (tripToProto state owner) (currentPlanToProto state.currentPlan) =
      some (snapshotState state) := by
  have h := (TripState.isValid_iff state).mp hvalid
  have hplan := currentPlanFromProto_toProto h.plan.ordered
  have hacts : (state.activities.map activityToProto).mapM activityFromProto =
      some state.activities := by
    apply mapM_map_eq_some
    intro activity hmem
    exact activityFromProto_toProto (List.all_eq_true.mp h.activities activity hmem)
  have hdelays : (state.travelDelays.map travelDelayToProto).mapM travelDelayFromProto =
      some state.travelDelays :=
    mapM_map_eq_some fun delay _ => travelDelayFromProto_toProto
  have hcomp : (UInt32.ofNat state.completedPrefixCount).toNat = state.completedPrefixCount := by
    have hcount := h.count
    have hprefix := h.completed
    refine UInt32.toNat_ofNat_of_lt' ?_
    rw [UInt32.size]
    omega
  have hcur : (state.currentActivityId.map ActivityId.value).map ActivityId.mk =
      state.currentActivityId := by
    cases state.currentActivityId <;> rfl
  have hsnapshot := isValid_snapshotState hvalid
  unfold snapshotState at hsnapshot ⊢
  unfold tripFromProto tripToProto
  simp [parseUuid_formatUuid, howner, hplan, hacts, hdelays, hcomp, hcur,
    parsePresent_currentActivity, hsnapshot, -map_map]

theorem length_checksumBytes : (checksumBytes digits).length = digits.length / 2 := by
  fun_induction checksumBytes digits with
  | case1 _ _ _ ih =>
    simp only [List.length_cons, ih]
    omega
  | case2 digits hshort =>
    match digits, hshort with
    | [], _ => rfl
    | [_], _ => simp
    | first :: second :: rest, hshort => exact absurd rfl (hshort first second rest)

section Snapshot
variable {Bytes : Type} {codec : PayloadCodec Bytes} {state : TripState}
  {versions : TripRuntimeVersionSnapshot} {owner : String} {ownerId : BitVec 128}

def PayloadCodec.fits (codec : PayloadCodec Bytes) (payload : Proto.TripStateSnapshot) : Bool :=
  (codec.serialize payload).any fun bytes => decide (codec.size bytes ≤ 2 ^ 32 - 1)

theorem snapshotToProto_eq_ok (hvalid : state.isValid)
    (hsettled : versions.acceptedMutationSequence = versions.finalizedMutationSequence)
    (howner : parseUuid owner = some ownerId) :
    snapshotToProto codec state versions owner = .ok blob ↔
      ∃ bytes, codec.serialize (snapshotPayload state versions owner) = some bytes ∧
        codec.size bytes ≤ 2 ^ 32 - 1 ∧ snapshotBlob codec versions bytes = blob := by
  unfold snapshotToProto
  simp only [hvalid, hsettled, howner, beq_self_eq_true, Bool.not_true, isSome_some,
    Bool.or_false, Bool.false_eq_true, if_false]
  cases hser : codec.serialize (snapshotPayload state versions owner) with
  | none => simp
  | some =>
    simp only [decide_eq_true_eq, Option.some.injEq, exists_eq_left']
    split
    next hlarge =>
      simp only [reduceCtorEq, false_iff, not_and]
      omega
    next hsize =>
      rw [Except.ok.injEq]
      exact (and_iff_right (Nat.le_of_not_lt hsize)).symm

theorem stateFromSnapshot_blob (hvalid : state.isValid)
    (hsettled : versions.acceptedMutationSequence = versions.finalizedMutationSequence)
    (howner : parseUuid owner = some ownerId)
    (hser : codec.serialize (snapshotPayload state versions owner) = some bytes)
    (hsize : codec.size bytes ≤ 2 ^ 32 - 1) :
    stateFromSnapshot codec (snapshotBlob codec versions bytes) =
      some (snapshotState state, snapshotVersions (snapshotBlob codec versions bytes)
        (snapshotPayload state versions owner)) := by
  have hparsed := codec.parse_serialize hser
  have hdeclared : (UInt32.ofNat (codec.size bytes)).toNat = codec.size bytes := by
    refine UInt32.toNat_ofNat_of_lt' ?_
    rw [UInt32.size]
    omega
  have hchecksum : (checksumBytes (codec.sha256Hex bytes)).length = 32 := by
    rw [length_checksumBytes, codec.length_sha256Hex]
  have htrip := tripFromProto_toProto hvalid howner
  unfold stateFromSnapshot
  simp [snapshotBlob, hparsed, hdeclared, hchecksum, snapshotPayload, htrip, hsettled]

def recoveryEnvelope (tripId : TripId) (runtimeEpoch : UInt64)
    (versions : TripRuntimeVersionSnapshot) (blob : Proto.SnapshotBlob Bytes) :
    Proto.PlannerStreamRequest Bytes where
  tripId := formatUuid tripId.value
  runtimeEpoch := runtimeEpoch
  bootstrapTrip := some {
    base := .snapshot blob
    finalizedMutationSequence := versions.finalizedMutationSequence
    tripRevision := versions.tripRevision
    currentObservation := none
    currentObservationSequence := 0
    currentPlan := none }

theorem bootstrapFromProto_recovery (hvalid : state.isValid)
    (hsettled : versions.acceptedMutationSequence = versions.finalizedMutationSequence)
    (howner : parseUuid owner = some ownerId)
    (hser : codec.serialize (snapshotPayload state versions owner) = some bytes)
    (hsize : codec.size bytes ≤ 2 ^ 32 - 1) (hepoch : runtimeEpoch ≠ 0) :
    bootstrapFromProto codec (recoveryEnvelope state.tripId runtimeEpoch versions
        (snapshotBlob codec versions bytes)) =
      .ok ⟨snapshotState state, ⟨ownerId⟩, runtimeEpoch, versions.tripRevision,
        versions.finalizedMutationSequence, 0⟩ := by
  have hstate := stateFromSnapshot_blob hvalid hsettled howner hser hsize
  have hparsed := codec.parse_serialize hser
  have hbase : bootstrapBase codec ⟨.snapshot (snapshotBlob codec versions bytes),
      versions.finalizedMutationSequence, versions.tripRevision, none, 0, none⟩ state.tripId =
      .ok (snapshotState state, owner) := by
    unfold bootstrapBase
    simp only [isSome_none, Bool.false_eq_true, if_false, hstate]
    simp [snapshotState, snapshotVersions, snapshotBlob, hparsed, snapshotPayload, tripToProto]
  unfold bootstrapFromProto recoveryEnvelope
  simp [hepoch, formatUuid_ne_empty, parseUuid_formatUuid, hbase, ownerFromText, howner]

end Snapshot

/-- A snapshot of a valid state is refused only for its size, and a bootstrap
from it restores all but the observation and the proposal. -/
theorem snapshot_round_trip {Bytes : Type} (codec : PayloadCodec Bytes) (state : TripState)
    (versions : TripRuntimeVersionSnapshot) (owner : String) (ownerId : UserId)
    (hvalid : state.isValid)
    (hsettled : versions.acceptedMutationSequence = versions.finalizedMutationSequence)
    (howner : parseUuid owner = some ownerId.value) :
    ((∃ blob, snapshotToProto codec state versions owner = .ok blob) ↔
        codec.fits (snapshotPayload state versions owner)) ∧
      ∀ blob, snapshotToProto codec state versions owner = .ok blob →
        ∀ runtimeEpoch, runtimeEpoch ≠ 0 →
          bootstrapFromProto codec (recoveryEnvelope state.tripId runtimeEpoch versions blob) =
            .ok ⟨{ state with currentObservation := .empty, activeProposal := none }, ownerId,
              runtimeEpoch, versions.tripRevision, versions.finalizedMutationSequence, 0⟩ := by
  constructor
  · simp only [snapshotToProto_eq_ok hvalid hsettled howner, PayloadCodec.fits, any_eq_true,
      decide_eq_true_eq]
    constructor
    · rintro ⟨_, bytes, hser, hsize, -⟩
      exact ⟨bytes, hser, hsize⟩
    · rintro ⟨bytes, hser, hsize⟩
      exact ⟨_, bytes, hser, hsize, rfl⟩
  · intro blob hblob runtimeEpoch hepoch
    obtain ⟨bytes, hser, hsize, rfl⟩ := (snapshotToProto_eq_ok hvalid hsettled howner).mp hblob
    exact bootstrapFromProto_recovery hvalid hsettled howner hser hsize hepoch

/-- A codec whose bytes are the message, of which only the display names take
space. -/
def nameCodec : PayloadCodec Proto.TripStateSnapshot where
  size := fun payload => (payload.trip.elim [] (·.activities)).foldl
    (fun size activity => size + activity.displayName.length) 0
  serialize := some
  parse := some
  sha256Hex := fun _ => List.replicate 64 '0'
  parse_serialize := fun h => h.symm
  length_sha256Hex := fun _ => List.length_replicate

def ownerText : String := "00000000-0000-0000-0000-000000000004"

def settledVersions : TripRuntimeVersionSnapshot := ⟨3, 2, 5, 1, 4, 4, 0⟩

theorem snapshot_round_trip_garden :
    ∃ blob, snapshotToProto nameCodec gardenState settledVersions ownerText = .ok blob ∧
      bootstrapFromProto nameCodec (recoveryEnvelope gardenState.tripId 8 settledVersions blob) =
        .ok ⟨gardenState, ⟨4⟩, 8, 2, 4, 0⟩ := by
  have hround := snapshot_round_trip nameCodec gardenState settledVersions ownerText ⟨4⟩
    (by decide) rfl (by decide)
  obtain ⟨blob, hblob⟩ := hround.1.mpr (by decide)
  exact ⟨blob, hblob, hround.2 blob hblob 8 (by decide)⟩

def namedGarden (name : String) : TripState :=
  { gardenState with activities := [{ gardenVisit .planned with displayName := name }] }

theorem isValid_namedGarden {name : String} (hname : name.isEmpty = false) :
    (namedGarden name).isValid := by
  have h := (TripState.isValid_iff gardenState).mp (by decide)
  refine (TripState.isValid_iff _).mpr { h with activities := ?_ }
  have hgarden : !(gardenVisit .planned).placeId.isEmpty &&
      !(gardenVisit .planned).timeZoneName.isEmpty &&
      (gardenVisit .planned).location.isValid && (gardenVisit .planned).timing.isValid := by decide
  simpa [namedGarden, Activity.isValid, hname, and_assoc] using hgarden

def repeatedName (length : Nat) : String := String.ofList (List.replicate length 'a')

theorem length_repeatedName (length : Nat) : (repeatedName length).length = length := by
  rw [repeatedName, String.length_ofList, List.length_replicate]

theorem snapshotToProto_repeatedName (hlen : 2 ^ 32 - 1 < length) :
    (namedGarden (repeatedName length)).isValid ∧
      snapshotToProto nameCodec (namedGarden (repeatedName length)) settledVersions ownerText =
        .error "snapshot serialization failed" := by
  have hname : (repeatedName length).isEmpty = false := by
    rw [Bool.eq_false_iff]
    intro hempty
    have hzero := length_repeatedName length
    rw [String.isEmpty_iff.mp hempty, String.length_empty] at hzero
    omega
  have hvalid := isValid_namedGarden hname
  have howner : (parseUuid ownerText).isSome := by decide
  have hsize : nameCodec.size (snapshotPayload (namedGarden (repeatedName length)) settledVersions
      ownerText) = length := by
    change 0 + (repeatedName length).length = length
    rw [length_repeatedName, Nat.zero_add]
  refine ⟨hvalid, ?_⟩
  unfold snapshotToProto
  simp only [hvalid, howner, settledVersions, beq_self_eq_true, Bool.not_true, Bool.or_false,
    Bool.false_eq_true, if_false]
  change (if decide (2 ^ 32 - 1 < nameCodec.size (snapshotPayload
    (namedGarden (repeatedName length)) settledVersions ownerText)) then _ else _) = _
  rw [hsize, if_pos (by simpa using hlen)]

theorem long_name_has_no_snapshot : ∃ state : TripState, state.isValid ∧
      snapshotToProto nameCodec state settledVersions ownerText =
        .error "snapshot serialization failed" := by
  exact ⟨_, snapshotToProto_repeatedName (Nat.sub_one_lt (by decide))⟩

end LiveRoute.Transport
