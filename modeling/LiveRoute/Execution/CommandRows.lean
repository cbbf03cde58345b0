import LiveRoute.Execution.CommitCases
import LiveRoute.Gateway.EditMirror

/-! The commands of a trip over its history. A transaction inserts a command
under the next sequence, or a finalization writes the outcome of one that is
unresolved; what a command was recorded with stays as it is. -/
namespace LiveRoute.Execution
open Domain Persistence Gateway
open List hiding after

def CommandRow.mirrorResult (row : CommandRow) : Option (Nat × PlanId) :=
  row.mirror.map fun mirror => (mirror.resultingTripRevision, mirror.resultingCurrentPlanId)

structure SameCommand (before after : CommandRow) : Prop where
  eventId : after.eventId = before.eventId
  mutationSequence : after.mutationSequence = before.mutationSequence
  expectedTripRevision : after.expectedTripRevision = before.expectedTripRevision
  kind : after.kind = before.kind
  payloadDigest : after.payloadDigest = before.payloadDigest
  event : after.event = before.event
  plannedCurrentPlan : after.plannedCurrentPlan = before.plannedCurrentPlan
  mirrorResult : CommandRow.mirrorResult after = CommandRow.mirrorResult before

theorem SameCommand.refl : SameCommand row row := ⟨rfl, rfl, rfl, rfl, rfl, rfl, rfl, rfl⟩

def Consistent (row : CommandRow) : Prop :=
  if row.kind.isRuntimeFirst then
    row.mirror = none ∧ (row.intentState = .pending ↔ row.deliveryState.isResolved = false)
  else
    row.intentState = .applied ∧ ∃ mirror, row.mirror = some mirror ∧
      (mirror.runtimeSyncState = .synced ↔ row.deliveryState.isResolved)

theorem consistent_runtimeFirst {row : CommandRow} (h : row.kind.isRuntimeFirst) :
    Consistent row ↔
      row.mirror = none ∧ (row.intentState = .pending ↔ row.deliveryState.isResolved = false) := by
  unfold Consistent
  rw [if_pos h]

theorem consistent_canonicalFirst {row : CommandRow} (h : row.kind.isRuntimeFirst = false) :
    Consistent row ↔ row.intentState = .applied ∧ ∃ mirror, row.mirror = some mirror ∧
      (mirror.runtimeSyncState = .synced ↔ row.deliveryState.isResolved) := by
  unfold Consistent
  rw [if_neg (by simp [h])]

structure CommandLedger (record : TripRecord) : Prop where
  distinct : (record.commands.map CommandRow.eventId).Nodup
  ordered : (record.commands.map CommandRow.mutationSequence).Pairwise (· < ·)
  below : ∀ row ∈ record.commands, row.mutationSequence < record.nextMutationSequence
  consistent : ∀ row ∈ record.commands, Consistent row

/-- The acknowledgement of a pending mirror names another result than the one
that is stored. -/
def TripRecord.pausesMirror (record : TripRecord) : TripTransaction → Bool
  | .finalizeMirror request =>
    request.isValid && (record.rows.mirror? request.eventId).any fun stored =>
      decide (stored.1.deliveryState = .pending) && decide (stored.2.runtimeSyncState = .pending) &&
        !canonicalMirrorIdentityMatches stored.1 stored.2 request
  | _ => false

/-- `after` takes the place of the row that has its event. -/
def replaceCommand (after : CommandRow) (commands : List CommandRow) : List CommandRow :=
  commands.map fun stored => if stored.eventId = after.eventId then after else stored

/-- A finalization has written the outcome of the unresolved command `row`. -/
structure Delivered (record : TripRecord) (transaction : TripTransaction) (committed : TripRecord)
    (row after : CommandRow) : Prop where
  finalizes : transaction.finalizes = some row.eventId
  stored : row ∈ record.commands
  commands : committed.commands = replaceCommand after record.commands
  next : committed.nextMutationSequence = record.nextMutationSequence
  same : SameCommand row after
  unresolved : row.deliveryState.isResolved = false
  consistent : Consistent after
  delivery : after.deliveryState.isResolved ∨ row.deliveryState = .pending ∧
    after.deliveryState = .pausedInternal ∧ record.pausesMirror transaction

inductive CommandsChange (record : TripRecord) (transaction : TripTransaction)
    (committed : TripRecord) : Prop where
  | kept (commands : committed.commands = record.commands)
      (next : record.nextMutationSequence ≤ committed.nextMutationSequence)
  | inserted {row : CommandRow} (command : transaction.finalizes = none)
      (commands : committed.commands = record.commands ++ [row])
      (fresh : ∀ stored ∈ record.commands, stored.eventId ≠ row.eventId)
      (sequence : row.mutationSequence = record.nextMutationSequence)
      (next : committed.nextMutationSequence = record.nextMutationSequence + 1)
      (pending : row.deliveryState = .pending) (consistent : Consistent row)
  | delivered {row after : CommandRow} (h : Delivered record transaction committed row after)

section Ledger
variable {record committed : TripRecord} {transaction : TripTransaction}

theorem CommandLedger.row_unique (h : CommandLedger record) (hleft : left ∈ record.commands)
    (hright : right ∈ record.commands) (hevent : left.eventId = right.eventId) : left = right :=
  inj_on_of_nodup_map h.distinct hleft hright hevent

theorem CommandLedger.map_eq_replace (h : CommandLedger record)
    (hrow : row ∈ record.commands) {update : CommandRow → CommandRow}
    (hupd : (update row).eventId = row.eventId) :
    (record.commands.map fun stored =>
      if stored.eventId = row.eventId then update stored else stored) =
      replaceCommand (update row) record.commands := by
  apply map_congr_left
  intro stored hstored
  rw [hupd]
  split
  next hevent => rw [h.row_unique hstored hrow hevent]
  next => rfl

theorem CommandLedger.resolves (h : CommandLedger record)
    (hfin : transaction.finalizes = some eventId)
    (hres : ResolvesAwaited record.rows mutated trip eventId row state delivery tripRevision)
    (hcmds : committed.commands = trip.commands)
    (hnext : committed.nextMutationSequence = trip.nextMutationSequence) :
    ∃ after, Delivered record transaction committed row after := by
  have hrow : row ∈ record.commands := mem_of_find?_eq_some hres.awaits.stored
  have hkind := command?_isRuntimeFirst hres.awaits.stored
  have hpend := hres.awaits.pending
  have hcons := (consistent_runtimeFirst hkind).mp (h.consistent row hrow)
  obtain ⟨⟨hstate, hdel⟩, outcome, rfl⟩ := hres.resolution
  obtain rfl := hres.event
  have hwrote : committed.commands = replaceCommand { row with
      intentState := state, deliveryState := delivery, outcome := some outcome }
      record.commands := by
    rw [hcmds]
    change (mutated.commands.map fun stored => if stored.eventId = row.eventId then _ else _) = _
    rw [hres.commands]
    exact h.map_eq_replace hrow rfl
  refine ⟨_, hfin, hrow, hwrote, ?_, ?_, hcons.2.mp hpend, ?_, .inl hdel⟩
  · rw [hnext]
    exact hres.sequence
  · exact ⟨rfl, rfl, rfl, rfl, rfl, rfl, rfl, rfl⟩
  · rw [consistent_runtimeFirst (by exact hkind)]
    exact ⟨hcons.1, by simp [hstate, hdel]⟩

/-- What `mirror?` has found. -/
theorem mirror?_stored {trip : CanonicalTrip} (h : trip.mirror? eventId = some (row, mirror)) :
    row ∈ trip.commands ∧ row.eventId = eventId ∧ row.kind.isRuntimeFirst = false ∧
      row.mirror = some mirror := by
  obtain ⟨found, hfound, hmirror⟩ := Option.bind_eq_some_iff.mp h
  obtain ⟨stored, hstored, hpair⟩ := Option.map_eq_some_iff.mp hmirror
  cases hpair
  have hcond := find?_some hfound
  simp only [Bool.and_eq_true, decide_eq_true_eq, Bool.not_eq_true'] at hcond
  exact ⟨mem_of_find?_eq_some hfound, hcond.1, hcond.2, hstored⟩

theorem CommandLedger.mirrors (h : CommandLedger record)
    (hres : MirrorResolves record.rows request row syncState delivery) :
    ∃ after, Delivered record (.finalizeMirror request)
      (record.withRows (record.rows.setMirror request.eventId syncState delivery)) row after := by
  obtain ⟨mirror, hfound, hsync, hout⟩ := hres.stored
  obtain ⟨hrow, hevent, hkind, hmirror⟩ := mirror?_stored hfound
  have hpend := hres.pending
  obtain ⟨happ, -⟩ := (consistent_canonicalFirst hkind).mp (h.consistent row hrow)
  have hwrote : (record.withRows
      (record.rows.setMirror request.eventId syncState delivery)).commands =
      replaceCommand { row with
        mirror := row.mirror.map fun stored => { stored with runtimeSyncState := syncState }
        deliveryState := delivery } record.commands := by
    rw [← hevent]
    exact h.map_eq_replace hrow rfl
  refine ⟨_, congrArg some hevent.symm, hrow, hwrote, rfl, ?_, ?_, ?_, ?_⟩
  · refine ⟨rfl, rfl, rfl, rfl, rfl, rfl, rfl, ?_⟩
    simp [CommandRow.mirrorResult, hmirror]
  · rw [hpend]
    rfl
  · rw [consistent_canonicalFirst (by exact hkind)]
    refine ⟨happ, { mirror with runtimeSyncState := syncState }, by simp [hmirror], ?_⟩
    obtain ⟨-, rfl, rfl⟩ | ⟨-, rfl, rfl⟩ := hout <;> simp [DeliveryState.isResolved]
  · obtain ⟨-, -, rfl⟩ | ⟨hdiffers, -, rfl⟩ := hout
    · exact .inl rfl
    · refine .inr ⟨hpend, rfl, ?_⟩
      simp [TripRecord.pausesMirror, hres.valid, hfound, hpend, hsync, hdiffers]

theorem validated_message {edit : CanonicalEdit}
    (h : edit.transaction.validateRequest request = .ok ()) :
    request.messageId = request.eventId := by
  have hedit : ∀ {reason}, validateEditRequest reason request = .ok () →
      request.messageId = request.eventId := by
    intro reason hok
    unfold validateEditRequest at hok
    split at hok
    · cases hok
    rename_i hvalid
    simp only [not_or, not_not] at hvalid
    exact hvalid.1
  have hact : ∀ {reason activity}, validateActivityRequest reason activity request = .ok () →
      request.messageId = request.eventId := by
    intro reason activity hok
    unfold validateActivityRequest at hok
    split at hok
    · cases hok
    rename_i hvalid
    exact hedit hvalid
  cases edit with
  | currentPlan => exact hedit h
  | trip operation =>
    cases operation with
    | addActivity => exact hact h
    | replaceActivity => exact hact h
    | removeActivity => exact hedit h
    | reorderActivities =>
      simp only [CanonicalEdit.transaction, reorderActivities, validateReorderActivitiesRequest]
        at h
      split at h
      · cases h
      split at h
      · cases h
      rename_i hvalid
      exact hedit hvalid

theorem CommandLedger.finalization (h : CommandLedger record)
    (hfin : transaction.finalizes = some eventId) (hchange : Change record transaction committed) :
    committed = record ∨ ∃ row after, Delivered record transaction committed row after := by
  cases hchange with
  | unchanged => exact .inl rfl
  | mutated _ _ hres => exact .inr ⟨_, h.resolves rfl hres rfl rfl⟩
  | resolved hevent _ hres => exact .inr ⟨_, h.resolves hevent hres rfl rfl⟩
  | accepted _ _ hres hpub =>
    obtain ⟨-, -, rfl⟩ := publish_ok hpub
    exact .inr ⟨_, h.resolves rfl hres rfl rfl⟩
  | mirrored hmirror => exact .inr ⟨_, h.mirrors hmirror⟩
  | leased hcmd =>
    rw [hcmd] at hfin
    cases hfin
  | _ => cases hfin

theorem CommandLedger.commands (h : CommandLedger record)
    (hchange : Change record transaction committed) :
    CommandsChange record transaction committed := by
  cases hfin : transaction.finalizes with
  | some =>
    obtain rfl | ⟨row, after, hdel⟩ := h.finalization hfin hchange
    · exact .kept rfl (Nat.le_refl _)
    · exact .delivered hdel
  | none =>
    cases hchange with
    | unchanged => exact .kept rfl (Nat.le_refl _)
    | recorded hmsg hrec =>
      obtain ⟨sequenceFits, revisionFits, hrow⟩ := hrec.inserted
      have hkind : (pendingRow _ _ sequenceFits revisionFits).kind.isRuntimeFirst := hrec.kind
      rw [hrec.trip_eq, hrow]
      refine .inserted rfl rfl ?_ rfl rfl rfl ?_
      · intro stored hstored
        rw [pendingRow, hmsg]
        exact hrec.fresh stored hstored
      · apply (consistent_runtimeFirst hkind).mpr
        exact ⟨rfl, by simp [pendingRow, DeliveryState.isResolved]⟩
    | edited _ _ hcom hpub =>
      obtain ⟨-, -, rfl⟩ := publish_ok hpub
      obtain ⟨sequenceFits, revisionFits, hrow⟩ := hcom.row_eq
      obtain ⟨written, -, htrip⟩ := hcom.trip_eq
      rw [htrip, hrow]
      refine .inserted rfl rfl ?_ rfl rfl rfl ?_
      · intro stored hstored
        rw [mirrorRow, ← validated_message hcom.validated]
        exact hcom.fresh stored hstored
      · apply (consistent_canonicalFirst (transaction_kind _)).mpr
        exact ⟨rfl, _, rfl, by simp [mirrorRow, DeliveryState.isResolved]⟩
    | leased => exact .kept rfl (Nat.le_refl _)
    | revised => exact .kept rfl (Nat.le_refl _)
    | activated hactd =>
      obtain ⟨-, activities, -, -, hins⟩ := hactd.inserted
      obtain ⟨rows, lifecycle, -, -, hother⟩ := hins.inserted
      exact .kept (by rw [hother]) (by rw [hother]; exact Nat.le_succ _)
    | activationCompleted _ _ _ _ hcomp =>
      obtain ⟨-, -, -, -, rfl⟩ := completeOperation_ok hcomp
      exact .kept rfl (Nat.le_refl _)
    | deactivated hdeact =>
      obtain ⟨-, -, rfl⟩ := hdeact.inserted
      exact .kept rfl (Nat.le_refl _)
    | deactivationCompleted _ _ _ _ _ hcomp =>
      obtain ⟨-, -, -, -, rfl⟩ := completeOperation_ok hcomp
      exact .kept rfl (Nat.le_refl _)
    | resolved hevent =>
      rw [hevent] at hfin
      cases hfin
    | _ => cases hfin

theorem mem_replaceCommand :
    stored ∈ replaceCommand after commands ↔ (stored ∈ commands ∧ stored.eventId ≠ after.eventId) ∨
        (stored = after ∧ ∃ row ∈ commands, row.eventId = after.eventId) := by
  unfold replaceCommand
  rw [List.mem_map]
  constructor
  · rintro ⟨row, hrow, hstored⟩
    split at hstored
    next hevent => exact .inr ⟨hstored.symm, row, hrow, hevent⟩
    next hother => exact .inl (hstored ▸ ⟨hrow, hother⟩)
  · rintro (⟨hstored, hother⟩ | ⟨rfl, row, hrow, hevent⟩)
    · exact ⟨stored, hstored, if_neg hother⟩
    · exact ⟨row, hrow, if_pos hevent⟩

theorem CommandLedger.map (h : CommandLedger record) {update : CommandRow → CommandRow}
    (hupd : ∀ stored ∈ record.commands, SameCommand stored (update stored))
    (hcons : ∀ stored ∈ record.commands, Consistent (update stored))
    (hcmds : committed.commands = record.commands.map update)
    (hnext : committed.nextMutationSequence = record.nextMutationSequence) :
    CommandLedger committed := by
  have hevents : committed.commands.map CommandRow.eventId =
      record.commands.map CommandRow.eventId := by
    rw [hcmds, map_map]
    exact map_congr_left fun stored hstored => (hupd stored hstored).eventId
  have hseqs : committed.commands.map CommandRow.mutationSequence =
      record.commands.map CommandRow.mutationSequence := by
    rw [hcmds, map_map]
    exact map_congr_left fun stored hstored => (hupd stored hstored).mutationSequence
  constructor
  case distinct => rw [hevents]; exact h.distinct
  case ordered => rw [hseqs]; exact h.ordered
  case below =>
    rw [hcmds, hnext]
    intro stored hstored
    obtain ⟨found, hfound, rfl⟩ := mem_map.mp hstored
    rw [(hupd found hfound).mutationSequence]
    exact h.below found hfound
  case consistent =>
    rw [hcmds]
    intro stored hstored
    obtain ⟨found, hfound, rfl⟩ := mem_map.mp hstored
    exact hcons found hfound

theorem CommandLedger.replace (h : CommandLedger record)
    (hrow : row ∈ record.commands) (hsame : SameCommand row after) (hafter : Consistent after)
    (hcmds : committed.commands = replaceCommand after record.commands)
    (hnext : committed.nextMutationSequence = record.nextMutationSequence) :
    CommandLedger committed := by
  refine h.map ?_ ?_ hcmds hnext
  · intro stored hstored
    split
    next hevent =>
      rw [h.row_unique hstored hrow (hevent.trans hsame.eventId)]
      exact hsame
    next => exact .refl
  · intro stored hstored
    split
    · exact hafter
    · exact h.consistent stored hstored

theorem CommandLedger.change (h : CommandLedger record)
    (hchange : CommandsChange record transaction committed) : CommandLedger committed := by
  cases hchange with
  | kept hcmds hnext =>
    constructor
    case distinct => rw [hcmds]; exact h.distinct
    case ordered => rw [hcmds]; exact h.ordered
    case below =>
      rw [hcmds]
      intro row hrow
      exact Nat.lt_of_lt_of_le (h.below row hrow) hnext
    case consistent => rw [hcmds]; exact h.consistent
  | @inserted _ _ hcmds hfresh hseq hnext _ hcons =>
    constructor
    case distinct =>
      rw [hcmds]
      exact KeyedRows.nodup_append_new h.distinct hfresh
    case ordered =>
      rw [hcmds, map_append, pairwise_append]
      refine ⟨h.ordered, pairwise_singleton _ _, ?_⟩
      intro sequence hlower last hlast
      obtain ⟨stored, hstored, rfl⟩ := mem_map.mp hlower
      rw [map_singleton, mem_singleton] at hlast
      rw [hlast, hseq]
      exact h.below stored hstored
    case below =>
      rw [hcmds, hnext]
      intro stored hstored
      rcases mem_append.mp hstored with hstored | hlast
      · exact Nat.lt_succ_of_lt (h.below stored hstored)
      · rw [mem_singleton.mp hlast, hseq]
        exact Nat.lt_succ_self _
    case consistent =>
      rw [hcmds]
      intro stored hstored
      rcases mem_append.mp hstored with hstored | hlast
      · exact h.consistent stored hstored
      · rw [mem_singleton.mp hlast]
        exact hcons
  | delivered hdel =>
    exact h.replace hdel.stored hdel.same hdel.consistent hdel.commands hdel.next

/-- What no transaction on a trip writes: whose it is and how it was created. -/
def TripRecord.identity (record : TripRecord) : TripId × UserId × Option CreationIntent :=
  (record.tripId, record.ownerUserId, record.creation)

theorem Change.identity (h : Change record transaction committed) :
    committed.identity = record.identity := by
  cases h with
  | unchanged => rfl
  | recorded => rfl
  | edited _ _ _ hpub =>
    obtain ⟨-, -, rfl⟩ := publish_ok hpub
    rfl
  | mutated => rfl
  | resolved => rfl
  | accepted _ _ _ hpub =>
    obtain ⟨-, -, rfl⟩ := publish_ok hpub
    rfl
  | mirrored => rfl
  | leased => rfl
  | revised => rfl
  | activated hactd =>
    obtain ⟨-, activities, -, -, hins⟩ := hactd.inserted
    obtain ⟨rows, lifecycle, -, -, hother⟩ := hins.inserted
    rw [hother]
    rfl
  | activationCompleted _ _ _ _ hcomp =>
    obtain ⟨-, -, -, -, rfl⟩ := completeOperation_ok hcomp
    rfl
  | deactivated hdeact =>
    obtain ⟨-, -, rfl⟩ := hdeact.inserted
    rfl
  | deactivationCompleted _ _ _ _ _ hcomp =>
    obtain ⟨-, -, -, -, rfl⟩ := completeOperation_ok hcomp
    rfl

theorem step_identity : (record.step transaction).identity = record.identity := by
  unfold TripRecord.step
  split
  · rfl
  next committed hcom => exact (commit_change hcom).identity

theorem step_tripId : (record.step transaction).tripId = record.tripId :=
  congrArg Prod.fst step_identity

theorem CommandLedger.step (h : CommandLedger record) : CommandsChange record transaction
    (record.step transaction) ∧ CommandLedger (record.step transaction) := by
  unfold TripRecord.step
  split
  · exact ⟨.kept rfl (Nat.le_refl _), h⟩
  next committed hcom =>
    have hchange := h.commands (commit_change hcom)
    exact ⟨hchange, h.change hchange⟩

theorem created_commands (h : Created record) : record.commands = [] := by
  cases h with
  | legacy hcreated =>
    obtain ⟨activities, delays, hnew⟩ := createTrip_ok hcreated
    rw [hnew.record_eq]
  | saved => rfl

theorem CommandLedger.created (h : Created record) : CommandLedger record := by
  have hcmds := created_commands h
  constructor
  case distinct => rw [hcmds]; exact nodup_nil
  case ordered => rw [hcmds]; exact List.Pairwise.nil
  case below => rw [hcmds]; exact fun row hrow => absurd hrow not_mem_nil
  case consistent => rw [hcmds]; exact fun row hrow => absurd hrow not_mem_nil

end Ledger

end LiveRoute.Execution
