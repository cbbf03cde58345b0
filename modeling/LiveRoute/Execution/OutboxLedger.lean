import LiveRoute.Execution.CommandRows
import LiveRoute.Execution.OutboxRuns

/-! What holds of the outbox of a trip between transactions. Every transaction
but a claim acts on a row in one of four ways, and the ledger follows from
those alone. -/
namespace LiveRoute.Execution
open Domain Persistence Option
open TripStore (row? setColumns confirmCovered pruneCovered resolveCommand resolveCovered)
open TripRecord (commandBy? delivery? covered?)

variable {now : DatabaseTime} {claim : HeldClaim}

section Lookup
variable {record : TripRecord} {row : CommandRow} {eventId : EventId}

theorem commandBy?_eventId (h : record.commandBy? eventId = some row) : row.eventId = eventId := by
  simpa using List.find?_some h

theorem commandBy?_mem (h : record.commandBy? eventId = some row) : row ∈ record.commands :=
  List.mem_of_find?_eq_some h

theorem CommandLedger.commandBy?_eq (h : CommandLedger record) (hrow : row ∈ record.commands) :
    record.commandBy? row.eventId = some row :=
  KeyedRows.find?_eq_some h.distinct hrow

theorem commandBy?_eq_none_iff :
    record.commandBy? eventId = none ↔ ∀ row ∈ record.commands, row.eventId ≠ eventId := by
  simp [commandBy?]

theorem commandBy?_map {other : TripRecord} {update : CommandRow → CommandRow}
    (hupd : ∀ row ∈ record.commands, (update row).eventId = row.eventId)
    (hcmds : other.commands = record.commands.map update) :
    other.commandBy? eventId = (record.commandBy? eventId).map update := by
  unfold commandBy?
  rw [hcmds]
  exact KeyedRows.find?_map hupd eventId

end Lookup

/-- What a transaction other than a claim does to one event: nothing, an
insert, a write that keeps the attempts and no other claim, or a delete. -/
inductive CellStep : Option CommandRow → Option OutboxColumns → Option CommandRow →
    Option OutboxColumns → Prop where
  | same (command : Option CommandRow) (columns : Option OutboxColumns) :
      CellStep command columns command columns
  | inserted {row : CommandRow} (nextAttemptAt : DatabaseTime)
    (pending : row.deliveryState = .pending) :
      CellStep none none (some row) (some ⟨0, nextAttemptAt, none, none⟩)
  | written {before after : CommandRow} {columns written : OutboxColumns}
      (same : SameCommand before after)
      (settled : before.deliveryState.isResolved → after = before)
      (attempts : written.attemptCount = columns.attemptCount)
      (claim : written.claim = none ∨
        written.claim = columns.claim ∧ after.deliveryState = before.deliveryState)
      (confirmed : written.finalizationConfirmedAt.isSome →
        columns.finalizationConfirmedAt.isSome ∨ after.deliveryState.isResolved) :
      CellStep (some before) (some columns) (some after) (some written)
  | deleted {row : CommandRow} {columns : OutboxColumns}
      (resolved : row.deliveryState.isResolved) :
      CellStep (some row) (some columns) (some row) none

structure StoreLedger (store : TripStore) : Prop where
  commands : CommandLedger store.record
  known : ∀ eventId, store.record.commandBy? eventId = none → store.outbox eventId = none
  pruned : ∀ row ∈ store.record.commands, store.outbox row.eventId = none →
    row.deliveryState.isResolved
  claimed : ∀ row ∈ store.record.commands, ∀ columns, store.outbox row.eventId = some columns →
    columns.claim.isSome → row.deliveryState = .pending ∧ ∀ lower ∈ store.record.commands,
    lower.mutationSequence < row.mutationSequence → lower.deliveryState.isResolved
  confirmed : ∀ row ∈ store.record.commands, ∀ columns, store.outbox row.eventId = some columns →
    columns.finalizationConfirmedAt.isSome → row.deliveryState.isResolved

structure Evolves (before after : TripStore) : Prop where
  commands : CommandLedger after.record
  tripId : after.record.tripId = before.record.tripId
  cell : ∀ eventId, CellStep (before.record.commandBy? eventId) (before.outbox eventId)
    (after.record.commandBy? eventId) (after.outbox eventId)
  newest : ∀ row ∈ after.record.commands, before.record.commandBy? row.eventId = none →
    ∀ old ∈ before.record.commands, old.mutationSequence < row.mutationSequence

section Evolution
variable {before after : TripStore}

theorem Evolves.origin (h : Evolves before after) (hrow : row ∈ after.record.commands) :
    (before.record.commandBy? row.eventId = none ∧ row.deliveryState = .pending) ∨
      ∃ old ∈ before.record.commands, SameCommand old row ∧
        (old.deliveryState.isResolved → row = old) := by
  have hfound := h.commands.commandBy?_eq hrow
  have hcell := h.cell row.eventId
  rw [hfound] at hcell
  generalize hbefore : before.record.commandBy? row.eventId = found at hcell
  generalize before.outbox row.eventId = columns, after.outbox row.eventId = written at hcell
  cases hcell with
  | same => exact .inr ⟨row, commandBy?_mem hbefore, .refl, fun _ => rfl⟩
  | inserted _ hpend => exact .inl ⟨rfl, hpend⟩
  | written hsame hsettled =>
    exact .inr ⟨_, commandBy?_mem hbefore, hsame, hsettled⟩
  | deleted => exact .inr ⟨row, commandBy?_mem hbefore, .refl, fun _ => rfl⟩

theorem Evolves.lower_resolved (h : Evolves before after) (hold : old ∈ before.record.commands)
    (hresolved : ∀ lower ∈ before.record.commands,
      lower.mutationSequence < old.mutationSequence → lower.deliveryState.isResolved)
    (hlower : lower ∈ after.record.commands)
    (hless : lower.mutationSequence < old.mutationSequence) :
    lower.deliveryState.isResolved := by
  obtain ⟨hnew, -⟩ | ⟨earlier, hearlier, hsame, hsettled⟩ := h.origin hlower
  · have habove := h.newest lower hlower hnew old hold
    omega
  · have hdone := hresolved earlier hearlier (hsame.mutationSequence ▸ hless)
    rw [hsettled hdone]
    exact hdone

theorem StoreLedger.evolves (hledger : StoreLedger before) (h : Evolves before after) :
    StoreLedger after := by
  constructor
  case commands => exact h.commands
  case known =>
    intro eventId hnone
    have hcell := h.cell eventId
    rw [hnone] at hcell
    generalize hbefore : before.record.commandBy? eventId = found at hcell
    generalize hcols : before.outbox eventId = columns at hcell
    cases hcell
    rw [← hcols]
    exact hledger.known eventId hbefore
  case pruned =>
    intro row hrow hnone
    have hcell := h.cell row.eventId
    rw [h.commands.commandBy?_eq hrow, hnone] at hcell
    generalize hbefore : before.record.commandBy? row.eventId = found at hcell
    generalize hcols : before.outbox row.eventId = columns at hcell
    cases hcell with
    | same => exact hledger.pruned row (commandBy?_mem hbefore) hcols
    | deleted hresolved => exact hresolved
  case claimed =>
    intro row hrow columns hcols hclaim
    have hcell := h.cell row.eventId
    rw [h.commands.commandBy?_eq hrow, hcols] at hcell
    generalize hbefore : before.record.commandBy? row.eventId = found at hcell
    generalize hstored : before.outbox row.eventId = stored at hcell
    cases hcell with
    | same =>
      have hold := commandBy?_mem hbefore
      obtain ⟨hpend, hlower⟩ := hledger.claimed row hold columns hstored hclaim
      exact ⟨hpend, fun lower hmem hless => h.lower_resolved hold hlower hmem hless⟩
    | inserted => cases hclaim
    | written hsame _ _ hkept =>
      obtain hnone | ⟨hkept, hdel⟩ := hkept
      · rw [hnone] at hclaim
        cases hclaim
      · have hold := commandBy?_mem hbefore
        have hevent := commandBy?_eventId hbefore
        rw [← hevent] at hstored
        obtain ⟨hpend, hlower⟩ := hledger.claimed _ hold _ hstored (hkept ▸ hclaim)
        refine ⟨hdel.trans hpend, fun lower hmem hless => ?_⟩
        exact h.lower_resolved hold hlower hmem (hsame.mutationSequence ▸ hless)
  case confirmed =>
    intro row hrow columns hcols hconf
    have hcell := h.cell row.eventId
    rw [h.commands.commandBy?_eq hrow, hcols] at hcell
    generalize hbefore : before.record.commandBy? row.eventId = found at hcell
    generalize hstored : before.outbox row.eventId = stored at hcell
    cases hcell with
    | same => exact hledger.confirmed row (commandBy?_mem hbefore) columns hstored hconf
    | inserted => cases hconf
    | written _ hsettled _ _ hwrote =>
      obtain hearlier | hresolved := hwrote hconf
      · have hold := commandBy?_mem hbefore
        rw [← commandBy?_eventId hbefore] at hstored
        have hdone := hledger.confirmed _ hold _ hstored hearlier
        rw [hsettled hdone]
        exact hdone
      · exact hresolved

end Evolution

@[simp] theorem committedColumns_same :
    committedColumns now delivery delivery columns = columns := by
  cases delivery with
  | none => rfl
  | some => exact if_pos rfl

section Operations
variable {store : TripStore}

theorem StoreLedger.commit (h : StoreLedger store) :
    Evolves store (store.commit now transaction) := by
  obtain ⟨hchange, hcmds⟩ := h.commands.step
  refine ⟨hcmds, step_tripId, fun eventId => ?_, ?_⟩
  · change CellStep _ _ ((store.record.step transaction).commandBy? eventId)
      (committedColumns now (store.record.delivery? eventId)
        ((store.record.step transaction).delivery? eventId) (store.outbox eventId))
    unfold delivery?
    cases hchange with
    | kept hkept =>
      have hsame : (store.record.step transaction).commandBy? eventId =
          store.record.commandBy? eventId := by
        rw [commandBy?, hkept]
        rfl
      rw [hsame, committedColumns_same]
      exact .same _ _
    | @inserted row _ hins hfresh _ _ hpend _ =>
      have hlast : (store.record.step transaction).commandBy? eventId =
          (store.record.commandBy? eventId).or ([row].find? fun stored =>
            decide (stored.eventId = eventId)) := by
        rw [commandBy?, hins, List.find?_append]
        rfl
      by_cases hevent : row.eventId = eventId
      · have hnone : store.record.commandBy? eventId = none :=
          commandBy?_eq_none_iff.mpr fun stored hstored => hevent ▸ hfresh stored hstored
        rw [hlast, hnone, h.known eventId hnone]
        simp only [hevent, decide_true, List.find?_singleton, none_or, map_none]
        exact .inserted now hpend
      · have hsame : (store.record.step transaction).commandBy? eventId =
            store.record.commandBy? eventId := by
          simp [hlast, hevent]
        rw [hsame, committedColumns_same]
        exact .same _ _
    | @delivered row after hdel =>
      obtain ⟨-, hrow, hcmds, -, hsame, hopen, -, hdelivery⟩ := hdel
      have hlookup : (store.record.step transaction).commandBy? eventId =
          (store.record.commandBy? eventId).map fun stored =>
            if stored.eventId = after.eventId then after else stored := by
        refine commandBy?_map (fun stored hstored => ?_) hcmds
        split
        next hevent => exact hevent.symm
        next => rfl
      by_cases hevent : row.eventId = eventId
      · subst hevent
        have hstored := h.commands.commandBy?_eq hrow
        have hmoved : after.deliveryState ≠ row.deliveryState := by
          intro hkept
          obtain hdone | ⟨hpend, hpaused, -⟩ := hdelivery
          · rw [hkept, hopen] at hdone
            cases hdone
          · rw [hkept, hpend] at hpaused
            cases hpaused
        rw [hlookup, hstored]
        simp only [map_some, hsame.eventId, if_true, committedColumns, if_neg hmoved]
        cases hcols : store.outbox row.eventId with
        | none =>
          have hdone := h.pruned row hrow hcols
          rw [hopen] at hdone
          cases hdone
        | some =>
          refine .written hsame (fun hdone => ?_) rfl (.inl rfl) .inl
          rw [hopen] at hdone
          cases hdone
      · have hother : (store.record.step transaction).commandBy? eventId =
            store.record.commandBy? eventId := by
          rw [hlookup]
          cases hfound : store.record.commandBy? eventId with
          | none => rfl
          | some =>
            rw [map_some, if_neg]
            rw [commandBy?_eventId hfound, hsame.eventId]
            exact fun hsame => hevent hsame.symm
        rw [hother, committedColumns_same]
        exact .same _ _
  · intro row hrow hnew old hold
    rw [commandBy?_eq_none_iff] at hnew
    change row ∈ (store.record.step transaction).commands at hrow
    cases hchange with
    | kept hkept => exact absurd rfl (hnew row (hkept ▸ hrow))
    | inserted _ hins _ hseq =>
      rw [hins] at hrow
      rcases List.mem_append.mp hrow with hstored | hlast
      · exact absurd rfl (hnew row hstored)
      · rw [List.mem_singleton.mp hlast, hseq]
        exact h.commands.below old hold
    | delivered hdel =>
      rw [hdel.commands] at hrow
      obtain ⟨hkept, -⟩ | ⟨rfl, found, hfound, hevent⟩ := mem_replaceCommand.mp hrow
      · exact absurd rfl (hnew row hkept)
      · exact absurd hevent (hnew found hfound)

theorem StoreLedger.of_cells (h : StoreLedger store) {after : TripStore}
    (hrecord : after.record = store.record)
    (hcell : ∀ eventId row columns, store.record.commandBy? eventId = some row →
      store.outbox eventId = some columns →
      CellStep (some row) (some columns) (some row) (after.outbox eventId))
    (hnone : ∀ eventId, store.outbox eventId = none → after.outbox eventId = none) :
    Evolves store after := by
  refine ⟨hrecord ▸ h.commands, by rw [hrecord], fun eventId => ?_, ?_⟩
  · rw [hrecord]
    cases hcols : store.outbox eventId with
    | none =>
      rw [hnone eventId hcols]
      exact .same _ _
    | some columns =>
      cases hrow : store.record.commandBy? eventId with
      | none =>
        rw [h.known eventId hrow] at hcols
        cases hcols
      | some row => exact hcell eventId row columns hrow hcols
  · intro row hrow hnew
    rw [hrecord] at hrow
    exact absurd rfl (commandBy?_eq_none_iff.mp hnew row hrow)

theorem holds_iff : store.holds now claim ↔ ∃ row columns stored,
      store.record.commandBy? claim.row.command.eventId = some row ∧
      store.outbox claim.row.command.eventId = some columns ∧ row.deliveryState = .pending ∧
      columns.attemptCount = claim.row.attemptCount ∧ columns.claim = some stored ∧
      stored.owner = claim.owner ∧ now < stored.expiresAt := by
  simp only [TripStore.holds, row?, OutboxRow.isHeldBy, any_eq_true,
    bind_eq_some_iff, map_eq_some_iff, Bool.and_eq_true, decide_eq_true_eq]
  constructor
  · rintro ⟨_, ⟨row, hrow, columns, hcols, rfl⟩, ⟨hpend, hatts⟩, stored, hstored, howner, hlive⟩
    exact ⟨row, columns, stored, hrow, hcols, hpend, hatts, hstored, howner, hlive⟩
  · rintro ⟨row, columns, stored, hrow, hcols, hpend, hatts, hstored, howner, hlive⟩
    exact ⟨⟨row, columns⟩, ⟨row, hrow, columns, hcols, rfl⟩, ⟨hpend, hatts⟩, stored,
      hstored, howner, hlive⟩

theorem releaseForRetry_ok (h : store.releaseForRetry now claim delay = .ok after) :
    store.holds now claim ∧ after = store.setColumns claim.row.command.eventId fun columns =>
        { columns.unclaimed with nextAttemptAt := now + delay } := by
  unfold TripStore.releaseForRetry at h
  split at h
  · cases h
  split at h
  next hheld =>
    cases h
    exact ⟨hheld, rfl⟩
  next => cases h

theorem pauseInternal_ok (h : store.pauseInternal now claim = .ok after) :
    store.holds now claim ∧ after = ({ store with
        record := store.record.setDelivery claim.row.command.eventId .pausedInternal } :
          TripStore).setColumns claim.row.command.eventId OutboxColumns.unclaimed := by
  unfold TripStore.pauseInternal at h
  split at h
  · cases h
  split at h
  next hheld =>
    cases h
    exact ⟨hheld, rfl⟩
  next => cases h

theorem StoreLedger.release (h : StoreLedger store)
    (hok : store.releaseForRetry now claim delay = .ok after) : Evolves store after := by
  obtain ⟨-, rfl⟩ := releaseForRetry_ok hok
  refine h.of_cells rfl (fun eventId row columns hrow hcols => ?_) (fun eventId hnone => ?_)
  · dsimp only [setColumns]
    split
    · rw [hcols]
      exact .written (.refl) (fun _ => rfl) rfl (.inl rfl) .inl
    · rw [hcols]
      exact .same _ _
  · dsimp only [setColumns]
    rw [hnone]
    split <;> rfl

theorem StoreLedger.pause (h : StoreLedger store)
    (hok : store.pauseInternal now claim = .ok after) : Evolves store after := by
  obtain ⟨hheld, rfl⟩ := pauseInternal_ok hok
  obtain ⟨row, columns, stored, hrow, hcols, hpend, -⟩ := holds_iff.mp hheld
  have hevent := commandBy?_eventId hrow
  have hmem := commandBy?_mem hrow
  have hcmds : (store.record.setDelivery claim.row.command.eventId .pausedInternal).commands =
      replaceCommand { row with deliveryState := .pausedInternal } store.record.commands := by
    rw [← hevent]
    exact h.commands.map_eq_replace hmem rfl
  have hlookup : ∀ eventId,
      (store.record.setDelivery claim.row.command.eventId .pausedInternal).commandBy? eventId =
        (store.record.commandBy? eventId).map fun stored =>
          if stored.eventId = claim.row.command.eventId then
            { stored with deliveryState := .pausedInternal } else stored := by
    intro eventId
    refine commandBy?_map (fun stored _ => ?_) rfl
    split <;> rfl
  refine ⟨?_, rfl, fun eventId => ?_, ?_⟩
  · have hsame : SameCommand row { row with deliveryState := .pausedInternal } :=
      ⟨rfl, rfl, rfl, rfl, rfl, rfl, rfl, rfl⟩
    refine h.commands.replace hmem hsame ?_ hcmds rfl
    have hcons := h.commands.consistent row hmem
    unfold Consistent at hcons ⊢
    rw [hpend] at hcons
    exact hcons
  · change CellStep _ _ ((store.record.setDelivery _ _).commandBy? eventId)
      (if eventId = claim.row.command.eventId then (store.outbox eventId).map _
        else store.outbox eventId)
    rw [hlookup]
    by_cases hother : eventId = claim.row.command.eventId
    · rw [hother, hrow, hcols, if_pos rfl, map_some, if_pos hevent]
      refine .written ⟨rfl, rfl, rfl, rfl, rfl, rfl, rfl, rfl⟩ (fun hdone => ?_) rfl (.inl rfl) .inl
      rw [hpend] at hdone
      cases hdone
    · rw [if_neg hother]
      cases hfound : store.record.commandBy? eventId with
      | none => exact .same _ _
      | some =>
        rw [map_some, if_neg (by rw [commandBy?_eventId hfound]; exact hother)]
        exact .same _ _
  · intro stored hstored hnew
    obtain ⟨found, hfound, rfl⟩ := List.mem_map.mp hstored
    refine absurd ?_ (commandBy?_eq_none_iff.mp hnew found hfound)
    split <;> rfl

theorem confirmFinalizedMutations_ok {sequence : UInt64}
    (h : store.confirmFinalizedMutations now sequence = .ok after) :
    sequence.toNat ≤ store.record.finalizedMutationSequence ∧
      after = store.confirmCovered now sequence.toNat := by
  revert h
  fun_cases TripStore.confirmFinalizedMutations store now sequence
  case case4 hfin _ =>
    intro h
    cases h
    exact ⟨Nat.le_of_not_lt hfin, rfl⟩
  all_goals nofun

theorem covered?_eq_some_iff {record : TripRecord} {sequence : Nat} :
    record.covered? sequence eventId = some row ↔
      record.commandBy? eventId = some row ∧ row.mutationSequence ≤ sequence := by
  simp [covered?, filter_eq_some_iff]

theorem covered?_any {record : TripRecord} {sequence : Nat} {eventId : EventId} {row : CommandRow}
    (hrow : record.commandBy? eventId = some row) :
    (record.covered? sequence eventId).any (fun stored => stored.deliveryState.isResolved) ↔
      row.mutationSequence ≤ sequence ∧ row.deliveryState.isResolved := by
  simp [covered?, hrow, filter_some, any_eq_true]

theorem confirm_attempts (columns : OutboxColumns) :
    (columns.confirm now).attemptCount = columns.attemptCount := by
  unfold OutboxColumns.confirm
  split <;> rfl

theorem confirm_claim (columns : OutboxColumns) : (columns.confirm now).claim = columns.claim := by
  unfold OutboxColumns.confirm
  split <;> rfl

theorem StoreLedger.confirm (h : StoreLedger store) {sequence : UInt64}
    (hok : store.confirmFinalizedMutations now sequence = .ok after) :
    Evolves store after := by
  obtain ⟨-, rfl⟩ := confirmFinalizedMutations_ok hok
  refine h.of_cells rfl (fun eventId row columns hrow hcols => ?_) (fun eventId hnone => ?_)
  · dsimp only [confirmCovered]
    split
    next hcov =>
      rw [hcols]
      exact .written (.refl) (fun _ => rfl) (confirm_attempts columns)
        (.inr ⟨confirm_claim columns, rfl⟩) (fun _ => .inr ((covered?_any hrow).mp hcov).2)
    next =>
      rw [hcols]
      exact .same _ _
  · dsimp only [confirmCovered]
    rw [hnone]
    split <;> rfl

theorem persistSnapshot_ok (h : store.persistSnapshot now blob = .ok after) :
    after = store ∨ ∃ snapshots,
      Persistence.persistSnapshot store.snapshots store.record.tripRevision
        store.record.finalizedMutationSequence
        (store.isReadyAt blob.coveredFinalizedMutationSequence.toNat) blob now =
          .ok (snapshots, true) ∧
      after = { store.pruneCovered blob.coveredFinalizedMutationSequence.toNat with
        snapshots := snapshots } := by
  unfold TripStore.persistSnapshot at h
  split at h
  · cases h
  rename_i snapshots inserted hpersisted
  split at h
  next hins =>
    cases h
    rw [hins] at hpersisted
    exact .inr ⟨snapshots, hpersisted, rfl⟩
  next =>
    cases h
    exact .inl rfl

theorem StoreLedger.refl_evolves (h : StoreLedger store) : Evolves store store :=
  ⟨h.commands, rfl, fun _ => .same _ _,
    fun row hrow hnew => absurd rfl (commandBy?_eq_none_iff.mp hnew row hrow)⟩

theorem StoreLedger.persist (h : StoreLedger store)
    (hok : store.persistSnapshot now blob = .ok after) : Evolves store after := by
  obtain rfl | ⟨-, -, rfl⟩ := persistSnapshot_ok hok
  · exact h.refl_evolves
  refine h.of_cells rfl (fun eventId row columns hrow hcols => ?_) (fun eventId hnone => ?_)
  · dsimp only [pruneCovered]
    split
    next hcov => exact .deleted ((covered?_any hrow).mp hcov).2
    next =>
      rw [hcols]
      exact .same _ _
  · dsimp only [pruneCovered]
    rw [hnone]
    split <;> rfl

theorem resolveCanonicalBootstrap_ok (h : store.resolveCanonicalBootstrap now request = .ok after) :
    (∀ row ∈ store.outboxRows,
      row.command.mutationSequence ≤ store.record.finalizedMutationSequence →
        row.blocksBootstrap = false) ∧
      after = store.resolveCovered now store.record.finalizedMutationSequence := by
  revert h
  fun_cases TripStore.resolveCanonicalBootstrap store now request
  case case5 hvers hblocked =>
    intro h
    cases h
    simp only [not_or, not_not] at hvers
    rw [← hvers.2.1] at hblocked ⊢
    refine ⟨fun row hrow hcov => ?_, rfl⟩
    simp only [Bool.not_eq_true, List.any_eq_false, Bool.and_eq_true, decide_eq_true_eq,
      not_and] at hblocked
    exact hblocked row hrow hcov
  all_goals nofun

theorem resolvedMirror_same : SameCommand row (resolvedMirror row) := by
  unfold resolvedMirror
  split
  · exact .refl
  · refine ⟨rfl, rfl, rfl, rfl, rfl, rfl, rfl, ?_⟩
    cases hmirror : row.mirror <;> simp [CommandRow.mirrorResult, syncedMirror, hmirror]

theorem resolvedMirror_of_resolved (h : Consistent row)
    (hdone : row.deliveryState.isResolved) : resolvedMirror row = row := by
  unfold resolvedMirror
  cases hkind : row.kind.isRuntimeFirst with
  | true => rfl
  | false =>
    obtain ⟨-, mirror, hmirror, hsynced⟩ := (consistent_canonicalFirst hkind).mp h
    have hstored : row.mirror.map syncedMirror = row.mirror := by
      rw [hmirror, map_some, syncedMirror, ← hsynced.mpr hdone]
    rw [hstored, if_pos hdone]
    rfl

theorem resolvedMirror_resolved {row : CommandRow} (hkind : row.kind.isRuntimeFirst = false) :
    (resolvedMirror row).deliveryState.isResolved := by
  unfold resolvedMirror
  rw [if_neg (by simp [hkind])]
  split
  next hdone => exact hdone
  next => rfl

theorem resolvedMirror_consistent (h : Consistent row) : Consistent (resolvedMirror row) := by
  cases hkind : row.kind.isRuntimeFirst with
  | true =>
    rw [resolvedMirror, if_pos hkind]
    exact h
  | false =>
    obtain ⟨happ, mirror, hmirror, -⟩ := (consistent_canonicalFirst hkind).mp h
    have hdone := resolvedMirror_resolved hkind
    rw [consistent_canonicalFirst (by rw [resolvedMirror_same.kind]; exact hkind), hdone]
    rw [resolvedMirror, if_neg (by simp [hkind])]
    exact ⟨happ, syncedMirror mirror, by simp [hmirror], by simp [syncedMirror]⟩

theorem resolveCommand_same (store : TripStore) (sequence : Nat) (row : CommandRow) :
    SameCommand row (store.resolveCommand sequence row) := by
  unfold resolveCommand
  split
  · exact resolvedMirror_same
  · exact .refl

theorem StoreLedger.resolve (h : StoreLedger store)
    (hok : store.resolveCanonicalBootstrap now request = .ok after) : Evolves store after := by
  obtain ⟨hunblocked, rfl⟩ := resolveCanonicalBootstrap_ok hok
  generalize store.record.finalizedMutationSequence = sequence at hunblocked ⊢
  have hlookup : ∀ eventId, (store.resolveCovered now sequence).record.commandBy? eventId =
      (store.record.commandBy? eventId).map (store.resolveCommand sequence) := fun eventId =>
    commandBy?_map (fun row _ => (resolveCommand_same store sequence row).eventId) rfl
  refine ⟨?_, rfl, fun eventId => ?_, ?_⟩
  · refine h.commands.map (fun row _ => resolveCommand_same store sequence row) ?_ rfl rfl
    intro row hrow
    unfold resolveCommand
    split
    · exact resolvedMirror_consistent (h.commands.consistent row hrow)
    · exact h.commands.consistent row hrow
  · rw [hlookup]
    cases hrow : store.record.commandBy? eventId with
    | none =>
      have hcov : store.record.covered? sequence eventId = none := by
        simp [covered?, hrow]
      simp only [resolveCovered, hcov, map_none]
      exact .same _ _
    | some row =>
      have hevent := commandBy?_eventId hrow
      have hmem := commandBy?_mem hrow
      have hcons := h.commands.consistent row hmem
      rw [map_some]
      by_cases hseq : row.mutationSequence ≤ sequence
      · have hcov : store.record.covered? sequence eventId = some row :=
          covered?_eq_some_iff.mpr ⟨hrow, hseq⟩
        simp only [resolveCovered, hcov]
        cases hcols : store.outbox eventId with
        | none =>
          simp only [resolveCommand, hevent, hcols, isSome_none,
            Bool.and_false, Bool.false_eq_true, if_false, map_none]
          exact .same _ _
        | some columns =>
          simp only [resolveCommand, hevent, hcols, hseq, decide_true,
            isSome_some, Bool.and_self, if_true, map_some]
          have hstored : (⟨row, columns⟩ : OutboxRow) ∈ store.outboxRows :=
            List.mem_filterMap.mpr ⟨row, hmem, by rw [hevent, hcols]; rfl⟩
          have hfree := hunblocked ⟨row, columns⟩ hstored hseq
          have hdone : (resolvedMirror row).deliveryState.isResolved := by
            cases hkind : row.kind.isRuntimeFirst with
            | false => exact resolvedMirror_resolved hkind
            | true =>
              simp only [OutboxRow.blocksBootstrap, hkind, Bool.true_and, Bool.or_eq_false_iff,
                Bool.not_eq_false'] at hfree
              rw [resolvedMirror, if_pos hkind]
              exact hfree.2
          refine .written resolvedMirror_same
            (resolvedMirror_of_resolved hcons) ?_ ?_ fun _ => .inr hdone
          · split
            · rfl
            · exact confirm_attempts columns
          · split
            · exact .inl rfl
            next hkept =>
              refine .inr ⟨confirm_claim columns, ?_⟩
              cases hdel : row.deliveryState.isResolved with
              | true => rw [resolvedMirror_of_resolved hcons hdel]
              | false =>
                simp only [hdel, Bool.not_false, Bool.and_true, Bool.not_eq_true',
                  Bool.not_eq_false] at hkept
                rw [resolvedMirror, if_pos hkept]
      · have hcov : store.record.covered? sequence eventId = none := by
          simp [covered?, hrow, filter_some, hseq]
        simp only [resolveCovered, hcov, resolveCommand, hseq,
          decide_false, Bool.false_and, Bool.false_eq_true, if_false]
        exact .same _ _
  · intro row hrow hnew
    obtain ⟨found, hfound, rfl⟩ := List.mem_map.mp hrow
    refine absurd ?_ (commandBy?_eq_none_iff.mp hnew found hfound)
    exact ((resolveCommand_same store sequence found).eventId).symm

end Operations

end LiveRoute.Execution
