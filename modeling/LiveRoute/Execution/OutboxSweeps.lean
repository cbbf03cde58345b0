import LiveRoute.Execution.ClaimFencing
import LiveRoute.Persistence.SnapshotFacts

/-! The sweeps over the outbox by sequence. A confirmation, a bootstrap and a
snapshot each cover the rows up to a sequence; none of them confirms or deletes
a row that is unresolved. -/
namespace LiveRoute.Execution
open Domain Persistence Gateway Runs

structure SweepsResolved (before after : TripStore) : Prop where
  confirmed : ∀ eventId columns, after.outbox eventId = some columns →
    columns.finalizationConfirmedAt.isSome →
      (∃ earlier, before.outbox eventId = some earlier ∧
        earlier.finalizationConfirmedAt = columns.finalizationConfirmedAt) ∨
      ∃ row, after.record.commandBy? eventId = some row ∧ row.deliveryState.isResolved ∧
        row.mutationSequence ≤ after.record.finalizedMutationSequence
  deleted : ∀ eventId columns, before.outbox eventId = some columns →
    after.outbox eventId = none → ∃ row, before.record.commandBy? eventId = some row ∧
      row.deliveryState.isResolved ∧ ∃ snapshot ∈ after.snapshots,
        row.mutationSequence ≤ snapshot.blob.coveredFinalizedMutationSequence.toNat

section Stores
variable {store after : TripStore} {now : DatabaseTime}

theorem SweepsResolved.of_kept
    (hkept : ∀ eventId earlier, store.outbox eventId = some earlier → ∃ columns,
      after.outbox eventId = some columns ∧
        columns.finalizationConfirmedAt = earlier.finalizationConfirmedAt)
    (hnew : ∀ eventId columns, store.outbox eventId = none → after.outbox eventId = some columns →
      columns.finalizationConfirmedAt = none) : SweepsResolved store after := by
  constructor
  · intro eventId columns hcols hconf
    cases hearlier : store.outbox eventId with
    | none =>
      rw [hnew eventId columns hearlier hcols] at hconf
      cases hconf
    | some earlier =>
      obtain ⟨found, hfound, hsame⟩ := hkept eventId earlier hearlier
      rw [hcols] at hfound
      cases hfound
      exact .inl ⟨earlier, rfl, hsame.symm⟩
  · intro eventId columns hcols hnone
    obtain ⟨found, hfound, -⟩ := hkept eventId columns hcols
    rw [hnone] at hfound
    cases hfound

theorem SweepsResolved.refl (store : TripStore) : SweepsResolved store store :=
  .of_kept (fun _ earlier hearlier => ⟨earlier, hearlier, rfl⟩)
    (fun _ _ hnone hsome => by rw [hnone] at hsome; cases hsome)

theorem commit_sweeps (store : TripStore) (now : DatabaseTime) (transaction : TripTransaction)
    (hledger : StoreLedger store) : SweepsResolved store (store.commit now transaction) := by
  have hcols : ∀ eventId, (store.commit now transaction).outbox eventId =
      committedColumns now (store.record.delivery? eventId)
        ((store.record.step transaction).delivery? eventId) (store.outbox eventId) :=
    fun _ => rfl
  refine .of_kept (fun eventId earlier hearlier => ?_) (fun eventId columns hnone hsome => ?_)
  · rw [hcols, hearlier]
    cases hbefore : store.record.delivery? eventId with
    | none =>
      rw [TripRecord.delivery?, Option.map_eq_none_iff] at hbefore
      rw [hledger.known eventId hbefore] at hearlier
      cases hearlier
    | some =>
      cases (store.record.step transaction).delivery? eventId with
      | none => exact ⟨earlier, rfl, rfl⟩
      | some =>
        rw [committedColumns]
        split
        · exact ⟨earlier, rfl, rfl⟩
        · exact ⟨earlier.unclaimed, rfl, rfl⟩
  · rw [hcols, hnone] at hsome
    cases hbefore : store.record.delivery? eventId with
    | none =>
      cases hafter : (store.record.step transaction).delivery? eventId with
      | none =>
        rw [hbefore, hafter] at hsome
        cases hsome
      | some =>
        rw [hbefore, hafter] at hsome
        cases hsome
        rfl
    | some =>
      cases hafter : (store.record.step transaction).delivery? eventId with
      | none =>
        rw [hbefore, hafter] at hsome
        cases hsome
      | some =>
        rw [hbefore, hafter, committedColumns] at hsome
        split at hsome <;> cases hsome

theorem setColumns_sweeps
    {update : OutboxColumns → OutboxColumns}
    (hupd : ∀ columns, (update columns).finalizationConfirmedAt = columns.finalizationConfirmedAt) :
    SweepsResolved store
      (({ store with record := record } : TripStore).setColumns eventId update) := by
  refine .of_kept (fun event earlier hearlier => ?_) (fun event columns hnone hsome => ?_)
  · dsimp only [TripStore.setColumns]
    rw [hearlier]
    split
    · exact ⟨update earlier, rfl, hupd earlier⟩
    · exact ⟨earlier, rfl, rfl⟩
  · dsimp only [TripStore.setColumns] at hsome
    rw [hnone] at hsome
    split at hsome <;> cases hsome

theorem claim_sweeps (store : TripStore) (selected : List DueRow) (claim : OutboxClaim) :
    SweepsResolved store (store.claimSelected selected claim) := by
  refine .of_kept (fun eventId earlier hearlier => ?_) (fun eventId columns hnone hsome => ?_)
  · obtain ⟨-, houtbox⟩ | ⟨-, houtbox⟩ := claimSelected_outbox store selected claim eventId
    · rw [houtbox, hearlier]
      exact ⟨_, rfl, rfl⟩
    · rw [houtbox]
      exact ⟨earlier, hearlier, rfl⟩
  · obtain ⟨-, houtbox⟩ | ⟨-, houtbox⟩ := claimSelected_outbox store selected claim eventId
    · rw [houtbox, hnone] at hsome
      cases hsome
    · rw [houtbox, hnone] at hsome
      cases hsome

/-- `ConfirmFinalizedMutations` confirms resolved rows at or below a sequence
that the trip has finalized. -/
theorem confirm_sweeps {sequence : UInt64}
    (hok : store.confirmFinalizedMutations now sequence = .ok after) :
    SweepsResolved store after := by
  obtain ⟨hfin, rfl⟩ := confirmFinalizedMutations_ok hok
  constructor
  · intro eventId columns hcols hconf
    dsimp only [TripStore.confirmCovered] at hcols
    split at hcols
    next hcov =>
      right
      cases hrow : store.record.commandBy? eventId with
      | none => simp [TripRecord.covered?, hrow] at hcov
      | some row =>
        obtain ⟨hseq, hdone⟩ := (covered?_any hrow).mp hcov
        exact ⟨row, hrow, hdone, Nat.le_trans hseq hfin⟩
    next => exact .inl ⟨columns, hcols, rfl⟩
  · intro eventId columns hcols hnone
    dsimp only [TripStore.confirmCovered] at hnone
    rw [hcols] at hnone
    split at hnone <;> cases hnone

/-- A bootstrap confirms a mirror with its resolution, and every other covered
row only when it is resolved already. -/
theorem resolve_sweeps (hledger : StoreLedger store)
    (hok : store.resolveCanonicalBootstrap now request = .ok after) :
    SweepsResolved store after := by
  have hevol := hledger.resolve hok
  have hconf := (hledger.evolves hevol).confirmed
  obtain ⟨-, rfl⟩ := resolveCanonicalBootstrap_ok hok
  constructor
  · intro eventId columns hcols hsome
    cases hcov : store.record.covered? store.record.finalizedMutationSequence eventId with
    | none =>
      simp only [TripStore.resolveCovered, hcov] at hcols
      exact .inl ⟨columns, hcols, rfl⟩
    | some row =>
      right
      obtain ⟨hrow, hseq⟩ := covered?_eq_some_iff.mp hcov
      have hlater :
          (store.resolveCovered now store.record.finalizedMutationSequence).record.commandBy?
          eventId = some (store.resolveCommand store.record.finalizedMutationSequence row) := by
        have hlookup : (store.resolveCovered now
            store.record.finalizedMutationSequence).record.commandBy? eventId =
            (store.record.commandBy? eventId).map
              (store.resolveCommand store.record.finalizedMutationSequence) :=
          commandBy?_map (fun row _ => (resolveCommand_same store _ row).eventId) rfl
        rw [hlookup, hrow]
        rfl
      have hsame := resolveCommand_same store store.record.finalizedMutationSequence row
      refine ⟨_, hlater, ?_, by rw [hsame.mutationSequence]; exact hseq⟩
      refine hconf _ (commandBy?_mem hlater) columns ?_ hsome
      rw [commandBy?_eventId hlater]
      exact hcols
  · intro eventId columns hcols hnone
    simp only [TripStore.resolveCovered] at hnone
    rw [hcols] at hnone
    split at hnone <;> cases hnone

theorem persist_sweeps
    (hok : store.persistSnapshot now blob = .ok after) : SweepsResolved store after := by
  obtain rfl | ⟨snapshots, hpersisted, rfl⟩ := persistSnapshot_ok hok
  · exact .refl _
  obtain ⟨-, -, -, -, hstored⟩ := persistSnapshot_inserted hpersisted
  constructor
  · intro eventId columns hcols hsome
    dsimp only [TripStore.pruneCovered] at hcols
    split at hcols
    · cases hcols
    exact .inl ⟨columns, hcols, rfl⟩
  · intro eventId columns hcols hnone
    dsimp only [TripStore.pruneCovered] at hnone
    split at hnone
    next hcov =>
      cases hrow : store.record.commandBy? eventId with
      | none => simp [TripRecord.covered?, hrow] at hcov
      | some row =>
        obtain ⟨hseq, hdone⟩ := (covered?_any hrow).mp hcov
        exact ⟨row, rfl, hdone, _, hstored, hseq⟩
    next =>
      rw [hcols] at hnone
      cases hnone

theorem StoreStep.sweeps (h : StoreStep now store after) (hstore : StoreLedger store) :
    SweepsResolved store after := by
  cases h with
  | kept => exact .refl store
  | released hok =>
    obtain ⟨-, rfl⟩ := releaseForRetry_ok hok
    exact setColumns_sweeps fun _ => rfl
  | paused hok =>
    obtain ⟨-, rfl⟩ := pauseInternal_ok hok
    exact setColumns_sweeps fun _ => rfl
  | committed transaction => exact commit_sweeps store now transaction hstore
  | confirmed hok => exact confirm_sweeps hok
  | resolved hok => exact resolve_sweeps hstore hok
  | persisted hok => exact persist_sweeps hok
  | recovered =>
    refine .of_kept (fun _ earlier hearlier => ⟨earlier, hearlier, rfl⟩)
      (fun eventId columns hnone hsome => ?_)
    rw [hnone] at hsome
    cases hsome

end Stores

structure SweepsOnly (world : OutboxWorld) (step : OutboxStep) : Prop where
  trips : ((world.step step).stores.map fun store => store.record.tripId) =
    world.stores.map fun store => store.record.tripId
  sweeps : ∀ tripId before after, world.store? tripId = some before →
    (world.step step).store? tripId = some after → SweepsResolved before after
  settled : ∀ store ∈ (world.step step).stores, ∀ row ∈ store.outboxRows,
    row.columns.finalizationConfirmedAt.isSome → row.command.deliveryState.isResolved

section Steps
variable {world : OutboxWorld}

theorem WorldLedger.step_sweeps (h : WorldLedger world) (step : OutboxStep) :
    ∃ update : TripStore → TripStore, (world.step step).stores = world.stores.map update ∧
      ∀ store ∈ world.stores, SweepsResolved store (update store) := by
  obtain ⟨update, hstores, hsteps⟩ := stores_step world step
  refine ⟨update, hstores, fun store hstore => ?_⟩
  obtain hstep | ⟨selected, claim, hclaim⟩ := hsteps store
  · exact hstep.sweeps (h.stores store hstore)
  · rw [hclaim]
    exact claim_sweeps store selected claim

theorem WorldLedger.sweepsOnly (h : WorldLedger world) (step : OutboxStep) :
    SweepsOnly world step := by
  have htrips := h.step_tripIds step
  refine ⟨htrips, fun tripId before after hbefore hafter => ?_, fun store hstore row hrow => ?_⟩
  · obtain ⟨update, hstores, hsweeps⟩ := h.step_sweeps step
    rw [hstores, List.map_map, List.map_inj_left] at htrips
    rw [store?_of_map hstores htrips, hbefore, Option.map_some, Option.some_inj] at hafter
    rw [← hafter]
    exact hsweeps before (store?_mem hbefore).1
  · obtain ⟨hcmd, hcols⟩ := mem_outboxRows.mp hrow
    exact ((h.step step).stores store hstore).confirmed row.command hcmd row.columns hcols

end Steps

/-- Every interleaving confirms and deletes resolved rows only: what it confirms
the trip has finalized, and what it deletes a stored snapshot covers. -/
theorem sweeps_resolved_only {world : OutboxWorld} (hworld : world.Initial)
    (history : List OutboxStep) : Along OutboxWorld.step SweepsOnly world history :=
  (along_iff (fun _ step h => h.step step) (fun _ step h => iff_true_intro (h.sweepsOnly step))
    (WorldLedger.initial hworld) history).mpr (along_true world history)

def quayState : TripState :=
  { tripId := ⟨1⟩, defaultTimeZoneName := "UTC", activities := quayRequest.activities
    completedPrefixCount := 0, currentActivityId := none
    currentPlan := ⟨⟨6⟩, 2, .userAuthored, quayRequest.planSegments, 0, none⟩, travelDelays := []
    currentObservation := .empty, activeProposal := none }

def quaySnapshot : SnapshotBlob :=
  { id := ⟨1⟩, tripId := ⟨1⟩, schemaVersion := 1, sourceRuntimeEpoch := 1
    sourcePlannerStateVersion := 1, tripRevision := 2, coveredFinalizedMutationSequence := 2
    payload := ⟨512, ⟨0⟩, some ⟨quayState, ⟨2⟩, 2, 2, 2, 1⟩⟩, checksum := ⟨0⟩ }

def coverQuay : List OutboxStep :=
  overtakeQuay ++ [acknowledgeQuay 2, .confirm ⟨1⟩ 2, .persistSnapshot quaySnapshot]

theorem coverQuay_sweeps : quayWorld.Initial ∧
    Along OutboxWorld.step SweepsOnly quayWorld coverQuay ∧
    (((coverQuay.take 6).foldl OutboxWorld.step quayWorld).store? ⟨1⟩).any
      (fun store => (store.outbox ⟨5⟩).any fun columns =>
        columns.finalizationConfirmedAt.isSome) ∧
    ((coverQuay.foldl OutboxWorld.step quayWorld).store? ⟨1⟩).any
      (fun store => (store.outbox ⟨5⟩).isNone) :=
  ⟨quayWorld_initial, sweeps_resolved_only quayWorld_initial coverQuay, by decide +kernel,
    by decide +kernel⟩

end LiveRoute.Execution
