import LiveRoute.Execution.OutboxLedger

/-! The claims that workers hold. An attempt count names a claim of its row, so
the one claim that a row stores is the latest that was issued for it. -/
namespace LiveRoute.Execution
open Domain Persistence Option

def HeldClaim.outboxClaim (claim : HeldClaim) : OutboxClaim :=
  ⟨claim.owner, claim.row.claimExpiresAt⟩

def HeldClaim.isFor (claim : HeldClaim) (tripId : TripId) (eventId : EventId) : Bool :=
  decide (claim.row.tripId = tripId) && decide (claim.row.command.eventId = eventId)

theorem isFor_iff {claim : HeldClaim} :
    claim.isFor tripId eventId ↔
      claim.row.tripId = tripId ∧ claim.row.command.eventId = eventId := by
  simp [HeldClaim.isFor]

structure ClaimLedger (issued : List HeldClaim) (store : TripStore) : Prop where
  recorded : ∀ claim ∈ issued, claim.row.tripId = store.record.tripId →
    (store.record.commandBy? claim.row.command.eventId).isSome
  bounded : ∀ claim ∈ issued, claim.row.tripId = store.record.tripId → ∀ columns,
    store.outbox claim.row.command.eventId = some columns →
      claim.row.attemptCount ≤ columns.attemptCount
  latest : ∀ claim ∈ issued, claim.row.tripId = store.record.tripId → ∀ columns,
    store.outbox claim.row.command.eventId = some columns →
      claim.row.attemptCount = columns.attemptCount →
        columns.claim = none ∨ columns.claim = some claim.outboxClaim
  held : ∀ eventId columns stored, store.outbox eventId = some columns →
    columns.claim = some stored → ∃ claim ∈ issued, claim.isFor store.record.tripId eventId ∧
        claim.row.attemptCount = columns.attemptCount ∧ claim.outboxClaim = stored

structure WorldLedger (world : OutboxWorld) : Prop where
  distinct : (world.stores.map fun store => store.record.tripId).Nodup
  stores : ∀ store ∈ world.stores, StoreLedger store
  claims : ∀ store ∈ world.stores, ClaimLedger world.issued store
  placed : ∀ claim ∈ world.issued, ∃ store ∈ world.stores, store.record.tripId = claim.row.tripId
  numbered : ∀ first ∈ world.issued, ∀ second ∈ world.issued,
    first.isFor second.row.tripId second.row.command.eventId →
      first.row.attemptCount = second.row.attemptCount → first = second

section Evolution
variable {issued : List HeldClaim} {before after : TripStore}

theorem CellStep.command_isSome {row written : Option CommandRow}
    {columns outbox : Option OutboxColumns} (h : CellStep row columns written outbox)
    (hrow : row.isSome) : written.isSome := by
  cases h with
  | same => exact hrow
  | inserted => cases hrow
  | written => rfl
  | deleted => rfl

theorem CellStep.columns {row written : Option CommandRow} {columns : Option OutboxColumns}
    {outbox : OutboxColumns} (h : CellStep row columns written (some outbox)) :
    (row = none ∧ outbox.claim = none) ∨ ∃ earlier, columns = some earlier ∧
      outbox.attemptCount = earlier.attemptCount ∧
        (outbox.claim = none ∨ outbox.claim = earlier.claim) := by
  cases h with
  | same => exact .inr ⟨outbox, rfl, rfl, .inr rfl⟩
  | inserted => exact .inl ⟨rfl, rfl⟩
  | written _ _ hatts hclaim =>
    refine .inr ⟨_, rfl, hatts, ?_⟩
    exact hclaim.imp_right And.left

theorem ClaimLedger.evolves (h : ClaimLedger issued before) (hevol : Evolves before after) :
    ClaimLedger issued after := by
  have hcell := hevol.cell
  have htrip := hevol.tripId
  -- A claimed event was recorded before, so its columns are not an insert.
  have hcols : ∀ claim ∈ issued, claim.row.tripId = after.record.tripId → ∀ columns,
      after.outbox claim.row.command.eventId = some columns → ∃ earlier,
        before.outbox claim.row.command.eventId = some earlier ∧
          columns.attemptCount = earlier.attemptCount ∧
            (columns.claim = none ∨ columns.claim = earlier.claim) := by
    intro claim hclaim hfor columns hstored
    have hstep := hcell claim.row.command.eventId
    rw [hstored] at hstep
    obtain ⟨hnone, -⟩ | hearlier := hstep.columns
    · have hrec := h.recorded claim hclaim (hfor.trans htrip)
      rw [hnone] at hrec
      cases hrec
    · exact hearlier
  constructor
  case recorded =>
    intro claim hclaim hfor
    exact (hcell _).command_isSome (h.recorded claim hclaim (hfor.trans htrip))
  case bounded =>
    intro claim hclaim hfor columns hstored
    obtain ⟨earlier, hbefore, hatts, -⟩ := hcols claim hclaim hfor columns hstored
    rw [hatts]
    exact h.bounded claim hclaim (hfor.trans htrip) earlier hbefore
  case latest =>
    intro claim hclaim hfor columns hstored hcount
    obtain ⟨earlier, hbefore, hatts, hnone | hkept⟩ := hcols claim hclaim hfor columns hstored
    · exact .inl hnone
    · rw [hkept]
      exact h.latest claim hclaim (hfor.trans htrip) earlier hbefore (hcount.trans hatts)
  case held =>
    intro eventId columns stored hstored hclaim
    have hstep := hcell eventId
    rw [hstored] at hstep
    obtain ⟨-, hnone⟩ | ⟨earlier, hbefore, hatts, hnone | hkept⟩ := hstep.columns
    · rw [hnone] at hclaim
      cases hclaim
    · rw [hnone] at hclaim
      cases hclaim
    · rw [hatts, htrip]
      exact h.held eventId earlier stored hbefore (hkept ▸ hclaim)

end Evolution

section Updates
variable {world : OutboxWorld}

theorem update_tripIds {change : TripStore → TripStore}
    (hchange : ∀ store ∈ world.stores, (change store).record.tripId = store.record.tripId) :
    ((world.update tripId change).stores.map fun store => store.record.tripId) =
      world.stores.map fun store => store.record.tripId := by
  change (List.map _ (List.map _ _)) = _
  rw [List.map_map]
  apply List.map_congr_left
  intro store hstore
  change (if store.record.tripId = tripId then change store else store).record.tripId = _
  split
  · exact hchange store hstore
  · rfl

theorem WorldLedger.update (h : WorldLedger world) {change : TripStore → TripStore}
    (hchange : ∀ store, StoreLedger store → Evolves store (change store)) :
    WorldLedger (world.update tripId change) := by
  have hevol : ∀ store ∈ world.stores, Evolves store
      (if store.record.tripId = tripId then change store else store) := by
    intro store hstore
    split
    · exact hchange store (h.stores store hstore)
    · exact (h.stores store hstore).refl_evolves
  constructor
  case distinct =>
    rw [update_tripIds fun store hstore => (hchange store (h.stores store hstore)).tripId]
    exact h.distinct
  case stores =>
    intro store hstore
    obtain ⟨before, hbefore, rfl⟩ := List.mem_map.mp hstore
    exact (h.stores before hbefore).evolves (hevol before hbefore)
  case claims =>
    intro store hstore
    obtain ⟨before, hbefore, rfl⟩ := List.mem_map.mp hstore
    exact (h.claims before hbefore).evolves (hevol before hbefore)
  case placed =>
    intro claim hclaim
    obtain ⟨store, hstore, htrip⟩ := h.placed claim hclaim
    exact ⟨_, List.mem_map_of_mem hstore, ((hevol store hstore).tripId).trans htrip⟩
  case numbered => exact h.numbered

end Updates

theorem mem_outboxRows {store : TripStore} :
    row ∈ store.outboxRows ↔ row.command ∈ store.record.commands ∧
      store.outbox row.command.eventId = some row.columns := by
  unfold TripStore.outboxRows
  simp only [List.mem_filterMap, map_eq_some_iff]
  constructor
  · rintro ⟨command, hcmd, columns, hcols, rfl⟩
    exact ⟨hcmd, hcols⟩
  · rintro ⟨hcmd, hcols⟩
    exact ⟨row.command, hcmd, row.columns, hcols, rfl⟩

/-- A row that can be claimed: pending, without a claim that runs, and behind
no unresolved row of its trip. -/
structure Claimable (store : TripStore) (now : DatabaseTime) (row : OutboxRow) : Prop where
  recorded : row.command ∈ store.record.commands
  stored : store.outbox row.command.eventId = some row.columns
  pending : row.command.deliveryState = .pending
  expired : ∀ claim, row.columns.claim = some claim → claim.expiresAt ≤ now
  first : ∀ lower ∈ store.record.commands, lower.mutationSequence < row.command.mutationSequence →
      lower.deliveryState.isResolved

theorem hasPredecessor_eq_false_iff (h : StoreLedger store) : store.hasPredecessor row = false ↔
    ∀ lower ∈ store.record.commands, lower.mutationSequence < row.command.mutationSequence →
    lower.deliveryState.isResolved := by
  simp only [TripStore.hasPredecessor, List.any_eq_false, Bool.and_eq_true, decide_eq_true_eq,
    Bool.not_eq_true', not_and, Bool.not_eq_false]
  constructor
  · intro hrows lower hlower hless
    cases hcols : store.outbox lower.eventId with
    | none => exact h.pruned lower hlower hcols
    | some columns => exact hrows ⟨lower, columns⟩ (mem_outboxRows.mpr ⟨hlower, hcols⟩) hless
  · intro hlower row hrow
    exact hlower row.command (mem_outboxRows.mp hrow).1

theorem claimable_of_mem (h : StoreLedger store) (hrow : row ∈ store.candidates now) :
    Claimable store now row := by
  obtain ⟨hstored, hdue⟩ := List.mem_filter.mp hrow
  simp only [OutboxRow.isDue, Bool.and_eq_true, decide_eq_true_eq, Bool.not_eq_true',
    all_eq_true] at hdue
  obtain ⟨hcmd, hcols⟩ := mem_outboxRows.mp hstored
  exact ⟨hcmd, hcols, hdue.1.1.1, hdue.1.2, (hasPredecessor_eq_false_iff h).mp hdue.2⟩

theorem mem_selectRows (h : due ∈ selectRows stores now batchSize locked) :
    ∃ store ∈ stores, store.record.tripId = due.tripId ∧ due.row ∈ store.candidates now := by
  have hsorted := (List.mem_filter.mp (List.mem_of_mem_take h)).1
  rw [Sequence.mem_sortBy, dueRows, List.mem_flatMap] at hsorted
  obtain ⟨store, hstore, hdue⟩ := hsorted
  obtain ⟨row, hrow, rfl⟩ := List.mem_map.mp hdue
  exact ⟨store, hstore, rfl, hrow⟩

theorem WorldLedger.claimable (h : WorldLedger world) (hstore : store ∈ world.stores)
    (hdue : due ∈ selectRows world.stores world.now batchSize locked)
    (htrip : due.tripId = store.record.tripId) : Claimable store world.now due.row := by
  obtain ⟨found, hfound, hsame, hrow⟩ := mem_selectRows hdue
  have hunique : found = store :=
    List.inj_on_of_nodup_map h.distinct hfound hstore (hsame.trans htrip)
  subst hunique
  exact claimable_of_mem (h.stores found hfound) hrow

section Claiming
variable {store : TripStore} {now : DatabaseTime} {selected : List DueRow} {claim : OutboxClaim}

theorem claimSelected_outbox (store : TripStore) (selected : List DueRow) (claim : OutboxClaim)
    (eventId : EventId) :
    ((∃ due ∈ selected, due.tripId = store.record.tripId ∧ due.row.command.eventId = eventId) ∧
      (store.claimSelected selected claim).outbox eventId =
        (store.outbox eventId).map fun columns => columns.claimBy claim) ∨
    ((∀ due ∈ selected, due.tripId = store.record.tripId → due.row.command.eventId ≠ eventId) ∧
      (store.claimSelected selected claim).outbox eventId = store.outbox eventId) := by
  unfold TripStore.claimSelected
  dsimp only
  split
  next hany =>
    rw [List.any_eq_true] at hany
    obtain ⟨due, hdue, hmatch⟩ := hany
    exact .inl ⟨⟨due, hdue, of_decide_eq_true hmatch⟩, rfl⟩
  next hnone =>
    rw [Bool.not_eq_true, List.any_eq_false] at hnone
    refine .inr ⟨fun due hdue htrip hevent => ?_, rfl⟩
    exact hnone due hdue (decide_eq_true ⟨htrip, hevent⟩)

theorem StoreLedger.claimSelected (h : StoreLedger store)
    (hsel : ∀ due ∈ selected, due.tripId = store.record.tripId →
      Claimable store now due.row) : StoreLedger (store.claimSelected selected claim) := by
  constructor
  case commands => exact h.commands
  case known =>
    intro eventId hnone
    have hcols := h.known eventId hnone
    obtain ⟨-, houtbox⟩ | ⟨-, houtbox⟩ := claimSelected_outbox store selected claim eventId
    · rw [houtbox, hcols]
      rfl
    · rw [houtbox, hcols]
  case pruned =>
    intro row hrow hnone
    apply h.pruned row hrow
    obtain ⟨-, houtbox⟩ | ⟨-, houtbox⟩ := claimSelected_outbox store selected claim row.eventId
    · rw [houtbox, map_eq_none_iff] at hnone
      exact hnone
    · rw [← houtbox]
      exact hnone
  case claimed =>
    intro row hrow columns hcols hclaim
    obtain ⟨⟨due, hdue, htrip, hevent⟩, -⟩ | ⟨-, houtbox⟩ :=
      claimSelected_outbox store selected claim row.eventId
    · have hclaimable := hsel due hdue htrip
      have hsame : due.row.command = row := h.commands.row_unique hclaimable.recorded hrow hevent
      rw [← hsame]
      exact ⟨hclaimable.pending, hclaimable.first⟩
    · rw [houtbox] at hcols
      exact h.claimed row hrow columns hcols hclaim
  case confirmed =>
    intro row hrow columns hcols hconf
    obtain ⟨-, houtbox⟩ | ⟨-, houtbox⟩ := claimSelected_outbox store selected claim row.eventId
    · rw [houtbox] at hcols
      obtain ⟨earlier, hearlier, rfl⟩ := map_eq_some_iff.mp hcols
      exact h.confirmed row hrow earlier hearlier hconf
    · rw [houtbox] at hcols
      exact h.confirmed row hrow columns hcols hconf

def issueClaims (selected : List DueRow) (claim : OutboxClaim) : List HeldClaim :=
  (Sequence.sortBy isReturnedBefore (selected.map fun due => due.claimed claim)).map fun row =>
    ⟨claim.owner, row⟩

theorem mem_issueClaims : held ∈ issueClaims selected claim ↔
    ∃ due ∈ selected, held = ⟨claim.owner, due.claimed claim⟩ := by
  simp only [issueClaims, List.mem_map, Sequence.mem_sortBy]
  constructor
  · rintro ⟨-, ⟨due, hdue, rfl⟩, rfl⟩
    exact ⟨due, hdue, rfl⟩
  · rintro ⟨due, hdue, rfl⟩
    exact ⟨_, ⟨due, hdue, rfl⟩, rfl⟩

theorem ClaimLedger.claimSelected (h : ClaimLedger issued store) (hledger : StoreLedger store)
    (hsel : ∀ due ∈ selected, due.tripId = store.record.tripId → Claimable store now due.row) :
    ClaimLedger (issued ++ issueClaims selected claim) (store.claimSelected selected claim) := by
  have hlookup : ∀ due ∈ selected, due.tripId = store.record.tripId →
      store.record.commandBy? due.row.command.eventId = some due.row.command :=
    fun due hdue htrip => hledger.commands.commandBy?_eq (hsel due hdue htrip).recorded
  -- An issued claim counts one attempt more than the row did, so it is the
  -- latest of its row and no claim that is already out has its number.
  have hcounts : ∀ due ∈ selected, due.tripId = store.record.tripId → ∀ columns,
      (store.claimSelected selected claim).outbox due.row.command.eventId = some columns →
        columns = due.row.columns.claimBy claim := by
    intro due hdue htrip columns hcols
    obtain ⟨-, houtbox⟩ | ⟨hother, -⟩ :=
      claimSelected_outbox store selected claim due.row.command.eventId
    · rw [houtbox, (hsel due hdue htrip).stored, map_some, some_inj] at hcols
      exact hcols.symm
    · exact absurd rfl (hother due hdue htrip)
  have hearlier : ∀ held ∈ issued, held.row.tripId = store.record.tripId → ∀ columns,
      (store.claimSelected selected claim).outbox held.row.command.eventId = some columns →
        held.row.attemptCount < columns.attemptCount ∨
          store.outbox held.row.command.eventId = some columns := by
    intro held hheld htrip columns hcols
    obtain ⟨-, houtbox⟩ | ⟨-, houtbox⟩ :=
      claimSelected_outbox store selected claim held.row.command.eventId
    · rw [houtbox] at hcols
      obtain ⟨stored, hstored, rfl⟩ := map_eq_some_iff.mp hcols
      exact .inl (Nat.lt_succ_of_le (h.bounded held hheld htrip stored hstored))
    · exact .inr (houtbox ▸ hcols)
  constructor
  case recorded =>
    intro held hheld htrip
    rcases List.mem_append.mp hheld with hold | hnew
    · exact h.recorded held hold htrip
    obtain ⟨due, hdue, rfl⟩ := mem_issueClaims.mp hnew
    change (store.record.commandBy? due.row.command.eventId).isSome
    rw [hlookup due hdue htrip]
    rfl
  case bounded =>
    intro held hheld htrip columns hcols
    rcases List.mem_append.mp hheld with hold | hnew
    · obtain hless | hstored := hearlier held hold htrip columns hcols
      · exact Nat.le_of_lt hless
      · exact h.bounded held hold htrip columns hstored
    · obtain ⟨due, hdue, rfl⟩ := mem_issueClaims.mp hnew
      rw [hcounts due hdue htrip columns hcols]
      exact Nat.le_refl _
  case latest =>
    intro held hheld htrip columns hcols hcount
    rcases List.mem_append.mp hheld with hold | hnew
    · obtain hless | hstored := hearlier held hold htrip columns hcols
      · omega
      · exact h.latest held hold htrip columns hstored hcount
    · obtain ⟨due, hdue, rfl⟩ := mem_issueClaims.mp hnew
      rw [hcounts due hdue htrip columns hcols]
      exact .inr rfl
  case held =>
    intro eventId columns stored hcols hclaim
    obtain ⟨⟨due, hdue, htrip, rfl⟩, -⟩ | ⟨-, houtbox⟩ :=
      claimSelected_outbox store selected claim eventId
    · rw [hcounts due hdue htrip columns hcols] at hclaim ⊢
      refine ⟨_, List.mem_append_right _ (mem_issueClaims.mpr ⟨due, hdue, rfl⟩), ?_, rfl, ?_⟩
      · exact isFor_iff.mpr ⟨htrip, rfl⟩
      · exact Option.some.inj hclaim
    · rw [houtbox] at hcols
      obtain ⟨held, hheld, hfor⟩ := h.held eventId columns stored hcols hclaim
      exact ⟨held, List.mem_append_left _ hheld, hfor⟩

end Claiming

section Steps
variable {world : OutboxWorld}

inductive WorldChange (world : OutboxWorld) : OutboxWorld → Prop where
  | same : WorldChange world world
  | elapsed (microseconds : Nat) : WorldChange world { world with now := world.now + microseconds }
  | claimed {selected : List DueRow} {batchSize : Nat} {locked : List (TripId × EventId)}
      (claim : OutboxClaim)
      (selection : selected = selectRows world.stores world.now batchSize locked) :
      WorldChange world { world with
        stores := world.stores.map fun store => store.claimSelected selected claim
        issued := world.issued ++ issueClaims selected claim }
  | evolved (tripId : TripId) {change : TripStore → TripStore}
      (h : ∀ store, StoreLedger store → Evolves store (change store)) :
      WorldChange world (world.update tripId change)

/-- The transactions that the steps run on the rows of one trip. -/
inductive StoreStep (now : DatabaseTime) (store : TripStore) : TripStore → Prop where
  | kept : StoreStep now store store
  | released (h : store.releaseForRetry now claim delay = .ok after) : StoreStep now store after
  | paused (h : store.pauseInternal now claim = .ok after) : StoreStep now store after
  | committed (transaction : TripTransaction) : StoreStep now store (store.commit now transaction)
  | confirmed {sequence : UInt64} (h : store.confirmFinalizedMutations now sequence = .ok after) :
      StoreStep now store after
  | resolved (h : store.resolveCanonicalBootstrap now request = .ok after) :
      StoreStep now store after
  | persisted (h : store.persistSnapshot now blob = .ok after) : StoreStep now store after
  | recovered : StoreStep now store { store with snapshots := (loadForRecovery store.snapshots).1 }

theorem StoreStep.attempt {ε : Type} {transaction : TripStore → Except ε TripStore}
    (h : ∀ after, transaction store = .ok after → StoreStep now store after) :
    StoreStep now store (Execution.attempt transaction store) := by
  unfold Execution.attempt
  split
  · exact .kept
  next after hok => exact h after hok

theorem StoreStep.evolves (h : StoreStep now store after) (hstore : StoreLedger store) :
    Evolves store after := by
  cases h with
  | kept => exact hstore.refl_evolves
  | released hok => exact hstore.release hok
  | paused hok => exact hstore.pause hok
  | committed => exact hstore.commit
  | confirmed hok => exact hstore.confirm hok
  | resolved hok => exact hstore.resolve hok
  | persisted hok => exact hstore.persist hok
  | recovered =>
    refine hstore.of_cells rfl (fun eventId row columns hrow hcols => ?_) (fun _ hnone => hnone)
    rw [hcols]
    exact .same _ _

/-- Time passes, due rows are claimed, or one trip has a transaction. -/
theorem step_cases (world : OutboxWorld) (step : OutboxStep) :
    (∃ microseconds : Nat, world.step step = { world with now := world.now + microseconds }) ∨
    (∃ claim batchSize locked, world.step step = { world with
      stores := world.stores.map fun store => store.claimSelected
        (selectRows world.stores world.now batchSize locked) claim
      issued := world.issued ++
        issueClaims (selectRows world.stores world.now batchSize locked) claim }) ∨
    ∃ tripId change, (∀ store, StoreStep world.now store (change store)) ∧
      world.step step = world.update tripId change := by
  have hidle : world = { world with now := world.now + (0 : Nat) } := by simp
  fun_cases OutboxWorld.step world step
  case case1 microseconds => exact .inl ⟨microseconds, rfl⟩
  case case3 owner batchSize durationMilliseconds locked stores rows hclaimed =>
    refine .inr (.inl
      ⟨⟨owner, world.now + durationMilliseconds * 1000⟩, batchSize.toNat, locked, ?_⟩)
    unfold claimDue at hclaimed
    split at hclaimed <;> cases hclaimed
    simp [issueClaims]
  case case4 => exact .inr (.inr ⟨_, _, fun _ => .attempt fun _ hok => .released hok, rfl⟩)
  case case6 => exact .inr (.inr ⟨_, _, fun _ => .attempt fun _ hok => .paused hok, rfl⟩)
  case case8 | case10 => exact .inr (.inr ⟨_, _, fun _ => .committed _, rfl⟩)
  case case12 => exact .inr (.inr ⟨_, _, fun _ => .attempt fun _ hok => .confirmed hok, rfl⟩)
  case case13 => exact .inr (.inr ⟨_, _, fun _ => .attempt fun _ hok => .resolved hok, rfl⟩)
  case case14 => exact .inr (.inr ⟨_, _, fun _ => .attempt fun _ hok => .persisted hok, rfl⟩)
  case case15 => exact .inr (.inr ⟨_, _, fun _ => .recovered, rfl⟩)
  all_goals exact .inl ⟨0, hidle⟩

theorem stores_step (world : OutboxWorld) (step : OutboxStep) : ∃ update : TripStore → TripStore,
    (world.step step).stores = world.stores.map update ∧ ∀ store, StoreStep world.now store
    (update store) ∨ ∃ selected claim, update store = store.claimSelected selected claim := by
  obtain ⟨_, hstep⟩ | ⟨claim, _, _, hstep⟩ | ⟨tripId, change, hsteps, hstep⟩ :=
    step_cases world step
  all_goals rw [hstep]
  · exact ⟨id, (List.map_id _).symm, fun _ => .inl .kept⟩
  · exact ⟨_, rfl, fun _ => .inr ⟨_, claim, rfl⟩⟩
  · refine ⟨_, rfl, fun store => .inl ?_⟩
    split
    · exact hsteps store
    · exact .kept

theorem step_change (world : OutboxWorld) (step : OutboxStep) :
    WorldChange world (world.step step) := by
  obtain ⟨microseconds, hstep⟩ | ⟨claim, batchSize, locked, hstep⟩ |
      ⟨tripId, change, hsteps, hstep⟩ :=
    step_cases world step
  all_goals rw [hstep]
  · exact .elapsed microseconds
  · exact .claimed claim rfl
  · exact .evolved tripId fun store hstore => (hsteps store).evolves hstore

theorem WorldLedger.claim (h : WorldLedger world) {selected : List DueRow} {claim : OutboxClaim}
    {batchSize : Nat} {locked : List (TripId × EventId)}
    (hsel : selected = selectRows world.stores world.now batchSize locked) :
    WorldLedger { world with
      stores := world.stores.map fun store => store.claimSelected selected claim
      issued := world.issued ++ issueClaims selected claim } := by
  subst hsel
  have hclaim : ∀ store ∈ world.stores, ∀ due ∈ selectRows world.stores world.now batchSize locked,
        due.tripId = store.record.tripId → Claimable store world.now due.row :=
    fun store hstore due hdue htrip => h.claimable hstore hdue htrip
  constructor
  case distinct =>
    rw [List.map_map]
    exact h.distinct
  case stores =>
    intro store hstore
    obtain ⟨before, hbefore, rfl⟩ := List.mem_map.mp hstore
    exact (h.stores before hbefore).claimSelected (hclaim before hbefore)
  case claims =>
    intro store hstore
    obtain ⟨before, hbefore, rfl⟩ := List.mem_map.mp hstore
    exact (h.claims before hbefore).claimSelected (h.stores before hbefore) (hclaim before hbefore)
  case placed =>
    intro held hheld
    rcases List.mem_append.mp hheld with hold | hnew
    · obtain ⟨store, hstore, htrip⟩ := h.placed held hold
      exact ⟨_, List.mem_map_of_mem hstore, htrip⟩
    · obtain ⟨due, hdue, rfl⟩ := mem_issueClaims.mp hnew
      obtain ⟨store, hstore, htrip, -⟩ := mem_selectRows hdue
      exact ⟨_, List.mem_map_of_mem hstore, htrip⟩
  case numbered =>
    have hnumber : ∀ held ∈ world.issued,
        ∀ due ∈ selectRows world.stores world.now batchSize locked,
          held.isFor due.tripId due.row.command.eventId →
            held.row.attemptCount ≤ due.row.columns.attemptCount := by
      intro held hheld due hdue hfor
      obtain ⟨htrip, hevent⟩ := isFor_iff.mp hfor
      obtain ⟨store, hstore, hsame, -⟩ := mem_selectRows hdue
      refine (h.claims store hstore).bounded held hheld (htrip.trans hsame.symm) _ ?_
      rw [hevent]
      exact (hclaim store hstore due hdue hsame.symm).stored
    intro first hfirst second hsecond hfor hcount
    rcases List.mem_append.mp hfirst with holdFirst | hnewFirst
    · rcases List.mem_append.mp hsecond with holdSecond | hnewSecond
      · exact h.numbered first holdFirst second holdSecond hfor hcount
      · obtain ⟨due, hdue, rfl⟩ := mem_issueClaims.mp hnewSecond
        have hbound := hnumber first holdFirst due hdue hfor
        simp only [DueRow.claimed] at hcount
        omega
    · obtain ⟨due, hdue, rfl⟩ := mem_issueClaims.mp hnewFirst
      obtain ⟨htrip, hevent⟩ := isFor_iff.mp hfor
      rcases List.mem_append.mp hsecond with holdSecond | hnewSecond
      · have hbound := hnumber second holdSecond due hdue (isFor_iff.mpr ⟨htrip.symm, hevent.symm⟩)
        simp only [DueRow.claimed] at hcount
        omega
      · obtain ⟨other, hother, rfl⟩ := mem_issueClaims.mp hnewSecond
        obtain ⟨store, hstore, hsame, -⟩ := mem_selectRows hdue
        have hdueRow := hclaim store hstore due hdue hsame.symm
        have hotherRow := hclaim store hstore other hother (htrip.symm.trans hsame.symm)
        have hcmd : due.row.command = other.row.command :=
          (h.stores store hstore).commands.row_unique hdueRow.recorded hotherRow.recorded hevent
        have hcols : due.row.columns = other.row.columns := by
          have hstored := hdueRow.stored
          rw [hcmd, hotherRow.stored] at hstored
          exact (Option.some.inj hstored).symm
        rw [DueRow.ext htrip (OutboxRow.ext hcmd hcols)]

theorem WorldLedger.step (h : WorldLedger world) (step : OutboxStep) :
    WorldLedger (world.step step) := by
  generalize hnext : world.step step = next
  have hchange : WorldChange world next := hnext ▸ step_change world step
  cases hchange with
  | same => exact h
  | elapsed => exact ⟨h.distinct, h.stores, h.claims, h.placed, h.numbered⟩
  | claimed _ hselection => exact h.claim hselection
  | evolved _ hevol => exact h.update hevol

theorem WorldLedger.run (h : WorldLedger world) (history : List OutboxStep) :
    WorldLedger (history.foldl OutboxWorld.step world) := by
  induction history generalizing world with
  | nil => exact h
  | cons step _ ih => exact ih (h.step step)

theorem StoreLedger.created (h : Created record) : StoreLedger (.ofRecord record) := by
  have hempty : ∀ row, row ∉ record.commands := by simp [created_commands h]
  exact ⟨.created h, fun _ _ => rfl, fun row hrow => absurd hrow (hempty row),
    fun row hrow => absurd hrow (hempty row), fun row hrow => absurd hrow (hempty row)⟩

theorem WorldLedger.initial (h : world.Initial) : WorldLedger world := by
  refine ⟨h.distinct, fun store hstore => ?_, fun store hstore => ?_, ?_, ?_⟩
  · obtain ⟨record, hcreated, rfl⟩ := h.created store hstore
    exact .created hcreated
  · obtain ⟨-, -, rfl⟩ := h.created store hstore
    rw [h.issued]
    exact ⟨by simp, by simp, by simp, by simp [TripStore.ofRecord]⟩
  · rw [h.issued]
    simp
  · rw [h.issued]
    simp

end Steps

end LiveRoute.Execution
