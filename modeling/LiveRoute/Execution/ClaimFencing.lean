import LiveRoute.Execution.ClaimLedger
import LiveRoute.Execution.SequenceAccounting

/-! Delivery order and the fencing of claims. A worker whose claim was taken
over can no longer give its row up; what it can still do is to store an
outcome, and the outcome of a mirror is not always a resolution. -/
namespace LiveRoute.Execution
open Domain Persistence Gateway Runs Option

variable {claim : HeldClaim} {tripId : TripId} {delivery : DeliveryState}

def OutboxWorld.record? (world : OutboxWorld) (tripId : TripId) : Option TripRecord :=
  (world.store? tripId).map TripStore.record

def OutboxWorld.delivery? (world : OutboxWorld) (tripId : TripId) (eventId : EventId) :
    Option DeliveryState :=
  (world.record? tripId).bind fun record => record.delivery? eventId

def OutboxWorld.isLive (world : OutboxWorld) (claim : HeldClaim) : Bool :=
  (world.store? claim.row.tripId).any fun store => store.holds world.now claim

def OutboxWorld.isTakenOver (world : OutboxWorld) (claim : HeldClaim) : Bool :=
  decide (claim ∈ world.issued) && decide (claim.row.claimExpiresAt ≤ world.now) &&
    world.issued.any fun later => later.isFor claim.row.tripId claim.row.command.eventId &&
      decide (claim.row.attemptCount < later.row.attemptCount)

/-- What the step of a worker may do to a row that another worker has taken
over: nothing, or resolve it. -/
def OutboxWorld.SettlesOnly (world : OutboxWorld) (step : OutboxStep) (claim : HeldClaim) : Prop :=
  (world.step step).delivery? claim.row.tripId claim.row.command.eventId =
      world.delivery? claim.row.tripId claim.row.command.eventId ∨
    (world.step step).delivery? claim.row.tripId claim.row.command.eventId = some .accepted ∨
    (world.step step).delivery? claim.row.tripId claim.row.command.eventId = some .terminalRejected

structure Fenced (world : OutboxWorld) (step : OutboxStep) : Prop where
  ordered : ∀ store ∈ (world.step step).stores, ∀ row ∈ store.outboxRows,
    row.columns.claim.isSome → store.hasPredecessor row = false
  exclusive : ∀ first ∈ (world.step step).issued, ∀ second ∈ (world.step step).issued,
    first.isFor second.row.tripId second.row.command.eventId →
    (world.step step).isLive first → (world.step step).isLive second → first = second
  unclaimed : ∀ claim ∈ (world.step step).issued, claim ∉ world.issued → ∀ earlier ∈ world.issued,
      earlier.isFor claim.row.tripId claim.row.command.eventId → world.isLive earlier = false
  released : ∀ claim delay, world.isTakenOver claim → step = .release claim delay →
    world.step step = world
  paused : ∀ claim, world.isTakenOver claim → step = .pause claim → world.step step = world
  finalized : ∀ claim transaction, world.isTakenOver claim →
    step = .finalize claim transaction → world.SettlesOnly step claim

/-- A finalization stores an outcome of the event. Pausing a mirror stores none. -/
def OutboxWorld.applies (world : OutboxWorld) (tripId : TripId) (eventId : EventId) :
    OutboxStep → Bool
  | .finalize claim transaction =>
    claim.isFor tripId eventId &&
      !((world.record? tripId).any fun record => record.pausesMirror transaction) &&
      !decide ((world.step (.finalize claim transaction)).record? tripId = world.record? tripId)
  | _ => false

open OutboxWorld (isLive record? delivery? applies)

def applications (tripId : TripId) (eventId : EventId) : OutboxWorld → List OutboxStep → Nat
  | _, [] => 0
  | world, step :: rest =>
    (if world.applies tripId eventId step then 1 else 0) +
      applications tripId eventId (world.step step) rest

/-- No mirror that is still pending is acknowledged with another result by a
worker whose claim on it was taken over. -/
def sparesTakenOver (world : OutboxWorld) : OutboxStep → Bool
  | .finalize claim transaction =>
    !(world.isTakenOver claim &&
      decide (transaction.finalizes = some claim.row.command.eventId) &&
      (world.record? claim.row.tripId).any fun record => record.pausesMirror transaction)
  | _ => true

section Lookup
variable {world : OutboxWorld}

theorem store?_mem (h : world.store? tripId = some store) :
    store ∈ world.stores ∧ store.record.tripId = tripId :=
  ⟨List.mem_of_find?_eq_some h, by simpa using List.find?_some h⟩

theorem WorldLedger.step_stores (h : WorldLedger world) (step : OutboxStep) : ∃ update : TripStore →
    TripStore, (world.step step).stores = world.stores.map update ∧ ∀ store ∈ world.stores,
    Evolves store (update store) ∨ (update store).record = store.record := by
  obtain ⟨update, hstores, hsteps⟩ := stores_step world step
  refine ⟨update, hstores, fun store hstore => ?_⟩
  obtain hstep | ⟨selected, claim, hclaim⟩ := hsteps store
  · exact .inl (hstep.evolves (h.stores store hstore))
  · exact .inr (by rw [hclaim]; rfl)

theorem store?_of_map {next : OutboxWorld} {update : TripStore → TripStore}
    (hstores : next.stores = world.stores.map update)
    (hkept : ∀ store ∈ world.stores, (update store).record.tripId = store.record.tripId)
    (tripId : TripId) : next.store? tripId = (world.store? tripId).map update := by
  unfold OutboxWorld.store?
  rw [hstores]
  exact KeyedRows.find?_map hkept tripId

theorem WorldLedger.step_tripIds (h : WorldLedger world) (step : OutboxStep) :
    ((world.step step).stores.map fun store => store.record.tripId) =
      world.stores.map fun store => store.record.tripId := by
  obtain ⟨update, hstores, hupd⟩ := h.step_stores step
  rw [hstores, List.map_map]
  apply List.map_congr_left
  intro store hstore
  obtain hevol | hsame := hupd store hstore
  · exact hevol.tripId
  · exact congrArg TripRecord.tripId hsame

theorem WorldLedger.store?_step (h : WorldLedger world) (step : OutboxStep)
    (hstore : world.store? tripId = some store) :
    ∃ after, (world.step step).store? tripId = some after ∧
      (Evolves store after ∨ after.record = store.record) := by
  obtain ⟨update, hstores, hupd⟩ := h.step_stores step
  have hkept := h.step_tripIds step
  rw [hstores, List.map_map, List.map_inj_left] at hkept
  refine ⟨update store, ?_, hupd store (store?_mem hstore).1⟩
  rw [store?_of_map hstores hkept, hstore]
  rfl

theorem update_store? {change : TripStore → TripStore}
    (hchange : ∀ store ∈ world.stores, (change store).record.tripId = store.record.tripId) :
    (world.update tripId change).store? tripId = (world.store? tripId).map change := by
  have hstores : (world.update tripId change).stores = world.stores.map fun store =>
      if store.record.tripId = tripId then change store else store := rfl
  rw [store?_of_map hstores]
  · cases hfound : world.store? tripId with
    | none => rfl
    | some store =>
      rw [map_some, if_pos (store?_mem hfound).2]
      rfl
  · intro store hstore
    split
    · exact hchange store hstore
    · rfl

theorem update_eq_self {change : TripStore → TripStore}
    (h : ∀ store ∈ world.stores, store.record.tripId = tripId → change store = store) :
    world.update tripId change = world := by
  have hstores : (world.stores.map fun store =>
      if store.record.tripId = tripId then change store else store) = world.stores := by
    conv_rhs => rw [← List.map_id world.stores]
    apply List.map_congr_left
    intro store hstore
    split
    next htrip => exact h store hstore htrip
    next => rfl
  unfold OutboxWorld.update
  rw [hstores]

theorem isLive_iff : world.isLive claim ↔
    ∃ store, world.store? claim.row.tripId = some store ∧ store.holds world.now claim := by
  simp [isLive, any_eq_true]

theorem isTakenOver_iff : world.isTakenOver claim ↔
    claim ∈ world.issued ∧ claim.row.claimExpiresAt ≤ world.now ∧ ∃ later ∈ world.issued,
      later.isFor claim.row.tripId claim.row.command.eventId ∧
        claim.row.attemptCount < later.row.attemptCount := by
  simp [OutboxWorld.isTakenOver, and_assoc]

end Lookup

section Laws
variable {world : OutboxWorld}

section
variable (h : WorldLedger world)
include h

theorem WorldLedger.ordered : ∀ store ∈ world.stores, ∀ row ∈ store.outboxRows,
    row.columns.claim.isSome → store.hasPredecessor row = false := by
  intro store hstore row hrow hclaim
  obtain ⟨hcmd, hcols⟩ := mem_outboxRows.mp hrow
  have hledger := h.stores store hstore
  rw [hasPredecessor_eq_false_iff hledger]
  exact (hledger.claimed row.command hcmd row.columns hcols hclaim).2

theorem WorldLedger.exclusive (hfirst : first ∈ world.issued) (hsecond : second ∈ world.issued)
    (hfor : first.isFor second.row.tripId second.row.command.eventId)
    (hliveFirst : world.isLive first) (hliveSecond : world.isLive second) : first = second := by
  apply h.numbered first hfirst second hsecond hfor
  obtain ⟨htrip, hevent⟩ := isFor_iff.mp hfor
  obtain ⟨store, hstore, hholds⟩ := isLive_iff.mp hliveFirst
  obtain ⟨other, hother, hholdsOther⟩ := isLive_iff.mp hliveSecond
  rw [htrip, hother] at hstore
  cases hstore
  obtain ⟨-, columns, -, -, hcols, -, hatts, -⟩ := holds_iff.mp hholds
  obtain ⟨-, stored, -, -, hstored, -, hcount, -⟩ := holds_iff.mp hholdsOther
  rw [hevent, hstored] at hcols
  cases hcols
  exact hatts.symm.trans hcount

theorem WorldLedger.unclaimed {step : OutboxStep}
    (hclaim : claim ∈ (world.step step).issued) (hnew : claim ∉ world.issued) {earlier : HeldClaim}
    (hfor : earlier.isFor claim.row.tripId claim.row.command.eventId) :
    world.isLive earlier = false := by
  generalize hnext : world.step step = next at hclaim
  have hchange : WorldChange world next := hnext ▸ step_change world step
  cases hchange with
  | same => exact absurd hclaim hnew
  | elapsed => exact absurd hclaim hnew
  | evolved => exact absurd hclaim hnew
  | claimed _ hselection =>
    have hissued := (List.mem_append.mp hclaim).resolve_left hnew
    obtain ⟨due, hdue, rfl⟩ := mem_issueClaims.mp hissued
    subst hselection
    obtain ⟨htrip, hevent⟩ := isFor_iff.mp hfor
    rw [Bool.eq_false_iff]
    intro hlive
    obtain ⟨store, hstore, hholds⟩ := isLive_iff.mp hlive
    obtain ⟨hmem, hsame⟩ := store?_mem hstore
    have hclaimable := h.claimable hmem hdue (htrip.symm.trans hsame.symm)
    obtain ⟨-, columns, stored, -, hcols, -, -, hheld, -, hrun⟩ := holds_iff.mp hholds
    rw [hevent] at hcols
    change store.outbox due.row.command.eventId = some columns at hcols
    rw [hclaimable.stored] at hcols
    cases hcols
    exact absurd (hclaimable.expired stored hheld) (Int.not_le.mpr hrun)

theorem WorldLedger.not_holds (htaken : world.isTakenOver claim) (hstore : store ∈ world.stores)
    (htrip : store.record.tripId = claim.row.tripId) : store.holds world.now claim = false := by
  obtain ⟨-, -, later, hlater, hfor, hless⟩ := isTakenOver_iff.mp htaken
  obtain ⟨hsame, hevent⟩ := isFor_iff.mp hfor
  rw [Bool.eq_false_iff]
  intro hholds
  obtain ⟨-, columns, -, -, hcols, -, hatts, -⟩ := holds_iff.mp hholds
  have hbound := (h.claims store hstore).bounded later hlater (hsame.trans htrip.symm) columns
    (hevent ▸ hcols)
  omega

theorem WorldLedger.released
    (htaken : world.isTakenOver claim) : world.step (.release claim delay) = world := by
  simp only [OutboxWorld.step]
  split
  · apply update_eq_self
    intro store hstore htrip
    have hlost := h.not_holds htaken hstore htrip
    unfold attempt
    split
    · rfl
    next after hok =>
      rw [(releaseForRetry_ok hok).1] at hlost
      cases hlost
  · rfl

theorem WorldLedger.paused (htaken : world.isTakenOver claim) :
    world.step (.pause claim) = world := by
  simp only [OutboxWorld.step]
  split
  · apply update_eq_self
    intro store hstore htrip
    have hlost := h.not_holds htaken hstore htrip
    unfold attempt
    split
    · rfl
    next after hok =>
      rw [(pauseInternal_ok hok).1] at hlost
      cases hlost
  · rfl

end

end Laws

section Finalizations
variable {record committed : TripRecord} {transaction : TripTransaction} {eventId : EventId}

theorem Delivered.deliveries (hledger : CommandLedger record)
    (h : Delivered record transaction committed row after) :
    record.delivery? row.eventId = some row.deliveryState ∧
      committed.delivery? row.eventId = some after.deliveryState := by
  have hrow := hledger.commandBy?_eq h.stored
  have hlookup :
      committed.commandBy? row.eventId = (record.commandBy? row.eventId).map fun stored =>
      if stored.eventId = after.eventId then after else stored := by
    refine commandBy?_map (fun stored _ => ?_) h.commands
    split
    next hevent => exact hevent.symm
    next => rfl
  unfold TripRecord.delivery?
  rw [hlookup, hrow]
  simp [h.same.eventId]

theorem CommandLedger.finalization_delivery (h : CommandLedger record)
    (hfin : transaction.finalizes = some eventId) : record.step transaction = record ∨
    ∃ before after, record.delivery? eventId = some before ∧ before.isResolved = false ∧
    (record.step transaction).delivery? eventId = some after ∧
    (after.isResolved ∨ record.pausesMirror transaction) := by
  unfold TripRecord.step
  split
  · exact .inl rfl
  rename_i committed hcom
  obtain hsame | ⟨row, after, hdel⟩ := h.finalization hfin (commit_change hcom)
  · exact .inl hsame
  have hevent := hdel.finalizes
  rw [hfin, some_inj] at hevent
  subst hevent
  obtain ⟨hbefore, hafter⟩ := hdel.deliveries h
  refine .inr ⟨_, _, hbefore, hdel.unresolved, hafter, ?_⟩
  exact hdel.delivery.imp_right fun hpaused => hpaused.2.2

theorem CommandLedger.pausesMirror_delivery (h : CommandLedger record)
    (hfin : transaction.finalizes = some eventId)
    (hpauses : record.pausesMirror transaction) : record.delivery? eventId = some .pending ∧
    (record.step transaction).delivery? eventId = some .pausedInternal := by
  cases transaction with
  | finalizeMirror request =>
    cases hfin
    simp only [TripRecord.pausesMirror, Bool.and_eq_true, any_eq_true,
      decide_eq_true_eq, Bool.not_eq_true', Prod.exists] at hpauses
    obtain ⟨hvalid, row, mirror, hfound, ⟨hpend, hsync⟩, hdiffers⟩ := hpauses
    obtain ⟨hrow, hevent, -, -⟩ := mirror?_stored hfound
    have hstored := h.commandBy?_eq hrow
    rw [hevent] at hstored
    have hstep : record.step (.finalizeMirror request) = record.withRows
        (record.rows.setMirror request.eventId .pausedInternal .pausedInternal) := by
      simp [TripRecord.step, TripRecord.commit, TripRecord.finalizeMirror,
        finalizeCanonicalMirror, hvalid, hfound, hpend, hsync, hdiffers]
    have hlookup : (record.withRows (record.rows.setMirror request.eventId .pausedInternal
        .pausedInternal)).commandBy? request.eventId =
        (record.commandBy? request.eventId).map fun stored =>
          if stored.eventId = request.eventId then { stored with
            mirror := stored.mirror.map fun mirror =>
              { mirror with runtimeSyncState := .pausedInternal }
            deliveryState := .pausedInternal } else stored := by
      refine commandBy?_map (fun stored _ => ?_) rfl
      split <;> rfl
    unfold TripRecord.delivery?
    rw [hstep, hlookup, hstored]
    simp [hpend, hevent]
  | _ => cases hpauses

end Finalizations

section Fencing
variable {world : OutboxWorld}

theorem finalize_record? {transaction : TripTransaction} (hissued : claim ∈ world.issued)
    (hfin : transaction.finalizes = some claim.row.command.eventId) :
    (world.step (.finalize claim transaction)).record? claim.row.tripId =
      (world.record? claim.row.tripId).map fun record => record.step transaction := by
  simp only [OutboxWorld.step, hissued, hfin, and_self, if_true, record?]
  rw [update_store? fun store _ => step_tripId]
  cases world.store? claim.row.tripId <;> rfl

theorem finalize_idle {transaction : TripTransaction}
    (h : ¬(claim ∈ world.issued ∧ transaction.finalizes = some claim.row.command.eventId)) :
    world.step (.finalize claim transaction) = world :=
  if_neg h

theorem record?_ledger (h : WorldLedger world)
    (hrecord : world.record? tripId = some record) : CommandLedger record := by
  obtain ⟨store, hstore, rfl⟩ := map_eq_some_iff.mp hrecord
  exact (h.stores store (store?_mem hstore).1).commands

theorem resolved_cases (h : delivery.isResolved) :
    delivery = .accepted ∨ delivery = .terminalRejected := by
  cases delivery with
  | accepted => exact .inl rfl
  | terminalRejected => exact .inr rfl
  | pending => cases h
  | pausedInternal => cases h

section
variable (h : WorldLedger world)
include h

theorem WorldLedger.settlesOnly (hspares : (world.record? claim.row.tripId).any
      (fun record => record.pausesMirror transaction) = false) :
    world.SettlesOnly (.finalize claim transaction) claim := by
  by_cases hacts : claim ∈ world.issued ∧ transaction.finalizes = some claim.row.command.eventId
  · unfold OutboxWorld.SettlesOnly delivery?
    rw [finalize_record? hacts.1 hacts.2]
    cases hrecord : world.record? claim.row.tripId with
    | none => exact .inl rfl
    | some record =>
      rw [hrecord, any_some] at hspares
      simp only [map_some, bind_some]
      obtain hsame | ⟨-, after, -, -, hafter, hdone | hpauses⟩ :=
        (record?_ledger h hrecord).finalization_delivery hacts.2
      · rw [hsame]
        exact .inl rfl
      · rw [hafter]
        exact .inr ((resolved_cases hdone).imp (congrArg some) (congrArg some))
      · rw [hpauses] at hspares
        cases hspares
  · unfold OutboxWorld.SettlesOnly
    rw [finalize_idle hacts]
    exact .inl rfl

theorem WorldLedger.fenced_iff (step : OutboxStep) :
    Fenced world step ↔ sparesTakenOver world step := by
  have hnext := h.step step
  constructor
  · intro hfenced
    cases step with
    | finalize claim transaction =>
      rw [sparesTakenOver, Bool.not_eq_true', Bool.eq_false_iff]
      intro hbroken
      simp only [Bool.and_eq_true, decide_eq_true_eq, any_eq_true] at hbroken
      obtain ⟨⟨htaken, hfin⟩, record, hrecord, hpauses⟩ := hbroken
      obtain ⟨hbefore, hafter⟩ := (record?_ledger h hrecord).pausesMirror_delivery hfin hpauses
      have hsettles := hfenced.finalized claim transaction htaken rfl
      unfold OutboxWorld.SettlesOnly delivery? at hsettles
      rw [finalize_record? (isTakenOver_iff.mp htaken).1 hfin, hrecord] at hsettles
      simp only [map_some, bind_some, hbefore, hafter] at hsettles
      simp at hsettles
    | _ => rfl
  · intro hspares
    constructor
    case ordered => exact hnext.ordered
    case exclusive =>
      intro first hfirst second hsecond hfor hliveFirst hliveSecond
      exact hnext.exclusive hfirst hsecond hfor hliveFirst hliveSecond
    case unclaimed =>
      intro claim hclaim hnew earlier _ hfor
      exact h.unclaimed hclaim hnew hfor
    case released =>
      rintro claim delay htaken rfl
      exact h.released htaken
    case paused =>
      rintro claim htaken rfl
      exact h.paused htaken
    case finalized =>
      rintro claim transaction htaken rfl
      rw [sparesTakenOver, Bool.not_eq_true', htaken] at hspares
      by_cases hfin : transaction.finalizes = some claim.row.command.eventId
      · rw [decide_eq_true hfin] at hspares
        exact h.settlesOnly hspares
      · unfold OutboxWorld.SettlesOnly
        rw [finalize_idle fun hacts => hfin hacts.2]
        exact .inl rfl

theorem WorldLedger.resolved_step (step : OutboxStep)
    (hdel : world.delivery? tripId eventId = some delivery) (hdone : delivery.isResolved) :
    (world.step step).delivery? tripId eventId = some delivery := by
  obtain ⟨record, hrecord, hfound⟩ := bind_eq_some_iff.mp hdel
  obtain ⟨store, hstore, rfl⟩ := map_eq_some_iff.mp hrecord
  obtain ⟨after, hafter, hupd⟩ := h.store?_step step hstore
  unfold delivery? record?
  rw [hafter, map_some, bind_some]
  obtain hevol | hsame := hupd
  · obtain ⟨row, hrow, rfl⟩ := map_eq_some_iff.mp hfound
    have hcell := hevol.cell eventId
    rw [hrow] at hcell
    unfold TripRecord.delivery?
    generalize store.outbox eventId = columns, after.outbox eventId = written at hcell
    generalize after.record.commandBy? eventId = later at hcell ⊢
    cases hcell with
    | same => rfl
    | written _ hsettled =>
      rw [hsettled hdone]
      rfl
    | deleted => rfl
  · rw [hsame]
    exact hfound

theorem WorldLedger.applies_resolves {step : OutboxStep} {eventId : EventId}
    (happlies : world.applies tripId eventId step) :
    (∃ before, world.delivery? tripId eventId = some before ∧ before.isResolved = false) ∧ ∃ after,
      (world.step step).delivery? tripId eventId = some after ∧ after.isResolved := by
  cases step with
  | finalize claim transaction =>
    simp only [applies, Bool.and_eq_true, Bool.not_eq_true', decide_eq_false_iff_not] at happlies
    obtain ⟨⟨hfor, hspares⟩, hmoved⟩ := happlies
    obtain ⟨rfl, rfl⟩ := isFor_iff.mp hfor
    by_cases hacts : claim ∈ world.issued ∧ transaction.finalizes = some claim.row.command.eventId
    · have hrecs := finalize_record? hacts.1 hacts.2
      rw [hrecs] at hmoved
      unfold delivery?
      rw [hrecs]
      cases hrecord : world.record? claim.row.tripId with
      | none =>
        rw [hrecord] at hmoved
        exact absurd rfl hmoved
      | some record =>
        rw [hrecord] at hmoved hspares
        rw [any_some] at hspares
        obtain hsame | ⟨before, after, hbefore, hopen, hafter, hdone | hpauses⟩ :=
          (record?_ledger h hrecord).finalization_delivery hacts.2
        · exact absurd (congrArg some hsame) hmoved
        · exact ⟨⟨before, hbefore, hopen⟩, after, hafter, hdone⟩
        · rw [hpauses] at hspares
          cases hspares
    · rw [finalize_idle hacts] at hmoved
      exact absurd rfl hmoved
  | _ => cases happlies

theorem WorldLedger.applications_of_resolved (hdel : world.delivery? tripId eventId = some delivery)
    (hdone : delivery.isResolved) (history : List OutboxStep) :
    applications tripId eventId world history = 0 := by
  induction history generalizing world with
  | nil => rfl
  | cons step _ ih =>
    have hidle : world.applies tripId eventId step = false := by
      rw [Bool.eq_false_iff]
      intro happlies
      obtain ⟨⟨before, hbefore, hopen⟩, -⟩ := h.applies_resolves happlies
      rw [hdel, some_inj] at hbefore
      rw [hbefore, hopen] at hdone
      cases hdone
    rw [applications, hidle, if_neg Bool.false_ne_true,
      ih (h.step step) (h.resolved_step step hdel hdone)]

theorem WorldLedger.applications_le_one : applications tripId eventId world history ≤ 1 := by
  induction history generalizing world with
  | nil => exact Nat.zero_le 1
  | cons step _ ih =>
    rw [applications]
    cases happlies : world.applies tripId eventId step with
    | false =>
      rw [if_neg Bool.false_ne_true, Nat.zero_add]
      exact ih (h.step step)
    | true =>
      obtain ⟨-, after, hafter, hdone⟩ := h.applies_resolves happlies
      rw [(h.step step).applications_of_resolved hafter hdone]
      exact Nat.le_refl 1

end

end Fencing

/-- The claims of any number of workers keep the order of delivery and fence
each other off, and an event is applied once, in every run in which no worker
acknowledges another result for a mirror that was taken over. -/
theorem claims_fenced_iff {world : OutboxWorld} (hworld : world.Initial)
    (history : List OutboxStep) :
    (Along OutboxWorld.step Fenced world history ∧
        ∀ tripId eventId, applications tripId eventId world history ≤ 1) ↔
      Along OutboxWorld.step (fun world step => sparesTakenOver world step) world
        history := by
  have hledger := WorldLedger.initial hworld
  rw [along_iff (fun world step h => h.step step) (fun world step h => h.fenced_iff step) hledger]
  exact and_iff_left fun tripId eventId => hledger.applications_le_one

def quayRequest : CreateTripRequest :=
  { tripId := ⟨1⟩, ownerUserId := ⟨2⟩, messageId := ⟨3⟩, eventId := ⟨3⟩, planId := ⟨4⟩
    defaultTimeZoneName := "UTC", activities := [harbourWalk.activity 0 "Quay"], travelDelays := []
    planSegments := [⟨(harbourWalk.activity 0 "Quay").activityId, .omitted, none, none⟩]
    payloadDigest := ⟨0⟩ }

def quayTrip : TripRecord :=
  (createTrip quayRequest ⟨0, true, [], []⟩).toOption.get (by decide +kernel)

theorem eq_ok_get {ε α : Type} {result : Except ε α} (h : result.toOption.isSome) :
    result = .ok (result.toOption.get h) := by
  cases result with
  | error => cases h
  | ok => rfl

theorem quayTrip_created : Created quayTrip := .legacy (eq_ok_get _)

def replaceQuayPlan : CanonicalEditRequest :=
  editRequest ⟨⟨5⟩, ⟨2⟩, 1, none, .currentPlan, ⟨6⟩, quayRequest.planSegments, ⟨0⟩⟩
    quayRequest.planSegments 8

def quayWorld : OutboxWorld := ⟨0, [.ofRecord quayTrip], []⟩

theorem quayWorld_initial : quayWorld.Initial := by
  refine ⟨fun store hstore => ?_, List.nodup_singleton _, rfl⟩
  exact ⟨quayTrip, quayTrip_created, List.mem_singleton.mp hstore⟩

def overtakeQuay : List OutboxStep :=
  [.commit ⟨1⟩ (.edit .currentPlan replaceQuayPlan ⟨0, [], []⟩), .claim ⟨1⟩ 10 1000 [],
    .elapse 1000000, .claim ⟨2⟩ 10 1000 []]

def overtakenClaim : HeldClaim :=
  (overtakeQuay.foldl OutboxWorld.step quayWorld).issued.get ⟨0, by decide +kernel⟩

def acknowledgeQuay (resultingTripRevision : Nat) : OutboxStep :=
  .finalize overtakenClaim (.finalizeMirror ⟨⟨5⟩, 2, 1, resultingTripRevision, some ⟨6⟩⟩)

theorem overtaken_claims_fenced : quayWorld.Initial ∧
    (overtakeQuay.foldl OutboxWorld.step quayWorld).isTakenOver overtakenClaim ∧
    Along OutboxWorld.step Fenced quayWorld (overtakeQuay ++ [acknowledgeQuay 2]) ∧
    ∀ tripId eventId, applications tripId eventId quayWorld
      (overtakeQuay ++ [acknowledgeQuay 2]) ≤ 1 :=
  ⟨quayWorld_initial, by decide +kernel,
    (claims_fenced_iff quayWorld_initial _).mpr (by decide +kernel)⟩

theorem overtaken_claim_pauses_mirror : quayWorld.Initial ∧
    (overtakeQuay.foldl OutboxWorld.step quayWorld).isTakenOver overtakenClaim ∧
    (overtakeQuay.foldl OutboxWorld.step quayWorld).delivery? ⟨1⟩ ⟨5⟩ = some .pending ∧
    ((overtakeQuay ++ [acknowledgeQuay 9]).foldl OutboxWorld.step quayWorld).delivery? ⟨1⟩ ⟨5⟩ =
      some .pausedInternal ∧
    ¬Along OutboxWorld.step Fenced quayWorld (overtakeQuay ++ [acknowledgeQuay 9]) := by
  refine ⟨quayWorld_initial, by decide +kernel, by decide +kernel, by decide +kernel, ?_⟩
  rw [along_iff (fun world step h => h.step step) (fun world step h => h.fenced_iff step)
    (WorldLedger.initial quayWorld_initial)]
  decide +kernel

/-- Over every run an event is applied at most once, and a command that is
resolved keeps its state. -/
theorem events_settle_once {world : OutboxWorld} (hworld : world.Initial)
    (done later : List OutboxStep) : applications tripId eventId world (done ++ later) ≤ 1 ∧
    ∀ delivery, (done.foldl OutboxWorld.step world).delivery? tripId eventId = some delivery →
      delivery.isResolved →
      ((done ++ later).foldl OutboxWorld.step world).delivery? tripId eventId = some delivery := by
  have hledger := WorldLedger.initial hworld
  refine ⟨hledger.applications_le_one, fun delivery hdel hdone => ?_⟩
  rw [List.foldl_append]
  have hkept := List.foldlRecOn (motive := fun world => WorldLedger world ∧
    delivery? world tripId eventId = some delivery) later OutboxWorld.step ⟨hledger.run done, hdel⟩
    fun _ h step _ => ⟨h.1.step step, h.1.resolved_step step h.2 hdone⟩
  exact hkept.2

theorem overtaken_events_settle_once :
    applications ⟨1⟩ ⟨5⟩ quayWorld ((overtakeQuay ++ [acknowledgeQuay 2]) ++ [acknowledgeQuay 9]) =
      1 ∧
    (((overtakeQuay ++ [acknowledgeQuay 2]) ++ [acknowledgeQuay 9]).foldl OutboxWorld.step
      quayWorld).delivery? ⟨1⟩ ⟨5⟩ = some .accepted := by
  obtain ⟨honce, hkept⟩ := @events_settle_once ⟨1⟩ ⟨5⟩ _ quayWorld_initial
    (overtakeQuay ++ [acknowledgeQuay 2]) [acknowledgeQuay 9]
  exact ⟨Nat.le_antisymm honce (by decide +kernel), hkept _ (by decide +kernel) (by decide)⟩

end LiveRoute.Execution
