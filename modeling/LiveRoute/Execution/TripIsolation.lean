import LiveRoute.Execution.ClaimFencing
import LiveRoute.Execution.DispatcherPass

/-! The trips that a pass of the dispatcher serves next to one whose planner
misbehaves. Everything that is done for a trip reads and writes the rows of
that trip alone; only a recovery that breaks off keeps the pass from the
others. -/
namespace LiveRoute.Execution
open Domain Persistence Dispatch List Bool
open PassContext (confirm dispatchFor retry finalizeOnly finalizeAndConfirm dispatch dispatchRows
  recoverConfirmations claimStep claimAndDispatch runOnce)

def OutboxWorld.others (world : OutboxWorld) (tripId : TripId) : List TripStore :=
  world.stores.filter fun store => decide (store.record.tripId ≠ tripId)

def PassState.attemptsElsewhere (state : PassState) (tripId : TripId) : List Attempt :=
  state.attempts.filter fun attempt => decide (attempt.tripId ≠ tripId)

structure AgreeElsewhere (tripId : TripId) (left right : PassState) : Prop where
  now : left.world.now = right.world.now
  issued : left.world.issued = right.world.issued
  others : left.world.others tripId = right.world.others tripId
  attempts : left.attemptsElsewhere tripId = right.attemptsElsewhere tripId

structure Isolated (context : PassContext) (world : OutboxWorld) (tripId : TripId) : Prop where
  others : (context.runOnce world).world.others tripId =
    (context.pass (fun served => decide (served ≠ tripId)) world).world.others tripId
  attempts : (context.runOnce world).attemptsElsewhere tripId =
    (context.pass (fun served => decide (served ≠ tripId)) world).attemptsElsewhere tripId

/-- The confirmations that a pass begins with, in the order of their trips. -/
def PassContext.batch (context : PassContext) (world : OutboxWorld) :
    List PendingFinalizationConfirmation :=
  pendingFinalizationConfirmations world.stores context.config.batchSize.toNat

/-- A leased trip whose confirmation the planner does not answer as it must, or
the database does not take. -/
def PassContext.fails (context : PassContext) (world : OutboxWorld)
    (value : PendingFinalizationConfirmation) : Bool :=
  (context.leases value.tripId).any fun runtimeEpoch =>
    !(context.confirms value.tripId .recovery runtimeEpoch value.finalizedMutationSequence &&
      world.acceptsConfirmation value.tripId value.finalizedMutationSequence)

def PassContext.breaksAt (context : PassContext) (world : OutboxWorld) :
    List PendingFinalizationConfirmation → Option BrokenRecovery
  | [] => none
  | value :: rest =>
    if context.fails world value then some ⟨value.tripId, rest⟩ else context.breaksAt world rest

def PassContext.elapsed (context : PassContext) (values : List PendingFinalizationConfirmation) :
    Nat :=
  (values.map fun value => context.elapses value.tripId).sum

/-- Other trips wait: for a confirmation behind this one, or for the claim that
comes after the batch. -/
def PassContext.leavesOthers (context : PassContext) (world : OutboxWorld) (tripId : TripId)
    (unserved : List PendingFinalizationConfirmation) : Bool :=
  (unserved.any fun value =>
    decide (value.tripId ≠ tripId) && (context.leases value.tripId).isSome) ||
  (selectRows world.stores (world.now + context.elapsed (context.batch world))
    context.config.batchSize.toNat []).any fun due => decide (due.tripId ≠ tripId)

/-- The first confirmation of the batch that fails is that of the trip, and
others wait behind it. -/
def PassContext.blocksOthers (context : PassContext) (world : OutboxWorld) (tripId : TripId) :
    Bool :=
  (context.breaksAt world (context.batch world)).any fun broken =>
    decide (broken.tripId = tripId) && context.leavesOthers world tripId broken.unserved

namespace AgreeElsewhere
variable {tripId : TripId} {first second third : PassState}

theorem refl : AgreeElsewhere tripId state state := ⟨rfl, rfl, rfl, rfl⟩

theorem trans (h : AgreeElsewhere tripId first second)
    (hnext : AgreeElsewhere tripId second third) : AgreeElsewhere tripId first third :=
  ⟨h.now.trans hnext.now, h.issued.trans hnext.issued, h.others.trans hnext.others,
    h.attempts.trans hnext.attempts⟩

theorem elapse (h : AgreeElsewhere tripId first second) (microseconds : Nat) : AgreeElsewhere tripId
    (first.step (.elapse microseconds)) (second.step (.elapse microseconds)) :=
  ⟨congrArg (· + (microseconds : Int)) h.now, h.issued, h.others, h.attempts⟩

theorem attempting_own (tripId : TripId) (work : PassWork) (state : PassState) :
    AgreeElsewhere tripId (state.attempting ⟨tripId, work⟩) state := by
  refine ⟨rfl, rfl, rfl, ?_⟩
  simp [PassState.attemptsElsewhere, PassState.attempting]

theorem attempting (h : AgreeElsewhere tripId first second) (attempt : Attempt) :
    AgreeElsewhere tripId (first.attempting attempt) (second.attempting attempt) := by
  refine ⟨h.now, h.issued, h.others, ?_⟩
  unfold PassState.attemptsElsewhere PassState.attempting
  rw [filter_append, filter_append]
  exact congrArg (· ++ _) h.attempts

theorem store? (h : AgreeElsewhere tripId first second) (hother : other ≠ tripId) :
    first.world.store? other = second.world.store? other := by
  have hfiltered : ∀ world : OutboxWorld, world.store? other =
      (world.others tripId).find? fun store => decide (store.record.tripId = other) := by
    intro world
    unfold OutboxWorld.store? OutboxWorld.others
    rw [find?_filter]
    congr 1
    funext store
    by_cases hsame : store.record.tripId = other
    · simp [hsame, hother]
    · simp [hsame]
  rw [hfiltered, hfiltered, h.others]

end AgreeElsewhere

/-- A step that is one transaction on the rows of one trip. Whether it takes
place depends on the claims that were issued. -/
structure ActsOn (tripId : TripId) (step : OutboxStep) : Prop where
  local_step :
    ∃ (condition : List HeldClaim → Bool) (change : DatabaseTime → TripStore → TripStore),
    (∀ now store, (change now store).record.tripId = store.record.tripId) ∧
      ∀ world : OutboxWorld, world.step step =
        if condition world.issued then world.update tripId (change world.now) else world

theorem attempt_tripId {ε : Type} {transaction : TripStore → Except ε TripStore}
    (h : ∀ store after, transaction store = .ok after →
      after.record.tripId = store.record.tripId) (store : TripStore) :
    (attempt transaction store).record.tripId = store.record.tripId := by
  unfold attempt
  split
  · rfl
  next after hafter => exact h store after hafter

theorem confirm_actsOn (sequence : UInt64) : ActsOn tripId (.confirm tripId sequence) := by
  refine ⟨fun _ => true, fun now => attempt fun store =>
    store.confirmFinalizedMutations now sequence, fun now => attempt_tripId ?_, fun _ => rfl⟩
  intro store after hafter
  rw [(confirmFinalizedMutations_ok hafter).2]
  rfl

theorem release_actsOn (claim : HeldClaim) : ActsOn claim.row.tripId (.release claim delay) := by
  refine ⟨fun issued => decide (claim ∈ issued), fun now => attempt fun store =>
    store.releaseForRetry now claim delay, fun now => attempt_tripId ?_, fun world => ?_⟩
  · intro store after hafter
    rw [(releaseForRetry_ok hafter).2]
    rfl
  · simp [OutboxWorld.step]

theorem pause_actsOn (claim : HeldClaim) : ActsOn claim.row.tripId (.pause claim) := by
  refine ⟨fun issued => decide (claim ∈ issued), fun now => attempt fun store =>
    store.pauseInternal now claim, fun now => attempt_tripId ?_, fun world => ?_⟩
  · intro store after hafter
    rw [(pauseInternal_ok hafter).2]
    rfl
  · simp [OutboxWorld.step]

theorem finalize_actsOn (claim : HeldClaim) :
    ActsOn claim.row.tripId (.finalize claim transaction) := by
  refine ⟨fun issued => decide (claim ∈ issued ∧
    transaction.finalizes = some claim.row.command.eventId), fun now store =>
      store.commit now transaction, fun now store => step_tripId, fun world => ?_⟩
  simp [OutboxWorld.step]

section Steps
variable {tripId other : TripId} {step : OutboxStep} {first second : PassState}

theorem others_update_own {change : TripStore → TripStore}
    (hchange : ∀ store, (change store).record.tripId = store.record.tripId)
    (world : OutboxWorld) :
    (world.update tripId change).others tripId = world.others tripId := by
  have hkey : ∀ store : TripStore,
      (if store.record.tripId = tripId then change store else store).record.tripId =
        store.record.tripId := by
    intro store
    split
    · exact hchange store
    · rfl
  unfold OutboxWorld.others OutboxWorld.update
  rw [filter_map]
  simp only [Function.comp_def, hkey]
  conv_rhs => rw [← map_id (filter _ _)]
  apply map_congr_left
  intro store hstore
  have hother : store.record.tripId ≠ tripId := by simpa using (mem_filter.mp hstore).2
  exact if_neg hother

theorem others_update {change : TripStore → TripStore}
    (hchange : ∀ store, (change store).record.tripId = store.record.tripId)
    (world : OutboxWorld) :
    (world.update other change).others tripId = (world.others tripId).map fun store =>
      if store.record.tripId = other then change store else store := by
  unfold OutboxWorld.others OutboxWorld.update
  rw [filter_map]
  congr 2
  funext store
  simp only [Function.comp_def]
  split
  · rw [hchange store]
  · rfl

theorem ActsOn.own (h : ActsOn tripId step) (state : PassState) :
    AgreeElsewhere tripId (state.step step) state := by
  obtain ⟨condition, change, hchange, hstep⟩ := h.local_step
  unfold PassState.step
  rw [hstep]
  split
  · exact ⟨rfl, rfl, others_update_own (hchange _) _, rfl⟩
  · exact .refl

theorem ActsOn.elsewhere (h : ActsOn other step) (hagree : AgreeElsewhere tripId first second) :
    AgreeElsewhere tripId (first.step step) (second.step step) := by
  obtain ⟨condition, change, hchange, hstep⟩ := h.local_step
  unfold PassState.step
  rw [hstep, hstep, hagree.issued, hagree.now]
  split
  · refine ⟨hagree.now, hagree.issued, ?_, hagree.attempts⟩
    rw [others_update (hchange _), others_update (hchange _), hagree.others]
  · exact hagree

end Steps

abbrev sparing (tripId served : TripId) : Bool := decide (served ≠ tripId)

section Work
variable {context : PassContext} {tripId other : TripId} {first second : PassState}
  {row : ClaimedOutboxRow}

theorem confirm_own (context : PassContext) (tripId : TripId) (stage : PassRequest)
    (runtimeEpoch : UInt64) (sequence : Nat) (state : PassState) :
    AgreeElsewhere tripId (context.confirm tripId stage runtimeEpoch sequence state).1 state := by
  have hatt := AgreeElsewhere.attempting_own tripId (.confirmation sequence) state
  unfold confirm
  split
  · exact ((confirm_actsOn _).own _).trans hatt
  · exact hatt

theorem confirm_elsewhere (h : AgreeElsewhere tripId first second) (hother : other ≠ tripId)
    (stage : PassRequest) (runtimeEpoch : UInt64) (sequence : Nat) :
    AgreeElsewhere tripId (context.confirm other stage runtimeEpoch sequence first).1
        (context.confirm other stage runtimeEpoch sequence second).1 ∧
      (context.confirm other stage runtimeEpoch sequence first).2 =
        (context.confirm other stage runtimeEpoch sequence second).2 := by
  have hatt := h.attempting ⟨other, .confirmation sequence⟩
  unfold confirm
  split
  · refine ⟨(confirm_actsOn _).elsewhere hatt, ?_⟩
    unfold OutboxWorld.acceptsConfirmation
    rw [h.store? hother, h.now]
  · exact ⟨hatt, rfl⟩

theorem dispatchFor_own :
    AgreeElsewhere row.tripId (context.dispatchFor row record state) state := by
  unfold dispatchFor
  split
  · unfold retry
    split
    · exact .refl
    · exact (release_actsOn ⟨_, row⟩).own _
  · exact (pause_actsOn ⟨_, row⟩).own _
  · exact .refl
  · unfold finalizeOnly
    split
    · exact (finalize_actsOn ⟨_, row⟩).own _
    · exact .refl
  · unfold finalizeAndConfirm
    split
    · split
      · exact .refl
      · exact (confirm_own _ _ _ _ _ _).trans ((finalize_actsOn ⟨_, row⟩).own _)
    · exact .refl

theorem dispatchFor_elsewhere (h : AgreeElsewhere tripId first second)
    (hother : row.tripId ≠ tripId) : AgreeElsewhere tripId (context.dispatchFor row record first)
    (context.dispatchFor row record second) := by
  unfold dispatchFor
  split
  · unfold retry
    split
    · exact h
    · exact (release_actsOn ⟨_, row⟩).elsewhere h
  · exact (pause_actsOn ⟨_, row⟩).elsewhere h
  · exact h
  · unfold finalizeOnly
    split
    · exact (finalize_actsOn ⟨_, row⟩).elsewhere h
    · exact h
  · unfold finalizeAndConfirm
    split
    · split
      · exact h
      · exact (confirm_elsewhere ((finalize_actsOn ⟨_, row⟩).elsewhere h) hother _ _ _).1
    · exact h

theorem dispatch_own (context : PassContext) (row : ClaimedOutboxRow) (state : PassState) :
    AgreeElsewhere row.tripId (context.dispatch row state) state := by
  have hatt := AgreeElsewhere.attempting_own row.tripId (.delivery row.command.eventId) state
  unfold PassContext.dispatch
  split
  · exact hatt
  · exact dispatchFor_own.trans hatt

theorem dispatch_elsewhere (h : AgreeElsewhere tripId first second) (hother : row.tripId ≠ tripId) :
    AgreeElsewhere tripId (context.dispatch row first) (context.dispatch row second) := by
  have hatt := h.attempting ⟨row.tripId, .delivery row.command.eventId⟩
  unfold PassContext.dispatch
  rw [h.store? hother]
  split
  · exact hatt
  · exact dispatchFor_elsewhere hatt hother

theorem dispatchRows_served {serves : TripId → Bool} (h : serves row.tripId) :
    context.dispatchRows serves (row :: rest) state = context.dispatchRows serves rest
      (context.dispatch row (state.step (.elapse (context.elapses row.tripId)))) := by
  unfold dispatchRows
  rw [foldl_cons, if_pos h]

theorem dispatchRows_passed_over {serves : TripId → Bool} (h : serves row.tripId = false) :
    context.dispatchRows serves (row :: rest) state = context.dispatchRows serves rest
      (state.step (.elapse (context.elapses row.tripId))) := by
  unfold dispatchRows
  rw [foldl_cons, if_neg (not_eq_true _ ▸ h)]

/-- Whatever the planner does, one delivery after the other leaves the other
trips as they are without the deliveries of this one. -/
theorem dispatchRows_agree (h : AgreeElsewhere tripId first second) :
    AgreeElsewhere tripId (context.dispatchRows (fun _ => true) rows first)
      (context.dispatchRows (sparing tripId) rows second) := by
  induction rows generalizing first second with
  | nil => exact h
  | cons row _ ih =>
    have helapsed := h.elapse (context.elapses row.tripId)
    rw [dispatchRows_served rfl]
    by_cases hown : row.tripId = tripId
    · rw [dispatchRows_passed_over (decide_eq_false (not_not_intro hown))]
      subst hown
      exact ih ((dispatch_own context row _).trans helapsed)
    · rw [dispatchRows_served (decide_eq_true hown)]
      exact ih (dispatch_elsewhere helapsed hown)

end Work

section Claims
variable {context : PassContext} {tripId : TripId} {first second : PassState}

def OutboxRow.confirmCovered (row : OutboxRow) (confirmedAt : DatabaseTime) (sequence : Nat) :
    OutboxRow :=
  if row.command.mutationSequence ≤ sequence ∧ row.command.deliveryState.isResolved then
    { row with columns := row.columns.confirm confirmedAt }
  else row

@[simp] theorem confirmCovered_command (row : OutboxRow)
    (sequence : Nat) : (row.confirmCovered confirmedAt sequence).command = row.command := by
  unfold OutboxRow.confirmCovered
  split <;> rfl

theorem confirmCovered_of_pending {row : OutboxRow} (h : row.command.deliveryState = .pending)
    (sequence : Nat) :
    row.confirmCovered confirmedAt sequence = row := by
  unfold OutboxRow.confirmCovered
  rw [if_neg]
  rw [h]
  exact fun hdone => Bool.noConfusion hdone.2

theorem confirmCovered_isDue (row : OutboxRow) (sequence : Nat) :
    (row.confirmCovered confirmedAt sequence).isDue now = row.isDue now := by
  by_cases hpend : row.command.deliveryState = .pending
  · rw [confirmCovered_of_pending hpend]
  · simp [OutboxRow.isDue, hpend]

theorem StoreLedger.confirm_outboxRows (h : StoreLedger store) (sequence : Nat) :
    (store.confirmCovered confirmedAt sequence).outboxRows =
      store.outboxRows.map fun row => row.confirmCovered confirmedAt sequence := by
  unfold TripStore.outboxRows
  rw [map_filterMap]
  apply filterMap_congr
  intro command hmem
  have hcov := @covered?_any store.record sequence _ _ (h.commands.commandBy?_eq hmem)
  by_cases hdone : command.mutationSequence ≤ sequence ∧ command.deliveryState.isResolved
  · simp [TripStore.confirmCovered, if_pos (hcov.mpr hdone), OutboxRow.confirmCovered,
      hdone, Function.comp_def]
  · simp [TripStore.confirmCovered, if_neg (mt hcov.mp hdone), OutboxRow.confirmCovered,
      hdone, Function.comp_def]

theorem StoreLedger.confirm_candidates (h : StoreLedger store) (sequence : Nat) :
    (store.confirmCovered confirmedAt sequence).candidates now = store.candidates now := by
  have hpredecessor : ∀ row : OutboxRow, (store.confirmCovered confirmedAt sequence).hasPredecessor
        (row.confirmCovered confirmedAt sequence) = store.hasPredecessor row := by
    unfold TripStore.hasPredecessor
    rw [h.confirm_outboxRows]
    simp [Function.comp_def]
  unfold TripStore.candidates
  rw [h.confirm_outboxRows, filter_map]
  simp only [Function.comp_def, confirmCovered_isDue, hpredecessor]
  conv_rhs => rw [← map_id (filter _ _)]
  apply map_congr_left
  intro row hrow
  have hdue := (mem_filter.mp hrow).2
  simp only [OutboxRow.isDue, and_eq_true, decide_eq_true_eq] at hdue
  exact confirmCovered_of_pending hdue.1.1.1 _

theorem WorldLedger.confirm_dueRows (h : WorldLedger world) (sequence : UInt64) :
    dueRows (world.step (.confirm tripId sequence)).stores now = dueRows world.stores now := by
  change (world.stores.map _).flatMap _ = _
  rw [flatMap_map]
  apply flatMap_congr
  intro store hstore
  split
  · unfold attempt
    split
    · rfl
    next after hafter =>
      rw [(confirmFinalizedMutations_ok hafter).2, (h.stores store hstore).confirm_candidates]
      rfl
  · rfl

theorem WorldLedger.confirm {state : PassState} (h : WorldLedger state.world)
    (sequence : Nat) :
    WorldLedger (context.confirm tripId stage runtimeEpoch sequence state).1.world ∧
      dueRows (context.confirm tripId stage runtimeEpoch sequence state).1.world.stores now =
        dueRows state.world.stores now ∧
      (context.confirm tripId stage runtimeEpoch sequence state).1.world.now =
        state.world.now := by
  unfold PassContext.confirm
  split
  · exact ⟨h.step (.confirm tripId (.ofNat sequence)), h.confirm_dueRows _, rfl⟩
  · exact ⟨h, rfl, rfl⟩

theorem WorldLedger.recover {state : PassState} (h : WorldLedger state.world)
    (serves : TripId → Bool) :
    WorldLedger (context.recoverConfirmations serves values state).1.world ∧
      dueRows (context.recoverConfirmations serves values state).1.world.stores now =
        dueRows state.world.stores now ∧
      ((context.recoverConfirmations serves values state).2 = none →
        (context.recoverConfirmations serves values state).1.world.now =
          state.world.now + context.elapsed values) := by
  induction values generalizing state with
  | nil => exact ⟨h, rfl, fun _ => (Int.add_zero _).symm⟩
  | cons value rest ih =>
    have helapsed : WorldLedger (state.step (.elapse (context.elapses value.tripId))).world :=
      h.step (.elapse (context.elapses value.tripId))
    have htime : ∀ next : PassState, next.world.now =
        (state.step (.elapse (context.elapses value.tripId))).world.now →
        next.world.now + context.elapsed rest =
          state.world.now + context.elapsed (value :: rest) := by
      intro next hnow
      rw [hnow]
      exact Int.add_assoc ..
    have hpassed := ih helapsed
    rw [htime _ rfl] at hpassed
    unfold recoverConfirmations
    dsimp only
    split
    · exact hpassed
    split
    · exact hpassed
    obtain ⟨hledger, hdue, hnow⟩ := helapsed.confirm value.finalizedMutationSequence
    split
    · refine ⟨(ih hledger).1, (ih hledger).2.1.trans hdue, fun hend => ?_⟩
      rw [(ih hledger).2.2 hend, htime _ hnow]
    · exact ⟨hledger, hdue, nofun⟩

def PassContext.claim (context : PassContext) (now : DatabaseTime) : OutboxClaim :=
  ⟨context.config.claimOwner, now + context.config.claimDurationMilliseconds * 1000⟩

def PassContext.selected (context : PassContext) (world : OutboxWorld) : List DueRow :=
  selectRows world.stores world.now context.config.batchSize.toNat []

/-- The configuration keeps `ClaimDue` from failing. -/
theorem claimDue_eq (world : OutboxWorld) :
    claimDue world.stores world.now context.config.claimOwner context.config.batchSize
        context.config.claimDurationMilliseconds [] =
      .ok (world.stores.map fun store =>
          store.claimSelected (context.selected world) (context.claim world.now),
        Sequence.sortBy isReturnedBefore ((context.selected world).map fun due =>
          due.claimed (context.claim world.now))) := by
  unfold claimDue
  rw [if_neg]
  · rfl
  · have hbatch := context.config.batchSize_pos
    have hdur := context.config.claimDuration_pos
    omega

theorem claimedRows_eq : context.claimedRows world = Sequence.sortBy isReturnedBefore
      ((context.selected world).map fun due => due.claimed (context.claim world.now)) := by
  unfold PassContext.claimedRows
  rw [claimDue_eq]

theorem claimStep_eq (world : OutboxWorld) : world.step context.claimStep =
      { world with
        stores := world.stores.map fun store =>
          store.claimSelected (context.selected world) (context.claim world.now)
        issued := world.issued ++ (context.claimedRows world).map fun row =>
          ⟨context.config.claimOwner, row⟩ } := by
  simp only [claimStep, OutboxWorld.step, claimDue_eq, claimedRows_eq]

theorem claimStep_others (world : OutboxWorld) :
    (world.step context.claimStep).others tripId = (world.others tripId).map fun store =>
      store.claimSelected (context.selected world) (context.claim world.now) := by
  rw [claimStep_eq]
  unfold OutboxWorld.others
  rw [filter_map]
  rfl

/-- The same rows are due, so the same rows are claimed. -/
theorem claim_agree (h : AgreeElsewhere tripId first second)
    (hdue : ∀ now, dueRows first.world.stores now = dueRows second.world.stores now) :
    context.claimedRows first.world = context.claimedRows second.world ∧
      AgreeElsewhere tripId (first.step context.claimStep) (second.step context.claimStep) := by
  have hsel : context.selected first.world = context.selected second.world := by
    unfold PassContext.selected selectRows
    rw [hdue, h.now]
  have hrows : context.claimedRows first.world = context.claimedRows second.world := by
    rw [claimedRows_eq, claimedRows_eq, hsel, h.now]
  refine ⟨hrows, ⟨?_, ?_, ?_, h.attempts⟩⟩
  · unfold PassState.step
    rw [claimStep_eq, claimStep_eq]
    exact h.now
  · unfold PassState.step
    rw [claimStep_eq, claimStep_eq]
    rw [h.issued, hrows]
  · unfold PassState.step
    rw [claimStep_others, claimStep_others, h.others, hsel, h.now]

theorem claimAndDispatch_agree (h : AgreeElsewhere tripId first second)
    (hdue : ∀ now, dueRows first.world.stores now = dueRows second.world.stores now) :
    AgreeElsewhere tripId (context.claimAndDispatch (fun _ => true) first)
      (context.claimAndDispatch (sparing tripId) second) := by
  obtain ⟨hrows, hclaimed⟩ := claim_agree h hdue
  unfold claimAndDispatch
  rw [hrows]
  exact dispatchRows_agree hclaimed

end Claims

section Recovery
variable {context : PassContext} {tripId : TripId} {first second : PassState}
  {serves : TripId → Bool} {value : PendingFinalizationConfirmation}
  {rest : List PendingFinalizationConfirmation}

theorem recover_passed_over (h : serves value.tripId → context.leases value.tripId = none)
    (state : PassState) : context.recoverConfirmations serves (value :: rest) state =
      context.recoverConfirmations serves rest
        (state.step (.elapse (context.elapses value.tripId))) := by
  rw [recoverConfirmations]
  split
  · rfl
  next hserved => rw [h (by simpa using hserved)]

theorem recover_leased (hserves : serves value.tripId)
    (hlease : context.leases value.tripId = some runtimeEpoch) :
    context.recoverConfirmations serves (value :: rest) state =
      if (context.confirm value.tripId .recovery runtimeEpoch value.finalizedMutationSequence
          (state.step (.elapse (context.elapses value.tripId)))).2 then
        context.recoverConfirmations serves rest (context.confirm value.tripId .recovery
          runtimeEpoch value.finalizedMutationSequence
          (state.step (.elapse (context.elapses value.tripId)))).1
      else ((context.confirm value.tripId .recovery runtimeEpoch value.finalizedMutationSequence
        (state.step (.elapse (context.elapses value.tripId)))).1, some ⟨value.tripId, rest⟩) := by
  rw [recoverConfirmations]
  rw [hserves, hlease]
  rfl

theorem fails_of_store? {next : OutboxWorld}
    (h : next.store? value.tripId = world.store? value.tripId) :
    context.fails next value = context.fails world value := by
  have hanswer : ∀ (store : TripStore) (sequence : UInt64),
      (store.confirmFinalizedMutations next.now sequence).toOption.isSome =
        (store.confirmFinalizedMutations world.now sequence).toOption.isSome := by
    intro store sequence
    unfold TripStore.confirmFinalizedMutations
    split_ifs <;> rfl
  simp only [PassContext.fails, OutboxWorld.acceptsConfirmation, h, hanswer]

/-- Where a recovery breaks off is settled before it begins: what it does for
one trip changes no answer for the next. -/
theorem recover_breaksAt {values : List PendingFinalizationConfirmation}
    (hdist : (values.map PendingFinalizationConfirmation.tripId).Nodup) {state : PassState}
    (hsame : ∀ value ∈ values, state.world.store? value.tripId = world.store? value.tripId) :
    (context.recoverConfirmations (fun _ => true) values state).2 =
      context.breaksAt world values := by
  induction values generalizing state with
  | nil => rfl
  | cons value rest ih =>
    rw [map_cons, nodup_cons] at hdist
    rw [forall_mem_cons] at hsame
    have hfirst : context.fails (state.step (.elapse (context.elapses value.tripId))).world value =
        context.fails world value := fails_of_store? hsame.1
    have hlater : ∀ other ∈ rest, (state.step (.elapse (context.elapses value.tripId))).world.store?
        other.tripId = world.store? other.tripId := hsame.2
    rw [PassContext.breaksAt, ← hfirst]
    cases hlease : context.leases value.tripId with
    | none =>
      rw [recover_passed_over fun _ => hlease, ih hdist.2 hlater]
      simp [PassContext.fails, hlease]
    | some runtimeEpoch =>
      rw [recover_leased rfl hlease]
      generalize state.step (.elapse (context.elapses value.tripId)) = elapsed at *
      have hfails : (context.confirm value.tripId .recovery runtimeEpoch
          value.finalizedMutationSequence elapsed).2 = !context.fails elapsed.world value := by
        simp only [PassContext.fails, hlease, Option.any_some, Bool.not_not]
        unfold confirm
        split <;> simp_all
      rw [hfails]
      cases context.fails elapsed.world value with
      | true => rfl
      | false =>
        refine ih hdist.2 fun other hother => ((confirm_own ..).store? fun hown => ?_).trans
          (hlater other hother)
        exact hdist.1 (hown ▸ mem_map_of_mem hother)

theorem WorldLedger.batch_nodup (h : WorldLedger world) (context : PassContext) :
    ((context.batch world).map PendingFinalizationConfirmation.tripId).Nodup := by
  unfold PassContext.batch pendingFinalizationConfirmations
  rw [map_take]
  refine (take_sublist _ _).nodup (((Sequence.sortBy_perm _ _).map _).nodup_iff.mpr ?_)
  refine pairwise_map.mpr ((pairwise_map.mp h.distinct).filterMap _ ?_)
  intro store other hother value hvalue second hsecond
  obtain ⟨_, -, rfl⟩ := Option.map_eq_some_iff.mp hvalue
  obtain ⟨_, -, rfl⟩ := Option.map_eq_some_iff.mp hsecond
  exact hother

/-- A recovery for all trips goes with the one that leaves a trip alone, unless
it breaks off at this trip; the other one then goes on from there. -/
theorem recover_agree (h : AgreeElsewhere tripId first second)
    (values : List PendingFinalizationConfirmation) :
    (∃ unserved reached,
      (context.recoverConfirmations (fun _ => true) values first).2 = some ⟨tripId, unserved⟩ ∧
      AgreeElsewhere tripId (context.recoverConfirmations (fun _ => true) values first).1 reached ∧
      context.recoverConfirmations (sparing tripId) values second =
        context.recoverConfirmations (sparing tripId) unserved reached) ∨
    ((∀ broken, (context.recoverConfirmations (fun _ => true) values first).2 = some broken →
        broken.tripId ≠ tripId) ∧
      AgreeElsewhere tripId (context.recoverConfirmations (fun _ => true) values first).1
        (context.recoverConfirmations (sparing tripId) values second).1 ∧
      (context.recoverConfirmations (fun _ => true) values first).2 =
        (context.recoverConfirmations (sparing tripId) values second).2) := by
  induction values generalizing first second with
  | nil => exact .inr ⟨fun broken hbroken => (nomatch hbroken), h, rfl⟩
  | cons value rest ih =>
    have helapsed := h.elapse (context.elapses value.tripId)
    cases hlease : context.leases value.tripId with
    | none =>
      rw [recover_passed_over fun _ => hlease, recover_passed_over fun _ => hlease]
      exact ih helapsed
    | some runtimeEpoch =>
      rw [recover_leased rfl hlease]
      by_cases hown : value.tripId = tripId
      · rw [recover_passed_over (fun hserved => absurd hown (of_decide_eq_true hserved))]
        have hconf := confirm_own context value.tripId .recovery runtimeEpoch
          value.finalizedMutationSequence (first.step (.elapse (context.elapses value.tripId)))
        rw [hown] at hconf helapsed ⊢
        split
        · exact ih (hconf.trans helapsed)
        · exact .inl ⟨rest, _, rfl, hconf.trans helapsed, rfl⟩
      · rw [recover_leased (decide_eq_true hown) hlease]
        obtain ⟨hconf, hsame⟩ := @confirm_elsewhere context _ _ _ _ helapsed hown
          .recovery runtimeEpoch value.finalizedMutationSequence
        rw [hsame]
        split
        · exact ih hconf
        · refine .inr ⟨fun broken hbroken => ?_, hconf, rfl⟩
          cases hbroken
          exact hown

theorem recover_idle {values : List PendingFinalizationConfirmation}
    (hidle : ∀ value ∈ values, serves value.tripId → context.leases value.tripId = none)
    (state : PassState) : ∃ now, context.recoverConfirmations serves values state =
        ({ state with world := { state.world with now := now } }, none) := by
  induction values generalizing state with
  | nil => exact ⟨state.world.now, rfl⟩
  | cons value _ ih =>
    rw [forall_mem_cons] at hidle
    obtain ⟨now, hrest⟩ := ih hidle.2 (state.step (.elapse (context.elapses value.tripId)))
    exact ⟨now, (recover_passed_over hidle.1 state).trans hrest⟩

theorem dispatchRows_idle {rows : List ClaimedOutboxRow}
    (hidle : ∀ row ∈ rows, serves row.tripId = false) (state : PassState) : ∃ now,
      context.dispatchRows serves rows state =
        { state with world := { state.world with now := now } } := by
  induction rows generalizing state with
  | nil => exact ⟨state.world.now, rfl⟩
  | cons row _ ih =>
    rw [forall_mem_cons] at hidle
    obtain ⟨now, hrest⟩ := ih hidle.2 (state.step (.elapse (context.elapses row.tripId)))
    exact ⟨now, (dispatchRows_passed_over hidle.1).trans hrest⟩

theorem claimStep_others_own (h : ∀ due ∈ context.selected first.world, due.tripId = tripId) :
    (first.world.step context.claimStep).others tripId = first.world.others tripId := by
  rw [claimStep_others]
  conv_rhs => rw [← map_id (OutboxWorld.others _ _)]
  apply map_congr_left
  intro store hstore
  have hother : store.record.tripId ≠ tripId := by simpa using (mem_filter.mp hstore).2
  have hcols : ((store.claimSelected (context.selected first.world)
      (context.claim first.world.now)).outbox) = store.outbox := by
    funext eventId
    refine if_neg (eq_false_iff.mp (any_eq_false.mpr fun due hdue => ?_))
    rw [h due hdue, decide_eq_true_eq]
    exact fun hsame => hother hsame.1.symm
  exact congrArg (fun outbox => { store with outbox := outbox }) hcols

end Recovery

section Attempts
variable {context : PassContext} {tripId : TripId} {first second : PassState}
  {serves : TripId → Bool}

theorem confirm_attempts_eq (sequence : Nat) :
    (context.confirm tripId stage runtimeEpoch sequence state).1.attempts =
      state.attempts ++ [⟨tripId, .confirmation sequence⟩] := by
  unfold confirm
  split <;> rfl

theorem recover_attempts (state : PassState) :
    state.attempts <+: (context.recoverConfirmations serves values state).1.attempts := by
  induction values generalizing state with
  | nil => exact prefix_rfl
  | cons value _ ih =>
    by_cases hserves : serves value.tripId
    · cases hlease : context.leases value.tripId with
      | none =>
        rw [recover_passed_over fun _ => hlease]
        exact ih (state.step (.elapse (context.elapses value.tripId)))
      | some runtimeEpoch =>
        have hconf : state.attempts <+: (context.confirm value.tripId .recovery runtimeEpoch
            value.finalizedMutationSequence
            (state.step (.elapse (context.elapses value.tripId)))).1.attempts := by
          rw [confirm_attempts_eq]
          exact prefix_append _ _
        rw [recover_leased hserves hlease]
        split
        · exact hconf.trans (ih _)
        · exact hconf
    · rw [recover_passed_over fun hserved => absurd hserved hserves]
      exact ih (state.step (.elapse (context.elapses value.tripId)))

theorem recover_attempts_served {values : List PendingFinalizationConfirmation}
    {value : PendingFinalizationConfirmation} (hvalue : value ∈ values)
    (hserves : serves value.tripId) (hleased : (context.leases value.tripId).isSome)
    (state : PassState) : ∃ attempt : Attempt, serves attempt.tripId ∧ state.attempts ++
      [attempt] <+: (context.recoverConfirmations serves values state).1.attempts := by
  induction values generalizing state with
  | nil => cases hvalue
  | cons candidate _ ih =>
    by_cases hpass : serves candidate.tripId → context.leases candidate.tripId = none
    · rw [recover_passed_over hpass]
      cases hvalue with
      | head =>
        rw [hpass hserves] at hleased
        cases hleased
      | tail _ hrest => exact ih hrest (state.step (.elapse (context.elapses candidate.tripId)))
    · push Not at hpass
      obtain ⟨hserved, hlease⟩ := hpass
      obtain ⟨runtimeEpoch, hlease⟩ := Option.ne_none_iff_exists'.mp hlease
      refine ⟨⟨candidate.tripId, .confirmation candidate.finalizedMutationSequence⟩, hserved, ?_⟩
      rw [recover_leased hserved hlease]
      split
      · refine List.IsPrefix.trans ?_ (recover_attempts _)
        rw [confirm_attempts_eq]
        exact prefix_rfl
      · rw [confirm_attempts_eq]
        exact prefix_rfl

theorem dispatchFor_attempts (state : PassState) :
    state.attempts <+: (context.dispatchFor row record state).attempts := by
  unfold dispatchFor
  split
  · unfold retry
    split <;> exact prefix_rfl
  · exact prefix_rfl
  · exact prefix_rfl
  · unfold finalizeOnly
    split <;> exact prefix_rfl
  · unfold finalizeAndConfirm
    split
    · split
      · exact prefix_rfl
      · rw [confirm_attempts_eq]
        exact prefix_append _ _
    · exact prefix_rfl

theorem dispatch_attempts (row : ClaimedOutboxRow) (state : PassState) : state.attempts ++
    [⟨row.tripId, .delivery row.command.eventId⟩] <+: (context.dispatch row state).attempts := by
  unfold PassContext.dispatch
  split
  · exact prefix_rfl
  · exact dispatchFor_attempts (state.attempting ⟨row.tripId, .delivery row.command.eventId⟩)

theorem dispatchRows_attempts (state : PassState) :
    state.attempts <+: (context.dispatchRows serves rows state).attempts := by
  induction rows generalizing state with
  | nil => exact prefix_rfl
  | cons row _ ih =>
    cases hserves : serves row.tripId with
    | true =>
      rw [dispatchRows_served hserves]
      exact ((prefix_append _ _).trans (dispatch_attempts row
        (state.step (.elapse (context.elapses row.tripId))))).trans (ih _)
    | false =>
      rw [dispatchRows_passed_over hserves]
      exact ih (state.step (.elapse (context.elapses row.tripId)))

theorem dispatchRows_attempts_served {rows : List ClaimedOutboxRow} {row : ClaimedOutboxRow}
    (hrow : row ∈ rows) (hserves : serves row.tripId) (state : PassState) :
    ∃ attempt : Attempt, serves attempt.tripId ∧
      state.attempts ++ [attempt] <+: (context.dispatchRows serves rows state).attempts := by
  induction rows generalizing state with
  | nil => cases hrow
  | cons candidate _ ih =>
    cases hserved : serves candidate.tripId with
    | true =>
      refine ⟨⟨candidate.tripId, .delivery candidate.command.eventId⟩, hserved, ?_⟩
      rw [dispatchRows_served hserved]
      exact (dispatch_attempts candidate
        (state.step (.elapse (context.elapses candidate.tripId)))).trans (dispatchRows_attempts _)
    | false =>
      rw [dispatchRows_passed_over hserved]
      cases hrow with
      | head =>
        rw [hserved] at hserves
        cases hserves
      | tail _ hmem => exact ih hmem (state.step (.elapse (context.elapses candidate.tripId)))

theorem attemptsElsewhere_ne {attempt : Attempt} (hother : attempt.tripId ≠ tripId)
    (h : first.attempts ++ [attempt] <+: second.attempts) :
    first.attemptsElsewhere tripId ≠ second.attemptsElsewhere tripId := by
  intro hsame
  obtain ⟨more, hmore⟩ := h
  have hlen := congrArg List.length hsame
  unfold PassState.attemptsElsewhere at hlen
  rw [← hmore] at hlen
  simp [hother] at hlen

end Attempts

section Isolation
variable {context : PassContext} {world : OutboxWorld} {tripId : TripId}

theorem pass_of_broken {serves : TripId → Bool}
    (h : (context.recovery serves world).2 = some broken) :
    context.pass serves world = (context.recovery serves world).1 := by
  unfold PassContext.pass
  rw [← Prod.eta (context.recovery serves world), h]

theorem pass_of_recovered {serves : TripId → Bool} (h : (context.recovery serves world).2 = none) :
    context.pass serves world =
      context.claimAndDispatch serves (context.recovery serves world).1 := by
  unfold PassContext.pass
  rw [← Prod.eta (context.recovery serves world), h]

theorem recovery_attempts (context : PassContext) (serves : TripId → Bool) (world : OutboxWorld) :
    (context.recovery serves world).1.attempts <+: (context.pass serves world).attempts := by
  cases hbroken : (context.recovery serves world).2 with
  | none =>
    rw [pass_of_recovered hbroken]
    exact dispatchRows_attempts ((context.recovery serves world).1.step context.claimStep)
  | some => exact ⟨[], by rw [pass_of_broken hbroken, append_nil]⟩

theorem WorldLedger.recovery_selected (h : WorldLedger world) {serves : TripId → Bool}
    (hend : (context.recovery serves world).2 = none) :
    context.selected (context.recovery serves world).1.world = selectRows world.stores
      (world.now + context.elapsed (context.batch world)) context.config.batchSize.toNat [] := by
  have hledger : WorldLedger (PassState.mk world []).world := h
  unfold PassContext.selected selectRows PassContext.recovery
  rw [(hledger.recover serves).2.1, (@WorldLedger.recover context _ 0 _ hledger serves).2.2 hend]
  rfl

theorem WorldLedger.isolated (h : WorldLedger world)
    (hsame : AgreeElsewhere tripId (context.recovery (fun _ => true) world).1
      (context.recovery (sparing tripId) world).1)
    (hbroken : (context.recovery (fun _ => true) world).2 =
      (context.recovery (sparing tripId) world).2) :
    Isolated context world tripId := by
  have hledger : WorldLedger (PassState.mk world []).world := h
  have hpass : AgreeElsewhere tripId (context.runOnce world)
      (context.pass (sparing tripId) world) := by
    unfold runOnce
    cases hend : (context.recovery (fun _ => true) world).2 with
    | none =>
      rw [pass_of_recovered hend, pass_of_recovered (hbroken ▸ hend)]
      apply claimAndDispatch_agree hsame
      intro now
      exact (hledger.recover _).2.1.trans (hledger.recover _).2.1.symm
    | some =>
      rw [pass_of_broken hend, pass_of_broken (hbroken ▸ hend)]
      exact hsame
  exact ⟨hpass.others, hpass.attempts⟩

/-- No other confirmation waits: the recovery that goes on only lets time pass. -/
theorem recovery_idle (hreach : context.recovery (sparing tripId) world =
      context.recoverConfirmations (sparing tripId) unserved reached)
    (hconf : (unserved.any fun value =>
      decide (value.tripId ≠ tripId) && (context.leases value.tripId).isSome) = false) :
    ∃ now, context.recovery (sparing tripId) world =
      ({ reached with world := { reached.world with now := now } }, none) := by
  rw [hreach]
  refine recover_idle (fun value hvalue hserved => ?_) reached
  simpa [of_decide_eq_true hserved] using any_eq_false.mp hconf value hvalue

/-- Nobody else waits: the pass that goes on does nothing for the others. -/
theorem WorldLedger.pass_idle (h : WorldLedger world)
    (hreach : context.recovery (sparing tripId) world =
      context.recoverConfirmations (sparing tripId) unserved reached)
    (hnone : context.leavesOthers world tripId unserved = false) :
    (context.pass (sparing tripId) world).world.others tripId = reached.world.others tripId ∧
      (context.pass (sparing tripId) world).attempts = reached.attempts := by
  unfold PassContext.leavesOthers at hnone
  rw [or_eq_false_iff] at hnone
  obtain ⟨hconf, hdue⟩ := hnone
  obtain ⟨now, hidle⟩ := recovery_idle hreach hconf
  rw [← h.recovery_selected (congrArg Prod.snd hidle)] at hdue
  rw [pass_of_recovered (congrArg Prod.snd hidle)]
  rw [hidle] at hdue ⊢
  have hown : ∀ due ∈ context.selected { reached.world with now := now }, due.tripId = tripId := by
    intro due hmem
    simpa using any_eq_false.mp hdue due hmem
  obtain ⟨later, hdispatched⟩ := @dispatchRows_idle context (sparing tripId)
    (context.claimedRows { reached.world with now := now }) (fun row hrow => by
      rw [claimedRows_eq, Sequence.mem_sortBy, mem_map] at hrow
      obtain ⟨due, hmem, rfl⟩ := hrow
      exact decide_eq_false (not_not_intro (hown due hmem)))
    (PassState.step { reached with world := { reached.world with now := now } } context.claimStep)
  unfold claimAndDispatch
  rw [hdispatched]
  exact ⟨@claimStep_others_own context tripId
    { reached with world := { reached.world with now := now } } hown, rfl⟩

/-- Somebody waits: the pass that goes on turns to another trip. -/
theorem WorldLedger.pass_attempts (h : WorldLedger world)
    (hreach : context.recovery (sparing tripId) world =
      context.recoverConfirmations (sparing tripId) unserved reached)
    (hwaits : context.leavesOthers world tripId unserved) :
    ∃ attempt : Attempt, attempt.tripId ≠ tripId ∧ reached.attempts ++ [attempt] <+:
      (context.pass (sparing tripId) world).attempts := by
  have hmore := recovery_attempts context (sparing tripId) world
  cases hconf : unserved.any fun value =>
      decide (value.tripId ≠ tripId) && (context.leases value.tripId).isSome with
  | true =>
    obtain ⟨value, hvalue, hserved⟩ := any_eq_true.mp hconf
    rw [and_eq_true] at hserved
    obtain ⟨attempt, hother, hatt⟩ := @recover_attempts_served context
      (sparing tripId) unserved value hvalue hserved.1 hserved.2 reached
    rw [← hreach] at hatt
    exact ⟨attempt, of_decide_eq_true hother, hatt.trans hmore⟩
  | false =>
    obtain ⟨now, hidle⟩ := recovery_idle hreach hconf
    unfold PassContext.leavesOthers at hwaits
    rw [hconf, Bool.false_or, ← h.recovery_selected (congrArg Prod.snd hidle), hidle] at hwaits
    obtain ⟨due, hdue, hother⟩ := any_eq_true.mp hwaits
    have hrow : due.claimed (context.claim now) ∈
        context.claimedRows { reached.world with now := now } := by
      rw [claimedRows_eq, Sequence.mem_sortBy]
      exact mem_map_of_mem hdue
    obtain ⟨attempt, hserved, hatt⟩ := @dispatchRows_attempts_served context
      (sparing tripId) _ _ hrow hother
      (PassState.step { reached with world := { reached.world with now := now } } context.claimStep)
    rw [pass_of_recovered (congrArg Prod.snd hidle), hidle]
    exact ⟨attempt, of_decide_eq_true hserved, hatt⟩

theorem WorldLedger.isolated_iff (h : WorldLedger world) :
    Isolated context world tripId ↔ context.blocksOthers world tripId = false := by
  have hbreaks := @recover_breaksAt context world _ (h.batch_nodup context) ⟨world, []⟩
    fun _ _ => rfl
  obtain ⟨unserved, reached, hbroken, hagree, hspared⟩ | ⟨helsewhere, hagree, hsame⟩ :=
    @recover_agree context tripId _ _ (.refl) (context.batch world)
  · have hstopped : context.runOnce world = (context.recovery (fun _ => true) world).1 :=
      pass_of_broken hbroken
    have hblocks : context.blocksOthers world tripId =
        context.leavesOthers world tripId unserved := by
      unfold PassContext.blocksOthers
      rw [← hbreaks, hbroken]
      simp
    rw [hblocks]
    cases hwaits : context.leavesOthers world tripId unserved with
    | true =>
      obtain ⟨attempt, hother, hatt⟩ := h.pass_attempts hspared hwaits
      refine iff_of_false (fun hisolated => ?_) (by simp)
      apply attemptsElsewhere_ne hother hatt
      rw [← hisolated.attempts, hstopped]
      exact hagree.attempts.symm
    | false =>
      obtain ⟨hothers, hatts⟩ := h.pass_idle hspared hwaits
      refine iff_of_true ⟨?_, ?_⟩ rfl
      · rw [hothers, hstopped]
        exact hagree.others
      · unfold PassState.attemptsElsewhere
        rw [hatts, hstopped]
        exact hagree.attempts
  · refine iff_of_true (h.isolated hagree hsame) ?_
    unfold PassContext.blocksOthers
    rw [← hbreaks, Option.any_eq_false]
    intro broken hbroken
    simp [helsewhere broken hbroken]

end Isolation

def pierRequest : CreateTripRequest :=
  { quayRequest with tripId := ⟨2⟩, messageId := ⟨7⟩, eventId := ⟨7⟩, planId := ⟨8⟩ }

def pierTrip : TripRecord :=
  (createTrip pierRequest ⟨0, true, [], []⟩).toOption.get (by decide +kernel)

def harbourWorld : OutboxWorld := ⟨0, [.ofRecord quayTrip, .ofRecord pierTrip], []⟩

theorem harbourWorld_initial : harbourWorld.Initial := by
  refine ⟨fun store hstore => ?_, by decide +kernel, rfl⟩
  obtain rfl | hstore := mem_cons.mp hstore
  · exact ⟨quayTrip, quayTrip_created, rfl⟩
  · exact ⟨pierTrip, .legacy (eq_ok_get _), mem_singleton.mp hstore⟩

def quayClaim : HeldClaim :=
  ([.commit ⟨1⟩ (.edit .currentPlan replaceQuayPlan ⟨0, [], []⟩), .claim ⟨1⟩ 10 1000 []].foldl
    OutboxWorld.step harbourWorld).issued.get ⟨0, by decide +kernel⟩

/-- The mirror of the first trip is delivered and not confirmed; the second trip
has a mirror that is due. -/
def confirmationLost : List OutboxStep :=
  [.commit ⟨1⟩ (.edit .currentPlan replaceQuayPlan ⟨0, [], []⟩), .claim ⟨1⟩ 10 1000 [],
    .finalize quayClaim (.finalizeMirror ⟨⟨5⟩, 2, 1, 2, some ⟨6⟩⟩),
    .commit ⟨2⟩ (.edit .currentPlan replaceQuayPlan ⟨0, [], []⟩)]

def confirmingContext (answers : TripId → Bool) : PassContext where
  config := ⟨⟨1⟩, 10, 1000, by decide, by decide⟩
  leases := fun _ => some 1
  requestId := fun _ _ => some ⟨9⟩
  applyEvent := fun _ => none
  confirmFinalized := fun request =>
    if answers request.tripId then
      some ⟨request.requestId, request.tripId, request.runtimeEpoch,
        some ⟨.ok, request.finalizedMutationSequence⟩⟩
    else none
  retryDelay := fun _ => some 1000
  elapses := fun _ => 0

end LiveRoute.Execution
