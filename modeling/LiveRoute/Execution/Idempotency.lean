import LiveRoute.Execution.ClaimFencing
import LiveRoute.Execution.RepeatedCommands

/-! Repeated client messages over the whole database. Whatever happens between
two messages with one identifier, the stored intent stays as it was recorded;
the second is answered from it exactly when its handling comes to compare it. -/
namespace LiveRoute.Execution
open Domain Persistence Gateway Option

variable {message : ClientMessage} {acknowledgement : Acknowledgement} {tripId : TripId}
  {record : TripRecord}

def ClientCommand.isAddressedTo (tripId : TripId) : ClientCommand → Bool
  | .create request => decide (request.tripId = tripId)
  | _ => true

structure ClientMessage where
  tripId : TripId
  command : ClientCommand
  addressed : command.isAddressedTo tripId
deriving DecidableEq

def TripStore.write (store : TripStore) (now : DatabaseTime) (record : TripRecord) : TripStore :=
  { store with
    record := record, outbox := fun eventId => committedColumns now (store.record.delivery? eventId)
      (record.delivery? eventId) (store.outbox eventId) }

/-- `Dispatch` of a client message. -/
def OutboxWorld.handle (world : OutboxWorld) (context : GatewayContext) (message : ClientMessage) :
    Except GatewayError (OutboxWorld × Acknowledgement) :=
  match world.store? message.tripId with
  | none =>
    match handleMissing context message.command with
    | .error error => .error error
    | .ok (record, acknowledgement) =>
      .ok ({ world with stores := world.stores ++ [.ofRecord record] }, acknowledgement)
  | some store =>
    match store.record.handle context message.command with
    | .error error => .error error
    | .ok (record, acknowledgement) =>
      .ok (world.update message.tripId fun stored => stored.write world.now record, acknowledgement)

def OutboxWorld.comparesIntent (world : OutboxWorld) (context : GatewayContext)
    (message : ClientMessage) : Bool :=
  (world.store? message.tripId).any fun store => store.record.comparesIntent context message.command

/-- The same message again changes no row and is answered as before; another
one under its identifier is refused as a reused key. -/
def OutboxWorld.Deduplicates (world : OutboxWorld) (context : GatewayContext)
    (message later : ClientMessage) (acknowledgement : Acknowledgement) : Prop :=
  if later = message then world.handle context later = .ok (world, acknowledgement)
  else ∃ error, world.handle context later = .error error ∧ error.status = .idempotencyKeyReused

def OutboxWorld.Remembers (world : OutboxWorld) (message : ClientMessage)
    (acknowledgement : Acknowledgement) : Prop :=
  ∃ store, world.store? message.tripId = some store ∧
    Execution.Remembers store.record message.command acknowledgement

section Writes
variable {world : OutboxWorld}

theorem write_step (store : TripStore) :
    store.write now (store.record.step transaction) = store.commit now transaction := rfl

theorem write_same (store : TripStore) : store.write now store.record = store := by
  simp [TripStore.write]

theorem WorldLedger.update_congr (h : WorldLedger world)
    (hstore : world.store? tripId = some store) {change other : TripStore → TripStore}
    (hsame : change store = other store) :
    world.update tripId change = world.update tripId other := by
  have hstores : (world.stores.map fun stored =>
      if stored.record.tripId = tripId then change stored else stored) =
      world.stores.map fun stored =>
        if stored.record.tripId = tripId then other stored else stored := by
    apply List.map_congr_left
    intro stored hstored
    split
    next htrip =>
      have hfound : world.store? stored.record.tripId = some stored :=
        KeyedRows.find?_eq_some h.distinct hstored
      rw [htrip, hstore] at hfound
      rw [← Option.some.inj hfound, hsame]
    next => rfl
  unfold OutboxWorld.update
  rw [hstores]

theorem update_id : world.update tripId id = world := by simp [OutboxWorld.update]

theorem handleMissing_tripId
    (h : handleMissing context message.command = .ok (record, acknowledgement)) :
    record.tripId = message.tripId := by
  obtain ⟨tripId, command, haddressed⟩ := message
  obtain ⟨request, creation, rfl, hcreated, -⟩ := handleMissing_ok h
  obtain ⟨activities, delays, hnew⟩ := createTrip_ok hcreated
  rw [hnew.record_eq]
  exact of_decide_eq_true haddressed

theorem WorldLedger.create (h : WorldLedger world) (hcreated : Created record)
    (hmiss : world.store? record.tripId = none) :
    WorldLedger { world with stores := world.stores ++ [.ofRecord record] } := by
  have hother : ∀ store ∈ world.stores, store.record.tripId ≠ record.tripId := by
    simpa [OutboxWorld.store?] using hmiss
  have hunclaimed : ∀ claim ∈ world.issued, claim.row.tripId ≠ record.tripId := by
    intro claim hclaim htrip
    obtain ⟨store, hstore, hplaced⟩ := h.placed claim hclaim
    exact hother store hstore (hplaced.trans htrip)
  constructor
  case distinct => exact KeyedRows.nodup_append_new h.distinct hother
  case stores =>
    intro store hstore
    rcases List.mem_append.mp hstore with hold | hnew
    · exact h.stores store hold
    · rw [List.mem_singleton.mp hnew]
      exact .created hcreated
  case claims =>
    intro store hstore
    rcases List.mem_append.mp hstore with hold | hnew
    · exact h.claims store hold
    rw [List.mem_singleton.mp hnew]
    exact ⟨fun claim hclaim htrip => absurd htrip (hunclaimed claim hclaim),
      fun claim hclaim htrip => absurd htrip (hunclaimed claim hclaim),
      fun claim hclaim htrip => absurd htrip (hunclaimed claim hclaim),
      fun eventId columns stored hcols => by cases hcols⟩
  case placed =>
    intro claim hclaim
    obtain ⟨store, hstore, htrip⟩ := h.placed claim hclaim
    exact ⟨store, List.mem_append_left _ hstore, htrip⟩
  case numbered => exact h.numbered

theorem store?_created (hmiss : world.store? record.tripId = none) :
    ({ world with stores := world.stores ++ [.ofRecord record] } : OutboxWorld).store?
      record.tripId = some (.ofRecord record) := by
  have hnone : world.stores.find? (fun store =>
      decide (store.record.tripId = record.tripId)) = none := hmiss
  unfold OutboxWorld.store?
  rw [List.find?_append, hnone, none_or, List.find?_singleton, if_pos]
  exact decide_eq_true rfl

theorem WorldLedger.handled (h : WorldLedger world)
    (hhand : world.handle context message = .ok (recorded, acknowledgement)) :
    WorldLedger recorded ∧ recorded.Remembers message acknowledgement := by
  unfold OutboxWorld.handle at hhand
  cases hstore : world.store? message.tripId with
  | none =>
    rw [hstore] at hhand
    dsimp only at hhand
    split at hhand <;> cases hhand
    next record hmiss =>
      obtain ⟨hcreated, hrem⟩ := handleMissing_remembers hmiss
      rw [← handleMissing_tripId hmiss] at hstore
      refine ⟨h.create hcreated hstore, .ofRecord record, ?_, hrem⟩
      rw [← handleMissing_tripId hmiss]
      exact store?_created hstore
  | some store =>
    rw [hstore] at hhand
    dsimp only at hhand
    split at hhand <;> cases hhand
    next record hrec =>
      have hrem := handle_remembers hrec
      obtain rfl | ⟨transaction, hfin, hcommit⟩ := handle_commits hrec
      · have hsame : store.write world.now store.record = id store := write_same store
        rw [h.update_congr hstore hsame, update_id]
        exact ⟨h, store, hstore, hrem⟩
      · have hstep : store.record.step transaction = record := by rw [TripRecord.step, hcommit]
        have hworld : (world.update message.tripId fun stored => stored.write world.now record) =
            world.step (.commit message.tripId transaction) := by
          rw [OutboxWorld.step, if_pos hfin]
          apply h.update_congr hstore
          rw [← hstep, write_step]
        refine ⟨hworld ▸ h.step _, store.write world.now record, ?_, hrem⟩
        rw [hworld, OutboxWorld.step, if_pos hfin,
          update_store? fun stored _ => step_tripId, hstore,
          map_some, ← hstep, write_step]

end Writes

section Persistence
variable {world : OutboxWorld}

theorem StoreStep.identity (h : StoreStep now store after) :
    after.record.identity = store.record.identity := by
  cases h with
  | kept => rfl
  | released hok =>
    rw [(releaseForRetry_ok hok).2]
    rfl
  | paused hok =>
    rw [(pauseInternal_ok hok).2]
    rfl
  | committed => exact step_identity
  | confirmed hok =>
    rw [(confirmFinalizedMutations_ok hok).2]
    rfl
  | resolved hok =>
    rw [(resolveCanonicalBootstrap_ok hok).2]
    rfl
  | persisted hok => obtain rfl | ⟨-, -, rfl⟩ := persistSnapshot_ok hok <;> rfl
  | recovered => rfl

theorem step_identities :
    ∃ update : TripStore → TripStore, (world.step step).stores = world.stores.map update ∧
      ∀ store, (update store).record.identity = store.record.identity := by
  obtain ⟨update, hstores, hsteps⟩ := stores_step world step
  refine ⟨update, hstores, fun store => ?_⟩
  obtain hstep | ⟨selected, claim, hclaim⟩ := hsteps store
  · exact hstep.identity
  · rw [hclaim]
    rfl

theorem step_identity_of_store? (hbefore : world.store? tripId = some before)
    (hafter : (world.step step).store? tripId = some after) :
    after.record.identity = before.record.identity := by
  obtain ⟨update, hstores, hupd⟩ := step_identities
  rw [store?_of_map hstores fun store _ => congrArg Prod.fst (hupd store), hbefore,
    map_some, some_inj] at hafter
  rw [← hafter]
  exact hupd before

theorem intentColumns_same (h : SameCommand before after) :
    intentColumns after = intentColumns before := by
  have hres : after.mirror.map CanonicalMirror.resultingTripRevision =
      before.mirror.map CanonicalMirror.resultingTripRevision := by
    have hpair := congrArg (Option.map Prod.fst) h.mirrorResult
    simpa [CommandRow.mirrorResult, Function.comp_def] using hpair
  unfold intentColumns
  rw [h.kind, h.payloadDigest, h.expectedTripRevision, hres, h.mutationSequence]

theorem Evolves.intentBy? (h : Evolves before after)
    (hidentity : after.record.identity = before.record.identity)
    (hfound : before.record.intentBy? messageId = some intent) :
    after.record.intentBy? messageId = some intent := by
  have hnew : after.record.creationBy? messageId = before.record.creationBy? messageId := by
    unfold TripRecord.creationBy?
    rw [show after.record.creation = before.record.creation from
      congrArg (fun identity => identity.2.2) hidentity]
  cases hcreated : before.record.creationBy? messageId with
  | some =>
    rw [intentBy?_creation hcreated] at hfound
    rw [intentBy?_creation (hnew.trans hcreated), hfound]
  | none =>
    rw [intentBy?_command hcreated] at hfound
    rw [intentBy?_command (hnew.trans hcreated)]
    obtain ⟨row, hrow, rfl⟩ := map_eq_some_iff.mp hfound
    have hcell := h.cell messageId
    rw [hrow] at hcell
    generalize before.outbox messageId = columns, after.outbox messageId = written at hcell
    generalize after.record.commandBy? messageId = later at hcell ⊢
    cases hcell with
    | same => rfl
    | written hsame => exact congrArg some (intentColumns_same hsame)
    | deleted => rfl

theorem WorldLedger.remembers_step (h : WorldLedger world) (step : OutboxStep)
    (hrem : world.Remembers message acknowledgement) :
    (world.step step).Remembers message acknowledgement := by
  obtain ⟨store, hstore, howner, intent, hfound, hintent⟩ := hrem
  obtain ⟨after, hafter, hupd⟩ := h.store?_step step hstore
  have hidentity := step_identity_of_store? hstore hafter
  refine ⟨after, hafter, ?_, intent, ?_, hintent⟩
  · rw [← howner]
    exact congrArg (fun identity => identity.2.1) hidentity
  · obtain hevol | hsame := hupd
    · exact hevol.intentBy? hidentity hfound
    · rw [hsame]
      exact hfound

theorem WorldLedger.remembers_run (h : WorldLedger world) (history : List OutboxStep)
    (hrem : world.Remembers message acknowledgement) :
    (history.foldl OutboxWorld.step world).Remembers message acknowledgement := by
  induction history generalizing world with
  | nil => exact hrem
  | cons step _ ih => exact ih (h.step step) (h.remembers_step step hrem)

theorem WorldLedger.deduplicates_iff (h : WorldLedger world) {later : ClientMessage}
    (hrem : world.Remembers message acknowledgement) (htrip : later.tripId = message.tripId)
    (hmsg : later.command.messageId = message.command.messageId)
    (huser : later.command.userId = message.command.userId)
    (hdig : later.command.payloadDigest = message.command.payloadDigest → later = message) :
    world.Deduplicates context message later acknowledgement ↔
      world.comparesIntent context later := by
  obtain ⟨store, hstore, howner, intent, hfound, hrep, hack⟩ := hrem
  rw [← htrip] at hstore
  rw [← huser] at howner
  rw [← hmsg] at hfound
  have hcmp : world.comparesIntent context later =
      store.record.comparesIntent context later.command := by
    rw [OutboxWorld.comparesIntent, hstore, any_some]
  have hhandle : world.handle context later =
      (store.record.handle context later.command).map fun result =>
        (world.update later.tripId fun stored => stored.write world.now result.1, result.2) := by
    unfold OutboxWorld.handle
    rw [hstore]
    dsimp only
    cases store.record.handle context later.command <;> rfl
  rw [hcmp]
  cases hreach : store.record.comparesIntent context later.command with
  | true =>
    have hansw := handle_answered hreach howner hfound
    refine iff_of_true ?_ rfl
    unfold OutboxWorld.Deduplicates
    by_cases hsame : later = message
    · rw [if_pos hsame]
      rw [hsame] at hansw
      rw [ClientCommand.Answered, if_pos hrep, hack, ← hsame] at hansw
      have hwrote : store.write world.now store.record = id store := write_same store
      rw [hhandle, hansw, Except.map, h.update_congr hstore hwrote, update_id]
    · have hother : later.command.repeats intent = false := by
        have hrec : intent.payloadDigest = message.command.payloadDigest := by
          simp only [ClientCommand.repeats, Bool.and_eq_true, decide_eq_true_eq] at hrep
          exact hrep.1
        have hdiffers : intent.payloadDigest ≠ later.command.payloadDigest := fun heq =>
          hsame (hdig (heq.symm.trans hrec))
        simp [ClientCommand.repeats, hdiffers]
      rw [if_neg hsame]
      rw [ClientCommand.Answered, if_neg (by simp [hother])] at hansw
      obtain ⟨error, herror, hstatus⟩ := hansw
      exact ⟨error, by rw [hhandle, herror]; rfl, hstatus⟩
  | false =>
    obtain ⟨error, herror, hstatus⟩ := handle_refused hreach
    refine iff_of_false ?_ Bool.false_ne_true
    have hfailed : world.handle context later = .error error := by
      rw [hhandle, herror]
      rfl
    unfold OutboxWorld.Deduplicates
    rw [hfailed]
    split
    · intro hok
      cases hok
    · rintro ⟨other, hother, hreused⟩
      cases hother
      exact hstatus hreused

end Persistence

/-- In every interleaving, a message under the identifier of a recorded one is
deduplicated exactly when its handling compares the stored intent. Digests are
taken not to collide. -/
theorem repeated_message_deduplicated_iff {world : OutboxWorld} (hworld : world.Initial)
    (earlier : List OutboxStep) {context : GatewayContext} {message : ClientMessage}
    {recorded : OutboxWorld} {acknowledgement : Acknowledgement}
    (hrecorded : (earlier.foldl OutboxWorld.step world).handle context message =
      .ok (recorded, acknowledgement))
    (history : List OutboxStep) {later : ClientMessage} (htrip : later.tripId = message.tripId)
    (hmessage : later.command.messageId = message.command.messageId)
    (huser : later.command.userId = message.command.userId)
    (hdigest : later.command.payloadDigest = message.command.payloadDigest → later = message)
    (again : GatewayContext) :
    (history.foldl OutboxWorld.step recorded).Deduplicates again message later acknowledgement ↔
      (history.foldl OutboxWorld.step recorded).comparesIntent again later := by
  obtain ⟨hledger, hrem⟩ := ((WorldLedger.initial hworld).run earlier).handled hrecorded
  exact (hledger.run history).deduplicates_iff (hledger.remembers_run history hrem) htrip
    hmessage huser hdigest

def expiringReplacement : ClientMessage :=
  ⟨⟨1⟩, .edit ⟨⟨5⟩, ⟨2⟩, 1, some 1000, .currentPlan, ⟨6⟩, quayRequest.planSegments, ⟨7⟩⟩, rfl⟩

def gatewayAt (now : UnixTimeMilliseconds) : GatewayContext :=
  ⟨now, 0, ⟨9⟩, true, [], [], 8, by decide⟩

def replacedQuay : OutboxWorld × Acknowledgement :=
  (quayWorld.handle (gatewayAt 10) expiringReplacement).toOption.get (by decide +kernel)

def deliverReplacement : List OutboxStep :=
  [.claim ⟨1⟩ 10 1000 [], .commit ⟨1⟩ (.acquireLease ⟨3⟩ 1000 0 0), .elapse 1000000]

theorem replacement_deduplicated_in_time :
    replacedQuay.2 = ⟨⟨5⟩, .canonicalCommitted (some 2) ⟨6⟩, 2, 2⟩ ∧
    (deliverReplacement.foldl OutboxWorld.step replacedQuay.1).handle (gatewayAt 999)
      expiringReplacement =
        .ok (deliverReplacement.foldl OutboxWorld.step replacedQuay.1, replacedQuay.2) := by
  refine ⟨by decide +kernel, ?_⟩
  have hdeduplicates := (repeated_message_deduplicated_iff quayWorld_initial []
    (eq_ok_get _ : quayWorld.handle (gatewayAt 10) expiringReplacement = .ok replacedQuay)
    deliverReplacement rfl rfl rfl (fun _ => rfl) (gatewayAt 999)).mpr (by decide +kernel)
  exact hdeduplicates

/-- The recorded message is refused once its expiry has passed. -/
theorem expired_replacement_refused :
    quayWorld.handle (gatewayAt 10) expiringReplacement = .ok replacedQuay ∧
    ¬ (deliverReplacement.foldl OutboxWorld.step replacedQuay.1).Deduplicates (gatewayAt 1000)
      expiringReplacement expiringReplacement replacedQuay.2 := by
  refine ⟨eq_ok_get _, ?_⟩
  have hfailed : ((deliverReplacement.foldl OutboxWorld.step replacedQuay.1).handle
      (gatewayAt 1000) expiringReplacement).toOption.isSome = false := by decide +kernel
  intro hansw
  rw [hansw] at hfailed
  cases hfailed

end LiveRoute.Execution
