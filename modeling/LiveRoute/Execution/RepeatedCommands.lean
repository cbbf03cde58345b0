import LiveRoute.Execution.OutboxLedger
import LiveRoute.Execution.ClientCommands

/-! Repeated commands on the rows of one trip. A command that was recorded is
found again by its message as long as its handling reaches the lookup in the
recording transaction. -/
namespace LiveRoute.Execution
open Domain Persistence Gateway EarlyExit Option Bool
open TripRecord (recordCommand preparedDecision createAgain handleRuntimeFirst handleEdit handle)

/-- The intent that a message names. The creation of a trip shares the key with
its commands. -/
def TripRecord.intentBy? (record : TripRecord) (messageId : EventId) : Option IntentColumns :=
  match record.creationBy? messageId with
  | some intent => some (creationColumns intent)
  | none => (record.commandBy? messageId).map intentColumns

def ClientCommand.repeats (command : ClientCommand) (intent : IntentColumns) : Bool :=
  decide (intent.payloadDigest = command.payloadDigest) &&
    match command with
    | .create _ => intent.kind.isNone
    | .edit message => decide (intent.kind = some message.edit.transaction.kind)
    | .mutate _ | .decideProposal _ => true

open ClientCommand (repeats)

def ClientCommand.acknowledgement (intent : IntentColumns) : ClientCommand → Acknowledgement
  | .create request => createTripAcknowledgement request
  | .edit message => canonicalCommittedAcknowledgement message intent
  | .mutate message => runtimeDurableAcknowledgement message.messageId intent
  | .decideProposal message => runtimeDurableAcknowledgement message.messageId intent

def validRequest (prepared : Except GatewayError RecordRuntimeCommandRequest) : Bool :=
  prepared.toOption.any validateRecordRuntimeCommand

/-- The handling of the command compares its digest with the stored one: no
earlier check refuses it, and a creation names the intent of the creation. -/
def TripRecord.comparesIntent (record : TripRecord) (context : GatewayContext) :
    ClientCommand → Bool
  | .create request =>
    (validateCreateTripRequest request).isOk && (record.creationBy? request.messageId).isSome
  | .edit message =>
    record.lifecycle.currentPlanId.isSome && (preparedEdit message context).toOption.any
      fun request => (message.edit.transaction.validateRequest request).isOk
  | .mutate message => validRequest (preparedMutation message context)
  | .decideProposal message => validRequest (record.preparedDecision message context)

section Lookup
variable {record recorded : TripRecord} {messageId : EventId}

theorem intentBy?_creation (h : record.creationBy? messageId = some intent) :
    record.intentBy? messageId = some (creationColumns intent) := by
  rw [TripRecord.intentBy?, h]

theorem intentBy?_command (h : record.creationBy? messageId = none) :
    record.intentBy? messageId = (record.commandBy? messageId).map intentColumns := by
  rw [TripRecord.intentBy?, h]

theorem recordCommand_lookup (hvalid : validateRecordRuntimeCommand request)
    (howner : record.ownerUserId = request.ownerUserId)
    (hfound : record.intentBy? request.messageId = some intent) :
    ∃ stored : RecordedIntent, stored.columns = intent ∧ record.recordCommand request =
      if intent.payloadDigest = request.payloadDigest then .ok (record, stored)
      else .error (.record .idempotencyKeyReused) := by
  unfold recordCommand
  rw [if_neg (by simp [hvalid]), if_neg (not_not.mpr howner)]
  cases hnew : record.creationBy? request.messageId with
  | some creation =>
    rw [intentBy?_creation hnew, some_inj] at hfound
    exact ⟨.creation creation, hfound, hfound ▸ rfl⟩
  | none =>
    rw [intentBy?_command hnew] at hfound
    obtain ⟨row, hrow, rfl⟩ := map_eq_some_iff.mp hfound
    have hlookup : record.rows.commands.find? (fun stored =>
        decide (stored.eventId = request.messageId)) = some row := hrow
    have howned : record.rows.ownerUserId = request.ownerUserId := howner
    refine ⟨.command ⟨row, true⟩, rfl, ?_⟩
    unfold recordRuntimeFirst
    rw [if_neg (by simp [hvalid]), if_neg (not_not.mpr howned), hlookup]
    dsimp only
    by_cases hdig : (intentColumns row).payloadDigest = request.payloadDigest
    · rw [if_pos hdig, if_pos (by exact hdig)]
      rfl
    · rw [if_neg hdig, if_neg (by exact hdig)]

theorem edit_lookup {edit : CanonicalEdit} {request : CanonicalEditRequest}
    {context : CommitContext} {intent : IntentColumns}
    (hvalid : edit.transaction.validateRequest request = .ok ())
    (hplan : record.lifecycle.currentPlanId.isSome)
    (howner : record.ownerUserId = request.ownerUserId)
    (hfound : record.intentBy? request.messageId = some intent) :
    ∃ stored : RecordedIntent, stored.columns = intent ∧ record.edit edit request context =
      if intent.payloadDigest = request.payloadDigest ∧
          intent.kind = some edit.transaction.kind then .ok (record, stored)
      else .error (.edit .idempotencyKeyReused) := by
  obtain ⟨planId, hplan⟩ := isSome_iff_exists.mp hplan
  unfold TripRecord.edit
  rw [hvalid, hplan]
  dsimp only
  rw [if_neg (not_not.mpr howner)]
  cases hnew : record.creationBy? request.messageId with
  | some creation =>
    rw [intentBy?_creation hnew, some_inj] at hfound
    subst hfound
    refine ⟨.creation creation, rfl, ?_⟩
    rw [if_pos isSome_some, if_neg (by simp [creationColumns])]
  | none =>
    rw [intentBy?_command hnew] at hfound
    obtain ⟨row, hrow, rfl⟩ := map_eq_some_iff.mp hfound
    have hlookup : (record.canonicalTrip planId).commands.find? (fun stored =>
        decide (stored.eventId = request.messageId)) = some row := hrow
    have howned : (record.canonicalTrip planId).ownerUserId = request.ownerUserId := howner
    refine ⟨.command ⟨row, true⟩, rfl, ?_⟩
    unfold CanonicalTransaction.run
    rw [hvalid, hlookup]
    dsimp only
    rw [if_neg (by simp), if_neg (not_not.mpr howned)]
    by_cases hsame : row.payloadDigest = request.payloadDigest ∧ row.kind = edit.transaction.kind
    · have hcols : (intentColumns row).payloadDigest = request.payloadDigest ∧
          (intentColumns row).kind = some edit.transaction.kind :=
        ⟨hsame.1, congrArg some hsame.2⟩
      rw [if_pos hsame, if_pos hcols]
      dsimp only
      rw [publish_same hplan]
      rfl
    · rw [if_neg hsame, if_neg fun hcols => hsame ⟨hcols.1, Option.some.inj hcols.2⟩]

end Lookup

section Recording
variable {record recorded : TripRecord}

theorem find?_appended {row : CommandRow}
    (hfresh : ∀ stored ∈ commands, stored.eventId ≠ messageId) (hrow : row.eventId = messageId) :
    (commands ++ [row]).find? (fun stored => decide (stored.eventId = messageId)) = some row := by
  have hnone : commands.find? (fun stored => decide (stored.eventId = messageId)) = none := by
    simpa using hfresh
  rw [List.find?_append, hnone, none_or, List.find?_singleton, if_pos (by simpa using hrow)]

/-- What `RecordRuntimeFirst` returns is what it would find again. -/
theorem recordRuntimeFirst_finds (h : recordRuntimeFirst trip request = .ok (after, command)) :
    after.commands.find? (fun row => decide (row.eventId = request.messageId)) =
      some command.row ∧ command.row.payloadDigest = request.payloadDigest := by
  obtain ⟨row, duplicate⟩ := command
  cases duplicate with
  | false =>
    have hnew := recordRuntimeFirst_recorded h
    obtain ⟨sequenceFits, revisionFits, hrow⟩ := hnew.inserted
    rw [hnew.trip_eq]
    refine ⟨find?_appended hnew.fresh ?_, ?_⟩
    · rw [hrow]
      exact recordRuntimeFirst_message h
    · rw [hrow]
      rfl
  | true =>
    obtain ⟨rfl, hfound, hdig⟩ := recordRuntimeFirst_duplicate h
    exact ⟨hfound, hdig⟩

theorem run_finds {edit : CanonicalEdit}
    (h : edit.transaction.run trip request context = .ok (after, command)) :
    after.commands.find? (fun row => decide (row.eventId = request.messageId)) =
      some command.row ∧ command.row.payloadDigest = request.payloadDigest ∧
        command.row.kind = edit.transaction.kind := by
  obtain ⟨row, duplicate⟩ := command
  cases duplicate with
  | false =>
    have hcom := CanonicalTransaction.run_committed h
    obtain ⟨sequenceFits, revisionFits, hrow⟩ := hcom.row_eq
    obtain ⟨written, -, htrip⟩ := hcom.trip_eq
    rw [htrip]
    refine ⟨find?_appended hcom.fresh ?_, ?_, ?_⟩
    · rw [hrow]
      exact (validated_message hcom.validated).symm
    · rw [hrow]
      rfl
    · rw [hrow]
      rfl
  | true =>
    obtain ⟨rfl, hfound, hdig, hkind⟩ := CanonicalTransaction.run_duplicate h
    exact ⟨hfound, hdig, hkind⟩

theorem recordCommand_intent (h : record.recordCommand request = .ok (recorded, stored)) :
    record.ownerUserId = request.ownerUserId ∧
      recorded.intentBy? request.messageId = some stored.columns ∧
      stored.columns.payloadDigest = request.payloadDigest := by
  revert h
  fun_cases recordCommand record request
  case case3 howner intent hnew hdig =>
    intro h
    cases h
    exact ⟨not_not.mp howner, intentBy?_creation hnew, hdig⟩
  case case6 howner hnew trip command hrec =>
    intro h
    cases h
    obtain ⟨hfound, hdig⟩ := recordRuntimeFirst_finds hrec
    refine ⟨not_not.mp howner, ?_, hdig⟩
    rw [intentBy?_command (by exact hnew)]
    exact congrArg (Option.map intentColumns) hfound
  all_goals simp

theorem edit_intent (h : record.edit edit request context = .ok (recorded, stored)) :
    record.ownerUserId = request.ownerUserId ∧
      recorded.intentBy? request.messageId = some stored.columns ∧
      stored.columns.payloadDigest = request.payloadDigest ∧
      stored.columns.kind = some edit.transaction.kind := by
  revert h
  fun_cases TripRecord.edit record edit request context
  case case6 howner hnew trip command hrun =>
    intro h
    obtain ⟨published, hpub, hpair⟩ := map_eq_ok.mp h
    cases hpair
    obtain ⟨-, -, rfl⟩ := publish_ok hpub
    obtain ⟨hfound, hdig, hkind⟩ := run_finds hrun
    have hnone : record.creationBy? request.messageId = none := by simpa using hnew
    refine ⟨not_not.mp howner, ?_, hdig, congrArg some hkind⟩
    rw [intentBy?_command (by exact hnone)]
    exact congrArg (Option.map intentColumns) hfound
  all_goals simp

/-- The trip holds the intent that `acknowledgement` acknowledges. -/
structure Remembers (record : TripRecord) (command : ClientCommand)
    (acknowledgement : Acknowledgement) : Prop where
  owner : record.ownerUserId = command.userId
  intent : ∃ intent, record.intentBy? command.messageId = some intent ∧
    command.repeats intent ∧ command.acknowledgement intent = acknowledgement

theorem preparedMutation_ok (h : preparedMutation message context = .ok request) :
    request.ownerUserId = message.userId ∧ request.messageId = message.messageId ∧
      request.payloadDigest = message.payloadDigest := by
  unfold preparedMutation at h
  split at h
  · cases h
  split at h <;> cases h
  exact ⟨rfl, rfl, rfl⟩

theorem preparedDecision_ok (h : record.preparedDecision message context = .ok request) :
    request.ownerUserId = message.userId ∧ request.messageId = message.messageId ∧
      request.payloadDigest = message.payloadDigest := by
  revert h
  fun_cases preparedDecision record message context
  case case8 =>
    intro h
    cases h
    exact ⟨rfl, rfl, rfl⟩
  all_goals nofun

theorem preparedEdit_ok (h : preparedEdit message context = .ok request) :
    ∃ segments, request = editRequest message segments context.maxPendingCanonicalMirror := by
  unfold preparedEdit at h
  split at h
  · cases h
  split at h <;> cases h
  exact ⟨_, rfl⟩

theorem createAgain_ok (h : record.createAgain request = .ok intent) :
    record.ownerUserId = request.ownerUserId ∧ record.creationBy? request.messageId = some intent ∧
      intent.payloadDigest = request.payloadDigest := by
  revert h
  fun_cases createAgain record request
  case case4 howner _ hfound hdig =>
    intro h
    cases h
    exact ⟨not_not.mp howner, hfound, hdig⟩
  all_goals nofun

theorem handleRuntimeFirst_ok
    (h : record.handleRuntimeFirst messageId prepared = .ok (recorded, acknowledgement)) :
    ∃ request stored, prepared = .ok request ∧
      record.recordCommand request = .ok (recorded, stored) ∧
      acknowledgement = runtimeDurableAcknowledgement messageId stored.columns := by
  cases prepared with
  | error => cases h
  | ok request =>
    dsimp only [handleRuntimeFirst] at h
    split at h <;> cases h
    next hrec => exact ⟨request, _, rfl, hrec, rfl⟩

theorem handleEdit_ok (h : record.handleEdit message context = .ok (recorded, acknowledgement)) :
    ∃ segments stored, record.edit message.edit
        (editRequest message segments context.maxPendingCanonicalMirror)
        ⟨context.createdAt, context.foreignPlanIds, context.foreignActivityIds⟩ =
          .ok (recorded, stored) ∧
      acknowledgement = canonicalCommittedAcknowledgement message stored.columns := by
  unfold handleEdit at h
  split at h
  · cases h
  rename_i request hreq
  obtain ⟨segments, rfl⟩ := preparedEdit_ok hreq
  split at h <;> cases h
  next hcom => exact ⟨segments, _, hcom, rfl⟩

theorem Change.ownerUserId
    (h : Change record transaction recorded) : recorded.ownerUserId = record.ownerUserId :=
  congrArg (fun identity => identity.2.1) h.identity

theorem handleRuntimeFirst_remembers {command : ClientCommand}
    (hprep : ∀ request, prepared = .ok request → request.ownerUserId = command.userId ∧
      request.messageId = command.messageId ∧ request.payloadDigest = command.payloadDigest)
    (hrep : ∀ intent : IntentColumns, intent.payloadDigest = command.payloadDigest →
      command.repeats intent) (hack : ∀ intent, command.acknowledgement intent =
      runtimeDurableAcknowledgement command.messageId intent)
    (h : record.handleRuntimeFirst command.messageId prepared = .ok (recorded, acknowledgement)) :
    Remembers recorded command acknowledgement := by
  obtain ⟨request, stored, hreq, hrec, rfl⟩ := handleRuntimeFirst_ok h
  obtain ⟨huser, hmsg, hdig⟩ := hprep request hreq
  obtain ⟨howner, hfound, hsame⟩ := recordCommand_intent hrec
  rw [hmsg] at hfound
  refine ⟨?_, stored.columns, hfound, hrep _ (hsame.trans hdig), hack _⟩
  exact ((recordCommand_change hrec).ownerUserId.trans howner).trans huser

theorem handle_remembers (h : record.handle context command = .ok (recorded, acknowledgement)) :
    Remembers recorded command acknowledgement := by
  cases command with
  | create =>
    simp only [TripRecord.handle] at h
    split at h <;> cases h
    next intent hcreated =>
      obtain ⟨howner, hfound, hdig⟩ := createAgain_ok hcreated
      refine ⟨howner, creationColumns intent, intentBy?_creation hfound, ?_, rfl⟩
      simp only [repeats, creationColumns, isNone_none, Bool.and_true]
      exact decide_eq_true hdig
  | edit =>
    obtain ⟨segments, stored, hcom, rfl⟩ := handleEdit_ok h
    obtain ⟨howner, hfound, hdig, hkind⟩ := edit_intent hcom
    refine ⟨(edit_change hcom).ownerUserId.trans howner, stored.columns, hfound, ?_, rfl⟩
    simp only [repeats, hkind, decide_true, Bool.and_true, decide_eq_true_eq]
    exact hdig
  | mutate =>
    refine handleRuntimeFirst_remembers (fun request => preparedMutation_ok) (fun intent => ?_)
      (fun _ => rfl) h
    simp [repeats]
  | decideProposal =>
    refine handleRuntimeFirst_remembers (fun request => preparedDecision_ok) (fun intent => ?_)
      (fun _ => rfl) h
    simp [repeats]

/-- Only a creation succeeds on a trip that is missing. -/
theorem handleMissing_ok (h : handleMissing context command = .ok (recorded, acknowledgement)) :
    ∃ request creation, command = .create request ∧ createTrip request creation = .ok recorded ∧
      acknowledgement = createTripAcknowledgement request := by
  cases command with
  | create request =>
    simp only [handleMissing] at h
    split at h <;> cases h
    next hcreated => exact ⟨request, _, rfl, hcreated, rfl⟩
  | _ =>
    simp only [handleMissing] at h
    split at h
    · cases h
    split at h <;> cases h

theorem handleMissing_remembers
    (h : handleMissing context command = .ok (recorded, acknowledgement)) :
    Created recorded ∧ Remembers recorded command acknowledgement := by
  obtain ⟨request, creation, rfl, hcreated, rfl⟩ := handleMissing_ok h
  obtain ⟨activities, delays, hnew⟩ := createTrip_ok hcreated
  refine ⟨.legacy hcreated, ?_, creationColumns ⟨request.messageId, request.payloadDigest,
    request.planId⟩, intentBy?_creation ?_, ?_, rfl⟩
  · rw [hnew.record_eq]
    rfl
  · rw [hnew.record_eq]
    simp [TripRecord.creationBy?, ClientCommand.messageId]
  · simp [repeats, creationColumns, ClientCommand.payloadDigest]

/-- Besides the creation of an existing trip, a handled command is one
transaction on the trip, which is no finalization. -/
theorem handle_commits (h : record.handle context command = .ok (recorded, acknowledgement)) :
    recorded = record ∨ ∃ transaction : TripTransaction,
      transaction.finalizes = none ∧ record.commit transaction = .ok recorded := by
  have hrun : ∀ {messageId prepared}, record.handleRuntimeFirst messageId prepared =
      .ok (recorded, acknowledgement) → ∃ transaction : TripTransaction,
        transaction.finalizes = none ∧ record.commit transaction = .ok recorded := by
    intro messageId prepared hhand
    obtain ⟨request, stored, -, hrec, -⟩ := handleRuntimeFirst_ok hhand
    exact ⟨.record request, rfl, congrArg (Except.map Prod.fst) hrec⟩
  cases command with
  | create =>
    simp only [TripRecord.handle] at h
    split at h <;> cases h
    exact .inl rfl
  | edit message =>
    obtain ⟨segments, stored, hcom, -⟩ := handleEdit_ok h
    exact .inr ⟨.edit message.edit _ _, rfl, congrArg (Except.map Prod.fst) hcom⟩
  | mutate => exact .inr (hrun h)
  | decideProposal => exact .inr (hrun h)

end Recording

section Repeating
variable {record : TripRecord} {context : GatewayContext}

theorem validRequest_iff : validRequest prepared ↔
      ∃ request, prepared = .ok request ∧ validateRecordRuntimeCommand request := by
  cases prepared <;> simp [validRequest, Except.toOption]

theorem isOk_iff {ε : Type} {result : Except ε Unit} : result.isOk ↔ result = .ok () := by
  cases result <;> simp [Except.isOk, Except.toBool]

def ClientCommand.Answered (command : ClientCommand) (record : TripRecord)
    (context : GatewayContext) (intent : IntentColumns) : Prop :=
  if command.repeats intent then
    record.handle context command = .ok (record, command.acknowledgement intent)
  else ∃ error, record.handle context command = .error error ∧ error.status = .idempotencyKeyReused

theorem handleRuntimeFirst_answered {command : ClientCommand}
    (hprep : ∀ request, prepared = .ok request → request.ownerUserId = command.userId ∧
      request.messageId = command.messageId ∧ request.payloadDigest = command.payloadDigest)
    (hrep : command.repeats intent = decide (intent.payloadDigest = command.payloadDigest))
    (hack : command.acknowledgement intent = runtimeDurableAcknowledgement command.messageId intent)
    (hhandle : record.handle context command = record.handleRuntimeFirst command.messageId prepared)
    (hvalid : validRequest prepared) (howner : record.ownerUserId = command.userId)
    (hfound : record.intentBy? command.messageId = some intent) :
    command.Answered record context intent := by
  obtain ⟨request, rfl, hvalid⟩ := validRequest_iff.mp hvalid
  obtain ⟨huser, hmsg, hdig⟩ := hprep request rfl
  obtain ⟨stored, hstored, hlookup⟩ := recordCommand_lookup hvalid (howner.trans huser.symm)
    (hmsg ▸ hfound)
  rw [hdig] at hlookup
  unfold ClientCommand.Answered
  rw [hrep, hhandle, hack]
  by_cases hsame : intent.payloadDigest = command.payloadDigest
  · rw [if_pos (decide_eq_true hsame)]
    rw [if_pos hsame] at hlookup
    simp only [handleRuntimeFirst, hlookup, hstored]
  · rw [if_neg (by simpa using hsame)]
    rw [if_neg hsame] at hlookup
    refine ⟨.trip (.record .idempotencyKeyReused), ?_, rfl⟩
    simp only [handleRuntimeFirst, hlookup]

theorem createAgain_answered (hcmp : record.comparesIntent context (.create request))
    (howner : record.ownerUserId = request.ownerUserId)
    (hfound : record.intentBy? request.messageId = some intent) :
    (ClientCommand.create request).Answered record context intent := by
  simp only [TripRecord.comparesIntent, and_eq_true, isOk_iff] at hcmp
  obtain ⟨hvalid, hnew⟩ := hcmp
  obtain ⟨creation, hnew⟩ := isSome_iff_exists.mp hnew
  rw [intentBy?_creation hnew, some_inj] at hfound
  subst hfound
  have hagain : record.createAgain request =
      if creation.payloadDigest = request.payloadDigest then .ok creation
      else .error .idempotencyKeyReused := by
    unfold TripRecord.createAgain
    rw [hvalid, hnew]
    rw [if_neg (not_not.mpr howner)]
  have hrep : (ClientCommand.create request).repeats (creationColumns creation) =
      decide (creation.payloadDigest = request.payloadDigest) := and_true _
  unfold ClientCommand.Answered
  rw [hrep]
  by_cases hsame : creation.payloadDigest = request.payloadDigest
  · rw [if_pos (decide_eq_true hsame)]
    rw [if_pos hsame] at hagain
    simp only [TripRecord.handle, hagain]
    rfl
  · rw [if_neg (by simpa using hsame)]
    rw [if_neg hsame] at hagain
    refine ⟨.create .idempotencyKeyReused, ?_, rfl⟩
    simp only [TripRecord.handle, hagain]

theorem handleEdit_answered (hcmp : record.comparesIntent context (.edit message))
    (howner : record.ownerUserId = message.userId)
    (hfound : record.intentBy? message.messageId = some intent) :
    (ClientCommand.edit message).Answered record context intent := by
  simp only [TripRecord.comparesIntent, and_eq_true, any_eq_true, isOk_iff] at hcmp
  obtain ⟨hplan, request, hreq, hvalid⟩ := hcmp
  have hprep : preparedEdit message context = .ok request := by
    cases hcase : preparedEdit message context with
    | error =>
      rw [hcase] at hreq
      cases hreq
    | ok =>
      rw [hcase] at hreq
      cases hreq
      rfl
  obtain ⟨segments, rfl⟩ := preparedEdit_ok hprep
  obtain ⟨stored, hstored, hlookup⟩ := @edit_lookup record message.edit _
    ⟨context.createdAt, context.foreignPlanIds, context.foreignActivityIds⟩ intent hvalid hplan
    howner hfound
  have hrep : (ClientCommand.edit message).repeats intent =
      decide (intent.payloadDigest = message.payloadDigest ∧
        intent.kind = some message.edit.transaction.kind) := (decide_and _ _).symm
  unfold ClientCommand.Answered
  rw [hrep]
  by_cases hsame : intent.payloadDigest = message.payloadDigest ∧
      intent.kind = some message.edit.transaction.kind
  · rw [if_pos (decide_eq_true hsame)]
    rw [if_pos (by exact hsame)] at hlookup
    simp only [TripRecord.handle, TripRecord.handleEdit, hprep, hlookup, hstored]
    rfl
  · rw [if_neg (by simpa using hsame)]
    rw [if_neg (by exact hsame)] at hlookup
    refine ⟨.trip (.edit .idempotencyKeyReused), ?_, rfl⟩
    simp only [TripRecord.handle, TripRecord.handleEdit, hprep, hlookup]

theorem handle_answered (hcmp : record.comparesIntent context command)
    (howner : record.ownerUserId = command.userId)
    (hfound : record.intentBy? command.messageId = some intent) :
    command.Answered record context intent := by
  cases command with
  | create => exact createAgain_answered hcmp howner hfound
  | edit => exact handleEdit_answered hcmp howner hfound
  | mutate =>
    exact handleRuntimeFirst_answered (fun request => preparedMutation_ok) (and_true _) rfl
      rfl hcmp howner hfound
  | decideProposal =>
    exact handleRuntimeFirst_answered (fun request => preparedDecision_ok) (and_true _) rfl
      rfl hcmp howner hfound

def Refused (result : Except GatewayError (TripRecord × Acknowledgement)) : Prop :=
  ∃ error, result = .error error ∧ error.status ≠ .idempotencyKeyReused

theorem preparedDecision_error (h : record.preparedDecision message context = .error error) :
    error.status ≠ .idempotencyKeyReused := by
  revert h
  fun_cases preparedDecision record message context
  case case4 hfailed =>
    intro h
    cases h
    revert hfailed
    fun_cases prepareProposalAcceptance <;> nofun
  case case6 hfailed =>
    intro h
    cases h
    revert hfailed
    fun_cases plannedFor
    · rw [map_eq_error]
      fun_cases plannedAcceptedCurrentPlan <;> nofun
    · nofun
  all_goals nofun

theorem preparedMutation_error (h : preparedMutation message context = .error error) :
    error.status ≠ .idempotencyKeyReused := by
  unfold preparedMutation at h
  split at h
  · cases h
    decide
  · split at h <;> cases h
    decide

theorem handleRuntimeFirst_refused
    (hprep : ∀ error, prepared = .error error → error.status ≠ .idempotencyKeyReused)
    (h : validRequest prepared = false) :
    Refused (record.handleRuntimeFirst messageId prepared) := by
  cases prepared with
  | error error => exact ⟨error, rfl, hprep error rfl⟩
  | ok request =>
    have hbad : validateRecordRuntimeCommand request = false := h
    refine ⟨.trip (.record .invalidRequest), ?_, by decide⟩
    simp [handleRuntimeFirst, recordCommand, hbad]

theorem createAgain_refused (h : record.comparesIntent context (.create request) = false) :
    Refused (record.handle context (.create request)) := by
  simp only [Refused, TripRecord.handle, TripRecord.createAgain]
  cases hvalid : validateCreateTripRequest request with
  | error => exact ⟨_, rfl, by simp [GatewayError.status]⟩
  | ok =>
    have hnone : record.creationBy? request.messageId = none := by
      simpa [TripRecord.comparesIntent, hvalid, Except.isOk, Except.toBool] using h
    rw [hnone]
    by_cases howner : record.ownerUserId = request.ownerUserId
    · rw [if_neg (not_not.mpr howner)]
      exact ⟨_, rfl, by decide⟩
    · rw [if_pos howner]
      exact ⟨_, rfl, by decide⟩

theorem handleEdit_refused (h : record.comparesIntent context (.edit message) = false) :
    Refused (record.handleEdit message context) := by
  simp only [Refused, handleEdit]
  cases hprep : preparedEdit message context with
  | error error =>
    refine ⟨error, rfl, ?_⟩
    unfold preparedEdit at hprep
    split at hprep
    · cases hprep
      decide
    · split at hprep <;> cases hprep
      decide
  | ok request =>
    dsimp only [TripRecord.edit]
    cases hvalid : message.edit.transaction.validateRequest request with
    | error => exact ⟨_, rfl, by simp [GatewayError.status, canonicalErrorStatus]⟩
    | ok =>
      have hnone : record.lifecycle.currentPlanId = none := by
        simpa [TripRecord.comparesIntent, hprep, hvalid, Except.toOption, Except.isOk,
          Except.toBool] using h
      rw [hnone]
      exact ⟨_, rfl, by decide⟩

theorem handle_refused (h : record.comparesIntent context command = false) :
    Refused (record.handle context command) := by
  cases command with
  | create => exact createAgain_refused h
  | edit => exact handleEdit_refused h
  | mutate => exact handleRuntimeFirst_refused (fun error => preparedMutation_error) h
  | decideProposal =>
    exact handleRuntimeFirst_refused (fun error => preparedDecision_error) h

end Repeating

end LiveRoute.Execution
