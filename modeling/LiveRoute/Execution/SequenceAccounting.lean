import LiveRoute.Execution.CommitCases

/-! The two counters of mutation sequences. Commands take the next sequence and
leave it to their finalization, edits and activations take it and finalize it
at once; an activation alone does not look for an unresolved command. -/
namespace LiveRoute.Execution
open Domain Persistence List
open CommandRow (isPendingRuntimeFirst)

variable {row : CommandRow} {transaction : TripTransaction}

def TripRecord.unresolvedCount (record : TripRecord) : Nat :=
  record.commands.countP CommandRow.isPendingRuntimeFirst

def TripRecord.sequences (record : TripRecord) : List Nat :=
  record.creation.toList.map (fun _ => 1) ++ record.commands.map CommandRow.mutationSequence

def TripRecord.Resolved (record : TripRecord) (sequence : Nat) : Prop :=
  (record.creation.isSome ∧ sequence = 1) ∨
    ∃ row ∈ record.commands, row.mutationSequence = sequence ∧ row.intentState ≠ .pending

/-- `baselines` are the sequences that activations have taken. -/
structure Accounting (record : TripRecord) (baselines : List Nat) : Prop where
  next : record.nextMutationSequence = record.finalizedMutationSequence + 1 + record.unresolvedCount
  single : record.unresolvedCount ≤ 1
  distinct : record.sequences.Nodup
  passed : ∀ sequence, 0 < sequence → sequence ≤ record.finalizedMutationSequence →
    record.Resolved sequence ∨ sequence ∈ baselines
  resolved : ∀ row ∈ record.commands, row.mutationSequence ≤ record.finalizedMutationSequence →
    row.intentState ≠ .pending

def isActivation : TripTransaction → Bool
  | .activate .. => true
  | _ => false

def baseline (record : TripRecord) (transaction : TripTransaction) : List Nat :=
  if isActivation transaction ∧ record.step transaction ≠ record then
    [record.nextMutationSequence]
  else []

def baselines : TripRecord → List TripTransaction → List Nat
  | _, [] => []
  | record, transaction :: rest =>
    baseline record transaction ++ baselines (record.step transaction) rest

/-- The accounting with what carries it: every sequence lies below the next
one, and an unresolved command is the one that the trip finalizes next. -/
structure Ledger (record : TripRecord) (baselines : List Nat) : Prop extends
    Accounting record baselines where
  below : ∀ sequence ∈ record.sequences, sequence < record.nextMutationSequence
  pending : ∀ row ∈ record.commands, row.intentState = .pending → row.kind.isRuntimeFirst ∧
      row.mutationSequence = record.finalizedMutationSequence + 1

section Counts
variable {record : TripRecord} {baselines : List Nat}

theorem unresolvedCount_eq_zero_iff : record.unresolvedCount = 0 ↔
      ∀ row ∈ record.commands, row.isPendingRuntimeFirst = false := by
  simp [TripRecord.unresolvedCount, countP_eq_zero]

theorem Ledger.not_pending (h : Ledger record baselines) (hzero : record.unresolvedCount = 0) :
    ∀ row ∈ record.commands, row.intentState ≠ .pending := by
  intro row hrow hpend
  have hsettled := unresolvedCount_eq_zero_iff.mp hzero row hrow
  simp [isPendingRuntimeFirst, (h.pending row hrow hpend).1, hpend] at hsettled

theorem Ledger.row_unique (h : Ledger record baselines)
    (hleft : left ∈ record.commands) (hright : right ∈ record.commands)
    (hseq : left.mutationSequence = right.mutationSequence) : left = right :=
  inj_on_of_nodup_map (nodup_append.mp h.distinct).2.1 hleft hright hseq

end Counts

theorem Ledger.congr {other : TripRecord} {baselines : List Nat}
    (h : Ledger record baselines) (hnext : other.nextMutationSequence = record.nextMutationSequence)
    (hfin : other.finalizedMutationSequence = record.finalizedMutationSequence)
    (hnew : other.creation = record.creation) (hcmds : other.commands = record.commands) :
    Ledger other baselines := by
  have hcount : other.unresolvedCount = record.unresolvedCount := by
    rw [TripRecord.unresolvedCount, hcmds]
    rfl
  have hseqs : other.sequences = record.sequences := by
    rw [TripRecord.sequences, hnew, hcmds]
    rfl
  constructor
  case toAccounting =>
    constructor
    case next => rw [hnext, hfin, hcount]; exact h.next
    case single => rw [hcount]; exact h.single
    case distinct => rw [hseqs]; exact h.distinct
    case passed =>
      rw [hfin]
      unfold TripRecord.Resolved
      rw [hnew, hcmds]
      exact h.passed
    case resolved => rw [hcmds, hfin]; exact h.resolved
  case below => rw [hseqs, hnext]; exact h.below
  case pending => rw [hcmds, hfin]; exact h.pending

theorem Ledger.map_commands {baselines : List Nat}
    (h : Ledger record baselines) {update : CommandRow → CommandRow}
    (hseq : ∀ row, (update row).mutationSequence = row.mutationSequence)
    (hkind : ∀ row, (update row).kind = row.kind)
    (hintent : ∀ row, (update row).intentState = row.intentState) :
    Ledger { record with commands := record.commands.map update } baselines := by
  have hcount : ({ record with commands := record.commands.map update } :
      TripRecord).unresolvedCount = record.unresolvedCount := by
    unfold TripRecord.unresolvedCount
    rw [countP_map]
    congr 1
    funext row
    simp [isPendingRuntimeFirst, hkind, hintent]
  have hseqs : ({ record with commands := record.commands.map update } :
      TripRecord).sequences = record.sequences := by
    simp only [TripRecord.sequences, map_map]
    congr 2
    funext row
    exact hseq row
  constructor
  case toAccounting =>
    constructor
    case next => rw [hcount]; exact h.next
    case single => rw [hcount]; exact h.single
    case distinct => rw [hseqs]; exact h.distinct
    case passed =>
      intro sequence hpos hpass
      obtain (hcreated | ⟨row, hrow, hrows, hdone⟩) | hbaseline := h.passed sequence hpos hpass
      · exact .inl (.inl hcreated)
      · exact .inl (.inr ⟨update row, mem_map_of_mem hrow, by rw [hseq, hrows], by rwa [hintent]⟩)
      · exact .inr hbaseline
    case resolved =>
      intro stored hstored
      obtain ⟨row, hrow, rfl⟩ := mem_map.mp hstored
      rw [hseq, hintent]
      exact h.resolved row hrow
  case below => rw [hseqs]; exact h.below
  case pending =>
    intro stored hstored
    obtain ⟨row, hrow, rfl⟩ := mem_map.mp hstored
    rw [hintent, hkind, hseq]
    exact h.pending row hrow

section Steps
variable {record other : TripRecord} {baselines : List Nat}

/-- The trip has one command more, which took the next sequence. -/
structure Appends (record other : TripRecord) (row : CommandRow) : Prop where
  sequence : row.mutationSequence = record.nextMutationSequence
  creation : other.creation = record.creation
  commands : other.commands = record.commands ++ [row]
  next : other.nextMutationSequence = record.nextMutationSequence + 1

theorem Appends.sequences_eq (h : Appends record other row) :
    other.sequences = record.sequences ++ [row.mutationSequence] := by
  simp [TripRecord.sequences, h.creation, h.commands]

theorem Appends.unresolvedCount_eq (h : Appends record other row) : other.unresolvedCount =
    record.unresolvedCount + if row.isPendingRuntimeFirst then 1 else 0 := by
  simp [TripRecord.unresolvedCount, h.commands, countP_append, countP_singleton]

theorem Appends.mem_commands (h : Appends record other row) :
    stored ∈ other.commands ↔ stored ∈ record.commands ∨ stored = row := by
  rw [h.commands, mem_append, mem_singleton]

theorem Appends.distinct (happends : Appends record other row) (h : Ledger record baselines) :
    other.sequences.Nodup := by
  rw [happends.sequences_eq, nodup_append]
  refine ⟨h.distinct, nodup_singleton _, ?_⟩
  intro sequence hmem taken htaken heq
  rw [mem_singleton, happends.sequence] at htaken
  have hbelow := h.below sequence hmem
  omega

theorem Appends.below (happends : Appends record other row) (h : Ledger record baselines) :
    ∀ sequence ∈ other.sequences, sequence < other.nextMutationSequence := by
  intro sequence hmem
  rw [happends.sequences_eq, mem_append, mem_singleton, happends.sequence] at hmem
  rw [happends.next]
  obtain hmem | rfl := hmem
  · exact Nat.lt_succ_of_lt (h.below sequence hmem)
  · omega

theorem Appends.resolved (happends : Appends record other row) {sequence : Nat}
    (h : record.Resolved sequence) : other.Resolved sequence := by
  unfold TripRecord.Resolved
  rw [happends.creation, happends.commands]
  obtain hcreated | ⟨stored, hstored, hdone⟩ := h
  · exact .inl hcreated
  · exact .inr ⟨stored, mem_append_left _ hstored, hdone⟩

section
variable (h : Ledger record baselines)
include h

theorem Ledger.recorded (hzero : record.unresolvedCount = 0) (happends : Appends record other row)
    (hkind : row.kind.isRuntimeFirst) (hpend : row.intentState = .pending)
    (hfin : other.finalizedMutationSequence = record.finalizedMutationSequence) :
    Ledger other baselines := by
  have hcount : other.unresolvedCount = 1 := by
    rw [happends.unresolvedCount_eq, hzero, isPendingRuntimeFirst, hkind, hpend]
    rfl
  have hseq := happends.sequence
  have hnext := happends.next
  have hlast := h.next
  constructor
  case toAccounting =>
    constructor
    case next => omega
    case single => omega
    case distinct => exact happends.distinct h
    case passed =>
      intro sequence hpos hpass
      rw [hfin] at hpass
      exact (h.passed sequence hpos hpass).imp_left happends.resolved
    case resolved =>
      intro stored hstored hpass
      obtain hstored | rfl := happends.mem_commands.mp hstored
      · exact h.not_pending hzero stored hstored
      · omega
  case below => exact happends.below h
  case pending =>
    intro stored hstored hopen
    obtain hstored | rfl := happends.mem_commands.mp hstored
    · exact absurd hopen (h.not_pending hzero stored hstored)
    · exact ⟨hkind, by omega⟩

theorem Ledger.edited (hzero : record.unresolvedCount = 0)
    (happends : Appends record other row) (happ : row.intentState ≠ .pending)
    (hfin : other.finalizedMutationSequence = record.nextMutationSequence) :
    Ledger other baselines := by
  have hcount : other.unresolvedCount = 0 := by
    rw [happends.unresolvedCount_eq, hzero]
    simp [isPendingRuntimeFirst, happ]
  have hseq := happends.sequence
  have hnext := happends.next
  have hlast := h.next
  have hsettled : ∀ stored ∈ other.commands, stored.intentState ≠ .pending := by
    intro stored hstored
    obtain hstored | rfl := happends.mem_commands.mp hstored
    · exact h.not_pending hzero stored hstored
    · exact happ
  constructor
  case toAccounting =>
    constructor
    case next => omega
    case single => omega
    case distinct => exact happends.distinct h
    case passed =>
      intro sequence hpos hpass
      rcases Nat.lt_or_ge record.finalizedMutationSequence sequence with hnew | hold
      · have hlatest : row.mutationSequence = sequence := by omega
        exact .inl (.inr ⟨row, by simp [happends.commands], hlatest, happ⟩)
      · exact (h.passed sequence hpos hold).imp_left happends.resolved
    case resolved => exact fun stored hstored _ => hsettled stored hstored
  case below => exact happends.below h
  case pending => exact fun stored hstored hopen => absurd hopen (hsettled stored hstored)

/-- An activation takes the next sequence as a baseline. It keeps the ledger
when no command is unresolved. -/
theorem Ledger.activated (hzero : record.unresolvedCount = 0)
    (hcreation : other.creation = record.creation) (hcmds : other.commands = record.commands)
    (hnext : other.nextMutationSequence = record.nextMutationSequence + 1)
    (hfin : other.finalizedMutationSequence = record.nextMutationSequence) :
    Ledger other (baselines ++ [record.nextMutationSequence]) := by
  have hcount : other.unresolvedCount = 0 := by
    rw [TripRecord.unresolvedCount, hcmds]
    exact hzero
  have hseqs : other.sequences = record.sequences := by
    rw [TripRecord.sequences, hcreation, hcmds]
    rfl
  have hlast := h.next
  have hsettled : ∀ stored ∈ other.commands, stored.intentState ≠ .pending := by
    rw [hcmds]
    exact h.not_pending hzero
  constructor
  case toAccounting =>
    constructor
    case next => omega
    case single => omega
    case distinct => rw [hseqs]; exact h.distinct
    case passed =>
      intro sequence hpos hpass
      rcases Nat.lt_or_ge record.finalizedMutationSequence sequence with hnew | hold
      · right
        rw [mem_append, mem_singleton]
        omega
      · obtain hdone | hbaseline := h.passed sequence hpos hold
        · left
          unfold TripRecord.Resolved
          rw [hcreation, hcmds]
          exact hdone
        · exact .inr (mem_append_left _ hbaseline)
    case resolved => exact fun stored hstored _ => hsettled stored hstored
  case below =>
    intro sequence hmem
    rw [hseqs] at hmem
    rw [hnext]
    exact Nat.lt_succ_of_lt (h.below sequence hmem)
  case pending => exact fun stored hstored hopen => absurd hopen (hsettled stored hstored)

theorem Ledger.finalized
    (hres : ResolvesAwaited record.rows mutated trip eventId row state delivery tripRevision)
    (hcreation : other.creation = record.creation) (hcmds : other.commands = trip.commands)
    (hnext : other.nextMutationSequence = trip.nextMutationSequence)
    (hfin : other.finalizedMutationSequence = trip.finalizedMutationSequence) :
    Ledger other baselines := by
  obtain ⟨hrow, htripNext, htripFinalized, update, hupd, hsequence, -, hintent⟩ := hres.rows
  replace hcmds : other.commands = record.commands.map update := hcmds.trans hupd
  have hawaits := hres.awaits
  have hseqs : other.sequences = record.sequences := by
    rw [TripRecord.sequences, hcreation, hcmds, map_map]
    congr 2
    funext stored
    exact hsequence stored
  -- Any other unresolved row would have the sequence of the awaited one.
  have hsettled : ∀ stored ∈ other.commands, stored.intentState ≠ .pending := by
    intro stored hstored hopen
    rw [hcmds] at hstored
    obtain ⟨before, hbefore, rfl⟩ := mem_map.mp hstored
    obtain hdone | ⟨hother, hsame⟩ := hintent before
    · exact hdone hopen
    rw [hsame] at hopen
    have hunique := h.row_unique hbefore hrow
      ((h.pending before hbefore hopen).2.trans hawaits.next)
    exact hother (congrArg CommandRow.eventId hunique)
  have hone : record.unresolvedCount = 1 := by
    have hpos : 0 < record.unresolvedCount := by
      apply countP_pos_iff.mpr
      refine ⟨row, hrow, ?_⟩
      simp [isPendingRuntimeFirst, (h.pending row hrow hawaits.pending).1, hawaits.pending]
    have hsingle := h.single
    omega
  have hcount : other.unresolvedCount = 0 := by
    rw [unresolvedCount_eq_zero_iff]
    intro stored hstored
    simp [isPendingRuntimeFirst, hsettled stored hstored]
  have hbefore := h.next
  have hrecordNext : trip.nextMutationSequence = record.nextMutationSequence := htripNext
  have hrecordFinalized : trip.finalizedMutationSequence =
      record.finalizedMutationSequence + 1 := htripFinalized
  constructor
  case toAccounting =>
    constructor
    case next => omega
    case single => omega
    case distinct => rw [hseqs]; exact h.distinct
    case passed =>
      intro sequence hpos hpass
      rcases Nat.lt_or_ge record.finalizedMutationSequence sequence with hnew | hold
      · have hsame : (update row).mutationSequence = sequence := by
          rw [hsequence, ← hawaits.next]
          omega
        have hmem : update row ∈ other.commands := hcmds ▸ mem_map_of_mem hrow
        exact .inl (.inr ⟨update row, hmem, hsame, hsettled _ hmem⟩)
      · obtain (hcreated | ⟨stored, hstored, hseq, -⟩) | hbaseline := h.passed sequence hpos hold
        · exact .inl (.inl ⟨hcreation ▸ hcreated.1, hcreated.2⟩)
        · have hmem : update stored ∈ other.commands := hcmds ▸ mem_map_of_mem hstored
          exact .inl (.inr ⟨update stored, hmem, by rw [hsequence, hseq], hsettled _ hmem⟩)
        · exact .inr hbaseline
    case resolved => exact fun stored hstored _ => hsettled stored hstored
  case below =>
    rw [hseqs, hnext, hrecordNext]
    exact h.below
  case pending => exact fun stored hstored hopen => absurd hopen (hsettled stored hstored)

theorem Ledger.mono (hwider : baselines ⊆ wider) : Ledger record wider :=
  { h with passed := fun sequence hpos hpass =>
      (h.passed sequence hpos hpass).imp_right fun hmem => hwider hmem }

end

theorem unresolvedCount_of_recorded (h : NewlyRecorded record.rows trip request row) :
    record.unresolvedCount = 0 := by
  rw [unresolvedCount_eq_zero_iff]
  intro stored hstored
  have hsettled := all_eq_true.mp h.settled stored hstored
  simp only [CommandRow.isUnresolved, Bool.not_eq_true'] at hsettled
  unfold isPendingRuntimeFirst
  split at hsettled
  next hkind => rw [hkind, Bool.true_and, hsettled]
  next hkind => rw [Bool.not_eq_true] at hkind; rw [hkind, Bool.false_and]

theorem Ledger.change (h : Ledger record baselines) (hchange : Change record transaction other)
    (hsettled : isActivation transaction → other ≠ record → record.unresolvedCount = 0) :
    Ledger other (baselines ++
      if isActivation transaction ∧ other ≠ record then [record.nextMutationSequence] else []) := by
  have hkeep : Ledger other baselines → Ledger other (baselines ++
      if isActivation transaction ∧ other ≠ record then [record.nextMutationSequence] else []) :=
    fun hother => hother.mono (subset_append_left _ _)
  cases hchange with
  | unchanged => exact hkeep h
  | recorded _ hrec =>
    apply hkeep
    obtain ⟨sequenceFits, revisionFits, hrow⟩ := hrec.inserted
    have htrip := hrec.trip_eq
    rw [htrip]
    refine h.recorded (unresolvedCount_of_recorded hrec) ⟨congrArg _ hrow, rfl, rfl, rfl⟩ ?_ ?_ rfl
    · rw [hrow]
      exact hrec.kind
    · rw [hrow]
      rfl
  | edited _ hedit hcom hpub =>
    apply hkeep
    obtain ⟨-, -, rfl⟩ := publish_ok hpub
    obtain ⟨sequenceFits, revisionFits, hrow⟩ := hcom.row_eq
    obtain ⟨written, -, htrip⟩ := hcom.trip_eq
    rw [htrip]
    refine h.edited (unresolvedCount_eq_zero_iff.mpr (by simpa using hedit))
      ⟨congrArg _ hrow, rfl, rfl, rfl⟩ ?_ rfl
    rw [hrow]
    simp [mirrorRow]
  | mutated _ _ hres => exact hkeep (h.finalized hres rfl rfl rfl rfl)
  | resolved _ _ hres => exact hkeep (h.finalized hres rfl rfl rfl rfl)
  | accepted _ _ hres hpub =>
    apply hkeep
    obtain ⟨-, -, rfl⟩ := publish_ok hpub
    exact h.finalized hres rfl rfl rfl rfl
  | mirrored =>
    apply hkeep
    apply h.map_commands
    · intro row
      split <;> rfl
    · intro row
      split <;> rfl
    · intro row
      split <;> rfl
  | leased => exact hkeep (h.congr rfl rfl rfl rfl)
  | revised => exact hkeep (h.congr rfl rfl rfl rfl)
  | activated hactd =>
    obtain ⟨-, activities, -, -, hins⟩ := hactd.inserted
    obtain ⟨rows, lifecycle, -, -, hother⟩ := hins.inserted
    have hnext : other.nextMutationSequence = record.nextMutationSequence + 1 := by rw [hother]
    have hmoved : other ≠ record := by
      intro hsame
      rw [hsame] at hnext
      omega
    rw [if_pos ⟨rfl, hmoved⟩]
    apply h.activated (hsettled rfl hmoved) _ _ hnext
    · rw [hother]
    · rw [hother]
    · rw [hother]
  | activationCompleted _ _ _ _ hcomp =>
    obtain ⟨records, lifecycle, -, -, rfl⟩ := completeOperation_ok hcomp
    exact hkeep (h.congr rfl rfl rfl rfl)
  | deactivated hdeact =>
    obtain ⟨lifecycle, -, rfl⟩ := hdeact.inserted
    exact hkeep (h.congr rfl rfl rfl rfl)
  | deactivationCompleted _ _ _ _ _ hcomp =>
    obtain ⟨records, lifecycle, -, -, rfl⟩ := completeOperation_ok hcomp
    exact hkeep (h.congr rfl rfl rfl rfl)

end Steps

theorem Ledger.created (h : Created record) : Ledger record [] := by
  cases h with
  | saved =>
    refine ⟨⟨rfl, Nat.zero_le _, nodup_nil, ?_, by simp [savedTrip]⟩,
      by simp [savedTrip, TripRecord.sequences], by simp [savedTrip]⟩
    intro sequence hpos hpass
    exact absurd hpos (Nat.not_lt.mpr hpass)
  | legacy hcreated =>
    obtain ⟨activities, delays, hnew⟩ := createTrip_ok hcreated
    rw [hnew.record_eq]
    refine ⟨⟨rfl, Nat.zero_le _, nodup_singleton _, ?_, by simp⟩, ?_, by simp⟩
    · intro sequence hpos hpass
      have hfirst : sequence = 1 := Nat.le_antisymm hpass hpos
      exact .inl (.inl ⟨rfl, hfirst⟩)
    · intro sequence hmem
      rw [mem_singleton.mp hmem]
      exact Nat.lt_succ_self 1

def activatesSettled : TripRecord → List TripTransaction → Bool
  | _, [] => true
  | record, transaction :: rest =>
    (!isActivation transaction || decide (record.step transaction = record) ||
      decide (record.unresolvedCount = 0)) && activatesSettled (record.step transaction) rest

theorem Ledger.step {record : TripRecord} {bases : List Nat} (h : Ledger record bases)
    (hsettled : isActivation transaction → record.step transaction ≠ record →
      record.unresolvedCount = 0) :
    Ledger (record.step transaction) (bases ++ baseline record transaction) := by
  unfold baseline
  unfold TripRecord.step at hsettled ⊢
  cases hcommit : record.commit transaction with
  | error =>
    simp only [ne_eq, not_true_eq_false, and_false, if_false, append_nil]
    exact h
  | ok =>
    simp only [hcommit] at hsettled ⊢
    exact h.change (commit_change hcommit) hsettled

theorem Ledger.run (h : Ledger record bases) (hsettled : activatesSettled record history)
    (hdone : done <+: history) : Ledger (record.run done) (bases ++ baselines record done) := by
  induction history generalizing record bases done with
  | nil =>
    rw [prefix_nil.mp hdone]
    simpa [baselines, TripRecord.run] using h
  | cons _ _ ih =>
    cases done with
    | nil => simpa [baselines, TripRecord.run] using h
    | cons first =>
      obtain ⟨rfl, hlater⟩ := cons_prefix_cons.mp hdone
      simp only [activatesSettled, Bool.and_eq_true, Bool.or_eq_true, Bool.not_eq_true',
        decide_eq_true_eq] at hsettled
      have hstep : Ledger (record.step first) (bases ++ baseline record first) := by
        apply h.step
        intro hact hmoved
        obtain (hother | hsame) | hzero := hsettled.1
        · simp [hact] at hother
        · exact absurd hsame hmoved
        · exact hzero
      rw [baselines, ← append_assoc]
      exact ih hstep hsettled.2 hlater

theorem settled_of_accounted {record : TripRecord} (hact : isActivation transaction)
    (hmoved : record.step transaction ≠ record)
    (hnext : (record.step transaction).nextMutationSequence =
      (record.step transaction).finalizedMutationSequence + 1 +
        (record.step transaction).unresolvedCount) :
    record.unresolvedCount = 0 := by
  cases transaction with
  | activate request context =>
    unfold TripRecord.step at hmoved hnext
    cases hcommit : record.commit (.activate request context) with
    | error => simp [hcommit] at hmoved
    | ok =>
      simp only [hcommit] at hmoved hnext
      obtain rfl | hactd := activate_ok hcommit
      · exact absurd rfl hmoved
      obtain ⟨-, activities, -, -, hins⟩ := hactd.inserted
      obtain ⟨rows, lifecycle, -, -, rfl⟩ := hins.inserted
      change record.nextMutationSequence + 1 =
        record.nextMutationSequence + 1 + record.unresolvedCount at hnext
      omega
  | _ => cases hact

theorem activatesSettled_of_accounted {record : TripRecord}
    (h : ∀ done, done <+: history → (record.run done).nextMutationSequence =
      (record.run done).finalizedMutationSequence + 1 + (record.run done).unresolvedCount) :
    activatesSettled record history := by
  induction history generalizing record with
  | nil => rfl
  | cons transaction rest ih =>
    have hrest : activatesSettled (record.step transaction) rest := ih fun done hdone =>
      h (transaction :: done) (cons_prefix_cons.mpr ⟨rfl, hdone⟩)
    have hone := h [transaction] (cons_prefix_cons.mpr ⟨rfl, nil_prefix⟩)
    simp only [activatesSettled, hrest, Bool.and_true, Bool.or_eq_true, Bool.not_eq_true',
      decide_eq_true_eq]
    by_cases hact : isActivation transaction
    · by_cases hmoved : record.step transaction = record
      · exact .inl (.inr hmoved)
      · exact .inr (settled_of_accounted hact hmoved hone)
    · rw [Bool.not_eq_true] at hact
      exact .inl (.inl hact)

/-- The counters account for the commands in every state of a history exactly
when no activation of it ran over an unresolved command. -/
theorem accounting_iff_activatesSettled {record : TripRecord} (hcreated : Created record)
    (history : List TripTransaction) :
    (∀ done, done <+: history → Accounting (record.run done) (baselines record done)) ↔
      activatesSettled record history := by
  constructor
  · intro h
    exact activatesSettled_of_accounted fun done hdone => (h done hdone).next
  · intro h done hdone
    exact ((Ledger.created hcreated).run h hdone).toAccounting

def harbourWalk : SavedActivity :=
  { activityId := ⟨1⟩
    place := ⟨"harbour", ⟨some 0, some 0⟩, some "1 Quay Street", "UTC", by decide, by decide⟩
    schedule := .scheduled 0 3600000 (by decide)
    inboundTravelMode := .walking, activityClass := .flexible, priorityRank := 0, utilityScore := 0
    reservationStartOffset := none, reservationGraceSeconds := 0, mandatoryDeadlineOffset := none
    minDurationSeconds := 0, preferredDurationSeconds := 1800, maxDurationSeconds := 3600
    mandatory := false, canMove := true, canSkip := true, openWindows := []
    durationsOrdered := by decide
    offsetsFit := by decide
    windowCount := by decide }

def harbourTrip : TripRecord := savedTrip ⟨1⟩ ⟨2⟩ "UTC" ⟨[harbourWalk], by decide, by decide⟩

def activateHarbour (draw : BitVec 128) : TripTransaction :=
  .activate ⟨⟨2⟩, ⟨draw⟩, 1, ⟨0⟩, ⟨some 0, some 0⟩⟩
    ⟨1000000, some ⟨0, 86400000⟩, ⟨draw⟩, ⟨draw⟩, ⟨draw⟩, false, [], [], by decide⟩

def delayHarbour : TripTransaction := .record
    { ownerUserId := ⟨2⟩, messageId := ⟨7⟩, eventId := ⟨7⟩, expectedTripRevision := 1
      kind := .activityDelayed, payloadDigest := ⟨7⟩
      event := ⟨⟨7⟩, 1000, none, .activityDelayed ⟨1⟩ 60⟩, plannedCurrentPlan := none }

def executeHarbour : List TripTransaction :=
  [activateHarbour 1, .acquireLease ⟨9⟩ 1000 0 0, .completeActivation ⟨⟨1⟩, ⟨9⟩, 1⟩ 1]

def leaveHarbour : List TripTransaction :=
  [.deactivate ⟨⟨2⟩, ⟨2⟩, 1, ⟨0⟩⟩ ⟨⟨2⟩, ⟨2⟩⟩, .releaseLease ⟨9⟩ 1, .completeDeactivation ⟨2⟩]

theorem harbourTrip_created : Created harbourTrip := .saved _ _ (by decide) _

theorem harbourTrip_accounts : Created harbourTrip ∧
    Accounting (harbourTrip.run (executeHarbour ++ [delayHarbour]))
      (baselines harbourTrip (executeHarbour ++ [delayHarbour])) :=
  ⟨harbourTrip_created,
    (accounting_iff_activatesSettled harbourTrip_created (executeHarbour ++ [delayHarbour])).mpr
      (by decide +kernel) _ (prefix_refl _)⟩

/-- The second execution starts over the delay of the first one. -/
theorem harbourTrip_activated_over_delay : Created harbourTrip ∧ ¬ Accounting
      (harbourTrip.run (executeHarbour ++ [delayHarbour] ++ leaveHarbour ++ [activateHarbour 3]))
      (baselines harbourTrip
        (executeHarbour ++ [delayHarbour] ++ leaveHarbour ++ [activateHarbour 3])) := by
  refine ⟨harbourTrip_created, fun h => ?_⟩
  have hnext := h.next
  revert hnext
  decide +kernel

end LiveRoute.Execution
