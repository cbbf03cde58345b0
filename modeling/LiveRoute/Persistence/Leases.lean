import LiveRoute.Persistence.CanonicalTrip
import Mathlib.Data.List.Pairwise

/-! The runtime lease of one trip. The epoch lives in the lease row: a takeover
increments it, a renewal keeps it, and a release deletes the row. -/
namespace LiveRoute.Persistence
open Domain List

variable {rows next : LeaseRows} {holderId : HolderId} {duration : Int} {lease : LeaseRow}
  {runtimeEpoch : Nat} {readAt writtenAt : DatabaseTime} {log : List LeaseEvent}

abbrev DatabaseTime := Int

structure HolderId where
  value : BitVec 128
deriving DecidableEq

/-- `trips.execution_state`. -/
inductive ExecutionState where
  | inactive | activating | active | deactivating
deriving DecidableEq

/-- A row of `trip_runtime_leases`. -/
structure LeaseRow where
  holderId : HolderId
  runtimeEpoch : Nat
  (leaseExpiresAt renewedAt : DatabaseTime)
  fits : 1 ≤ runtimeEpoch ∧ runtimeEpoch ≤ maxInt64
deriving DecidableEq

structure LeaseRows where
  lease : Option LeaseRow
  proposals : List ProposalRow
deriving DecidableEq

inductive LeaseError where
  | invalidInput | leaseHeld | epochExhausted | leaseLost
deriving DecidableEq

def expiry (now : DatabaseTime) (durationMilliseconds : Int) : DatabaseTime :=
  now + durationMilliseconds * 1000

def stalePriorProposals (runtimeEpoch : Nat) (proposals : List ProposalRow) : List ProposalRow :=
  proposals.map fun row =>
    if row.state = .pending ∧ row.stored.proposal.sourceRuntimeEpoch.toNat < runtimeEpoch then
      { row with state := .stale }
    else row

def firstLease (holderId : HolderId) (durationMilliseconds : Int) (writtenAt : DatabaseTime) :
    LeaseRow :=
  ⟨holderId, 1, expiry writtenAt durationMilliseconds, writtenAt, by decide⟩

/-- `LeaseStore.Acquire`. The two times are the two readings of the clock, one
when the row is read and one when it is written. -/
def acquire (rows : LeaseRows) (holderId : HolderId) (durationMilliseconds : Int)
    (readAt writtenAt : DatabaseTime) : Except LeaseError (LeaseRows × LeaseRow) :=
  if durationMilliseconds ≤ 0 then .error .invalidInput
  else
    match rows.lease with
    | none =>
      let lease := firstLease holderId durationMilliseconds writtenAt
      .ok ({ rows with lease := some lease }, lease)
    | some held =>
      if readAt < held.leaseExpiresAt then .error .leaseHeld
      else if hroom : held.runtimeEpoch = maxInt64 then .error .epochExhausted
      else
        let lease : LeaseRow :=
          { holderId := holderId, runtimeEpoch := held.runtimeEpoch + 1
            leaseExpiresAt := expiry writtenAt durationMilliseconds, renewedAt := writtenAt
            fits := ⟨Nat.succ_pos _, Nat.lt_of_le_of_ne held.fits.2 hroom⟩ }
        .ok (⟨some lease, stalePriorProposals lease.runtimeEpoch rows.proposals⟩, lease)

def holds (row : LeaseRow) (holderId : HolderId) (runtimeEpoch : Nat) : Bool :=
  decide (row.holderId = holderId) && decide (row.runtimeEpoch = runtimeEpoch)

def renew (rows : LeaseRows) (holderId : HolderId) (runtimeEpoch : Nat) (durationMilliseconds : Int)
    (now : DatabaseTime) : Except LeaseError (LeaseRows × LeaseRow) :=
  if durationMilliseconds ≤ 0 ∨ runtimeEpoch = 0 ∨ maxInt64 < runtimeEpoch then
    .error .invalidInput
  else
    match rows.lease with
    | none => .error .leaseLost
    | some held =>
      if holds held holderId runtimeEpoch && decide (now < held.leaseExpiresAt) then
        let lease : LeaseRow :=
          { held with leaseExpiresAt := expiry now durationMilliseconds, renewedAt := now }
        .ok ({ rows with lease := some lease }, lease)
      else .error .leaseLost

def current (rows : LeaseRows) (holderId : HolderId) (now : DatabaseTime) :
    Except LeaseError LeaseRow :=
  match rows.lease with
  | none => .error .leaseLost
  | some held =>
    if held.holderId = holderId ∧ now < held.leaseExpiresAt then .ok held else .error .leaseLost

def release (rows : LeaseRows) (holderId : HolderId) (runtimeEpoch : Nat) :
    Except LeaseError LeaseRows :=
  if runtimeEpoch = 0 ∨ maxInt64 < runtimeEpoch then .error .invalidInput
  else
    match rows.lease with
    | none => .error .leaseLost
    | some held =>
      if holds held holderId runtimeEpoch then .ok { rows with lease := none }
      else .error .leaseLost

/-- The operations on the lease of a trip, by any holder and at any time, and
whatever other transactions do to its proposals in between. -/
inductive LeaseOperation where
  | acquire (holderId : HolderId) (durationMilliseconds : Int) (readAt writtenAt : DatabaseTime)
  | renew (holderId : HolderId) (runtimeEpoch : Nat) (durationMilliseconds : Int)
      (now : DatabaseTime)
  | release (holderId : HolderId) (runtimeEpoch : Nat)
  | storeProposals (proposals : List ProposalRow)
deriving DecidableEq

inductive LeaseEvent where
  | granted (runtimeEpoch : Nat)
  | released (runtimeEpoch : Nat)
deriving DecidableEq

structure LeaseHistory where
  rows : LeaseRows
  log : List LeaseEvent
deriving DecidableEq

def LeaseHistory.initial : LeaseHistory := ⟨⟨none, []⟩, []⟩

def LeaseHistory.step (history : LeaseHistory) : LeaseOperation → LeaseHistory
  | .acquire holderId duration readAt writtenAt =>
    match Persistence.acquire history.rows holderId duration readAt writtenAt with
    | .ok (rows, lease) => ⟨rows, .granted lease.runtimeEpoch :: history.log⟩
    | .error _ => history
  | .renew holderId runtimeEpoch duration now =>
    match Persistence.renew history.rows holderId runtimeEpoch duration now with
    | .ok (rows, _) => { history with rows := rows }
    | .error _ => history
  | .release holderId runtimeEpoch =>
    match Persistence.release history.rows holderId runtimeEpoch with
    | .ok rows => ⟨rows, .released runtimeEpoch :: history.log⟩
    | .error _ => history
  | .storeProposals proposals =>
    { history with rows := { history.rows with proposals := proposals } }

open LeaseHistory (initial step)

def LeaseHistory.run (operations : List LeaseOperation) : LeaseHistory :=
  operations.foldl LeaseHistory.step .initial

theorem acquire_cases (h : acquire rows holderId duration readAt writtenAt = .ok (next, lease)) :
    next.lease = some lease ∧
      ((rows.lease = none ∧ lease.runtimeEpoch = 1 ∧ next.proposals = rows.proposals) ∨
        ∃ held, rows.lease = some held ∧ lease.runtimeEpoch = held.runtimeEpoch + 1 ∧
          next.proposals = stalePriorProposals lease.runtimeEpoch rows.proposals) := by
  unfold acquire at h
  split at h
  · cases h
  split at h
  next hnone =>
    cases h
    exact ⟨rfl, .inl ⟨hnone, rfl, rfl⟩⟩
  next held hheld =>
    split at h
    · cases h
    split at h
    · cases h
    · cases h
      exact ⟨rfl, .inr ⟨held, hheld, rfl, rfl⟩⟩

theorem renew_cases (h : renew rows holderId runtimeEpoch duration now = .ok (next, lease)) :
    ∃ held, rows.lease = some held ∧ next.lease = some lease ∧
      lease.runtimeEpoch = held.runtimeEpoch ∧ held.runtimeEpoch = runtimeEpoch ∧
      next.proposals = rows.proposals := by
  unfold renew at h
  split at h
  · cases h
  split at h
  · cases h
  rename_i held hheld
  split at h
  next hholds =>
    cases h
    simp only [holds, Bool.and_eq_true, decide_eq_true_eq] at hholds
    exact ⟨held, hheld, rfl, rfl, hholds.1.2, rfl⟩
  · cases h

theorem release_cases (h : release rows holderId runtimeEpoch = .ok next) :
    ∃ held, rows.lease = some held ∧ held.runtimeEpoch = runtimeEpoch ∧ next.lease = none ∧
      next.proposals = rows.proposals := by
  unfold release at h
  split at h
  · cases h
  split at h
  · cases h
  rename_i held hheld
  split at h
  next hholds =>
    cases h
    simp only [holds, Bool.and_eq_true, decide_eq_true_eq] at hholds
    exact ⟨held, hheld, hholds.2, rfl, rfl⟩
  · cases h

theorem acquire_fences (h : acquire rows holderId duration readAt writtenAt = .ok (next, lease)) :
    ∀ row ∈ next.proposals, row.state = .pending →
      lease.runtimeEpoch ≤ row.stored.proposal.sourceRuntimeEpoch.toNat := by
  intro row hrow hpend
  obtain ⟨-, ⟨-, hepoch, -⟩ | ⟨-, -, -, hprops⟩⟩ := acquire_cases h
  · have hfits := row.fits
    simp only [proposalFits, Bool.and_eq_true, decide_eq_true_eq] at hfits
    omega
  · rw [hprops] at hrow
    obtain ⟨stored, -, rfl⟩ := mem_map.mp hrow
    by_contra hprior
    split at hpend
    · cases hpend
    rename_i hother
    rw [if_neg hother] at hprior
    exact hother ⟨hpend, not_le.mp hprior⟩

def LeaseEvent.grant : LeaseEvent → Option Nat
  | .granted runtimeEpoch => some runtimeEpoch
  | .released _ => none

def grantedEpochs (log : List LeaseEvent) : List Nat := log.filterMap LeaseEvent.grant

def EpochsIncrease (log : List LeaseEvent) : Prop :=
  (grantedEpochs log).Pairwise fun later earlier => earlier < later

def NoGrantAfterRelease (log : List LeaseEvent) : Prop :=
  log.Pairwise fun later earlier => later.grant.isSome → earlier.grant.isSome

@[simp] theorem grantedEpochs_granted :
    grantedEpochs (.granted epoch :: log) = epoch :: grantedEpochs log := rfl

@[simp] theorem grantedEpochs_released :
    grantedEpochs (.released epoch :: log) = grantedEpochs log := rfl

theorem epochsIncrease_granted : EpochsIncrease (.granted epoch :: log) ↔
      (∀ earlier ∈ grantedEpochs log, earlier < epoch) ∧ EpochsIncrease log := by
  simp [EpochsIncrease, grantedEpochs_granted]

theorem noGrantAfterRelease_granted : NoGrantAfterRelease (.granted epoch :: log) ↔
      (∀ event ∈ log, event.grant.isSome) ∧ NoGrantAfterRelease log := by
  simp [NoGrantAfterRelease, pairwise_cons, LeaseEvent.grant]

theorem noGrantAfterRelease_released :
    NoGrantAfterRelease (.released epoch :: log) ↔ NoGrantAfterRelease log := by
  simp [NoGrantAfterRelease, pairwise_cons, LeaseEvent.grant]

structure Tells (rows : LeaseRows) (log : List LeaseEvent) : Prop where
  held : ∀ row, rows.lease = some row → ∃ earlier, log = .granted row.runtimeEpoch :: earlier
  absent : rows.lease = none → log = [] ∨
    ∃ epoch earlier, log = .released epoch :: earlier ∧ grantedEpochs earlier ≠ []
  positive : ∀ epoch ∈ grantedEpochs log, 0 < epoch
  exact : EpochsIncrease log ↔ NoGrantAfterRelease log

theorem tells_initial : Tells initial.rows initial.log := by
  refine ⟨?_, fun _ => .inl rfl, ?_, ?_⟩
  · intro row hrow
    cases hrow
  · intro epoch hepoch
    cases hepoch
  · exact ⟨fun _ => List.Pairwise.nil, fun _ => List.Pairwise.nil⟩

/-- A takeover exceeds every epoch of a log without a release before a grant;
the first epoch after a release does not exceed the ones granted before. -/
theorem Tells.grant (htells : Tells rows log)
    (h : acquire rows holderId duration readAt writtenAt = .ok (next, lease)) :
    Tells next (.granted lease.runtimeEpoch :: log) := by
  obtain ⟨hnext, hcases⟩ := acquire_cases h
  refine ⟨?_, ?_, ?_, ?_⟩
  · intro row hrow
    rw [hnext] at hrow
    cases hrow
    exact ⟨log, rfl⟩
  · intro hnone
    rw [hnext] at hnone
    cases hnone
  · intro epoch hepoch
    rw [grantedEpochs_granted, mem_cons] at hepoch
    rcases hepoch with rfl | hearlier
    · exact lease.fits.1
    · exact htells.positive epoch hearlier
  · rw [epochsIncrease_granted, noGrantAfterRelease_granted]
    rcases hcases with ⟨hnone, hfirst, -⟩ | ⟨held, hheld, htaken, -⟩
    · rcases htells.absent hnone with rfl | ⟨epoch, earlier, rfl, hgranted⟩
      · simp [grantedEpochs, EpochsIncrease, NoGrantAfterRelease]
      · obtain ⟨prior, hprior⟩ := exists_mem_of_ne_nil _ hgranted
        constructor
        · rintro ⟨hless, -⟩
          have hlower := htells.positive prior (by simpa using hprior)
          have hupper := hless prior (by simpa using hprior)
          omega
        · rintro ⟨hall, -⟩
          have hrel := hall (.released epoch) (by simp)
          cases hrel
    · obtain ⟨earlier, rfl⟩ := htells.held held hheld
      have hexact := htells.exact
      constructor
      · rintro ⟨-, hincrease⟩
        have horder := hexact.mp hincrease
        refine ⟨?_, horder⟩
        intro event hevent
        rcases mem_cons.mp hevent with rfl | hevent
        · rfl
        · exact noGrantAfterRelease_granted.mp horder |>.1 event hevent
      · rintro ⟨-, horder⟩
        have hincrease := hexact.mpr horder
        refine ⟨?_, hincrease⟩
        intro epoch hepoch
        rw [grantedEpochs_granted, mem_cons] at hepoch
        rcases hepoch with rfl | hepoch
        · omega
        · have hless := (epochsIncrease_granted.mp hincrease).1 epoch hepoch
          omega

theorem Tells.renewed (htells : Tells rows log)
    (h : renew rows holderId runtimeEpoch duration now = .ok (next, lease)) : Tells next log := by
  obtain ⟨held, hheld, hnext, hepoch, -, -⟩ := renew_cases h
  refine ⟨?_, ?_, htells.positive, htells.exact⟩
  · intro row hrow
    rw [hnext] at hrow
    cases hrow
    rw [hepoch]
    exact htells.held held hheld
  · intro hnone
    rw [hnext] at hnone
    cases hnone

theorem Tells.release (htells : Tells rows log)
    (h : Persistence.release rows holderId runtimeEpoch = .ok next) :
    Tells next (.released runtimeEpoch :: log) := by
  obtain ⟨held, hheld, -, hnext, -⟩ := release_cases h
  obtain ⟨earlier, hlog⟩ := htells.held held hheld
  refine ⟨?_, ?_, ?_, ?_⟩
  · intro row hrow
    rw [hnext] at hrow
    cases hrow
  · intro _
    exact .inr ⟨runtimeEpoch, log, rfl, by simp [hlog]⟩
  · simpa using htells.positive
  · rw [noGrantAfterRelease_released, ← htells.exact]
    exact Iff.rfl

theorem step_tells {history : LeaseHistory} (htells : Tells history.rows history.log) :
    Tells (history.step operation).rows (history.step operation).log := by
  fun_cases step history operation
  case case1 hgranted => exact htells.grant hgranted
  case case3 hrenewed => exact htells.renewed hrenewed
  case case5 hrel => exact htells.release hrel
  case case7 => exact ⟨htells.held, htells.absent, htells.positive, htells.exact⟩
  all_goals exact htells

theorem foldl_tells {history : LeaseHistory} (htells : Tells history.rows history.log)
    (operations : List LeaseOperation) :
    Tells (operations.foldl step history).rows (operations.foldl step history).log := by
  induction operations generalizing history with
  | nil => exact htells
  | cons _ _ ih => exact ih (step_tells htells)

/-- Over every run of lease operations, epochs increase exactly when no lease is
granted after a release. Proposals of earlier epochs are fenced in either case. -/
theorem epochs_increase_iff (operations : List LeaseOperation) :
    (EpochsIncrease (LeaseHistory.run operations).log ↔
      NoGrantAfterRelease (LeaseHistory.run operations).log) ∧
    ∀ holderId duration readAt writtenAt rows lease, acquire
      (LeaseHistory.run operations).rows holderId duration readAt writtenAt = .ok (rows, lease) →
      ∀ row ∈ rows.proposals, row.state = .pending →
      lease.runtimeEpoch ≤ row.stored.proposal.sourceRuntimeEpoch.toNat :=
  ⟨(foldl_tells tells_initial operations).exact, fun _ _ _ _ _ _ hgranted =>
    acquire_fences hgranted⟩

def takeover : List LeaseOperation := [.acquire ⟨1⟩ 1 0 0, .acquire ⟨2⟩ 1 1000 1000]

theorem epochs_increase_takeover : (LeaseHistory.run takeover).log = [.granted 2, .granted 1] ∧
      EpochsIncrease (LeaseHistory.run takeover).log :=
  ⟨by decide, (epochs_increase_iff takeover).1.mpr (by
    unfold NoGrantAfterRelease
    decide)⟩

def reactivation : List LeaseOperation :=
  [.acquire ⟨1⟩ 1 0 0, .release ⟨1⟩ 1, .acquire ⟨1⟩ 1 500 500]

/-- The release deletes the row, and the next lease starts at epoch 1 again. -/
theorem epoch_recurs_after_release :
    (LeaseHistory.run reactivation).log = [.granted 1, .released 1, .granted 1] ∧
      ¬ EpochsIncrease (LeaseHistory.run reactivation).log := by
  unfold EpochsIncrease
  decide

end LiveRoute.Persistence
