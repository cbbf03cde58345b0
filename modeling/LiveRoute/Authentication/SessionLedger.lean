import LiveRoute.Authentication.Transactions

/-! What holds in every state of the session tables. A transaction alone holds
the rows that it is about to write, so that what it has read of them stays
true until it commits; a family has one live session; and the deadlines of a
row tell when it was created and when it was replaced. -/
namespace LiveRoute.Authentication
open Domain Persistence List
open AuthWorld (work? finish setWork initial)
open SessionRow (clashes isLive)
open Work (heldForUpdate insertedRow)

variable {sessionId : SessionId} {written : SessionRow} {log : List SessionEvent}
  {now : DatabaseTime} {draws : SessionDraws} {familyId : FamilyId}

structure SameSession (row written : SessionRow) : Prop where
  sessionId : written.sessionId = row.sessionId
  familyId : written.familyId = row.familyId
  tokenDigest : written.tokenDigest = row.tokenDigest
  createdAt : written.createdAt = row.createdAt
  idleExpiresAt : written.idleExpiresAt = row.idleExpiresAt
  absoluteExpiresAt : written.absoluteExpiresAt = row.absoluteExpiresAt

theorem SameSession.refl : SameSession row row := ⟨rfl, rfl, rfl, rfl, rfl, rfl⟩

structure Refreshed (row written : SessionRow) : Prop where
  same : SameSession row written
  replacement : written.replacement = row.replacement
  revokedAt : written.revokedAt = row.revokedAt

def SessionRow.IdleFromCreation (row : SessionRow) : Prop :=
  row.idleExpiresAt = min (row.createdAt + sessionIdleLifetime) row.absoluteExpiresAt

structure Succeeds (row successor : SessionRow) : Prop where
  familyId : successor.familyId = row.familyId
  live : successor.isLive
  idle : successor.IdleFromCreation

def Work.Fits (sessions : List SessionRow) : Work → Prop
  | .locked sessionId => ∃ row ∈ sessions, row.sessionId = sessionId ∧ row.revokedAt = none
  | .touching sessionId | .rotating sessionId =>
    ∃ row ∈ sessions, row.sessionId = sessionId ∧ row.isLive
  | .inserted sessionId successor =>
    ∃ row ∈ sessions, row.sessionId = sessionId ∧ row.isLive ∧ Succeeds row successor
  | .ready written => ∃ row ∈ sessions, Refreshed row written
  | .linked written successor linkedAt => ∃ row ∈ sessions, row.isLive ∧
      Succeeds row successor ∧ written = row.link successor.sessionId linkedAt
  | .loggingIn row => row.isLive ∧ row.IdleFromCreation
  | .selected _ | .revoking .. | .issuing _ | .consuming _ => True

structure Dated (log : List SessionEvent) (row : SessionRow) : Prop where
  idle : row.IdleFromCreation
  unreplaced : row.replacement = none → ∀ time, .replaced row.sessionId time ∉ log
  replaced : ∀ found ∈ row.replacement, ∃ time, .replaced row.sessionId time ∈ log ∧
    found.validUntil = min (time + predecessorGrace) row.absoluteExpiresAt ∧
    ∀ other, .replaced row.sessionId other ∈ log → other = time

structure SessionLedger (world : AuthWorld) : Prop where
  keyed : world.sessions.Pairwise fun row other => row.clashes other = false
  single : ∀ row ∈ world.sessions, ∀ other ∈ world.sessions, row.isLive →
    other.isLive → row.familyId = other.familyId → row = other
  dated : ∀ row ∈ world.sessions, Dated world.log row
  logged : ∀ sessionId time, .replaced sessionId time ∈ world.log →
    ∃ row ∈ world.sessions, row.sessionId = sessionId
  exclusive : ∀ {id other work otherWork sessionId}, world.work? id = some work →
    world.work? other = some otherWork → work.holds sessionId →
    otherWork.holds sessionId → id = other
  fits : ∀ {id work}, world.work? id = some work → work.Fits world.sessions
  fresh : ∀ {id work row}, world.work? id = some work → work.insertedRow = some row →
    ∀ stored ∈ world.sessions, stored.clashes row = false
  apart : ∀ {id other work otherWork row otherRow}, id ≠ other → world.work? id = some work →
    world.work? other = some otherWork → work.insertedRow = some row →
    otherWork.insertedRow = some otherRow → otherRow.clashes row = false
  families : ∀ {id row}, world.work? id = some (.loggingIn row) →
    (∀ stored ∈ world.sessions, stored.familyId ≠ row.familyId) ∧
    ∀ {other otherRow}, other ≠ id → world.work? other = some (.loggingIn otherRow) →
      otherRow.familyId ≠ row.familyId

section Work
variable {world : AuthWorld} {id other : TransactionId} {work : Work}

theorem find?_filter_other {transactions : List Transaction} (h : other ≠ id) :
    ((transactions.filter fun transaction => !decide (transaction.id = id)).find?
        fun transaction => decide (transaction.id = other)) =
      transactions.find? fun transaction => decide (transaction.id = other) := by
  rw [find?_filter]
  congr 1
  funext transaction
  by_cases hother : transaction.id = other
  · simp [hother, h]
  · simp [hother]

@[simp] theorem finish_log : (world.finish id).log = world.log := rfl

@[simp] theorem work?_finish_self : (world.finish id).work? id = none := by
  simp [work?, finish]

theorem work?_finish_other (h : other ≠ id) :
    (world.finish id).work? other = world.work? other := by
  unfold work? finish
  rw [find?_filter_other h]

theorem work?_finish_eq_some :
    (world.finish id).work? other = some work ↔ other ≠ id ∧ world.work? other = some work := by
  by_cases hother : other = id
  · simp [hother]
  · simp [hother, work?_finish_other]

@[simp] theorem work?_setWork_self : (world.setWork id work).work? id = some work := by
  simp [work?, setWork]

theorem work?_setWork_other (h : other ≠ id) :
    (world.setWork id work).work? other = world.work? other := by
  have hfirst : decide (id = other) = false := decide_eq_false (Ne.symm h)
  have hskip : (world.setWork id work).work? other = (world.finish id).work? other := by
    unfold work? setWork
    rw [find?_cons, hfirst]
  rw [hskip, work?_finish_other h]

theorem mem_of_work? (h : world.work? id = some work) : ⟨id, work⟩ ∈ world.transactions := by
  obtain ⟨transaction, hfound, rfl⟩ := Option.map_eq_some_iff.mp h
  have hid : transaction.id = id := by simpa using find?_some hfound
  rw [← hid]
  exact mem_of_find?_eq_some hfound

end Work

section Preservation
variable {world : AuthWorld} {id : TransactionId}

theorem SessionLedger.finish (h : SessionLedger world) : SessionLedger (world.finish id) := by
  have hwork : ∀ {other work}, (world.finish id).work? other = some work →
      world.work? other = some work := fun hfound => (work?_finish_eq_some.mp hfound).2
  constructor
  case keyed => exact h.keyed
  case single => exact h.single
  case dated => exact h.dated
  case logged => exact h.logged
  case exclusive =>
    intro first second work otherWork sessionId hfirst hsecond
    exact h.exclusive (hwork hfirst) (hwork hsecond)
  case fits =>
    intro other work hfound
    exact h.fits (hwork hfound)
  case fresh =>
    intro other work row hfound
    exact h.fresh (hwork hfound)
  case apart =>
    intro first second work otherWork row otherRow hne hfirst hsecond
    exact h.apart hne (hwork hfirst) (hwork hsecond)
  case families =>
    intro other row hfound
    obtain ⟨hstored, hothers⟩ := h.families (hwork hfound)
    exact ⟨hstored, fun hne hsecond => hothers hne (hwork hsecond)⟩

structure Advances (world : AuthWorld) (id : TransactionId) (work : Work) : Prop where
  fits : work.Fits world.sessions
  holds : ∀ sessionId, work.holds sessionId → world.heldElsewhere id sessionId = false ∨
    ∃ before, world.work? id = some before ∧ before.holds sessionId
  inserts : ∀ row, work.insertedRow = some row →
    (world.clashesStored row = false ∧ world.clashesElsewhere id row = false) ∨
    ∃ before, world.work? id = some before ∧ before.insertedRow = some row
  family : ∀ row, work = .loggingIn row →
    (∀ stored ∈ world.sessions, stored.familyId ≠ row.familyId) ∧
    ∀ {other otherRow}, other ≠ id → world.work? other = some (.loggingIn otherRow) →
      otherRow.familyId ≠ row.familyId

theorem clashes_comm (row : SessionRow) : row.clashes other = other.clashes row := by
  simp [clashes, eq_comm]

section
variable (hadv : Advances world id work) (h : SessionLedger world)
include hadv h

theorem Advances.exclusive (hother : other ≠ id) (hfound : world.work? other = some otherWork)
    (hholds : work.holds sessionId) : otherWork.holds sessionId = false := by
  obtain hfree | ⟨before, hbefore, hheld⟩ := hadv.holds sessionId hholds
  · have hnone := any_eq_false.mp hfree _ (mem_of_work? hfound)
    simpa [hother] using hnone
  · rw [Bool.eq_false_iff]
    intro hboth
    exact hother (h.exclusive hfound hbefore hboth hheld)

theorem Advances.apart (hother : other ≠ id)
    (hfound : world.work? other = some otherWork) (hinserts : work.insertedRow = some row)
    (hothers : otherWork.insertedRow = some otherRow) : otherRow.clashes row = false := by
  obtain ⟨-, hfree⟩ | ⟨before, hbefore, hins⟩ := hadv.inserts row hinserts
  · have hnone := any_eq_false.mp hfree _ (mem_of_work? hfound)
    simpa [hother, hothers] using hnone
  · exact h.apart hother.symm hbefore hfound hins hothers

theorem Advances.fresh (hinserts : work.insertedRow = some row) :
    ∀ stored ∈ world.sessions, stored.clashes row = false := by
  obtain ⟨hfree, -⟩ | ⟨before, hbefore, hins⟩ := hadv.inserts row hinserts
  · intro stored hstored
    simpa using any_eq_false.mp hfree stored hstored
  · exact h.fresh hbefore hins

end

theorem SessionLedger.advance (h : SessionLedger world)
    (hadv : Advances world id work) : SessionLedger (world.setWork id work) := by
  have hcases : ∀ {other found}, (world.setWork id work).work? other = some found →
      other = id ∧ found = work ∨ other ≠ id ∧ world.work? other = some found := by
    intro other found hfound
    by_cases hother : other = id
    · subst hother
      simp only [work?_setWork_self, Option.some.injEq] at hfound
      exact .inl ⟨rfl, hfound.symm⟩
    · rw [work?_setWork_other hother] at hfound
      exact .inr ⟨hother, hfound⟩
  constructor
  case keyed => exact h.keyed
  case single => exact h.single
  case dated => exact h.dated
  case logged => exact h.logged
  case exclusive =>
    intro first second firstWork secondWork sessionId hfirst hsecond hheld hother
    obtain ⟨rfl, rfl⟩ | ⟨hne, hbefore⟩ := hcases hfirst
    · obtain ⟨rfl, -⟩ | ⟨hne, hbefore⟩ := hcases hsecond
      · rfl
      · simp [hadv.exclusive h hne hbefore hheld] at hother
    · obtain ⟨rfl, rfl⟩ | ⟨-, hotherBefore⟩ := hcases hsecond
      · simp [hadv.exclusive h hne hbefore hother] at hheld
      · exact h.exclusive hbefore hotherBefore hheld hother
  case fits =>
    intro other found hfound
    obtain ⟨-, rfl⟩ | ⟨-, hfound⟩ := hcases hfound
    · exact hadv.fits
    · exact h.fits hfound
  case fresh =>
    intro other found row hfound hins
    obtain ⟨-, rfl⟩ | ⟨-, hfound⟩ := hcases hfound
    · exact hadv.fresh h hins
    · exact h.fresh hfound hins
  case apart =>
    intro first second firstWork secondWork row otherRow hne hfirst hsecond hrow hother
    obtain ⟨rfl, rfl⟩ | ⟨hfirstNe, hbefore⟩ := hcases hfirst
    · obtain ⟨rfl, -⟩ | ⟨hsecondNe, hbefore⟩ := hcases hsecond
      · exact absurd rfl hne
      · exact hadv.apart h hsecondNe hbefore hrow hother
    · obtain ⟨rfl, rfl⟩ | ⟨-, hotherBefore⟩ := hcases hsecond
      · rw [clashes_comm]
        exact hadv.apart h hfirstNe hbefore hother hrow
      · exact h.apart hne hbefore hotherBefore hrow hother
  case families =>
    intro first row hfirst
    obtain ⟨rfl, hlogs⟩ | ⟨-, hbefore⟩ := hcases hfirst
    · obtain ⟨hstored, hothers⟩ := hadv.family row hlogs.symm
      refine ⟨hstored, fun hne hsecond => ?_⟩
      rw [work?_setWork_other hne] at hsecond
      exact hothers hne hsecond
    · obtain ⟨hstored, hothers⟩ := h.families hbefore
      refine ⟨hstored, fun {second secondRow} hne hsecond => ?_⟩
      obtain ⟨rfl, hlogs⟩ | ⟨-, hotherBefore⟩ := hcases hsecond
      · exact ((hadv.family secondRow hlogs.symm).2 hne.symm hbefore).symm
      · exact hothers hne hotherBefore

theorem SessionLedger.congr (h : SessionLedger world) {other : AuthWorld}
    (hsess : other.sessions = world.sessions) (hlog : other.log = world.log)
    (htxs : other.transactions = world.transactions) : SessionLedger other := by
  have hwork : ∀ id, other.work? id = world.work? id := by
    intro id
    rw [work?, htxs, work?]
  constructor
  case keyed => rw [hsess]; exact h.keyed
  case single => rw [hsess]; exact h.single
  case dated => rw [hsess, hlog]; exact h.dated
  case logged => rw [hsess, hlog]; exact h.logged
  case exclusive => simp only [hwork]; exact h.exclusive
  case fits => simp only [hwork, hsess]; exact h.fits
  case fresh => simp only [hwork, hsess]; exact h.fresh
  case apart => simp only [hwork]; exact h.apart
  case families => simp only [hwork, hsess]; exact h.families

/-- What a transaction may write to the sessions when it commits: versions of
the rows it holds, and the row it has inserted. -/
structure Commits (world : AuthWorld) (id : TransactionId) (work : Work)
    (write : SessionRow → SessionRow) (log : List SessionEvent) : Prop where
  working : world.work? id = some work
  linked : ∀ sessionId successor, work ≠ .inserted sessionId successor
  held : ∀ row ∈ world.sessions, write row = row ∨ work.holds row.sessionId
  same : ∀ row ∈ world.sessions, SameSession row (write row)
  live : ∀ row ∈ world.sessions, (write row).isLive → row.isLive
  revoked : ∀ row ∈ world.sessions, row.revokedAt.isSome →
    (write row).revokedAt.isSome
  dated : ∀ row ∈ world.sessions, Dated log (write row)
  logged : ∀ sessionId time, .replaced sessionId time ∈ log →
    ∃ row ∈ world.sessions, row.sessionId = sessionId
  insertedDated : ∀ row ∈ work.insertedRow, Dated log row
  insertedSingle : ∀ row ∈ work.insertedRow, ∀ stored ∈ world.sessions,
    (write stored).isLive → stored.familyId ≠ row.familyId
  insertedFamily : ∀ row ∈ work.insertedRow, ∀ {other otherRow}, other ≠ id →
    world.work? other = some (.loggingIn otherRow) → row.familyId ≠ otherRow.familyId

theorem Work.Fits.frame {write : SessionRow → SessionRow}
    {work : Work} (h : work.Fits sessions) (inserted : List SessionRow)
    (hkept : ∀ row ∈ sessions, work.holds row.sessionId → write row = row) :
    work.Fits (sessions.map write ++ inserted) := by
  have hmem : ∀ row ∈ sessions, work.holds row.sessionId →
      row ∈ sessions.map write ++ inserted := fun row hrow hholds =>
    mem_append_left _ (mem_map.mpr ⟨row, hrow, hkept row hrow hholds⟩)
  cases work with
  | locked sessionId | touching sessionId | rotating sessionId =>
    obtain ⟨row, hrow, hid, hfact⟩ := h
    exact ⟨row, hmem row hrow (by simp [Work.holds, heldForUpdate, hid]), hid, hfact⟩
  | inserted =>
    obtain ⟨row, hrow, hid, hfact⟩ := h
    exact ⟨row, hmem row hrow (by simp [Work.holds, heldForUpdate, hid]), hid, hfact⟩
  | ready =>
    obtain ⟨row, hrow, hfresh⟩ := h
    refine ⟨row, hmem row hrow ?_, hfresh⟩
    simp [Work.holds, heldForUpdate, hfresh.same.sessionId]
  | linked =>
    obtain ⟨row, hrow, hlive, hsucc, rfl⟩ := h
    exact ⟨row, hmem row hrow (by simp [Work.holds, heldForUpdate, SessionRow.link]), hlive,
      hsucc, rfl⟩
  | loggingIn => exact h
  | selected | revoking | issuing | consuming => trivial

theorem SameSession.clashes (h : SameSession row written) :
    written.clashes other = row.clashes other := by
  rw [SessionRow.clashes, h.sessionId, h.tokenDigest, SessionRow.clashes]

theorem SessionLedger.commit (h : SessionLedger world)
    {write : SessionRow → SessionRow} (hcom : Commits world id work write log) :
    SessionLedger { world.finish id with
      sessions := world.sessions.map write ++ work.insertedRow.toList, log := log } := by
  have hwork : ∀ {other found}, (world.finish id).work? other = some found →
      other ≠ id ∧ world.work? other = some found := work?_finish_eq_some.mp
  have hstored : ∀ {row}, row ∈ world.sessions.map write ++ work.insertedRow.toList →
      (∃ before ∈ world.sessions, write before = row) ∨ row ∈ work.insertedRow := by
    intro row hrow
    rw [mem_append, mem_map, Option.mem_toList] at hrow
    exact hrow
  constructor
  case keyed =>
    rw [pairwise_append]
    refine ⟨?_, ?_, ?_⟩
    · rw [pairwise_map]
      refine h.keyed.imp_of_mem fun {row other} hrow hother hapart => ?_
      rw [(hcom.same row hrow).clashes, clashes_comm, (hcom.same other hother).clashes,
        clashes_comm]
      exact hapart
    · cases work.insertedRow <;> simp
    · refine forall_mem_map.mpr fun row hrow inserted hins => ?_
      rw [(hcom.same row hrow).clashes]
      exact h.fresh hcom.working (Option.mem_toList.mp hins) row hrow
  case single =>
    intro row hrow other hother hlive hotherLive hfamily
    obtain ⟨before, hbefore, rfl⟩ | hins := hstored hrow
    · obtain ⟨otherBefore, hotherBefore, rfl⟩ | hins := hstored hother
      · rw [(hcom.same before hbefore).familyId,
          (hcom.same otherBefore hotherBefore).familyId] at hfamily
        rw [h.single before hbefore otherBefore hotherBefore
          (hcom.live before hbefore hlive) (hcom.live otherBefore hotherBefore hotherLive)
          hfamily]
      · rw [(hcom.same before hbefore).familyId] at hfamily
        exact absurd hfamily (hcom.insertedSingle other hins before hbefore hlive)
    · obtain ⟨otherBefore, hotherBefore, rfl⟩ | hotherInserted := hstored hother
      · rw [(hcom.same otherBefore hotherBefore).familyId] at hfamily
        exact absurd hfamily.symm (hcom.insertedSingle row hins otherBefore hotherBefore hotherLive)
      · exact Option.some.inj (hins.symm.trans hotherInserted)
  case dated =>
    intro row hrow
    obtain ⟨before, hbefore, rfl⟩ | hins := hstored hrow
    · exact hcom.dated before hbefore
    · exact hcom.insertedDated row hins
  case logged =>
    intro sessionId time hlogged
    obtain ⟨row, hrow, hid⟩ := hcom.logged sessionId time hlogged
    refine ⟨write row, mem_append_left _ (mem_map_of_mem hrow), ?_⟩
    rw [(hcom.same row hrow).sessionId, hid]
  case exclusive =>
    intro first second firstWork secondWork sessionId hfirst hsecond
    exact h.exclusive (hwork hfirst).2 (hwork hsecond).2
  case fits =>
    intro other found hfound
    obtain ⟨hother, hfound⟩ := hwork hfound
    refine (h.fits hfound).frame _ fun row hrow hholds => ?_
    refine (hcom.held row hrow).resolve_right fun hheld => hother ?_
    exact h.exclusive hfound hcom.working hholds hheld
  case fresh =>
    intro other found inserted hfound hins row hrow
    obtain ⟨hother, hfound⟩ := hwork hfound
    obtain ⟨before, hbefore, rfl⟩ | hrow := hstored hrow
    · rw [(hcom.same before hbefore).clashes]
      exact h.fresh hfound hins before hbefore
    · exact h.apart hother hfound hcom.working hins hrow
  case apart =>
    intro first second firstWork secondWork row otherRow hne hfirst hsecond
    exact h.apart hne (hwork hfirst).2 (hwork hsecond).2
  case families =>
    intro first row hfirst
    obtain ⟨hfirstNe, hfirst⟩ := hwork hfirst
    obtain ⟨hsess, hothers⟩ := h.families hfirst
    refine ⟨fun stored hstoredRow => ?_, fun hne hsecond => hothers hne (hwork hsecond).2⟩
    obtain ⟨before, hbefore, rfl⟩ | hins := hstored hstoredRow
    · rw [(hcom.same before hbefore).familyId]
      exact hsess before hbefore
    · exact hcom.insertedFamily stored hins hfirstNe hfirst

end Preservation

section Statements
variable {world : AuthWorld} {id : TransactionId} {row : SessionRow}

theorem session?_eq_some (h : world.session? sessionId = some row) :
    row ∈ world.sessions ∧ row.sessionId = sessionId :=
  ⟨mem_of_find?_eq_some h, by simpa using find?_some h⟩

theorem eq_of_clashes (hkeyed : world.sessions.Pairwise fun row other => row.clashes other = false)
    (hrow : row ∈ world.sessions) (hother : other ∈ world.sessions)
    (hclashes : row.clashes other) : row = other := by
  have : Std.Symm fun row other : SessionRow => row.clashes other = false :=
    ⟨fun first second h => by rwa [clashes_comm]⟩
  by_contra hne
  simp [hkeyed.forall hrow hother hne] at hclashes

variable (h : SessionLedger world)
include h

theorem SessionLedger.eq_of_sessionId (hrow : row ∈ world.sessions)
    (hother : other ∈ world.sessions) (hid : row.sessionId = other.sessionId) : row = other :=
  eq_of_clashes h.keyed hrow hother (by simp [clashes, hid])

theorem SessionLedger.eq_of_tokenDigest (hrow : row ∈ world.sessions)
    (hother : other ∈ world.sessions) (hdig : row.tokenDigest = other.tokenDigest) : row = other :=
  eq_of_clashes h.keyed hrow hother (by simp [clashes, hdig])

omit h in
theorem isLive_iff : row.isLive ↔ row.revokedAt = none ∧ row.replacement = none := by
  simp [isLive]

omit h in
theorem touch_refreshed (h : row.touch now = some touched) : Refreshed row touched := by
  unfold SessionRow.touch at h
  generalize (if idleTouchInterval ≤ now - row.lastSeenAt then min now row.idleExpiresAt
    else row.lastSeenAt) = lastSeenAt at h
  dsimp only at h
  split at h <;> cases h
  exact ⟨⟨rfl, rfl, rfl, rfl, rfl, rfl⟩, rfl, rfl⟩

omit h in
theorem successor_succeeds (h : row.successor draws now = some successor) :
    Succeeds row successor := by
  unfold SessionRow.successor at h
  split at h <;> cases h
  exact ⟨rfl, rfl, rfl⟩

omit h in
theorem link_same (successorId : SessionId) (now : DatabaseTime) :
    SameSession row (row.link successorId now) := ⟨rfl, rfl, rfl, rfl, rfl, rfl⟩

omit h in
theorem Advances.reads {work : Work} (hheld : ∀ sessionId, work.holds sessionId = false)
    (hins : work.insertedRow = none) (hfits : work.Fits world.sessions) :
    Advances world id work where
  fits := hfits
  holds := by simp [hheld]
  inserts := by simp [hins]
  family := by
    rintro row rfl
    cases hins

omit h in
theorem Advances.continues {work : Work} (hbefore : world.work? id = some before)
    (hheld : before.heldForUpdate = some sessionId) (hstill : work.heldForUpdate = some sessionId)
    (hfits : work.Fits world.sessions) (hins : ∀ row, work.insertedRow = some row →
      (world.clashesStored row = false ∧ world.clashesElsewhere id row = false) ∨
      ∃ before, world.work? id = some before ∧ before.insertedRow = some row) :
    Advances world id work := by
  have hholds : ∀ {work : Work}, work.heldForUpdate = some sessionId →
      ∀ other, work.holds other ↔ sessionId = other := by
    intro work hheld other
    cases work with
    | revoking => cases hheld
    | _ => simp [Work.holds, hheld]
  constructor
  case fits => exact hfits
  case holds =>
    intro other hother
    exact .inr ⟨before, hbefore, (hholds hheld other).mpr ((hholds hstill other).mp hother)⟩
  case inserts => exact hins
  case family =>
    rintro row rfl
    cases hstill

theorem SessionLedger.continue {work : Work}
    (hbefore : world.work? id = some before) (hheld : before.heldForUpdate = some sessionId)
    (hstill : work.heldForUpdate = some sessionId) (hfits : work.Fits world.sessions)
    (hins : work.insertedRow = none) : SessionLedger (world.setWork id work) :=
  h.advance (.continues hbefore hheld hstill hfits (by simp [hins]))

theorem SessionLedger.logIn (hstored : ∀ stored ∈ world.sessions, stored.familyId ≠ familyId)
    (hothers : ∀ {other otherRow}, other ≠ id → world.work? other = some (.loggingIn otherRow) →
      otherRow.familyId ≠ familyId) :
    SessionLedger (world.logIn id (.insert userId familyId draws now)) := by
  unfold AuthWorld.logIn
  split
  · exact h
  rename_i hfree
  simp only [Bool.not_eq_true, Bool.or_eq_false_iff] at hfree
  apply h.advance
  constructor
  case fits =>
    refine ⟨rfl, ?_⟩
    exact (min_eq_left (Int.add_le_add_left (by decide) now)).symm
  case holds =>
    intro sessionId hholds
    simp [Work.holds, heldForUpdate] at hholds
  case inserts =>
    intro row hrow
    cases hrow
    exact .inl ⟨hfree.1.2, hfree.2⟩
  case family =>
    intro row hrow
    cases hrow
    exact ⟨hstored, hothers⟩

theorem SessionLedger.authenticate : SessionLedger (world.authenticate id tokenDigest) := by
  unfold AuthWorld.authenticate
  split
  · exact h
  · split
    · exact h
    · exact h.advance (.reads (fun _ => rfl) rfl trivial)

theorem SessionLedger.lock : SessionLedger (world.lock id) := by
  fun_cases AuthWorld.lock world id
  case case2 sessionId hwork hfree hfound =>
    rw [Bool.not_eq_true] at hfree
    obtain ⟨row, hrow, hvalid⟩ := (Option.any_eq_true _ _).mp hfound
    obtain ⟨hmem, rfl⟩ := session?_eq_some hrow
    simp only [SessionRow.authenticates, Bool.and_eq_true, Option.isNone_iff_eq_none] at hvalid
    apply h.advance
    constructor
    case fits => exact ⟨row, hmem, rfl, hvalid.1.1⟩
    case holds =>
      intro sessionId hholds
      obtain rfl : row.sessionId = sessionId := by
        simpa [Work.holds, heldForUpdate] using hholds
      exact .inl hfree
    case inserts => simp [insertedRow]
    case family => simp
  case case3 => exact h.finish
  all_goals exact h

theorem SessionLedger.checkRotation : SessionLedger (world.checkRotation id) := by
  unfold AuthWorld.checkRotation
  split
  next sessionId hwork =>
    split
    · exact h.finish
    rename_i row hrow
    obtain ⟨hmem, rfl⟩ := session?_eq_some hrow
    obtain ⟨locked, hlocked, hid, hunrevoked⟩ := h.fits hwork
    obtain rfl := h.eq_of_sessionId hlocked hmem hid
    split
    · exact h.continue hwork rfl rfl ⟨locked, hmem, .refl, rfl, rfl⟩ rfl
    rename_i hunreplaced
    have hlive : locked.isLive := isLive_iff.mpr ⟨hunrevoked, by simpa using hunreplaced⟩
    split
    · exact h.continue hwork rfl rfl ⟨locked, hmem, rfl, hlive⟩ rfl
    · exact h.continue hwork rfl rfl ⟨locked, hmem, rfl, hlive⟩ rfl
  · exact h

theorem SessionLedger.touch : SessionLedger (world.touch id) := by
  unfold AuthWorld.touch
  split
  next sessionId hwork =>
    split
    · exact h.finish
    rename_i touched htouched
    obtain ⟨row, hrow, htouches⟩ := Option.bind_eq_some_iff.mp htouched
    obtain ⟨hmem, rfl⟩ := session?_eq_some hrow
    have hfresh := touch_refreshed htouches
    have hheld : (Work.ready touched).heldForUpdate = some row.sessionId :=
      congrArg some hfresh.same.sessionId
    exact h.continue hwork rfl hheld ⟨row, hmem, hfresh⟩ rfl
  · exact h

theorem SessionLedger.insertSuccessor : SessionLedger (world.insertSuccessor id draws) := by
  fun_cases AuthWorld.insertSuccessor world id draws
  case case1 | case2 => exact h.finish
  case case4 sessionId hwork successor hsuccessor hstored hothers =>
    obtain ⟨row, hrow, hsucc⟩ := Option.bind_eq_some_iff.mp hsuccessor
    obtain ⟨hmem, rfl⟩ := session?_eq_some hrow
    obtain ⟨held, hheld, hid, hlive⟩ := h.fits hwork
    obtain rfl := h.eq_of_sessionId hheld hmem hid
    refine h.advance (.continues hwork rfl rfl
      ⟨held, hmem, rfl, hlive, successor_succeeds hsucc⟩ fun row hrow => ?_)
    cases hrow
    exact .inl ⟨by simpa using hstored, by simpa using hothers⟩
  all_goals exact h

theorem SessionLedger.link : SessionLedger (world.link id) := by
  unfold AuthWorld.link
  split
  next sessionId successor hwork =>
    split
    · exact h.finish
    rename_i row hrow
    obtain ⟨hmem, rfl⟩ := session?_eq_some hrow
    obtain ⟨held, hheld, hid, hlive, hsucc⟩ := h.fits hwork
    obtain rfl := h.eq_of_sessionId hheld hmem hid
    refine h.advance (.continues hwork rfl rfl ⟨held, hmem, hlive, hsucc, rfl⟩ ?_)
    intro row hrow
    exact .inr ⟨_, hwork, hrow⟩
  · exact h

theorem SessionLedger.logout : SessionLedger (world.logout id familyId) := by
  unfold AuthWorld.logout
  split
  · exact h
  · exact h.advance (.reads (fun _ => rfl) rfl trivial)

theorem SessionLedger.revoke : SessionLedger (world.revoke id sessionId) := by
  unfold AuthWorld.revoke
  split
  next familyId remaining revoked hwork =>
    split
    next hfree =>
      simp only [Bool.and_eq_true, Bool.not_eq_true'] at hfree
      apply h.advance
      constructor
      case fits => trivial
      case holds =>
        intro other hholds
        rcases any_eq_true.mp hholds with ⟨entry, hentry, hid⟩
        rw [decide_eq_true_eq] at hid
        rcases mem_cons.mp hentry with rfl | hentry
        · exact .inl (hid ▸ hfree.2)
        · exact .inr ⟨_, hwork, any_eq_true.mpr ⟨entry, hentry, decide_eq_true hid⟩⟩
      case inserts => simp [insertedRow]
      case family => simp
    · exact h
  · exact h

theorem SessionLedger.issueTicket :
    SessionLedger (world.issueTicket id canMint tokenDigest ticketId ticketDigest) := by
  unfold AuthWorld.issueTicket
  split
  · exact h
  · split
    · exact h
    · exact h.advance (.reads (fun _ => rfl) rfl trivial)

theorem SessionLedger.consumeTicket : SessionLedger (world.consumeTicket id ticketDigest) := by
  unfold AuthWorld.consumeTicket
  split
  · exact h
  · split
    · exact h
    · exact h.advance (.reads (fun _ => rfl) rfl trivial)

end Statements

section Commit
variable {world : AuthWorld} {id : TransactionId}

theorem Dated.congr (h : Dated log row)
    (hlog : ∀ time, .replaced row.sessionId time ∈ other ↔ .replaced row.sessionId time ∈ log) :
    Dated other row where
  idle := h.idle
  unreplaced := by simpa only [hlog] using h.unreplaced
  replaced := by simpa only [hlog] using h.replaced

theorem Dated.refreshed (h : Dated log row) (hfresh : Refreshed row written) :
    Dated log written where
  idle := by
    have hidle := h.idle
    rw [SessionRow.IdleFromCreation] at hidle ⊢
    rw [hfresh.same.idleExpiresAt, hfresh.same.createdAt, hfresh.same.absoluteExpiresAt, hidle]
  unreplaced := by
    rw [hfresh.replacement, hfresh.same.sessionId]
    exact h.unreplaced
  replaced := by
    rw [hfresh.replacement, hfresh.same.sessionId, hfresh.same.absoluteExpiresAt]
    exact h.replaced

theorem Refreshed.isLive (h : Refreshed row written) : written.isLive = row.isLive := by
  rw [SessionRow.isLive, h.revokedAt, h.replacement, SessionRow.isLive]

theorem SessionLedger.putRow_cases (h : SessionLedger world) (hbefore : before ∈ world.sessions)
    (hid : written.sessionId = before.sessionId) (hrow : row ∈ world.sessions) :
    row = before ∧ putRow written row = written ∨
      row.sessionId ≠ written.sessionId ∧ putRow written row = row := by
  by_cases hsame : row.sessionId = written.sessionId
  · exact .inl ⟨h.eq_of_sessionId hrow hbefore (hsame.trans hid), if_pos hsame⟩
  · exact .inr ⟨hsame, if_neg hsame⟩

theorem SessionLedger.commitReady (h : SessionLedger world)
    (hwork : world.work? id = some (.ready written)) : Commits world id (.ready written)
    (putRow written) (.used written.sessionId world.now :: world.log) := by
  obtain ⟨before, hbefore, hfresh⟩ := h.fits hwork
  have hcases := fun {row} (hrow : row ∈ world.sessions) =>
    h.putRow_cases hbefore hfresh.same.sessionId hrow
  constructor
  case working => exact hwork
  case linked => simp
  case held =>
    intro row hrow
    obtain ⟨rfl, -⟩ | ⟨-, hkept⟩ := hcases hrow
    · exact .inr (by simp [Work.holds, heldForUpdate, hfresh.same.sessionId])
    · exact .inl hkept
  case same =>
    intro row hrow
    obtain ⟨rfl, hput⟩ | ⟨-, hkept⟩ := hcases hrow
    · rw [hput]
      exact hfresh.same
    · rw [hkept]
      exact .refl
  case live =>
    intro row hrow hlive
    obtain ⟨rfl, hput⟩ | ⟨-, hkept⟩ := hcases hrow
    · rwa [hput, hfresh.isLive] at hlive
    · rwa [hkept] at hlive
  case revoked =>
    intro row hrow hrevoked
    obtain ⟨rfl, hput⟩ | ⟨-, hkept⟩ := hcases hrow
    · rwa [hput, hfresh.revokedAt]
    · rwa [hkept]
  case dated =>
    intro row hrow
    have hdated : Dated (.used written.sessionId world.now :: world.log) row :=
      (h.dated row hrow).congr (by simp)
    obtain ⟨rfl, hput⟩ | ⟨-, hkept⟩ := hcases hrow
    · rw [hput]
      exact hdated.refreshed hfresh
    · rw [hkept]
      exact hdated
  case logged =>
    intro sessionId time hlogged
    exact h.logged sessionId time (by simpa using hlogged)
  case insertedDated => simp [insertedRow]
  case insertedSingle => simp [insertedRow]
  case insertedFamily => simp [insertedRow]

theorem SessionLedger.commitLinked (h : SessionLedger world)
    (hwork : world.work? id = some (.linked written successor linkedAt)) :
    Commits world id (.linked written successor linkedAt) (putRow written)
      (.used written.sessionId world.now :: .replaced written.sessionId linkedAt :: world.log) := by
  obtain ⟨before, hbefore, hlive, hsucc, rfl⟩ := h.fits hwork
  have hcases := fun {row} (hrow : row ∈ world.sessions) =>
    h.putRow_cases hbefore (link_same successor.sessionId linkedAt).sessionId hrow
  have hfresh := h.fresh hwork rfl
  have hunreplaced := isLive_iff.mp hlive
  have hnew : ∀ row ∈ world.sessions, row.sessionId ≠ successor.sessionId := by
    intro row hrow hsame
    have hapart := hfresh row hrow
    simp [clashes, hsame] at hapart
  constructor
  case working => exact hwork
  case linked => simp
  case held =>
    intro row hrow
    obtain ⟨rfl, -⟩ | ⟨-, hkept⟩ := hcases hrow
    · exact .inr (by simp [Work.holds, heldForUpdate, SessionRow.link])
    · exact .inl hkept
  case same =>
    intro row hrow
    obtain ⟨rfl, hput⟩ | ⟨-, hkept⟩ := hcases hrow
    · rw [hput]
      exact link_same _ _
    · rw [hkept]
      exact .refl
  case live =>
    intro row hrow hrowLive
    obtain ⟨rfl, -⟩ | ⟨-, hkept⟩ := hcases hrow
    · exact hlive
    · rwa [hkept] at hrowLive
  case revoked =>
    intro row hrow hrevoked
    obtain ⟨rfl, hput⟩ | ⟨-, hkept⟩ := hcases hrow
    · rwa [hput]
    · rwa [hkept]
  case dated =>
    intro row hrow
    obtain ⟨rfl, hput⟩ | ⟨hother, hkept⟩ := hcases hrow
    · rw [hput]
      -- The row was not replaced before, so the new event is its only one.
      have hnone := (h.dated row hrow).unreplaced hunreplaced.2
      constructor
      case idle => exact (h.dated row hrow).idle
      case unreplaced => simp [SessionRow.link]
      case replaced =>
        intro found hfound
        cases hfound
        refine ⟨linkedAt, by simp [SessionRow.link], rfl, fun time htime => ?_⟩
        simpa [SessionRow.link, hnone] using htime
    · rw [hkept]
      exact (h.dated row hrow).congr (by simp [hother])
  case logged =>
    intro sessionId time hlogged
    simp only [mem_cons, reduceCtorEq, SessionEvent.replaced.injEq, false_or] at hlogged
    obtain ⟨rfl, -⟩ | hlogged := hlogged
    · exact ⟨before, hbefore, rfl⟩
    · exact h.logged sessionId time hlogged
  case insertedDated =>
    intro row hrow
    cases hrow
    have hunlogged : ∀ time, .replaced successor.sessionId time ∉ world.log := by
      intro time hlogged
      obtain ⟨row, hrow, hid⟩ := h.logged _ time hlogged
      exact hnew row hrow hid
    have hother : successor.sessionId ≠ before.sessionId := fun hsame =>
      hnew before hbefore hsame.symm
    have hreplacement := (isLive_iff.mp hsucc.live).2
    constructor
    case idle => exact hsucc.idle
    case unreplaced =>
      simp [SessionRow.link, hother, hunlogged]
    case replaced => simp [hreplacement]
  case insertedSingle =>
    intro row hrow stored hstored hstoredLive
    cases hrow
    rw [hsucc.familyId]
    intro hfamily
    obtain ⟨rfl, hput⟩ | ⟨hother, hkept⟩ := hcases hstored
    · rw [hput] at hstoredLive
      simp [isLive, SessionRow.link] at hstoredLive
    · rw [hkept] at hstoredLive
      obtain rfl := h.single stored hstored before hbefore hstoredLive hlive hfamily
      exact hother rfl
  case insertedFamily =>
    intro row hrow other otherRow hne hlogs
    cases hrow
    rw [hsucc.familyId]
    exact (h.families hlogs).1 before hbefore

theorem SessionLedger.commitLogIn (h : SessionLedger world)
    (hwork : world.work? id = some (.loggingIn row)) :
    Commits world id (.loggingIn row) (fun stored => stored) world.log := by
  obtain ⟨hlive, hidle⟩ := h.fits hwork
  obtain ⟨hstored, hothers⟩ := h.families hwork
  constructor
  case working => exact hwork
  case linked => simp
  case held => exact fun _ _ => .inl rfl
  case same => exact fun stored _ => .refl
  case live => exact fun _ _ hstoredLive => hstoredLive
  case revoked => exact fun _ _ hrevoked => hrevoked
  case dated => exact h.dated
  case logged => exact h.logged
  case insertedDated =>
    intro inserted hins
    cases hins
    refine ⟨hidle, fun _ time hlogged => ?_, by simp [(isLive_iff.mp hlive).2]⟩
    obtain ⟨stored, hmem, hid⟩ := h.logged _ time hlogged
    have hapart := h.fresh hwork rfl stored hmem
    simp [clashes, hid] at hapart
  case insertedSingle =>
    intro inserted hins stored hmem _
    cases hins
    exact hstored stored hmem
  case insertedFamily =>
    intro inserted hins other otherRow hne hlogs
    cases hins
    exact (hothers hne hlogs).symm

theorem revokeListed_cases (revoked : List (SessionId × DatabaseTime)) (row : SessionRow) :
    (revokeListed revoked row = row ∧
        (revoked.any fun entry => decide (entry.1 = row.sessionId)) = false) ∨
      (∃ time, revokeListed revoked row = row.revoke time) ∧
        (revoked.any fun entry => decide (entry.1 = row.sessionId)) := by
  unfold revokeListed
  cases hfound : revoked.find? fun entry => decide (entry.1 = row.sessionId) with
  | none =>
    refine .inl ⟨rfl, ?_⟩
    simpa using hfound
  | some entry =>
    refine .inr ⟨⟨entry.2, rfl⟩, any_eq_true.mpr ⟨entry, ?_, ?_⟩⟩
    · exact mem_of_find?_eq_some hfound
    · simpa using find?_some hfound

theorem SessionLedger.commitRevoking (h : SessionLedger world)
    (hwork : world.work? id = some (.revoking familyId remaining revoked)) :
    Commits world id (.revoking familyId remaining revoked) (revokeListed revoked) world.log := by
  constructor
  case working => exact hwork
  case linked => simp
  case held =>
    intro row _
    obtain ⟨hkept, -⟩ | ⟨-, hlisted⟩ := revokeListed_cases revoked row
    · exact .inl hkept
    · exact .inr hlisted
  case same =>
    intro row _
    obtain ⟨hkept, -⟩ | ⟨⟨time, hrevoked⟩, -⟩ := revokeListed_cases revoked row
    · rw [hkept]
      exact .refl
    · rw [hrevoked]
      exact ⟨rfl, rfl, rfl, rfl, rfl, rfl⟩
  case live =>
    intro row _ hlive
    obtain ⟨hkept, -⟩ | ⟨⟨time, hrevoked⟩, -⟩ := revokeListed_cases revoked row
    · rwa [hkept] at hlive
    · rw [hrevoked] at hlive
      simp [isLive, SessionRow.revoke] at hlive
  case revoked =>
    intro row _ hrevoked
    obtain ⟨hkept, -⟩ | ⟨⟨time, hwrote⟩, -⟩ := revokeListed_cases revoked row
    · rwa [hkept]
    · rw [hwrote]
      rfl
  case dated =>
    intro row hrow
    have hdated := h.dated row hrow
    obtain ⟨hkept, -⟩ | ⟨⟨time, hrevoked⟩, -⟩ := revokeListed_cases revoked row
    · rwa [hkept]
    · rw [hrevoked]
      exact ⟨hdated.idle, hdated.unreplaced, hdated.replaced⟩
  case logged => exact h.logged
  case insertedDated => simp [insertedRow]
  case insertedSingle => simp [insertedRow]
  case insertedFamily => simp [insertedRow]

theorem SessionLedger.commit_cases (h : SessionLedger world) :
    (∃ work write log, Commits world id work write log ∧ world.commit id = { world.finish id with
        sessions := world.sessions.map write ++ work.insertedRow.toList, log := log }) ∨
    ((world.commit id).sessions = world.sessions ∧ (world.commit id).log = world.log ∧
      ((world.commit id).transactions = world.transactions ∨
        (world.commit id).transactions = (world.finish id).transactions)) := by
  unfold AuthWorld.commit
  split
  next written hwork => exact .inl ⟨_, _, _, h.commitReady hwork, by simp [insertedRow]⟩
  next written successor linkedAt hwork =>
    exact .inl ⟨_, _, _, h.commitLinked hwork, by simp [insertedRow]⟩
  next row hwork => exact .inl ⟨_, _, _, h.commitLogIn hwork, by simp [insertedRow]⟩
  next familyId revoked hwork =>
    exact .inl ⟨_, _, _, h.commitRevoking hwork, by simp [insertedRow]⟩
  next ticket hwork =>
    right
    split
    · exact ⟨rfl, rfl, .inl rfl⟩
    · split
      · exact ⟨rfl, rfl, .inr rfl⟩
      · exact ⟨rfl, rfl, .inr rfl⟩
  next ticketId hwork => exact .inr ⟨rfl, rfl, .inr rfl⟩
  · exact .inr ⟨rfl, rfl, .inl rfl⟩

theorem SessionLedger.commitStep (h : SessionLedger world) : SessionLedger (world.commit id) := by
  obtain ⟨work, write, log, hcom, heq⟩ | ⟨hsess, hlog, hsame | hfin⟩ := h.commit_cases
  · rw [heq]
    exact h.commit hcom
  · exact h.congr hsess hlog hsame
  · exact h.finish.congr hsess hlog hfin

end Commit

/-- `newAuthUUID` draws a family that no session has. -/
def AuthWorld.drawsNewFamily (world : AuthWorld) : AuthAction → Bool
  | .logIn _ _ familyId _ =>
    (world.sessions.all fun row => !decide (row.familyId = familyId)) &&
      world.transactions.all fun transaction => transaction.work.insertedRow.all fun row =>
        !decide (row.familyId = familyId)
  | _ => true

theorem SessionLedger.step {world : AuthWorld} (h : SessionLedger world) {action : AuthAction}
    (hdraws : world.drawsNewFamily action) : SessionLedger (world.step action) := by
  cases action with
  | elapse => exact h.congr rfl rfl rfl
  | logIn =>
    simp only [AuthWorld.drawsNewFamily, Bool.and_eq_true, all_eq_true, Bool.not_eq_true',
      decide_eq_false_iff_not, Option.all_eq_true] at hdraws
    refine h.logIn hdraws.1 fun {other otherRow} _ hwork => ?_
    exact hdraws.2 _ (mem_of_work? hwork) otherRow rfl
  | authenticate => exact h.authenticate
  | lock => exact h.lock
  | checkRotation => exact h.checkRotation
  | touch => exact h.touch
  | insertSuccessor => exact h.insertSuccessor
  | link => exact h.link
  | logout => exact h.logout
  | revoke => exact h.revoke
  | issueTicket => exact h.issueTicket
  | consumeTicket => exact h.consumeTicket
  | commit => exact h.commitStep
  | rollback => exact h.finish

theorem SessionLedger.initial : SessionLedger (AuthWorld.initial now) where
  keyed := List.Pairwise.nil
  single := by simp [AuthWorld.initial]
  dated := by simp [AuthWorld.initial]
  logged := by simp [AuthWorld.initial]
  exclusive := by simp [AuthWorld.initial, AuthWorld.work?]
  fits := by simp [AuthWorld.initial, AuthWorld.work?]
  fresh := by simp [AuthWorld.initial, AuthWorld.work?]
  apart := by simp [AuthWorld.initial, AuthWorld.work?]
  families := by simp [AuthWorld.initial, AuthWorld.work?]

end LiveRoute.Authentication
