import LiveRoute.Authentication.SessionLedger
import LiveRoute.Library.Runs
import Mathlib.Order.MinMax

/-! When a session token is accepted. A token should live as long as it is used
and die a minute after its rotation; the lookup compares deadlines that are
fixed when the row is created or replaced. The two agree except for a session
that is used on after its first week, and for a replaced one before its own. -/
namespace LiveRoute.Authentication
open Domain Persistence List Bool

def SessionEvent.useOf (sessionId : SessionId) : SessionEvent → Option DatabaseTime
  | .used found time => if found = sessionId then some time else none
  | .replaced _ _ => none

def SessionEvent.replacementOf (sessionId : SessionId) : SessionEvent → Option DatabaseTime
  | .used _ _ => none
  | .replaced found time => if found = sessionId then some time else none

namespace AuthWorld

def uses (world : AuthWorld) (row : SessionRow) : List DatabaseTime :=
  row.createdAt :: world.log.filterMap (SessionEvent.useOf row.sessionId)

def replacements (world : AuthWorld) (row : SessionRow) : List DatabaseTime :=
  world.log.filterMap (SessionEvent.replacementOf row.sessionId)

def isValid (world : AuthWorld) (row : SessionRow) : Bool :=
  row.revokedAt.isNone && decide (world.now < row.absoluteExpiresAt) &&
    if row.replacement.isNone then
      (world.uses row).any fun time => decide (world.now < time + sessionIdleLifetime)
    else (world.replacements row).any fun time => decide (world.now ≤ time + predecessorGrace)

/-- A live session has not outlived the first week, or has not been used in the
last; a replaced one is within the grace period, or has outlived its week. -/
def isInTime (world : AuthWorld) (row : SessionRow) : Bool :=
  row.revokedAt.isSome || decide (row.absoluteExpiresAt ≤ world.now) ||
    if row.replacement.isNone then
      decide (world.now < row.createdAt + sessionIdleLifetime) ||
        (world.uses row).all fun time => decide (time + sessionIdleLifetime ≤ world.now)
    else
      (world.replacements row).all fun time =>
        decide (world.now < time + predecessorGrace) ||
          (decide (world.now = time + predecessorGrace) ==
            decide (world.now < row.createdAt + sessionIdleLifetime))

end AuthWorld

structure Lawful (world : AuthWorld) (action : AuthAction) : Prop where
  accepts : ∀ {id tokenDigest}, action = .authenticate id tokenDigest → world.work? id = none →
    (((world.step action).work? id).isSome ↔
      ∃ row ∈ world.sessions, row.tokenDigest = tokenDigest ∧ world.isValid row)
  confirms : ∀ {id sessionId}, action = .lock id → world.work? id = some (.selected sessionId) →
    world.heldElsewhere id sessionId = false →
    (((world.step action).work? id).isSome ↔
      ∃ row ∈ world.sessions, row.sessionId = sessionId ∧ world.isValid row)
  rotates : ∀ {id written successor linkedAt}, action = .commit id →
    world.work? id = some (.linked written successor linkedAt) →
    ∀ row ∈ world.sessions, row.sessionId = written.sessionId → row.replacement = none
  mints : ∀ {id canMint tokenDigest ticketId ticketDigest},
    action = .issueTicket id canMint tokenDigest ticketId ticketDigest → world.work? id = none →
    ((world.step action).work? id).isSome →
    ∀ row ∈ world.sessions, row.tokenDigest = tokenDigest → row.replacement = none
  single : ∀ row ∈ (world.step action).sessions, ∀ other ∈ (world.step action).sessions,
    row.isLive → other.isLive → row.familyId = other.familyId → row = other

def AuthWorld.decidesInTime (world : AuthWorld) : AuthAction → Bool
  | .authenticate id tokenDigest => (world.work? id).isSome ||
      world.sessions.all fun row => !decide (row.tokenDigest = tokenDigest) || world.isInTime row
  | .lock id =>
    match world.work? id with
    | some (.selected sessionId) => world.heldElsewhere id sessionId ||
        world.sessions.all fun row => !decide (row.sessionId = sessionId) || world.isInTime row
    | _ => true
  | _ => true

section Rows
variable {world : AuthWorld} {row : SessionRow}

theorem mem_replacements :
    time ∈ world.replacements row ↔ .replaced row.sessionId time ∈ world.log := by
  unfold AuthWorld.replacements
  rw [mem_filterMap]
  constructor
  · rintro ⟨event, hevent, htime⟩
    cases event with
    | used => cases htime
    | replaced =>
      simp only [SessionEvent.replacementOf] at htime
      split at htime <;> cases htime
      next hsame => exact hsame ▸ hevent
  · intro hevent
    exact ⟨_, hevent, by simp [SessionEvent.replacementOf]⟩

theorem Dated.lt_idleExpiresAt_iff (h : Dated world.log row)
    (halive : world.now < row.absoluteExpiresAt) :
    world.now < row.idleExpiresAt ↔ world.now < row.createdAt + sessionIdleLifetime := by
  rw [h.idle, lt_min_iff]
  exact and_iff_left halive

theorem Dated.live_authenticates_iff (h : Dated world.log row) (hrevoked : row.revokedAt = none)
    (halive : world.now < row.absoluteExpiresAt) (hunreplaced : row.replacement = none) :
    (row.authenticates world.now ↔ world.isValid row) ↔ world.isInTime row := by
  simp only [SessionRow.authenticates, AuthWorld.isValid, AuthWorld.isInTime, AuthWorld.uses,
    hrevoked, hunreplaced, halive, h.lt_idleExpiresAt_iff halive, Option.isNone_none,
    Option.isSome_none, Option.any_none, not_le.mpr halive, decide_true, decide_false, if_true,
    Bool.true_and, Bool.or_false, Bool.false_or, any_cons, all_cons, Bool.or_eq_true,
    and_eq_true, decide_eq_true_eq, any_eq_true, all_eq_true]
  constructor
  · intro h
    by_cases hweek : world.now < row.createdAt + sessionIdleLifetime
    · exact .inl hweek
    · refine .inr ⟨not_lt.mp hweek, fun time htime => not_lt.mp fun hused => hweek ?_⟩
      exact h.mpr (.inr ⟨time, htime, hused⟩)
  · rintro (hweek | ⟨-, hunused⟩)
    · exact iff_of_true hweek (.inl hweek)
    · refine ⟨.inl, ?_⟩
      rintro (hweek | ⟨time, htime, hused⟩)
      · exact hweek
      · exact absurd hused (not_lt.mpr (hunused time htime))

theorem Dated.replaced_authenticates_iff (h : Dated world.log row) (hrevoked : row.revokedAt = none)
    (halive : world.now < row.absoluteExpiresAt) (hrepl : row.replacement = some found) :
    (row.authenticates world.now ↔ world.isValid row) ↔ world.isInTime row := by
  obtain ⟨time, htime, hvalid, hunique⟩ := h.replaced found hrepl
  have hall : ∀ p : DatabaseTime → Bool, ((world.replacements row).all p ↔ p time) := by
    intro p
    rw [all_eq_true]
    refine ⟨fun hp => hp time (mem_replacements.mpr htime), fun hp other hother => ?_⟩
    rwa [hunique other (mem_replacements.mp hother)]
  have hany : ∀ p : DatabaseTime → Bool, ((world.replacements row).any p ↔ p time) := by
    intro p
    rw [any_eq_true]
    refine ⟨?_, fun hp => ⟨time, mem_replacements.mpr htime, hp⟩⟩
    rintro ⟨other, hother, hp⟩
    rwa [hunique other (mem_replacements.mp hother)] at hp
  have hgrace : world.now < found.validUntil ↔ world.now < time + predecessorGrace := by
    rw [hvalid, lt_min_iff]
    exact and_iff_left halive
  simp only [SessionRow.authenticates, AuthWorld.isValid, AuthWorld.isInTime, hrevoked, hrepl,
    halive, h.lt_idleExpiresAt_iff halive, hgrace, hall, hany, Option.isNone_none,
    Option.isSome_none, Option.any_some, Option.isNone_some, not_le.mpr halive, decide_true,
    decide_false, Bool.false_eq_true, if_false, Bool.true_and, Bool.false_or, Bool.or_eq_true,
    decide_eq_true_eq, beq_iff_eq, decide_eq_decide]
  rcases lt_trichotomy world.now (time + predecessorGrace) with hearly | hexact | hlate
  · simp [hearly, hearly.le]
  · simp [hexact]
  · simp [not_lt.mpr hlate.le, not_le.mpr hlate, hlate.ne']

theorem Dated.authenticates_iff (h : Dated world.log row) :
    ((row.authenticates world.now ↔ world.isValid row) ↔ world.isInTime row) := by
  cases hrevoked : row.revokedAt with
  | some => simp [SessionRow.authenticates, AuthWorld.isValid, AuthWorld.isInTime, hrevoked]
  | none =>
    by_cases halive : world.now < row.absoluteExpiresAt
    · cases hrepl : row.replacement with
      | none => exact h.live_authenticates_iff hrevoked halive hrepl
      | some => exact h.replaced_authenticates_iff hrevoked halive hrepl
    · simp [SessionRow.authenticates, AuthWorld.isValid, AuthWorld.isInTime, halive,
        not_lt.mp halive]

theorem SessionLedger.judges_iff (h : SessionLedger world) {selects : SessionRow → Prop}
    (hunique : ∀ row ∈ world.sessions, ∀ other ∈ world.sessions, selects row → selects other →
      row = other) :
    ((∃ row ∈ world.sessions, selects row ∧ row.authenticates world.now) ↔
        ∃ row ∈ world.sessions, selects row ∧ world.isValid row) ↔
      ∀ row ∈ world.sessions, selects row → world.isInTime row := by
  constructor
  · intro hsame row hrow hselects
    rw [← (h.dated row hrow).authenticates_iff]
    constructor
    · intro hfound
      obtain ⟨other, hother, hotherSelects, hvalid⟩ := hsame.mp ⟨row, hrow, hselects, hfound⟩
      rwa [hunique row hrow other hother hselects hotherSelects]
    · intro hvalid
      obtain ⟨other, hother, hotherSelects, hfound⟩ := hsame.mpr ⟨row, hrow, hselects, hvalid⟩
      rwa [hunique row hrow other hother hselects hotherSelects]
  · intro hinTime
    refine exists_congr fun row => and_congr_right fun hrow => and_congr_right fun hselects => ?_
    exact (h.dated row hrow).authenticates_iff.mpr (hinTime row hrow hselects)

theorem SessionLedger.lookup_iff (h : SessionLedger world) :
    ((∃ row ∈ world.sessions, row.tokenDigest = tokenDigest ∧ row.authenticates world.now) ↔
        ∃ row ∈ world.sessions, row.tokenDigest = tokenDigest ∧ world.isValid row) ↔
      ∀ row ∈ world.sessions, row.tokenDigest = tokenDigest → world.isInTime row :=
  h.judges_iff fun _ hrow _ hother hdig hotherDigest =>
    h.eq_of_tokenDigest hrow hother (hdig.trans hotherDigest.symm)

theorem SessionLedger.reread_iff (h : SessionLedger world) :
    ((∃ row ∈ world.sessions, row.sessionId = sessionId ∧ row.authenticates world.now) ↔
        ∃ row ∈ world.sessions, row.sessionId = sessionId ∧ world.isValid row) ↔
      ∀ row ∈ world.sessions, row.sessionId = sessionId → world.isInTime row :=
  h.judges_iff fun _ hrow _ hother hid hotherId =>
    h.eq_of_sessionId hrow hother (hid.trans hotherId.symm)

theorem authenticate_isSome_iff {id : TransactionId} (hidle : world.work? id = none) :
    ((world.authenticate id tokenDigest).work? id).isSome ↔ ∃ row ∈ world.sessions,
      row.tokenDigest = tokenDigest ∧ row.authenticates world.now := by
  unfold AuthWorld.authenticate
  rw [if_neg (by simp [hidle])]
  cases hfound : world.sessions.find? fun row =>
      decide (row.tokenDigest = tokenDigest) && row.authenticates world.now with
  | none =>
    simpa [hidle] using hfound
  | some row =>
    have hfacts := find?_some hfound
    simp only [and_eq_true, decide_eq_true_eq] at hfacts
    simp only [work?_setWork_self, Option.isSome_some, true_iff]
    exact ⟨row, mem_of_find?_eq_some hfound, hfacts⟩

theorem SessionLedger.lock_isSome_iff (h : SessionLedger world) {id : TransactionId}
    (hwork : world.work? id = some (.selected sessionId))
    (hfree : world.heldElsewhere id sessionId = false) :
    ((world.lock id).work? id).isSome ↔
      ∃ row ∈ world.sessions, row.sessionId = sessionId ∧ row.authenticates world.now := by
  unfold AuthWorld.lock
  simp only [hwork, hfree, false_eq_true, if_false]
  split
  next hfound =>
    obtain ⟨row, hrow, hvalid⟩ := (Option.any_eq_true _ _).mp hfound
    obtain ⟨hmem, hid⟩ := session?_eq_some hrow
    simp only [work?_setWork_self, Option.isSome_some, true_iff]
    exact ⟨row, hmem, hid, hvalid⟩
  next href =>
    simp only [work?_finish_self, Option.isSome_none, false_eq_true, false_iff]
    rintro ⟨row, hrow, rfl, hvalid⟩
    apply href
    cases hfound : world.session? row.sessionId with
    | none =>
      have hnone := find?_eq_none.mp hfound row hrow
      simp at hnone
    | some =>
      obtain ⟨hmem, hid⟩ := session?_eq_some hfound
      rw [h.eq_of_sessionId hmem hrow hid]
      simpa using hvalid

theorem SessionLedger.mints_unreplaced (h : SessionLedger world) {id : TransactionId}
    (hidle : world.work? id = none)
    (hissued : ((world.issueTicket id canMint tokenDigest ticketId ticketDigest).work? id).isSome =
      true) : ∀ row ∈ world.sessions, row.tokenDigest = tokenDigest → row.replacement = none := by
  unfold AuthWorld.issueTicket at hissued
  split at hissued
  · simp [hidle] at hissued
  split at hissued
  · simp [hidle] at hissued
  rename_i found hfound
  have hfacts := find?_some hfound
  simp only [SessionRow.mintsTicket, and_eq_true, decide_eq_true_eq,
    Option.isNone_iff_eq_none] at hfacts
  intro row hrow hdig
  rw [h.eq_of_tokenDigest hrow (mem_of_find?_eq_some hfound) (hdig.trans hfacts.1.symm)]
  exact hfacts.2.1.1.2

theorem SessionLedger.lawful_iff (h : SessionLedger world) (hdraws : world.drawsNewFamily action) :
    Lawful world action ↔ world.decidesInTime action := by
  constructor
  · intro hlawful
    cases action with
    | authenticate id =>
      cases hidle : world.work? id with
      | some => simp [AuthWorld.decidesInTime, hidle]
      | none =>
        have haccepts := hlawful.accepts rfl hidle
        rw [AuthWorld.step, authenticate_isSome_iff hidle, h.lookup_iff] at haccepts
        simpa [AuthWorld.decidesInTime, hidle, imp_iff_not_or] using haccepts
    | lock id =>
      rw [AuthWorld.decidesInTime]
      split
      next sessionId hwork =>
        cases hfree : world.heldElsewhere id sessionId with
        | true => rfl
        | false =>
          have hconfirms := hlawful.confirms rfl hwork hfree
          rw [AuthWorld.step, h.lock_isSome_iff hwork hfree, h.reread_iff] at hconfirms
          simpa [imp_iff_not_or] using hconfirms
      · rfl
    | _ => rfl
  · intro hinTime
    constructor
    case accepts =>
      rintro id tokenDigest rfl hidle
      rw [AuthWorld.step, authenticate_isSome_iff hidle, h.lookup_iff]
      simpa [AuthWorld.decidesInTime, hidle, imp_iff_not_or] using hinTime
    case confirms =>
      rintro id sessionId rfl hwork hfree
      rw [AuthWorld.step, h.lock_isSome_iff hwork hfree, h.reread_iff]
      simpa [AuthWorld.decidesInTime, hwork, hfree, imp_iff_not_or] using hinTime
    case rotates =>
      rintro id written successor linkedAt rfl hwork
      obtain ⟨before, hbefore, hlive, -, rfl⟩ := h.fits hwork
      intro row hrow hid
      rw [h.eq_of_sessionId hrow hbefore hid]
      exact (isLive_iff.mp hlive).2
    case mints =>
      rintro id canMint tokenDigest ticketId ticketDigest rfl hidle hissued
      exact h.mints_unreplaced hidle hissued
    case single => exact (h.step hdraws).single

end Rows

/-- Over every interleaving of logins, requests, rotations, logouts and the
passing of time, sessions obey their law exactly when every lookup is in time. -/
theorem session_validity_iff (now : DatabaseTime) {history : List AuthAction}
    (hdraws : Runs.Along AuthWorld.step
      (fun world action => world.drawsNewFamily action) (AuthWorld.initial now) history) :
    Runs.Along AuthWorld.step Lawful (AuthWorld.initial now) history ↔ Runs.Along AuthWorld.step
      (fun world action => world.decidesInTime action) (AuthWorld.initial now) history := by
  have hinv : ∀ world action, SessionLedger world → world.drawsNewFamily action →
      SessionLedger (world.step action) := fun _ _ h hnew => h.step hnew
  exact Runs.along_iff_of_guard hinv (fun _ _ h hnew => h.lawful_iff hnew)
    SessionLedger.initial hdraws

def firstLogin : List AuthAction := [.logIn 1 ⟨1⟩ ⟨1⟩ ⟨⟨1⟩, ⟨1⟩⟩, .commit 1]

def request (tokenDigest : TokenDigest) : List AuthAction :=
  [.authenticate 2 tokenDigest, .lock 2, .checkRotation 2, .touch 2, .commit 2]

def rotatingRequest (tokenDigest : TokenDigest) (draws : SessionDraws) : List AuthAction :=
  [.authenticate 2 tokenDigest, .lock 2, .checkRotation 2, .insertSuccessor 2 draws, .link 2,
    .commit 2]

def day : Nat := 24 * 3600 * 1000000

def rotateInTime : List AuthAction :=
  firstLogin ++ [.elapse day] ++ rotatingRequest ⟨1⟩ ⟨⟨2⟩, ⟨2⟩⟩ ++ [.elapse 1000000] ++
    [.authenticate 2 ⟨1⟩, .lock 2, .checkRotation 2, .commit 2] ++ request ⟨2⟩

theorem rotateInTime_lawful : Runs.Along AuthWorld.step Lawful (AuthWorld.initial 0) rotateInTime ∧
      ((AuthWorld.initial 0).run rotateInTime).log.length = 4 :=
  ⟨(session_validity_iff 0 (by decide +kernel)).mpr (by decide +kernel), by decide +kernel⟩

def rotateAndWait : List AuthAction :=
  firstLogin ++ [.elapse day] ++ rotatingRequest ⟨1⟩ ⟨⟨2⟩, ⟨2⟩⟩ ++ [.elapse 3600000000]

def useAndWait : List AuthAction :=
  firstLogin ++ [.elapse (day - 1)] ++ request ⟨1⟩ ++ [.elapse (6 * day + 1)]

/-- The replaced token is accepted an hour after its rotation, and the token of
a session that is not replaced is refused though it was used six days ago. -/
theorem sessions_not_lawful : (¬ Runs.Along AuthWorld.step Lawful (AuthWorld.initial 0)
        (rotateAndWait ++ [.authenticate 2 ⟨1⟩]) ∧
      (((AuthWorld.initial 0).run (rotateAndWait ++ [.authenticate 2 ⟨1⟩])).work? 2).isSome =
        true) ∧
    (¬ Runs.Along AuthWorld.step Lawful (AuthWorld.initial 0)
        (useAndWait ++ [.authenticate 2 ⟨1⟩]) ∧
      (((AuthWorld.initial 0).run (useAndWait ++ [.authenticate 2 ⟨1⟩])).work? 2).isSome =
        false) := by
  refine ⟨⟨fun h => ?_, by decide +kernel⟩, fun h => ?_, by decide +kernel⟩
  · obtain ⟨-, hlast, -⟩ := Runs.along_append_iff.mp h
    exact absurd (hlast.accepts rfl (by decide +kernel)) (by decide +kernel)
  · obtain ⟨-, hlast, -⟩ := Runs.along_append_iff.mp h
    exact absurd (hlast.accepts rfl (by decide +kernel)) (by decide +kernel)

end LiveRoute.Authentication
