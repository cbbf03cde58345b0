import LiveRoute.Authentication.SessionLedger
import LiveRoute.Library.Runs

/-! The logout of a session family. Its update visits the rows that were
committed when it started, and waits for each until no request holds it. A
rotation that commits in between leaves a successor that the update never
visits; without one, every session of the family is revoked for good. -/
namespace LiveRoute.Authentication
open Domain Persistence List
open AuthWorld (step work? initial run)

namespace AuthWorld

def hasFamily (world : AuthWorld) (familyId : FamilyId) : Prop :=
  ∃ row ∈ world.sessions, row.familyId = familyId

/-- No token of the family authenticates and no ticket issued from it can be
consumed, now or later. -/
structure FamilyClosed (world : AuthWorld) (familyId : FamilyId) : Prop where
  tokens : ∀ row ∈ world.sessions, row.familyId = familyId → ∀ now, row.authenticates now = false
  tickets : ∀ row ∈ world.sessions, row.familyId = familyId →
    ∀ ticket ∈ world.tickets, ticket.sessionId = row.sessionId →
    ∀ session ∈ world.sessions, ∀ now, ticket.isConsumable session now = false

def commitsRotation (world : AuthWorld) (familyId : FamilyId) : AuthAction → Bool
  | .commit id =>
    match world.work? id with
    | some (.linked _ successor _) => decide (successor.familyId = familyId)
    | _ => false
  | _ => false

end AuthWorld

def Work.isRevoking : Work → Bool
  | .revoking .. => true
  | _ => false

inductive StepChange (world : AuthWorld) : AuthAction → AuthWorld → Prop where
  | unchanged (action : AuthAction) : StepChange world action world
  | elapsed (duration : Nat) :
      StepChange world (.elapse duration) { world with now := world.now + duration }
  | finished (action : AuthAction) (id : TransactionId) : StepChange world action (world.finish id)
  | worked (action : AuthAction) (id : TransactionId) {work : Work}
      (other : work.isRevoking = false) : StepChange world action (world.setWork id work)
  | listed (id : TransactionId) (familyId : FamilyId) :
      StepChange world (.logout id familyId) (world.setWork id (.revoking familyId
        ((world.sessions.filter fun row => decide (row.familyId = familyId)).map
          SessionRow.sessionId) []))
  | visited {id : TransactionId} {familyId : FamilyId} {remaining : List SessionId}
      {revoked : List (SessionId × DatabaseTime)} (sessionId : SessionId)
      (working : world.work? id = some (.revoking familyId remaining revoked)) :
      StepChange world (.revoke id sessionId) (world.setWork id (.revoking familyId
        (remaining.filter fun other => !decide (other = sessionId))
        ((sessionId, world.now) :: revoked)))
  | committed (id : TransactionId) : StepChange world (.commit id) (world.commit id)

theorem step_change (world : AuthWorld) (action : AuthAction) :
    StepChange world action (world.step action) := by
  cases action with
  | elapse duration => exact .elapsed duration
  | commit id => exact .committed id
  | rollback id => exact .finished _ id
  | logout id familyId =>
    rw [step]
    fun_cases AuthWorld.logout world id familyId
    · exact .unchanged _
    · exact .listed id familyId
  | revoke id sessionId =>
    rw [step]
    fun_cases AuthWorld.revoke world id sessionId
    case case1 hwork _ => exact .visited sessionId hwork
    all_goals exact .unchanged _
  | _ =>
    simp only [step, AuthWorld.logIn, AuthWorld.authenticate, AuthWorld.lock,
      AuthWorld.checkRotation, AuthWorld.touch, AuthWorld.insertSuccessor, AuthWorld.link,
      AuthWorld.issueTicket, AuthWorld.consumeTicket]
    -- every branch of the other actions leaves the world, or writes or ends the work
    repeat' split
    all_goals first
      | exact .unchanged _
      | exact .worked _ _ rfl
      | exact .finished _ _

section Steps
variable {world : AuthWorld} {id : TransactionId} {familyId : FamilyId}

structure Visits (world : AuthWorld) (id : TransactionId) (familyId : FamilyId) : Prop where
  family : world.hasFamily familyId
  listed : ∀ {remaining revoked}, world.work? id = some (.revoking familyId remaining revoked) →
    ∀ row ∈ world.sessions, row.familyId = familyId → row.sessionId ∈ remaining ∨
      (revoked.any fun entry => decide (entry.1 = row.sessionId))

structure Revoked (world : AuthWorld) (familyId : FamilyId) : Prop where
  family : world.hasFamily familyId
  revoked : ∀ row ∈ world.sessions, row.familyId = familyId → row.revokedAt.isSome

/-- What a commit leaves of a family that has sessions already: versions of its
rows, and the successor of a rotation. -/
theorem Commits.family {write : SessionRow → SessionRow}
    (h : SessionLedger world) (hcom : Commits world id work write log)
    (hfamily : world.hasFamily familyId)
    (hrow : row ∈ world.sessions.map write ++ work.insertedRow.toList)
    (hmember : row.familyId = familyId) :
    (∃ before ∈ world.sessions, before.familyId = familyId ∧ write before = row) ∨
      world.commitsRotation familyId (.commit id) ∧
        ∃ before ∈ world.sessions, before.familyId = familyId ∧ before.isLive := by
  rw [mem_append, mem_map, Option.mem_toList] at hrow
  obtain ⟨before, hbefore, rfl⟩ | hins := hrow
  · rw [(hcom.same before hbefore).familyId] at hmember
    exact .inl ⟨before, hbefore, hmember, rfl⟩
  · have hwork := hcom.working
    cases work with
    | linked =>
      cases hins
      obtain ⟨before, hbefore, hlive, hsucc, -⟩ := h.fits hwork
      rw [hsucc.familyId] at hmember
      refine .inr ⟨?_, before, hbefore, hmember, hlive⟩
      simp [AuthWorld.commitsRotation, hwork, hsucc.familyId, hmember]
    | loggingIn =>
      cases hins
      obtain ⟨stored, hstored, hsame⟩ := hfamily
      exact absurd (hsame.trans hmember.symm) ((h.families hwork).1 stored hstored)
    | inserted sessionId successor => exact absurd rfl (hcom.linked sessionId successor)
    | _ => cases hins

theorem work?_of_finish
    (h : (world.finish other).work? id = some work) : world.work? id = some work := by
  by_cases hsame : id = other
  · subst hsame
    simp at h
  · rwa [work?_finish_other hsame] at h

theorem work?_of_setWork (h : (world.setWork other work).work? id = some found) :
    id = other ∧ found = work ∨ world.work? id = some found := by
  by_cases hsame : id = other
  · subst hsame
    rw [work?_setWork_self] at h
    exact .inl ⟨rfl, (Option.some.inj h).symm⟩
  · rw [work?_setWork_other hsame] at h
    exact .inr h

section
variable (h : SessionLedger world)
include h

theorem Visits.commit (hvisits : Visits world id familyId)
    (hrotates : world.commitsRotation familyId (.commit other) = false) :
    Visits (world.commit other) id familyId := by
  obtain ⟨work, write, log, hcom, heq⟩ | ⟨hsess, -, htxs⟩ := h.commit_cases
  · rw [heq]
    have hkept : ∀ before ∈ world.sessions, (write before).sessionId = before.sessionId :=
      fun before hbefore => (hcom.same before hbefore).sessionId
    constructor
    case family =>
      obtain ⟨row, hrow, hfamily⟩ := hvisits.family
      refine ⟨write row, mem_append_left _ (mem_map_of_mem hrow), ?_⟩
      rw [(hcom.same row hrow).familyId, hfamily]
    case listed =>
      intro remaining revoked hworking row hrow hfamily
      obtain ⟨before, hbefore, hmember, rfl⟩ | ⟨hrotation, -⟩ :=
        hcom.family h hvisits.family hrow hfamily
      · rw [hkept before hbefore]
        exact hvisits.listed (work?_of_finish hworking) before hbefore hmember
      · simp [hrotation] at hrotates
  · have hwork : ∀ {found}, (world.commit other).work? id = some found →
        world.work? id = some found := by
      intro found hfound
      obtain hsame | hfin := htxs
      · rwa [work?, hsame] at hfound
      · rw [work?, hfin] at hfound
        exact work?_of_finish hfound
    constructor
    case family =>
      obtain ⟨row, hrow, hfamily⟩ := hvisits.family
      exact ⟨row, hsess ▸ hrow, hfamily⟩
    case listed =>
      intro remaining revoked hworking
      rw [hsess]
      exact hvisits.listed (hwork hworking)

theorem Visits.step (hvisits : Visits world id familyId)
    {action : AuthAction} (hrotates : world.commitsRotation familyId action = false) :
    Visits (world.step action) id familyId := by
  have hchange := step_change world action
  generalize world.step action = next at hchange
  cases hchange with
  | unchanged => exact hvisits
  | elapsed => exact ⟨hvisits.family, hvisits.listed⟩
  | finished => exact ⟨hvisits.family, fun hwork => hvisits.listed (work?_of_finish hwork)⟩
  | worked _ _ hother =>
    refine ⟨hvisits.family, fun hwork => ?_⟩
    obtain ⟨-, rfl⟩ | hbefore := work?_of_setWork hwork
    · cases hother
    · exact hvisits.listed hbefore
  | listed =>
    refine ⟨hvisits.family, fun hwork row hrow hmember => ?_⟩
    obtain ⟨-, hsame⟩ | hbefore := work?_of_setWork hwork
    · cases hsame
      left
      exact mem_map_of_mem (mem_filter.mpr ⟨hrow, decide_eq_true hmember⟩)
    · exact hvisits.listed hbefore row hrow hmember
  | visited sessionId hbefore =>
    refine ⟨hvisits.family, fun hwork row hrow hmember => ?_⟩
    obtain ⟨rfl, hsame⟩ | hstill := work?_of_setWork hwork
    · cases hsame
      by_cases hvisited : row.sessionId = sessionId
      · right
        simp [hvisited]
      · refine (hvisits.listed hbefore row hrow hmember).imp (fun hremains => ?_) fun hdone => ?_
        · simp [hremains, hvisited]
        · rw [any_cons, hdone, Bool.or_true]
    · exact hvisits.listed hstill row hrow hmember
  | committed => exact hvisits.commit h hrotates

theorem Visits.revoked (hvisits : Visits world id familyId)
    {revoked : List (SessionId × DatabaseTime)}
    (hwork : world.work? id = some (.revoking familyId [] revoked)) :
    Revoked (world.commit id) familyId := by
  have hsess : (world.commit id).sessions = world.sessions.map (revokeListed revoked) := by
    rw [AuthWorld.commit, hwork]
  constructor
  case family =>
    obtain ⟨row, hrow, hfamily⟩ := hvisits.family
    refine ⟨revokeListed revoked row, hsess ▸ mem_map_of_mem hrow, ?_⟩
    rw [((h.commitRevoking hwork).same row hrow).familyId, hfamily]
  case revoked =>
    rw [hsess]
    refine forall_mem_map.mpr fun row hrow hmember => ?_
    rw [((h.commitRevoking hwork).same row hrow).familyId] at hmember
    obtain ⟨-, hunlisted⟩ | ⟨⟨time, hrevoked⟩, -⟩ := revokeListed_cases revoked row
    · have hlisted := hvisits.listed hwork row hrow hmember
      simp [hunlisted] at hlisted
    · rw [hrevoked]
      rfl

/-- A revoked session is never live again, so the family gets no new one. -/
theorem Revoked.step (hrevoked : Revoked world familyId) :
    Revoked (world.step action) familyId := by
  have hchange := step_change world action
  generalize world.step action = next at hchange
  cases hchange with
  | committed =>
    obtain ⟨work, write, log, hcom, heq⟩ | ⟨hsess, -⟩ := h.commit_cases
    · rw [heq]
      constructor
      case family =>
        obtain ⟨row, hrow, hfamily⟩ := hrevoked.family
        refine ⟨write row, mem_append_left _ (mem_map_of_mem hrow), ?_⟩
        rw [(hcom.same row hrow).familyId, hfamily]
      case revoked =>
        intro row hrow hmember
        obtain ⟨before, hbefore, hfamily, rfl⟩ | ⟨-, before, hbefore, hfamily, hlive⟩ :=
          hcom.family h hrevoked.family hrow hmember
        · exact hcom.revoked before hbefore (hrevoked.revoked before hbefore hfamily)
        · have hsome := hrevoked.revoked before hbefore hfamily
          simp [(isLive_iff.mp hlive).1] at hsome
    · constructor
      case family =>
        obtain ⟨row, hrow, hfamily⟩ := hrevoked.family
        exact ⟨row, hsess ▸ hrow, hfamily⟩
      case revoked => rw [hsess]; exact hrevoked.revoked
  | _ => exact ⟨hrevoked.family, hrevoked.revoked⟩

theorem Revoked.familyClosed (hrevoked : Revoked world familyId) : world.FamilyClosed familyId := by
  have hnone : ∀ row ∈ world.sessions, row.familyId = familyId → row.revokedAt.isNone = false := by
    intro row hrow hmember
    simpa [Option.isSome_iff_ne_none] using hrevoked.revoked row hrow hmember
  constructor
  case tokens =>
    intro row hrow hmember now
    simp [SessionRow.authenticates, hnone row hrow hmember]
  case tickets =>
    intro row hrow hmember ticket _ hissued session hsession now
    by_cases hsame : session.sessionId = ticket.sessionId
    · rw [h.eq_of_sessionId hsession hrow (hsame.trans hissued)]
      simp [TicketRow.isConsumable, SessionRow.mintsTicket, hnone row hrow hmember]
    · simp [TicketRow.isConsumable, hsame]

end

end Steps

theorem SessionLedger.run (h : SessionLedger world)
    (hdraws : Runs.Along AuthWorld.step (fun world action => world.drawsNewFamily action)
      world history) : SessionLedger (world.run history) :=
  Runs.foldl_of_along (fun _ _ h hdraws => h.step hdraws) h hdraws

theorem Visits.run {id : TransactionId}
    (h : SessionLedger world) (hvisits : Visits world id familyId)
    (hdraws : Runs.Along AuthWorld.step (fun world action => world.drawsNewFamily action)
      world history) (hrotates : Runs.Along AuthWorld.step
      (fun world action => world.commitsRotation familyId action = false) world history) :
    Visits (world.run history) id familyId := by
  induction history generalizing world with
  | nil => exact hvisits
  | cons _ _ ih =>
    exact ih (h.step hdraws.1) (hvisits.step h hrotates.1) hdraws.2 hrotates.2

theorem Revoked.run (h : SessionLedger world) (hrevoked : Revoked world familyId)
    (hdraws : Runs.Along AuthWorld.step (fun world action => world.drawsNewFamily action)
      world history) : Revoked (world.run history) familyId := by
  induction history generalizing world with
  | nil => exact hrevoked
  | cons _ _ ih => exact ih (h.step hdraws.1) (hrevoked.step h) hdraws.2

/-- A logout starts after `before`, runs while the actions `during` happen, and
commits. If none of them commits a rotation of the family, the family is closed
after whatever happens later. -/
theorem logout_complete (now : DatabaseTime) {before during later : List AuthAction}
    {id : TransactionId} {familyId : FamilyId} {revoked : List (SessionId × DatabaseTime)}
    (hdraws : Runs.Along AuthWorld.step (fun world action => world.drawsNewFamily action)
      (AuthWorld.initial now) (before ++ (.logout id familyId :: during ++ .commit id :: later)))
    (hfamily : ((AuthWorld.initial now).run before).hasFamily familyId)
    (hstarts : ((AuthWorld.initial now).run before).work? id = none)
    (hvisited : (((AuthWorld.initial now).run before).run
      (.logout id familyId :: during)).work? id =
      some (.revoking familyId [] revoked))
    (hrotates : Runs.Along AuthWorld.step
      (fun world action => world.commitsRotation familyId action = false)
      ((AuthWorld.initial now).run before) (.logout id familyId :: during)) :
    ((AuthWorld.initial now).run
      (before ++
        (.logout id familyId :: during ++ .commit id :: later))).FamilyClosed familyId := by
  obtain ⟨hbefore, hrest⟩ := Runs.along_append_iff.mp hdraws
  obtain ⟨hduring, -, hlater⟩ := Runs.along_append_iff.mp hrest
  have hstart : SessionLedger ((AuthWorld.initial now).run before) :=
    SessionLedger.initial.run hbefore
  have hlisting : Visits ((AuthWorld.initial now).run before) id familyId :=
    ⟨hfamily, fun hwork => by simp [hstarts] at hwork⟩
  have hended := hstart.run hduring
  have hrevoked := (hlisting.run hstart hduring hrotates).revoked hended hvisited
  have hclosed := hrevoked.run hended.commitStep hlater
  have hreach := hended.commitStep.run hlater
  rw [AuthWorld.run, foldl_append, foldl_append]
  exact hclosed.familyClosed hreach

def loginWithTicket : List AuthAction :=
  [.logIn 1 ⟨1⟩ ⟨1⟩ ⟨⟨1⟩, ⟨1⟩⟩, .commit 1, .issueTicket 3 true ⟨1⟩ ⟨1⟩ ⟨9⟩]

/-- The update waits for a request that touches the session, and the ticket is
stored meanwhile. -/
def logoutDuringTouch : List AuthAction :=
  [.checkRotation 2, .touch 2, .commit 2, .commit 3, .revoke 4 ⟨1⟩]

theorem logout_complete_during_touch :
    ((AuthWorld.initial 0).run ((loginWithTicket ++ [.authenticate 2 ⟨1⟩, .lock 2]) ++
      (.logout 4 ⟨1⟩ :: logoutDuringTouch ++ .commit 4 :: []))).FamilyClosed ⟨1⟩ := by
  have hfamily : ((initial 0).run
      (loginWithTicket ++ [.authenticate 2 ⟨1⟩, .lock 2])).hasFamily ⟨1⟩ :=
    ⟨.insert ⟨1⟩ ⟨1⟩ ⟨⟨1⟩, ⟨1⟩⟩ 0, by decide +kernel, rfl⟩
  have hvisited : (((initial 0).run (loginWithTicket ++ [.authenticate 2 ⟨1⟩, .lock 2])).run
      (.logout 4 ⟨1⟩ :: logoutDuringTouch)).work? 4 = some (.revoking ⟨1⟩ [] [(⟨1⟩, 0)]) := by
    decide +kernel
  exact logout_complete 0 (by decide +kernel) hfamily (by decide +kernel) hvisited
    (by decide +kernel)

/-- A day after the login a request has inserted the successor of the session
when the logout starts; the update then waits for the rotation to commit. -/
def logoutDuringRotation : List AuthAction :=
  [.logIn 1 ⟨1⟩ ⟨1⟩ ⟨⟨1⟩, ⟨1⟩⟩, .commit 1, .elapse 86400000000, .authenticate 2 ⟨1⟩, .lock 2,
    .checkRotation 2, .insertSuccessor 2 ⟨⟨2⟩, ⟨2⟩⟩, .link 2, .logout 4 ⟨1⟩, .commit 2,
    .revoke 4 ⟨1⟩, .commit 4]

/-- The successor survives the logout: its token authenticates and gets a ticket
that can be consumed. -/
theorem rotated_session_survives_logout :
    ((AuthWorld.initial 0).run logoutDuringRotation).transactions = [] ∧
    ¬ ((AuthWorld.initial 0).run logoutDuringRotation).FamilyClosed ⟨1⟩ ∧
    (((AuthWorld.initial 0).run (logoutDuringRotation ++
      [.issueTicket 3 true ⟨2⟩ ⟨1⟩ ⟨9⟩, .commit 3, .consumeTicket 5 ⟨9⟩])).work? 5).isSome =
        true := by
  refine ⟨by decide +kernel, fun h => ?_, by decide +kernel⟩
  have htokens : ∀ row ∈ ((initial 0).run logoutDuringRotation).sessions,
      row.familyId = ⟨1⟩ → row.authenticates 86400000000 = false :=
    fun row hrow hmember => h.tokens row hrow hmember _
  revert htokens
  decide +kernel

end LiveRoute.Authentication
