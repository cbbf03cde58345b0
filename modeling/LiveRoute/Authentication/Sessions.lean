import LiveRoute.Persistence.Leases

/-! Browser sessions and WebSocket tickets. A session is a row with four
deadlines; a rotation inserts a successor of the same family and keeps the old
row valid for a grace period. Each definition is one SQL statement on one row,
at the reading of the database clock that the statement makes. -/
namespace LiveRoute.Authentication
open Domain Persistence

structure SessionId where
  value : BitVec 128
deriving DecidableEq

structure FamilyId where
  value : BitVec 128
deriving DecidableEq

structure TicketId where
  value : BitVec 128
deriving DecidableEq

/-- The SHA-256 of an opaque token, which is all that the database stores of it. -/
structure TokenDigest where
  value : BitVec 256
deriving DecidableEq

def seconds (count : Int) : Int := count * 1000000

def sessionIdleLifetime : Int := seconds (7 * 24 * 3600)
def sessionAbsoluteLife : Int := seconds (30 * 24 * 3600)
def sessionRotationAge : Int := seconds (24 * 3600)
def predecessorGrace : Int := seconds 60
def idleTouchInterval : Int := seconds 300
def webSocketTicketLife : Int := seconds 60

/-- `replaced_by_session_id` and `predecessor_valid_until`, which are null together. -/
structure Replacement where
  sessionId : SessionId
  validUntil : DatabaseTime
deriving DecidableEq

/-- A row of `user_sessions` with the constraints of the table. -/
structure SessionRow where
  sessionId : SessionId
  familyId : FamilyId
  userId : UserId
  tokenDigest : TokenDigest
  (createdAt lastSeenAt idleExpiresAt absoluteExpiresAt rotateAfter : DatabaseTime)
  replacement : Option Replacement
  revokedAt : Option DatabaseTime
  seen : createdAt ≤ lastSeenAt ∧ lastSeenAt < idleExpiresAt
  expires : idleExpiresAt ≤ absoluteExpiresAt
  rotates : createdAt < rotateAfter ∧ rotateAfter ≤ absoluteExpiresAt
  replaces : ∀ found ∈ replacement, found.validUntil ≤ absoluteExpiresAt
deriving DecidableEq

/-- A row of `websocket_auth_tickets`. -/
structure TicketRow where
  ticketId : TicketId
  sessionId : SessionId
  userId : UserId
  tokenDigest : TokenDigest
  (createdAt expiresAt : DatabaseTime)
  consumedAt : Option DatabaseTime
deriving DecidableEq

/-- What `newAuthUUID` and `newOpaqueToken` have drawn for a new row. -/
structure SessionDraws where
  sessionId : SessionId
  tokenDigest : TokenDigest
deriving DecidableEq

namespace SessionRow

def insert (userId : UserId) (familyId : FamilyId) (draws : SessionDraws)
    (now : DatabaseTime) : SessionRow where
  sessionId := draws.sessionId
  familyId := familyId
  userId := userId
  tokenDigest := draws.tokenDigest
  createdAt := now
  lastSeenAt := now
  idleExpiresAt := now + sessionIdleLifetime
  absoluteExpiresAt := now + sessionAbsoluteLife
  rotateAfter := now + sessionRotationAge
  replacement := none
  revokedAt := none
  seen := ⟨Int.le_refl _, Int.lt_add_of_pos_right _ (by decide)⟩
  expires := Int.add_le_add_left (by decide) _
  rotates := ⟨Int.lt_add_of_pos_right _ (by decide), Int.add_le_add_left (by decide) _⟩
  replaces := by simp

/-- The condition under which `AuthenticateSession` finds the session. -/
def authenticates (row : SessionRow) (now : DatabaseTime) : Bool :=
  row.revokedAt.isNone && decide (now < row.absoluteExpiresAt) &&
    (decide (now < row.idleExpiresAt) ||
      row.replacement.any fun found => decide (now < found.validUntil))

def shouldRotate (row : SessionRow) (now : DatabaseTime) : Bool := decide (row.rotateAfter ≤ now)

def touch (row : SessionRow) (now : DatabaseTime) : Option SessionRow :=
  let lastSeenAt :=
    if idleTouchInterval ≤ now - row.lastSeenAt then min now row.idleExpiresAt else row.lastSeenAt
  if seen : row.createdAt ≤ lastSeenAt ∧ lastSeenAt < row.idleExpiresAt then
    some { row with lastSeenAt := lastSeenAt, seen := seen }
  else none

/-- The successor that a rotation inserts, unless the absolute expiry has
passed since the lookup. -/
def successor (row : SessionRow) (draws : SessionDraws) (now : DatabaseTime) : Option SessionRow :=
  if alive : now < row.absoluteExpiresAt then
    some
      { sessionId := draws.sessionId, familyId := row.familyId, userId := row.userId
        tokenDigest := draws.tokenDigest, createdAt := now, lastSeenAt := now
        idleExpiresAt := min (now + sessionIdleLifetime) row.absoluteExpiresAt
        absoluteExpiresAt := row.absoluteExpiresAt
        rotateAfter := min (now + sessionRotationAge) row.absoluteExpiresAt, replacement := none
        revokedAt := none
        seen := ⟨Int.le_refl _, lt_min (Int.lt_add_of_pos_right _ (by decide)) alive⟩
        expires := min_le_right _ _
        rotates := ⟨lt_min (Int.lt_add_of_pos_right _ (by decide)) alive, min_le_right _ _⟩
        replaces := by simp }
  else none

def link (row : SessionRow) (successorId : SessionId) (now : DatabaseTime) : SessionRow :=
  { row with
    replacement := some ⟨successorId, min (now + predecessorGrace) row.absoluteExpiresAt⟩
    replaces := by simp }

def revoke (row : SessionRow) (now : DatabaseTime) : SessionRow :=
  { row with revokedAt := some (row.revokedAt.getD now) }

/-- The condition under which the session gets a ticket. -/
def mintsTicket (row : SessionRow) (now : DatabaseTime) : Bool :=
  row.revokedAt.isNone && row.replacement.isNone && decide (now < row.idleExpiresAt) &&
    decide (now < row.absoluteExpiresAt)

def ticket (row : SessionRow) (ticketId : TicketId) (tokenDigest : TokenDigest)
    (now : DatabaseTime) : TicketRow :=
  ⟨ticketId, row.sessionId, row.userId, tokenDigest, now, now + webSocketTicketLife, none⟩

def isLive (row : SessionRow) : Bool := row.revokedAt.isNone && row.replacement.isNone

def clashes (row other : SessionRow) : Bool :=
  decide (row.sessionId = other.sessionId) || decide (row.tokenDigest = other.tokenDigest)

end SessionRow

/-- The condition under which `AuthenticateWebSocket` consumes a ticket. -/
def TicketRow.isConsumable (ticket : TicketRow) (session : SessionRow) (now : DatabaseTime) :
    Bool :=
  ticket.consumedAt.isNone && decide (now < ticket.expiresAt) &&
    decide (session.sessionId = ticket.sessionId) && decide (session.userId = ticket.userId) &&
    session.mintsTicket now

end LiveRoute.Authentication
