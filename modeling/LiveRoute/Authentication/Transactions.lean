import LiveRoute.Authentication.Sessions

/-! The transactions on sessions and tickets, statement by statement, under read
committed. Each statement reads the rows committed when it starts; one that
writes a row waits until no other transaction holds it and then looks at the
row again. What a transaction has written is seen by others once it commits. -/
namespace LiveRoute.Authentication
open Domain Persistence

abbrev TransactionId := Nat

inductive Work where
  /-- The lookup of `AuthenticateSession` has found the row and waits for it. -/
  | selected (sessionId : SessionId)
  | locked (sessionId : SessionId)
  | touching (sessionId : SessionId)
  | rotating (sessionId : SessionId)
  | inserted (sessionId : SessionId) (successor : SessionRow)
  | ready (written : SessionRow)
  | linked (written successor : SessionRow) (linkedAt : DatabaseTime)
  | loggingIn (row : SessionRow)
  /-- The update of `Logout`, with the rows of its snapshot that it has still to
  visit and those that it has updated. -/
  | revoking (familyId : FamilyId) (remaining : List SessionId)
      (revoked : List (SessionId × DatabaseTime))
  | issuing (ticket : TicketRow)
  | consuming (ticketId : TicketId)
deriving DecidableEq

/-- The row that `AuthenticateSession` holds for update. -/
def Work.heldForUpdate : Work → Option SessionId
  | .locked sessionId | .touching sessionId | .rotating sessionId | .inserted sessionId _ =>
    some sessionId
  | .ready written | .linked written _ _ => some written.sessionId
  | _ => none

def Work.holds (work : Work) (sessionId : SessionId) : Bool :=
  match work with
  | .revoking _ _ revoked => revoked.any fun entry => decide (entry.1 = sessionId)
  | work => decide (work.heldForUpdate = some sessionId)

def Work.insertedRow : Work → Option SessionRow
  | .inserted _ successor | .linked _ successor _ => some successor
  | .loggingIn row => some row
  | _ => none

structure Transaction where
  id : TransactionId
  work : Work
deriving DecidableEq

/-- What happened to a session: an authenticated request, and its rotation. -/
inductive SessionEvent where
  | used (sessionId : SessionId) (time : DatabaseTime)
  | replaced (sessionId : SessionId) (time : DatabaseTime)
deriving DecidableEq

/-- The committed rows, the transactions in progress, the clock, and what has
happened to the sessions so far, newest first. -/
structure AuthWorld where
  sessions : List SessionRow
  tickets : List TicketRow
  transactions : List Transaction
  now : DatabaseTime
  log : List SessionEvent
deriving DecidableEq

inductive AuthAction where
  | elapse (duration : Nat)
  | logIn (id : TransactionId) (userId : UserId) (familyId : FamilyId) (draws : SessionDraws)
  | authenticate (id : TransactionId) (tokenDigest : TokenDigest)
  | lock (id : TransactionId)
  | checkRotation (id : TransactionId)
  | touch (id : TransactionId)
  | insertSuccessor (id : TransactionId) (draws : SessionDraws)
  | link (id : TransactionId)
  | logout (id : TransactionId) (familyId : FamilyId)
  | revoke (id : TransactionId) (sessionId : SessionId)
  | issueTicket (id : TransactionId) (canMint : Bool) (tokenDigest : TokenDigest)
      (ticketId : TicketId) (ticketDigest : TokenDigest)
  | consumeTicket (id : TransactionId) (ticketDigest : TokenDigest)
  | commit (id : TransactionId)
  | rollback (id : TransactionId)
deriving DecidableEq

namespace AuthWorld

def work? (world : AuthWorld) (id : TransactionId) : Option Work :=
  (world.transactions.find? fun transaction => decide (transaction.id = id)).map Transaction.work

def finish (world : AuthWorld) (id : TransactionId) : AuthWorld :=
  { world with
    transactions := world.transactions.filter fun transaction => !decide (transaction.id = id) }

def setWork (world : AuthWorld) (id : TransactionId) (work : Work) : AuthWorld :=
  { world.finish id with transactions := ⟨id, work⟩ :: (world.finish id).transactions }

def session? (world : AuthWorld) (sessionId : SessionId) : Option SessionRow :=
  world.sessions.find? fun row => decide (row.sessionId = sessionId)

def heldElsewhere (world : AuthWorld) (id : TransactionId) (sessionId : SessionId) : Bool :=
  world.transactions.any fun transaction =>
    !decide (transaction.id = id) && transaction.work.holds sessionId

def clashesStored (world : AuthWorld) (row : SessionRow) : Bool :=
  world.sessions.any fun stored => stored.clashes row

def clashesElsewhere (world : AuthWorld) (id : TransactionId) (row : SessionRow) : Bool :=
  world.transactions.any fun transaction =>
    !decide (transaction.id = id) && transaction.work.insertedRow.any fun other => other.clashes row

/-- The insert of a new session, which fails over a committed key and waits for
an uncommitted one. -/
def logIn (world : AuthWorld) (id : TransactionId) (row : SessionRow) : AuthWorld :=
  if (world.work? id).isSome || world.clashesStored row || world.clashesElsewhere id row then world
  else world.setWork id (.loggingIn row)

def authenticate (world : AuthWorld) (id : TransactionId) (tokenDigest : TokenDigest) : AuthWorld :=
  if (world.work? id).isSome then world
  else
    match world.sessions.find? fun row =>
        decide (row.tokenDigest = tokenDigest) && row.authenticates world.now with
    | none => world
    | some row => world.setWork id (.selected row.sessionId)

/-- The row is there for the transaction. PostgreSQL evaluates the condition
again when the row was updated in the meantime. The model always does: a session
that expires between the two steps, without an update, counts as expired. -/
def lock (world : AuthWorld) (id : TransactionId) : AuthWorld :=
  match world.work? id with
  | some (.selected sessionId) =>
    if world.heldElsewhere id sessionId then world
    else if (world.session? sessionId).any fun row => row.authenticates world.now then
      world.setWork id (.locked sessionId)
    else world.finish id
  | _ => world

def checkRotation (world : AuthWorld) (id : TransactionId) : AuthWorld :=
  match world.work? id with
  | some (.locked sessionId) =>
    match world.session? sessionId with
    | none => world.finish id
    | some row =>
      if row.replacement.isSome then world.setWork id (.ready row)
      else if row.shouldRotate world.now then world.setWork id (.rotating sessionId)
      else world.setWork id (.touching sessionId)
  | _ => world

def touch (world : AuthWorld) (id : TransactionId) : AuthWorld :=
  match world.work? id with
  | some (.touching sessionId) =>
    match (world.session? sessionId).bind fun row => row.touch world.now with
    | none => world.finish id
    | some touched => world.setWork id (.ready touched)
  | _ => world

def insertSuccessor (world : AuthWorld) (id : TransactionId) (draws : SessionDraws) : AuthWorld :=
  match world.work? id with
  | some (.rotating sessionId) =>
    match (world.session? sessionId).bind fun row => row.successor draws world.now with
    | none => world.finish id
    | some successor =>
      if world.clashesStored successor then world.finish id
      else if world.clashesElsewhere id successor then world
      else world.setWork id (.inserted sessionId successor)
  | _ => world

def link (world : AuthWorld) (id : TransactionId) : AuthWorld :=
  match world.work? id with
  | some (.inserted sessionId successor) =>
    match world.session? sessionId with
    | none => world.finish id
    | some row =>
      world.setWork id (.linked (row.link successor.sessionId world.now) successor world.now)
  | _ => world

/-- The update of `Logout` visits the rows of the family that are committed
when it starts. -/
def logout (world : AuthWorld) (id : TransactionId) (familyId : FamilyId) : AuthWorld :=
  if (world.work? id).isSome then world
  else
    world.setWork id (.revoking familyId ((world.sessions.filter fun row =>
      decide (row.familyId = familyId)).map SessionRow.sessionId) [])

def revoke (world : AuthWorld) (id : TransactionId) (sessionId : SessionId) : AuthWorld :=
  match world.work? id with
  | some (.revoking familyId remaining revoked) =>
    if remaining.contains sessionId && !world.heldElsewhere id sessionId then
      world.setWork id
        (.revoking familyId (remaining.filter fun other => !decide (other = sessionId))
        ((sessionId, world.now) :: revoked))
    else world
  | _ => world

def issueTicket (world : AuthWorld) (id : TransactionId) (canMint : Bool)
    (tokenDigest : TokenDigest) (ticketId : TicketId) (ticketDigest : TokenDigest) : AuthWorld :=
  if (world.work? id).isSome || !canMint then world
  else
    match world.sessions.find? fun row =>
        decide (row.tokenDigest = tokenDigest) && row.mintsTicket world.now with
    | none => world
    | some row => world.setWork id (.issuing (row.ticket ticketId ticketDigest world.now))

def consumeTicket (world : AuthWorld) (id : TransactionId) (ticketDigest : TokenDigest) :
    AuthWorld :=
  if (world.work? id).isSome then world
  else
    match world.tickets.find? fun ticket => decide (ticket.tokenDigest = ticketDigest) &&
        world.sessions.any fun session => ticket.isConsumable session world.now with
    | none => world
    | some ticket => world.setWork id (.consuming ticket.ticketId)

end AuthWorld

def putRow (written row : SessionRow) : SessionRow :=
  if row.sessionId = written.sessionId then written else row

def revokeListed (revoked : List (SessionId × DatabaseTime)) (row : SessionRow) : SessionRow :=
  (revoked.find? fun entry => decide (entry.1 = row.sessionId)).elim row fun entry =>
    row.revoke entry.2

def TicketRow.consume (ticketId : TicketId) (now : DatabaseTime) (ticket : TicketRow) : TicketRow :=
  if ticket.ticketId = ticketId ∧ ticket.consumedAt = none then
    { ticket with consumedAt := some now }
  else ticket

namespace AuthWorld

def ticketWaits (world : AuthWorld) (id : TransactionId) (ticket : TicketRow) : Bool :=
  world.transactions.any fun transaction => !decide (transaction.id = id) &&
    decide (transaction.work.heldForUpdate = some ticket.sessionId)

def ticketKeyTaken (world : AuthWorld) (ticket : TicketRow) : Bool :=
  world.tickets.any fun stored =>
    decide (stored.ticketId = ticket.ticketId) || decide (stored.tokenDigest = ticket.tokenDigest)

def commit (world : AuthWorld) (id : TransactionId) : AuthWorld :=
  match world.work? id with
  | some (.ready written) =>
    { world.finish id with
      sessions := world.sessions.map (putRow written)
      log := .used written.sessionId world.now :: world.log }
  | some (.linked written successor linkedAt) =>
    { world.finish id with
      sessions := world.sessions.map (putRow written) ++ [successor]
      log := .used written.sessionId world.now ::
        .replaced written.sessionId linkedAt :: world.log }
  | some (.loggingIn row) => { world.finish id with sessions := world.sessions ++ [row] }
  | some (.revoking _ [] revoked) =>
    { world.finish id with sessions := world.sessions.map (revokeListed revoked) }
  | some (.issuing ticket) =>
    if world.ticketWaits id ticket then world
    else if world.ticketKeyTaken ticket then world.finish id
    else { world.finish id with tickets := world.tickets ++ [ticket] }
  | some (.consuming ticketId) =>
    { world.finish id with tickets := world.tickets.map (TicketRow.consume ticketId world.now) }
  | _ => world

def step (world : AuthWorld) : AuthAction → AuthWorld
  | .elapse duration => { world with now := world.now + duration }
  | .logIn id userId familyId draws => world.logIn id (.insert userId familyId draws world.now)
  | .authenticate id tokenDigest => world.authenticate id tokenDigest
  | .lock id => world.lock id
  | .checkRotation id => world.checkRotation id
  | .touch id => world.touch id
  | .insertSuccessor id draws => world.insertSuccessor id draws
  | .link id => world.link id
  | .logout id familyId => world.logout id familyId
  | .revoke id sessionId => world.revoke id sessionId
  | .issueTicket id canMint tokenDigest ticketId ticketDigest =>
    world.issueTicket id canMint tokenDigest ticketId ticketDigest
  | .consumeTicket id ticketDigest => world.consumeTicket id ticketDigest
  | .commit id => world.commit id
  | .rollback id => world.finish id

def run (world : AuthWorld) (history : List AuthAction) : AuthWorld := history.foldl step world

def initial (now : DatabaseTime) : AuthWorld := ⟨[], [], [], now, []⟩

end AuthWorld

end LiveRoute.Authentication
