import MiGate.Go.Rfc3339
import MiGate.Relational.Serial

namespace MiGate.Db

open Go Relational

/-- A row of `token_blacklist`, which tracks the live sessions as well as the revoked ones. -/
structure BlacklistedSession where
  id : Int
  tokenHash : String
  createdAt : String
  lastUsed : String
  expiresAt : String
  revoked : Bool
deriving DecidableEq, Repr, Inhabited

abbrev Sessions := Serial BlacklistedSession.id

def touchSession (lastUsed : String) (session : BlacklistedSession) : BlacklistedSession :=
  { session with lastUsed }

@[simp] theorem touchSession_id (lastUsed : String) (session : BlacklistedSession) :
    (touchSession lastUsed session).id = session.id := rfl

@[simp] theorem touchSession_tokenHash (lastUsed : String) (session : BlacklistedSession) :
    (touchSession lastUsed session).tokenHash = session.tokenHash := rfl

@[simp] theorem touchSession_expiresAt (lastUsed : String) (session : BlacklistedSession) :
    (touchSession lastUsed session).expiresAt = session.expiresAt := rfl

@[simp] theorem touchSession_revoked (lastUsed : String) (session : BlacklistedSession) :
    (touchSession lastUsed session).revoked = session.revoked := rfl

def setRevoked (revoked : Bool) (session : BlacklistedSession) : BlacklistedSession :=
  { session with revoked }

@[simp] theorem setRevoked_id (revoked : Bool) (session : BlacklistedSession) :
    (setRevoked revoked session).id = session.id := rfl

@[simp] theorem setRevoked_tokenHash (revoked : Bool) (session : BlacklistedSession) :
    (setRevoked revoked session).tokenHash = session.tokenHash := rfl

@[simp] theorem setRevoked_expiresAt (revoked : Bool) (session : BlacklistedSession) :
    (setRevoked revoked session).expiresAt = session.expiresAt := rfl

@[simp] theorem setRevoked_revoked (revoked : Bool) (session : BlacklistedSession) :
    (setRevoked revoked session).revoked = revoked := rfl

/-- What `ON CONFLICT(token_hash)` changes: `expires_at` stays. -/
def remarkSession (revoked : Bool) (lastUsed : String) (session : BlacklistedSession) : BlacklistedSession :=
  setRevoked revoked (touchSession lastUsed session)

@[simp] theorem remarkSession_id (revoked : Bool) (lastUsed : String) (session : BlacklistedSession) :
    (remarkSession revoked lastUsed session).id = session.id := rfl

@[simp] theorem remarkSession_tokenHash (revoked : Bool) (lastUsed : String) (session : BlacklistedSession) :
    (remarkSession revoked lastUsed session).tokenHash = session.tokenHash := rfl

@[simp] theorem remarkSession_expiresAt (revoked : Bool) (lastUsed : String) (session : BlacklistedSession) :
    (remarkSession revoked lastUsed session).expiresAt = session.expiresAt := rfl

@[simp] theorem remarkSession_revoked (revoked : Bool) (lastUsed : String) (session : BlacklistedSession) :
    (remarkSession revoked lastUsed session).revoked = revoked := rfl

def newSession (now : Int) (tokenHash : String) (expiresAt : Int) (revoked : Bool) (id : Int) :
    BlacklistedSession where
  id := id
  tokenHash := tokenHash
  createdAt := rfc3339 now
  lastUsed := rfc3339 now
  expiresAt := rfc3339 expiresAt
  revoked := revoked

@[simp] theorem newSession_id (now : Int) (tokenHash : String) (expiresAt : Int) (revoked : Bool) (id : Int) :
    (newSession now tokenHash expiresAt revoked id).id = id := rfl

def addToBlacklist (now : Int) (tokenHash : String) (expiresAt : Int) (revoked : Bool) (sessions : Sessions) :
    Sessions :=
  if sessions.rows.any fun session => session.tokenHash = tokenHash then
    sessions.modifyWhere (fun session => session.tokenHash = tokenHash)
      (remarkSession revoked (rfc3339 now)) (remarkSession_id revoked (rfc3339 now))
  else sessions.insert (newSession now tokenHash expiresAt revoked) (newSession_id now tokenHash expiresAt revoked)

def isBlacklisted (now : Int) (tokenHash : String) (sessions : Sessions) : Bool :=
  (sessions.rows.find? fun session =>
    session.tokenHash = tokenHash && rfc3339 now < session.expiresAt).any (·.revoked)

/-- `RecordSessionTouchAfter`, at the time it reads and with the time before which a touch is old. -/
def recordSessionTouchAfter (now minAge : Int) (tokenHash : String) (sessions : Sessions) : Sessions :=
  sessions.modifyWhere
    (fun session => session.tokenHash = tokenHash && session.lastUsed < rfc3339 (now - minAge))
    (touchSession (rfc3339 now)) (touchSession_id (rfc3339 now))

def cleanupExpiredSessions (now : Int) (sessions : Sessions) : Sessions :=
  sessions.deleteWhere fun session => session.expiresAt < rfc3339 now

/-- `WHERE revoked=0 AND expires_at > ? ORDER BY id DESC`. -/
def liveSessions (now : Int) (sessions : Sessions) : List BlacklistedSession :=
  (sessions.rows.filter fun session => !session.revoked && rfc3339 now < session.expiresAt).reverse

/-- `PruneActiveSessions`; it reads the clock once for the cleanup and once for the update. -/
def pruneActiveSessions (cleanedAt now : Int) (maxActive : Nat) (sessions : Sessions) : Sessions :=
  let sessions := cleanupExpiredSessions cleanedAt sessions
  let excess := ((liveSessions now sessions).drop maxActive).map (·.id)
  sessions.modifyWhere (fun session => session.id ∈ excess) (setRevoked true) (setRevoked_id true)

def revokeOtherSessions (now : Int) (currentTokenHash : String) (sessions : Sessions) : Sessions :=
  sessions.modifyWhere
    (fun session => !session.revoked && session.tokenHash ≠ currentTokenHash && rfc3339 now < session.expiresAt)
    (setRevoked true) (setRevoked_id true)

/-- `ListActiveSessions`, which deletes the expired rows before it reads. -/
def listActiveSessions (cleanedAt now : Int) (sessions : Sessions) : Sessions × List BlacklistedSession :=
  let sessions := cleanupExpiredSessions cleanedAt sessions
  (sessions, liveSessions now sessions)

def revokeSession (id : Int) (sessions : Sessions) : Except String Sessions :=
  if sessions.rows.any fun session => session.id = id && !session.revoked then
    .ok (sessions.modifyWhere (fun session => session.id = id && !session.revoked)
      (setRevoked true) (setRevoked_id true))
  else .error s!"active session not found: {id}"

end MiGate.Db
