import Agroasys.Auth.Store

namespace Agroasys.Auth

open Agroasys.Foundation Agroasys.Runtime

/-- An asynchronous function of the service. It throws the message of an error. -/
abbrev Job (α : Type) := Task Effect Answer String α

def perform (effect : Effect) : Job (Answer effect) :=
  monadLift (Program.perform effect : Program Effect Answer (Answer effect))

def nowSeconds : Job Nat := do
  return (← perform .now) / 1000

section Stores

def lookup (sessionId : String) : Job (Option UserSession) := do
  match ← Task.ofExcept (← perform (.findSessionById sessionId)) with
  | none => return none
  | some row => return some (← Task.ofExcept (normalizeSessionRow row))

def findById (id : String) : Job (Option UserProfile) := do
  Task.ofExcept (← perform (.findProfileById id))

/-- `sessions.issue`; `insertSession` reads the clock a second time. -/
def issue (profile : UserProfile) (ttlSeconds : Int) : Job SessionIssueResult := do
  let sessionId ← perform .randomBytes
  let expiresAt := (← nowSeconds) + ttlSeconds
  let issuedAt ← nowSeconds
  Task.ofExcept (← perform (.insertSession sessionId profile issuedAt expiresAt))
  return ⟨sessionId, expiresAt⟩

def revokeSession (sessionId : String) : Job Unit := do
  let revokedAt ← nowSeconds
  Task.ofExcept (← perform (.revokeSession sessionId revokedAt))

/-- `profiles.upsert` lowers the address once more. -/
def upsert (walletAddress : String) (role : UserRole) (orgId : Option String) : Job UserProfile := do
  Task.ofExcept (← perform (.upsertProfile (toLowerCase walletAddress) role orgId))

end Stores

def defaultTtlSeconds : Int := 3600

def resolveActive (sessionId : String) : Job (Option UserSession) := do
  match ← lookup sessionId with
  | none => return none
  | some session =>
    if session.revokedAt ≠ none then return none
    else if session.expiresAt ≤ (← nowSeconds) then return none
    else return some session

def login (walletAddress : String) (role : UserRole) (orgId : Option String) (ttlSeconds : Option Int) :
    Job SessionIssueResult := do
  let normalized := toLowerCase walletAddress
  let profile ← upsert normalized role orgId
  if profile.active then issue profile (ttlSeconds.getD defaultTtlSeconds)
  else throw "User profile is deactivated"

def refresh (sessionId : String) (ttlSeconds : Option Int) : Job SessionIssueResult := do
  match ← resolveActive sessionId with
  | none => throw "Session is invalid, expired, or revoked"
  | some existing =>
    match ← findById existing.userId with
    | none => throw "User profile is inactive or not found"
    | some profile =>
      if profile.active then do
        let result ← issue profile (ttlSeconds.getD defaultTtlSeconds)
        revokeSession sessionId
        return result
      else throw "User profile is inactive or not found"

def revoke (sessionId : String) : Job Unit :=
  revokeSession sessionId

def resolve (sessionId : String) : Job (Option UserSession) :=
  resolveActive sessionId

/-- The methods of the service. -/
inductive Call where
  | login (walletAddress : String) (role : UserRole) (orgId : Option String) (ttlSeconds : Option Int)
  | refresh (sessionId : String) (ttlSeconds : Option Int)
  | revoke (sessionId : String)
  | resolve (sessionId : String)
  deriving DecidableEq

inductive Response where
  | issued (result : SessionIssueResult)
  | revoked
  | resolved (session : Option UserSession)
  deriving DecidableEq

def answerCall : Call → Job Response
  | .login walletAddress role orgId ttlSeconds => do
    return .issued (← login walletAddress role orgId ttlSeconds)
  | .refresh sessionId ttlSeconds => do
    return .issued (← refresh sessionId ttlSeconds)
  | .revoke sessionId => do
    revoke sessionId
    return .revoked
  | .resolve sessionId => do
    return .resolved (← resolve sessionId)

abbrev Result := Except String Response

/-- Any number of calls of the service over tables with any content. -/
def sessionServer : Server Call Effect Answer Result World where
  initial _ := True
  program call := (answerCall call).run
  serves := serve.serves
  drifts := World.Drifts

abbrev SessionPool := Pool Effect Answer Result World
abbrev SessionMove := Move Call Effect Answer
abbrev SessionEntry := Transition SessionPool SessionMove
abbrev SessionHistory := History SessionPool SessionMove

end Agroasys.Auth
