import Agroasys.Auth.SessionService

namespace Agroasys.Auth

open Agroasys.Foundation Agroasys.Runtime

def challengeTtlSeconds : Nat := 300

/-- `VALID_ROLES`. -/
def validRoles : List UserRole := [.buyer, .supplier, .admin]

/-- The valid role a request names. -/
def validRole (name : String) : Option UserRole :=
  validRoles.find? fun role => role.value = name

/-- `buildChallengeMessage`. -/
def buildChallengeMessage (wallet nonce : String) : String :=
  s!"Sign in to Agroasys\nWallet: {wallet}\nNonce: {nonce}"

/-- What `GET /session` tells of a session. -/
structure SessionView where
  userId : String
  walletAddress : String
  role : UserRole
  issuedAt : Nat
  expiresAt : Nat
  deriving DecidableEq

def UserSession.view (session : UserSession) : SessionView :=
  ⟨session.userId, session.walletAddress, session.role, session.issuedAt, session.expiresAt⟩

/-- The `data` of an answer, or its error and message. -/
inductive Body where
  | challenge (message : String) (expiresIn : Nat)
  | issued (result : SessionIssueResult)
  | revoked
  | session (view : SessionView)
  | failure (error message : String)
  deriving DecidableEq

structure HttpResponse where
  status : Nat
  body : Body
  deriving DecidableEq

def badRequest (message : String) : HttpResponse := ⟨400, .failure "BadRequest" message⟩
def unauthorized (message : String) : HttpResponse := ⟨401, .failure "Unauthorized" message⟩
def forbidden (message : String) : HttpResponse := ⟨403, .failure "Forbidden" message⟩

/-- The error handler of the app. -/
def internalServerError : HttpResponse :=
  ⟨500, .failure "InternalServerError" "An unexpected error occurred"⟩

def getChallenge (wallet : Option String) : Job HttpResponse := do
  match wallet.map toLowerCase with
  | none => return badRequest "Valid wallet address required (?wallet=0x...)"
  | some wallet =>
    if walletRegex wallet then do
      let nonce ← perform .randomBytes
      perform (.setChallenge wallet nonce challengeTtlSeconds)
      return ⟨200, .challenge (buildChallengeMessage wallet nonce) challengeTtlSeconds⟩
    else return badRequest "Valid wallet address required (?wallet=0x...)"

section Login

-- `verifyMessage` of ethers: the address a signature of a message recovers to, or
-- nothing where it throws.
variable (verifyMessage : String → String → Option String)

def roleRequired : String :=
  let roles := ", ".intercalate (validRoles.map UserRole.value)
  s!"role must be one of: {roles}"

/-- The part of a login body that names who asks for which role, or the refusal. -/
def readLogin (body : LoginBody) : Except HttpResponse (String × String × UserRole) :=
  match body.walletAddress.filter walletRegex with
  | none => .error (badRequest "Valid walletAddress is required")
  | some walletAddress =>
    match body.signature.filter (· ≠ "") with
    | none => .error (badRequest "signature is required — call GET /challenge first")
    | some signature =>
      match body.role.bind validRole with
      | none => .error (badRequest roleRequired)
      | some role => .ok (walletAddress, signature, role)

/-- Whether a signature of the challenge is the wallet's, or the refusal. -/
def checkSignature (wallet nonce signature : String) : Except HttpResponse Unit :=
  match verifyMessage (buildChallengeMessage wallet nonce) signature with
  | none => .error (unauthorized "Invalid signature format")
  | some recovered =>
    if toLowerCase recovered = wallet then .ok () else .error (unauthorized "Signature verification failed")

/-- `Math.max(1, Math.min(ttlSeconds, this.maxSessionTtlSeconds))`, if a lifetime is given. -/
def safeTtl (maxSessionTtlSeconds : Int) (ttlSeconds : Option Int) : Option Int :=
  ttlSeconds.map fun ttl => max 1 (min ttl maxSessionTtlSeconds)

def postLogin (maxSessionTtlSeconds : Int) (body : LoginBody) : Job HttpResponse := do
  match readLogin body with
  | .error refusal => return refusal
  | .ok (walletAddress, signature, role) =>
    let wallet := toLowerCase walletAddress
    match ← perform (.getChallenge wallet) with
    | none => return unauthorized "No active challenge for this wallet. Call GET /challenge first."
    | some nonce =>
      match checkSignature verifyMessage wallet nonce signature with
      | .error refusal => return refusal
      | .ok () =>
        perform (.deleteChallenge wallet)
        let ttlSeconds := safeTtl maxSessionTtlSeconds body.ttlSeconds
        tryCatch (do return ⟨201, .issued (← login wallet role body.orgId ttlSeconds)⟩) fun message =>
          return forbidden message

end Login

/-- The token of an `Authorization` header. -/
def readBearer (authorization : Option String) : Except HttpResponse String :=
  match authorization.bind (afterPrefix "Bearer ") with
  | none => .error (unauthorized "Missing or malformed Authorization header")
  | some rest =>
    if trim rest = "" then .error (unauthorized "Empty session token") else .ok (trim rest)

/-- `createSessionMiddleware`, with the handler that follows it. An error while
resolving counts as no session. -/
def withSession (authorization : Option String) (handler : UserSession → Job HttpResponse) :
    Job HttpResponse := do
  match readBearer authorization with
  | .error refusal => return refusal
  | .ok sessionId =>
    match ← tryCatch (resolve sessionId) (fun _ => return none) with
    | none => return unauthorized "Session invalid, expired, or revoked"
    | some session => handler session

def getSession (authorization : Option String) : Job HttpResponse :=
  withSession authorization fun session => return ⟨200, .session session.view⟩

def postRefresh (authorization : Option String) : Job HttpResponse :=
  withSession authorization fun session =>
    tryCatch (do return ⟨200, .issued (← refresh session.sessionId none)⟩) fun message =>
      return unauthorized message

def postRevoke (authorization : Option String) : Job HttpResponse :=
  withSession authorization fun session => do
    revoke session.sessionId
    return ⟨200, .revoked⟩

/-- The requests of the routes. -/
inductive Request where
  | getChallenge (wallet : Option String)
  | postLogin (body : LoginBody)
  | getSession (authorization : Option String)
  | postRefresh (authorization : Option String)
  | postRevoke (authorization : Option String)
  deriving DecidableEq

structure AppSettings where
  maxSessionTtlSeconds : Int
  verifyMessage : String → String → Option String

def handle (settings : AppSettings) : Request → Job HttpResponse
  | .getChallenge wallet => getChallenge wallet
  | .postLogin body => postLogin settings.verifyMessage settings.maxSessionTtlSeconds body
  | .getSession authorization => getSession authorization
  | .postRefresh authorization => postRefresh authorization
  | .postRevoke authorization => postRevoke authorization

/-- An uncaught error goes to the error handler. -/
def respond (settings : AppSettings) (request : Request) : Job HttpResponse :=
  tryCatch (handle settings request) fun _ => return internalServerError

/-- The service as its routes expose it. -/
def app (settings : AppSettings) : Server Request Effect Answer (Except String HttpResponse) World where
  initial _ := True
  program request := (respond settings request).run
  serves := serve.serves
  drifts := World.Drifts

abbrev AppPool := Pool Effect Answer (Except String HttpResponse) World
abbrev AppEntry := Transition AppPool (Move Request Effect Answer)
abbrev AppHistory := History AppPool (Move Request Effect Answer)

end Agroasys.Auth
