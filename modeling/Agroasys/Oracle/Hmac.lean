import Agroasys.Foundation.Faults
import Agroasys.Foundation.Leases
import Agroasys.Runtime.Number

/-! `authMiddleware` and `hmacMiddleware` over the nonce table. Times are milliseconds. -/

namespace Agroasys.Oracle

open Agroasys.Foundation Agroasys.Runtime

/-- What `loadConfig` accepts of the values the middleware reads. -/
structure HmacConfig where
  apiKey : String
  hmacSecret : String
  hmacNonceTtlSeconds : Nat
  apiKeyGiven : apiKey ≠ ""
  hmacSecretGiven : hmacSecret ≠ ""
  ttlBounds : 60 ≤ hmacNonceTtlSeconds ∧ hmacNonceTtlSeconds ≤ 3600

/-- The digests of Node's crypto, as hexadecimal text. -/
structure Digests where
  hmacSha256 : String → String → String
  sha256 : String → String

/-- The headers and the body of a request; `body` is `JSON.stringify(req.body)`. -/
structure SignedRequest where
  authorization : Option String
  timestamp : Option String
  signature : Option String
  nonce : Option String
  body : Option String
  deriving DecidableEq

inductive HmacError where
  | timestampTooOld (ageMs : Int)
  | timestampInFuture
  | invalidSignature
  /-- `timingSafeEqual` on buffers of different lengths. -/
  | unequalLengths
  | nonceStore (message : String)
  deriving DecidableEq

/-- The status, error and message of an answer. -/
structure AuthRefusal where
  status : Nat
  error : String
  message : String
  deriving DecidableEq

/-- What becomes of a request. -/
inductive Verdict where
  | next (signature nonce : String)
  | reply (refusal : AuthRefusal)
  deriving DecidableEq

section Verification

variable (digests : Digests)

def generateRequestHash (timestamp : String) (body : Option String) (secret : String) : String :=
  digests.hmacSha256 secret (timestamp ++ body.getD "undefined")

def deriveRequestNonce (timestamp : String) (body : Option String) (signature : String) : String :=
  digests.sha256 (":".intercalate [timestamp, body.getD "", signature])

def maxAgeMs : Int := 5 * 60000
def maxSkewMs : Int := 60000

/-- The age of a request. It is NaN, and passes both comparisons, if the timestamp is no date. -/
def checkAge (now : Nat) (timestamp : String) : Except HmacError Unit :=
  match dateTime (parseInt timestamp) with
  | none => .ok ()
  | some requestTime =>
    if now - requestTime > maxAgeMs then .error (.timestampTooOld (now - requestTime))
    else if now - requestTime < -maxSkewMs then .error .timestampInFuture
    else .ok ()

def checkSignature (timestamp : String) (body : Option String) (signature secret : String) :
    Except HmacError Unit :=
  let expectedHash := generateRequestHash digests timestamp body secret
  if signature.length ≠ expectedHash.length then .error .invalidSignature
  else
    let given := decodeHex signature.toList
    let expected := decodeHex expectedHash.toList
    if given.length ≠ expected.length then .error .unequalLengths
    else if given = expected then .ok () else .error .invalidSignature

def verifyRequestSignature (now : Nat) (timestamp : String) (body : Option String)
    (signature secret : String) : Except HmacError Unit := do
  checkAge now timestamp
  checkSignature digests timestamp body signature secret

/-- `providedNonce || deriveRequestNonce(...)`. -/
def requestNonce (nonce : Option String) (timestamp : String) (body : Option String) (signature : String) :
    String :=
  match (nonce.map trim).filter (· ≠ "") with
  | some provided => provided
  | none => deriveRequestNonce digests timestamp body signature

end Verification

def unauthorized (message : String) : AuthRefusal := ⟨401, "Unauthorized", message⟩

def storeUnavailable : AuthRefusal :=
  ⟨503, "ServiceUnavailable", "Authentication nonce store unavailable"⟩

/-- The answer to an error: 401 if its message is about the timestamp or the signature. -/
def HmacError.refusal : HmacError → AuthRefusal
  | .timestampTooOld _ => unauthorized "Request timestamp too old"
  | .timestampInFuture => unauthorized "Request timestamp is in the future"
  | .invalidSignature => unauthorized "Invalid HMAC signature"
  | .unequalLengths | .nonceStore _ => storeUnavailable

/-- `authMiddleware`. -/
def authorize (config : HmacConfig) (request : SignedRequest) : Except AuthRefusal String :=
  match (request.authorization.bind (afterPrefix "Bearer ")).filter (· ≠ "") with
  | none => .error (unauthorized "Missing authorization header")
  | some token => if token = config.apiKey then .ok token else .error (unauthorized "Invalid API key")

/-- The timestamp and the signature, and the nonce to consume for them. -/
def readSigned (config : HmacConfig) (digests : Digests) (now : Nat) (request : SignedRequest) :
    Except AuthRefusal (String × String) :=
  match request.timestamp.filter (· ≠ ""), request.signature.filter (· ≠ "") with
  | some timestamp, some signature =>
    match verifyRequestSignature digests now timestamp request.body signature config.hmacSecret with
    | .error error => .error error.refusal
    | .ok () =>
      let nonce := requestNonce digests request.nonce timestamp request.body signature
      if nonce = "" ∨ 255 < nonce.length then .error (unauthorized "Invalid X-Nonce header")
      else .ok (signature, nonce)
  | _, _ => .error (unauthorized "Missing X-Timestamp or X-Signature headers")

/-- A row of `oracle_hmac_nonces`. -/
abbrev NonceRow := Lease (String × String)

/-- `consumeHmacNonce`: one statement. Postgres does not say which of its two parts, the
deletion and the insert, runs first. -/
def consumeHmacNonce (pruneFirst : Bool) (now : Nat) (apiKey nonce : String) (ttlSeconds : Nat)
    (rows : List NonceRow) : Bool × List NonceRow :=
  takeLease pruneFirst now ⟨(apiKey, nonce), now + ttlSeconds * 1000⟩ rows

/-- What follows the answer of the nonce table. -/
def afterNonce (signature nonce : String) : Except HmacError Bool → Verdict
  | .ok true => .next signature nonce
  | .ok false => .reply (unauthorized "Replay detected for nonce")
  | .error error => .reply error.refusal

/-- A request, the time it arrives and how the statement goes. -/
structure Presentation where
  request : SignedRequest
  now : Nat
  pruneFirst : Bool
  fate : Fate

/-- Both middlewares, one after the other. -/
def hmacMiddleware (config : HmacConfig) (digests : Digests) (presentation : Presentation)
    (rows : List NonceRow) : Verdict × List NonceRow :=
  match authorize config presentation.request with
  | .error refusal => (.reply refusal, rows)
  | .ok apiKeyToken =>
    match readSigned config digests presentation.now presentation.request with
    | .error refusal => (.reply refusal, rows)
    | .ok (signature, nonce) =>
      let statement := consumeHmacNonce presentation.pruneFirst presentation.now apiKeyToken nonce
        config.hmacNonceTtlSeconds rows
      let unreachable := HmacError.nonceStore "Connection terminated unexpectedly"
      let (nonceAccepted, rows) := presentation.fate.execute unreachable (.ok statement) rows
      (afterNonce signature nonce nonceAccepted, rows)

/-- The nonce table and the time of the last request. -/
structure NonceState where
  rows : List NonceRow
  clock : Nat

/-- Requests one after the other, at times that do not decrease. -/
def hmacGate (config : HmacConfig) (digests : Digests) : System NonceState Presentation where
  initial _ := True
  step state presentation next := state.clock ≤ presentation.now ∧
    next = ⟨(hmacMiddleware config digests presentation state.rows).2, presentation.now⟩

abbrev GateEntry := Transition NonceState Presentation
abbrev GateHistory := History NonceState Presentation

end Agroasys.Oracle
