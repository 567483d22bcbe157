import Agroasys.Foundation.Leases
import Agroasys.Foundation.Outcomes
import Agroasys.Runtime.Json
import Agroasys.Runtime.Number

/-! `createServiceAuthMiddleware`, and what `loadConfig` gives it. Times are milliseconds. -/

namespace Agroasys.ServiceAuth

open Agroasys.Foundation Agroasys.Runtime

def apiKeyMaxLength : Nat := 128
def nonceMaxLength : Nat := 255
def sharedHmacKeyId : String := "__shared_hmac__"

section Configuration

/-- An entry of `API_KEYS_JSON`. -/
structure ServiceApiKey where
  id : String
  secret : String
  active : Bool
  idTrimmed : trim id = id
  idGiven : id ≠ ""
  idLength : utf16Length id ≤ apiKeyMaxLength
  secretGiven : secret ≠ ""

def parseActiveFlag (rawActive : Option Json) (index : Nat) : Except String Bool :=
  match rawActive with
  | some (.boolean active) => .ok active
  | _ => .error ("API_KEYS_JSON[" ++ toString index ++ "].active must be a boolean true or false")

def parseServiceApiKey (index : Nat) (entry : Json) : Except String ServiceApiKey :=
  if Json.isObject (some entry) = true then do
    let id := Json.trimmed (entry.member "id")
    let secret := Json.trimmed (entry.member "secret")
    let active ← parseActiveFlag (entry.member "active") index
    if idMissing : id = "" then .error "API_KEYS_JSON[].id is required"
    else if idLong : utf16Length id > apiKeyMaxLength then
      .error ("API_KEYS_JSON[" ++ toString index ++ "].id must be <= " ++ toString apiKeyMaxLength ++ " characters")
    else if secretMissing : secret = "" then
      .error ("API_KEYS_JSON[" ++ toString index ++ "].secret is required")
    else .ok ⟨id, secret, active, Json.trimmed_once _, idMissing, Nat.not_lt.mp idLong, secretMissing⟩
  else .error ("API_KEYS_JSON[" ++ toString index ++ "] must be an object")

/-- The variable is unset, no JSON, or what `JSON.parse` makes of it. -/
inductive ApiKeysJson where
  | blank
  | malformed
  | parsed (value : Json)

def parseServiceApiKeys : ApiKeysJson → Except String (List ServiceApiKey)
  | .blank => .ok []
  | .malformed => .error "API_KEYS_JSON must be valid JSON"
  | .parsed (.array entries) => (entries.zipIdx).mapM fun entry => parseServiceApiKey entry.2 entry.1
  | .parsed _ => .error "API_KEYS_JSON must be an array"

/-- What the middleware is given of a configuration that `loadConfig` accepts with `AUTH_ENABLED`. -/
structure ServiceAuthConfig where
  apiKeys : List ServiceApiKey
  hmacSecret : Option String
  authMaxSkewSeconds : Nat
  nonceTtlSeconds : Nat
  credentials : apiKeys ≠ [] ∨ (hmacSecret.any (· ≠ "")) = true
  skewPositive : 0 < authMaxSkewSeconds
  ttlPositive : 0 < nonceTtlSeconds

/-- The variables that the middleware's options come from. -/
structure Environment where
  apiKeysJson : ApiKeysJson
  hmacSecret : Option String
  authMaxSkewSeconds : Option String
  authNonceTtlSeconds : Option String
  nonceTtlSeconds : Option String

def envNumber (name : String) (raw : Option String) (fallback : Int) : Except String Int :=
  match raw.filter (· ≠ "") with
  | none => .ok fallback
  | some value =>
    match parseDecimal value with
    | none => .error (name ++ " must be a number")
    | some parsed => .ok parsed

/-- `loadConfig` with `AUTH_ENABLED=true`, as far as the middleware reads it. -/
def loadConfig (env : Environment) : Except String ServiceAuthConfig := do
  let apiKeys ← parseServiceApiKeys env.apiKeysJson
  let hmacSecret := env.hmacSecret.map trim
  let authNonceTtlSeconds ← envNumber "AUTH_NONCE_TTL_SECONDS" env.authNonceTtlSeconds 600
  let nonceTtlSeconds ← envNumber "NONCE_TTL_SECONDS" env.nonceTtlSeconds authNonceTtlSeconds
  if credentials : apiKeys ≠ [] ∨ (hmacSecret.any (· ≠ "")) = true then do
    let authMaxSkewSeconds ← envNumber "AUTH_MAX_SKEW_SECONDS" env.authMaxSkewSeconds 300
    if skewPositive : 0 < authMaxSkewSeconds then
      if authNonceTtlSeconds ≤ 0 then .error "AUTH_NONCE_TTL_SECONDS must be > 0"
      else if ttlPositive : 0 < nonceTtlSeconds then
        .ok ⟨apiKeys, hmacSecret, authMaxSkewSeconds.toNat, nonceTtlSeconds.toNat, credentials, by omega, by omega⟩
      else .error "NONCE_TTL_SECONDS must be > 0"
    else .error "AUTH_MAX_SKEW_SECONDS must be > 0"
  else .error "AUTH_ENABLED=true requires either API_KEYS_JSON entries or HMAC_SECRET"

/-- `apiKeysById.get`: of two entries with one id the later counts. -/
def ServiceAuthConfig.lookupApiKey (config : ServiceAuthConfig) (apiKey : String) : Option ServiceApiKey :=
  config.apiKeys.reverse.find? (·.id = apiKey)

end Configuration

section Requests

structure Request where
  method : String
  originalUrl : String
  rawBody : Option ByteArray
  header : String → Option String

/-- A digest in hexadecimal. -/
structure HexDigest (text : String) : Prop where
  length : text.toList.length = 64
  digits : ∀ char ∈ text.toList, char.isDigit = true ∨ ('a' ≤ char ∧ char ≤ 'f')

/-- The digests of Node's crypto, in hexadecimal. -/
structure Crypto where
  sha256 : ByteArray → String
  hmacSha256 : String → String → String
  sha256Hex : ∀ message, HexDigest (sha256 message)
  hmacHex : ∀ secret message, HexDigest (hmacSha256 secret message)

structure AuthError where
  status : Nat
  code : String
  error : String
  deriving DecidableEq

def unauthorized (code message : String) : AuthError := ⟨401, code, message⟩

def forbidden (message : String) : AuthError := ⟨403, "AUTH_FORBIDDEN", message⟩

def unavailable : AuthError := ⟨503, "AUTH_UNAVAILABLE", "Authentication service unavailable"⟩

variable (crypto : Crypto)

def bodyHash (rawBody : Option ByteArray) : String := crypto.sha256 (rawBody.getD ByteArray.empty)

/-- The path and the query of a request. -/
def requestPathAndQuery (req : Request) : String × String :=
  match req.originalUrl.toList.span (· ≠ '?') with
  | (path, _ :: query) => (String.ofList path, String.ofList query)
  | (_, []) => (req.originalUrl, "")

/-- The first of these headers that is not blank. -/
def firstHeader (req : Request) : List String → Option String
  | [] => none
  | headerName :: headerNames =>
    match req.header headerName with
    | some value => if value ≠ "" ∧ trim value ≠ "" then some (trim value) else firstHeader req headerNames
    | none => firstHeader req headerNames

/-- `/^[a-f0-9]{64}$/i`. -/
def isSignatureHex (text : String) : Bool :=
  text.toList.length = 64 && text.toList.all fun char => (hexValue char).isSome

def timingSafeHexEquals (a b : String) : Bool :=
  let normalizedA := toLowerCase (trim a)
  let normalizedB := toLowerCase (trim b)
  if !isSignatureHex normalizedA || !isSignatureHex normalizedB then false
  else
    let aBuffer := decodeHex normalizedA.toList
    let bBuffer := decodeHex normalizedB.toList
    if aBuffer.length ≠ bBuffer.length then false else aBuffer = bBuffer

inductive Scheme where
  | apiKey
  | sharedSecret
  deriving DecidableEq

structure Principal where
  id : String
  secret : String
  active : Bool
  scheme : Scheme
  deriving DecidableEq

def resolvePrincipal (config : ServiceAuthConfig) (apiKey : Option String) : Option Principal :=
  match apiKey with
  | some apiKey =>
    if utf16Length apiKey > apiKeyMaxLength then none
    else (config.lookupApiKey apiKey).map fun apiKeyRecord =>
      ⟨apiKeyRecord.id, apiKeyRecord.secret, apiKeyRecord.active, .apiKey⟩
  | none =>
    match config.hmacSecret with
    | some sharedSecret =>
      if sharedSecret ≠ "" ∧ trim sharedSecret ≠ "" then some ⟨sharedHmacKeyId, trim sharedSecret, true, .sharedSecret⟩
      else none
    | none => none

def deriveNonce (method path query bodySha256 timestamp : String) : String :=
  let digest := crypto.sha256 ("\n".intercalate [method, path, query, bodySha256, timestamp]).toUTF8
  String.ofList (digest.toList.take nonceMaxLength)

structure CanonicalRequestParts where
  method : String
  path : String
  query : String
  bodySha256 : String
  timestamp : String
  nonce : String
  deriving DecidableEq

def buildServiceAuthCanonicalString (parts : CanonicalRequestParts) : String :=
  "\n".intercalate [parts.method, parts.path, parts.query, parts.bodySha256, parts.timestamp, parts.nonce]

def signServiceAuthCanonicalString (secret canonicalString : String) : String :=
  crypto.hmacSha256 secret canonicalString

def timestampHeaders : List String := ["x-agroasys-timestamp", "X-Timestamp"]
def nonceHeaders : List String := ["x-agroasys-nonce", "X-Nonce"]
def signatureHeaders : List String := ["x-agroasys-signature", "X-Signature"]

def maxSafeInteger : Int := 2 ^ 53 - 1

/-- The checks of the timestamp; `now` is `Date.now()`. -/
def checkTimestamp (maxSkewSeconds now : Nat) (timestamp : String) : Except AuthError Unit :=
  let invalid := unauthorized "AUTH_INVALID_TIMESTAMP" "Invalid timestamp format"
  if timestamp = "" ∨ ¬ timestamp.toList.all Char.isDigit then .error invalid
  else
    match parseDecimal timestamp with
    | none => .error invalid
    | some timestampSeconds =>
      if maxSafeInteger < timestampSeconds ∨ timestampSeconds ≤ 0 then .error invalid
      else if ((now / 1000 : Nat) - timestampSeconds).natAbs > maxSkewSeconds then
        .error (unauthorized "AUTH_TIMESTAMP_SKEW" "Timestamp outside allowed skew window")
      else .ok ()

/-- The parts that a request signs: its nonce is the header's, or derived from the others. -/
def canonicalParts (req : Request) (timestamp : String) : CanonicalRequestParts :=
  let (path, query) := requestPathAndQuery req
  let bodySha256 := bodyHash crypto req.rawBody
  let nonce := (firstHeader req nonceHeaders).getD
    (deriveNonce crypto req.method.toUpper path query bodySha256 timestamp)
  ⟨req.method.toUpper, path, query, bodySha256, timestamp, nonce⟩

/-- Who sent a request, and what is signed in it. -/
structure Authentication where
  principal : Principal
  parts : CanonicalRequestParts
  signature : String
  deriving DecidableEq

/-- The middleware up to the nonce store. -/
def authenticate (config : ServiceAuthConfig) (now : Nat) (req : Request) : Except AuthError Authentication :=
  match firstHeader req timestampHeaders, firstHeader req signatureHeaders with
  | some timestamp, some signature => do
    checkTimestamp config.authMaxSkewSeconds now timestamp
    match resolvePrincipal config (firstHeader req ["X-Api-Key"]) with
    | none => .error (unauthorized "AUTH_UNKNOWN_API_KEY" "Unknown API key")
    | some principal =>
      if principal.active = false then .error (forbidden "API key is inactive")
      else
        let parts := canonicalParts crypto req timestamp
        if trim parts.nonce = "" ∨ utf16Length parts.nonce > nonceMaxLength then
          .error (unauthorized "AUTH_INVALID_NONCE" "Invalid nonce format")
        else
          let canonicalString := buildServiceAuthCanonicalString parts
          let expectedSignature := signServiceAuthCanonicalString crypto principal.secret canonicalString
          if timingSafeHexEquals signature expectedSignature = false then
            .error (unauthorized "AUTH_INVALID_SIGNATURE" "Invalid signature")
          else .ok ⟨principal, parts, signature⟩
  | _, _ => .error (unauthorized "AUTH_MISSING_HEADERS" "Missing authentication headers")

structure ServiceAuthContext where
  apiKeyId : String
  scheme : Scheme
  deriving DecidableEq

/-- What follows the answer of the nonce store: `next()`, or a refusal. -/
def afterConsume (principal : Principal) : Except String Bool → Except AuthError ServiceAuthContext
  | .ok true => .ok ⟨principal.id, principal.scheme⟩
  | .ok false => .error (unauthorized "AUTH_NONCE_REPLAY" "Replay detected for nonce")
  | .error _ => .error unavailable

end Requests

end Agroasys.ServiceAuth
