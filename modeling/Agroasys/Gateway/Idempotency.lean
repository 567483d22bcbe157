import Agroasys.Foundation.Faults
import Agroasys.Gateway.Principal

namespace Agroasys.Gateway

open Function Agroasys.Foundation Agroasys.Runtime

/-- A mutation request as the middleware finds it. `json` says that its content type is
one `express.json` parses; `context` is what else the handler reads. -/
structure HttpRequest (Context : Type) where
  method : String
  path : String
  idempotencyKey : Option String
  requestId : String
  json : Bool
  body : List UInt8
  context : Context
  deriving DecidableEq

/-- `req.rawBody`, which only `express.json` sets. -/
def HttpRequest.rawBody {Context : Type} (request : HttpRequest Context) : Option (List UInt8) :=
  if request.json ∧ request.body ≠ [] then some request.body else none

/-- The trimmed header, unless nothing is left of it. -/
def HttpRequest.key {Context : Type} (request : HttpRequest Context) : Option String :=
  (request.idempotencyKey.map trim).filter (· ≠ "")

/-- A response of `res.json`. -/
structure Response (Body : Type) where
  status : Nat
  contentType : Option String
  body : Body
  deriving DecidableEq

/-- The columns that `complete` writes. -/
structure StoredResponse (Body : Type) where
  response : Response Body
  completedAt : Nat
  deriving DecidableEq

structure IdempotencyRecord (Body : Type) where
  idempotencyKey : String
  requestMethod : String
  requestPath : String
  requestFingerprint : String
  requestId : String
  stored : Option (StoredResponse Body)
  createdAt : Nat
  deriving DecidableEq

/-- An answered request; `replayed` is the header `x-idempotent-replay`. -/
structure Reply (Body : Type) where
  response : Response Body
  replayed : Bool
  deriving DecidableEq

/-- The values of a new row. -/
structure PendingEntry where
  idempotencyKey : String
  requestMethod : String
  requestPath : String
  requestFingerprint : String
  requestId : String

inductive StoreEffect (Body : Type) where
  | insertPending (entry : PendingEntry)
  | get (key : String)
  | complete (key : String) (response : Response Body)
  | releasePending (key : String)
  | markReplay (key : String)

abbrev StoreAnswer {Body : Type} : StoreEffect Body → Type
  | .insertPending _ | .get _ => Option (IdempotencyRecord Body)
  | .complete _ _ | .releasePending _ | .markReplay _ => Unit

abbrev IdempotencyTable (Body : Type) := String → Option (IdempotencyRecord Body)

/-- One statement. Columns that nothing reads are left out. -/
def serveStore {Body : Type} (now : Nat) (rows : IdempotencyTable Body) :
    (effect : StoreEffect Body) → StoreAnswer effect × IdempotencyTable Body
  | .insertPending entry =>
    match rows entry.idempotencyKey with
    | some _ => (none, rows)
    | none =>
      let record := ⟨entry.idempotencyKey, entry.requestMethod, entry.requestPath, entry.requestFingerprint,
        entry.requestId, none, now⟩
      (some record, update rows entry.idempotencyKey (some record))
  | .get key => (rows key, rows)
  | .complete key response =>
    ((), update rows key ((rows key).map fun record => { record with stored := some ⟨response, now⟩ }))
  | .releasePending key => ((), update rows key ((rows key).filter fun record => record.stored.isSome))
  | .markReplay _ => ((), rows)

section Middleware

variable {Body Own Context : Type} {OwnAnswer : Own → Type}

/-- Statements of the store, the step into the handler, and what handlers do. -/
inductive GatewayEffect (Body Own : Type) where
  | store (effect : StoreEffect Body)
  | next
  | own (effect : Own)

abbrev GatewayAnswer (OwnAnswer : Own → Type) : GatewayEffect Body Own → Type
  | .store effect => StoreAnswer effect
  | .next => Unit
  | .own effect => OwnAnswer effect

abbrev GatewayTask (Body : Type) (OwnAnswer : Own → Type) :=
  Task (GatewayEffect Body Own) (GatewayAnswer OwnAnswer) Failure

def store (effect : StoreEffect Body) : GatewayTask Body OwnAnswer (StoreAnswer effect) :=
  monadLift (Program.perform (GatewayEffect.store effect) :
    Program (GatewayEffect Body Own) (GatewayAnswer OwnAnswer) (StoreAnswer effect))

/-- The bytes of a text. -/
def utf8 (text : String) : List UInt8 :=
  text.toUTF8.toList

def buildRequestFingerprint (sha256 : List UInt8 → String) (method path : String)
    (rawBody : Option (List UInt8)) : String :=
  sha256 (utf8 method.toUpper ++ utf8 "\n" ++ utf8 path ++ utf8 "\n" ++ rawBody.getD [])

def HttpRequest.fingerprint (sha256 : List UInt8 → String) (request : HttpRequest Context) : String :=
  buildRequestFingerprint sha256 request.method request.path request.rawBody

def HttpRequest.pending (sha256 : List UInt8 → String) (request : HttpRequest Context) (key : String) :
    PendingEntry :=
  ⟨key, request.method, request.path, request.fingerprint sha256, request.requestId⟩

/-- The record for a key, and whether this call created it. -/
def createPending (entry : PendingEntry) : GatewayTask Body OwnAnswer (IdempotencyRecord Body × Bool) := do
  match ← store (.insertPending entry) with
  | some record => pure (record, true)
  | none =>
    match ← store (.get entry.idempotencyKey) with
    | some record => pure (record, false)
    | none => throw (.unexpected ("Failed to persist idempotency key " ++ entry.idempotencyKey))

/-- A record is there for the same request. -/
def HttpRequest.Matches (sha256 : List UInt8 → String) (request : HttpRequest Context)
    (record : IdempotencyRecord Body) : Prop :=
  record.requestFingerprint = request.fingerprint sha256 ∧ record.requestMethod = request.method ∧
    record.requestPath = request.path

instance (sha256 : List UInt8 → String) (request : HttpRequest Context) (record : IdempotencyRecord Body) :
    Decidable (request.Matches sha256 record) :=
  inferInstanceAs (Decidable (_ ∧ _))

def differentRequest : Failure :=
  .gateway ⟨409, "CONFLICT", "Idempotency key is already in use for a different request"⟩

def inProgress : Failure :=
  .gateway ⟨409, "CONFLICT", "A request with this idempotency key is already in progress"⟩

/-- The answer to a request whose key has a record. -/
def answerFrom (sha256 : List UInt8 → String) (request : HttpRequest Context) (key : String)
    (record : IdempotencyRecord Body) : GatewayTask Body OwnAnswer (Reply Body) :=
  if request.Matches sha256 record then
    match record.stored with
    | some stored => do
      store (.markReplay key)
      pure ⟨stored.response, true⟩
    | none => throw inProgress
  else throw differentRequest

/-- What the `finish` event of a response does. -/
def finish (key : String) (response : Response Body) : GatewayTask Body OwnAnswer Unit :=
  if 500 ≤ response.status then store (.releasePending key) else store (.complete key response)

/-- `createIdempotencyMiddleware`, with the handler after it. An error the handler passes
on is a response too: `errorHandler` sends it. -/
def idempotency (sha256 : List UInt8 → String)
    (handler : HttpRequest Context → Program Own OwnAnswer (Response Body)) (request : HttpRequest Context) :
    GatewayTask Body OwnAnswer (Reply Body) := do
  match request.key with
  | none =>
    throw (.gateway ⟨400, "VALIDATION_ERROR", "Idempotency-Key header is required for mutation routes"⟩)
  | some key =>
    let reservation ← createPending (request.pending sha256 key)
    if reservation.2 then
      monadLift (Program.perform GatewayEffect.next :
        Program (GatewayEffect Body Own) (GatewayAnswer OwnAnswer) Unit)
      let response ← monadLift ((handler request).embed GatewayEffect.own fun _ answer => answer :
        Program (GatewayEffect Body Own) (GatewayAnswer OwnAnswer) (Response Body))
      finish key response
      pure ⟨response, false⟩
    else answerFrom sha256 request key reservation.1

/-- The handlers of the routes, and what they work on. -/
structure Backend (Own : Type) (OwnAnswer : Own → Type) (Context Body State : Type) where
  handler : HttpRequest Context → Program Own OwnAnswer (Response Body)
  initial : State → Prop
  serves : State → Event Own OwnAnswer → State → Prop
  drifts : State → State → Prop

structure GatewayWorld (Body State : Type) where
  rows : IdempotencyTable Body
  own : State

variable {State : Type}

/-- Statements of the store succeed, at some time each. -/
def gatewayServes (backend : Backend Own OwnAnswer Context Body State) (before : GatewayWorld Body State) :
    Event (GatewayEffect Body Own) (GatewayAnswer OwnAnswer) → GatewayWorld Body State → Prop
  | ⟨.store effect, answer⟩, after =>
    (∃ now, serveStore now before.rows effect = (answer, after.rows)) ∧ after.own = before.own
  | ⟨.next, _⟩, after => after = before
  | ⟨.own effect, answer⟩, after => after.rows = before.rows ∧ backend.serves before.own ⟨effect, answer⟩ after.own

/-- The gateway's mutation routes, from an empty table. -/
def gatewayServer (sha256 : List UInt8 → String) (backend : Backend Own OwnAnswer Context Body State) :
    Server (HttpRequest Context) (GatewayEffect Body Own) (GatewayAnswer OwnAnswer)
      (Except Failure (Reply Body)) (GatewayWorld Body State) where
  initial world := (∀ key, world.rows key = none) ∧ backend.initial world.own
  program request := (idempotency sha256 backend.handler request).run
  serves := gatewayServes backend
  drifts before after := after.rows = before.rows ∧ backend.drifts before.own after.own

/-- The gateway where its handlers' world answers by choice. -/
def gatewayServing {Choice : Type} (serve : Serving Choice Own OwnAnswer State) :
    Serving (Nat × Choice) (GatewayEffect Body Own) (GatewayAnswer OwnAnswer) (GatewayWorld Body State) :=
  fun choice world effect =>
    match effect with
    | .store effect =>
      let (answer, rows) := serveStore choice.1 world.rows effect
      (answer, ⟨rows, world.own⟩)
    | .next => ((), world)
    | .own effect =>
      let (answer, own) := serve choice.2 world.own effect
      (answer, ⟨world.rows, own⟩)

theorem gatewayServing_serves {Choice : Type} [Inhabited Choice] (serve : Serving Choice Own OwnAnswer State)
    (backend : Backend Own OwnAnswer Context Body State) (follows : backend.serves = serve.serves) :
    gatewayServes backend = (gatewayServing serve : Serving (Nat × Choice) (GatewayEffect Body Own)
      (GatewayAnswer OwnAnswer) (GatewayWorld Body State)).serves := by
  funext before event after
  obtain ⟨effect, answer⟩ := event
  apply propext
  cases effect with
  | store effect =>
    constructor
    · intro served
      obtain ⟨⟨now, served⟩, same⟩ := served
      refine ⟨(now, default), ?_⟩
      simp only [gatewayServing, served, ← same]
    · intro served
      obtain ⟨choice, served⟩ := served
      cases served
      exact ⟨⟨choice.1, rfl⟩, rfl⟩
  | next =>
    constructor
    · intro served
      exact ⟨default, by rw [show after = before from served]; rfl⟩
    · intro served
      obtain ⟨choice, served⟩ := served
      exact (congrArg Prod.snd served).symm
  | own effect =>
    constructor
    · intro served
      obtain ⟨same, served⟩ := served
      rw [follows] at served
      obtain ⟨choice, served⟩ := served
      refine ⟨(0, choice), ?_⟩
      simp only [gatewayServing, served, ← same]
    · intro served
      obtain ⟨choice, served⟩ := served
      cases served
      refine ⟨rfl, ?_⟩
      rw [follows]
      exact ⟨choice.2, rfl⟩

end Middleware

end Agroasys.Gateway
