import Agroasys.Foundation.Pool
import Mathlib.Data.Rat.Floor

namespace Agroasys.Notifications

open Function Agroasys.Foundation

section Events

inductive NotificationSeverity where
  | info
  | warning
  | critical
  deriving DecidableEq, Repr

def NotificationSeverity.value : NotificationSeverity → String
  | .info => "info"
  | .warning => "warning"
  | .critical => "critical"

structure Correlation where
  tradeId : Option String
  actionKey : Option String
  requestId : Option String
  txHash : Option String
  runKey : Option String
  mismatchCode : Option String
  deriving DecidableEq

structure NotificationEvent where
  source : String
  type : String
  severity : NotificationSeverity
  dedupKey : String
  message : String
  correlation : Correlation
  deriving DecidableEq

/-- Numbers are the finite ones. -/
structure WebhookNotifierConfig where
  enabled : Bool
  webhookUrl : Option String
  cooldownMs : ℚ
  requestTimeoutMs : Option ℚ
  retryAttempts : Option ℚ
  retryDelayMs : Option ℚ
  maxRetryDelayMs : Option ℚ

/-- What a field shows: a text, or what every object inherits under that name. -/
inductive SlackValue where
  | text (text : String)
  | inherited (name : String)
  deriving DecidableEq

structure SlackField where
  title : String
  value : SlackValue
  short : Bool
  deriving DecidableEq

structure SlackAttachment where
  color : String
  fields : List SlackField
  deriving DecidableEq

structure SlackPayload where
  text : String
  attachments : List SlackAttachment
  deriving DecidableEq

end Events

section Payload

def notificationRoutingVersion : String := "2026-02-21"
def defaultTemplateVersion : String := "generic-v1"

def notificationTemplateVersions : List (String × String) :=
  [("ORACLE_TRIGGER_TERMINAL_FAILURE", "oracle-terminal-v1"),
    ("ORACLE_TRIGGER_EXHAUSTED_NEEDS_REDRIVE", "oracle-redrive-v1"),
    ("ORACLE_CONFIRMATION_TIMEOUT", "oracle-confirmation-timeout-v1"),
    ("RECONCILIATION_CRITICAL_DRIFT", "reconciliation-critical-drift-v1")]

def colorForSeverity : NotificationSeverity → String
  | .critical => "#d32f2f"
  | .warning => "#f57c00"
  | .info => "#1976d2"

def severityRouteForSeverity : NotificationSeverity → String
  | .critical => "pager"
  | .warning => "operations"
  | .info => "informational"

/-- The members of `Object.prototype`, which the table of versions answers for too. -/
def inheritedMembers : List String :=
  ["constructor", "hasOwnProperty", "isPrototypeOf", "propertyIsEnumerable", "toLocaleString", "toString", "valueOf",
    "__defineGetter__", "__defineSetter__", "__lookupGetter__", "__lookupSetter__", "__proto__"]

def templateVersionForType (type : String) : SlackValue :=
  match notificationTemplateVersions.lookup type with
  | some version => .text version
  | none => if type ∈ inheritedMembers then .inherited type else .text defaultTemplateVersion

/-- The rows of a payload that are left: those whose value is truthy. -/
def correlationFields (event : NotificationEvent) : List SlackField :=
  let row (title : String) (value : Option String) : Option SlackField :=
    (value.filter (· ≠ "")).map fun value => ⟨title, .text value, true⟩
  [row "tradeId" event.correlation.tradeId, row "actionKey" event.correlation.actionKey,
    row "requestId" event.correlation.requestId, row "txHash" event.correlation.txHash,
    row "runKey" event.correlation.runKey, row "mismatchCode" event.correlation.mismatchCode,
    some ⟨"templateVersion", templateVersionForType event.type, true⟩,
    row "severityRoute" (severityRouteForSeverity event.severity),
    row "routingVersion" notificationRoutingVersion].reduceOption

def toSlackPayload (event : NotificationEvent) : SlackPayload where
  text := "[" ++ event.source ++ "] " ++ event.type ++ " (" ++ event.severity.value ++ ")"
  attachments :=
    [⟨colorForSeverity event.severity, ⟨"message", .text event.message, false⟩ :: correlationFields event⟩]

end Payload

section Retries

/-- `Math.trunc`. -/
def trunc (number : ℚ) : ℤ := number.num.tdiv number.den

def defaultTimeoutMs : ℚ := 5000
def defaultRetryAttempts : ℚ := 0
def defaultRetryDelayMs : ℚ := 250
def defaultMaxRetryDelayMs : ℚ := 2000
def maxRetryAttemptsCap : ℤ := 5

variable (config : WebhookNotifierConfig)

def normalizeRetryAttempts : Nat :=
  let normalized := trunc (config.retryAttempts.getD defaultRetryAttempts)
  if normalized ≤ 0 then 0 else (min normalized maxRetryAttemptsCap).toNat

def normalizeRetryDelayMs : ℤ :=
  max 0 (trunc (config.retryDelayMs.getD defaultRetryDelayMs))

def normalizeMaxRetryDelayMs (baseDelayMs : ℤ) : ℤ :=
  let normalized := max 0 (trunc (config.maxRetryDelayMs.getD defaultMaxRetryDelayMs))
  max baseDelayMs normalized

def retryDelayForAttempt (attempt : Nat) (baseDelayMs maxDelayMs : ℤ) : ℤ :=
  let exponent := attempt - 1
  min (baseDelayMs * 2 ^ exponent) maxDelayMs

end Retries

section Calls

/-- What a call of the notifier waits for or shares with other calls. The key of a request is not sent. -/
inductive Effect where
  | isInCooldown (dedupKey : String)
  | fetch (dedupKey webhookUrl : String) (payload : SlackPayload) (timeoutMs : ℚ)
  | markSent (dedupKey : String)
  | sleep (ms : ℤ)
  deriving DecidableEq

/-- How a request ends; it also fails when it is aborted after its timeout. -/
inductive Delivery where
  | response (status : Nat)
  | failed
  deriving DecidableEq

/-- `response.ok`. -/
def Delivery.ok : Delivery → Bool
  | .response status => 200 ≤ status && status ≤ 299
  | .failed => false

abbrev Answer : Effect → Type
  | .isInCooldown _ => Bool
  | .fetch _ _ _ _ => Delivery
  | .markSent _ => Unit
  | .sleep _ => Unit

/-- The attempts from one on, with so many left. -/
def attemptDelivery (config : WebhookNotifierConfig) (event : NotificationEvent) (webhookUrl : String) :
    Nat → Nat → Program Effect Answer Bool
  | 0, _ => pure false
  | remaining + 1, attempt => do
    let timeoutMs := config.requestTimeoutMs.getD defaultTimeoutMs
    let baseDelayMs := normalizeRetryDelayMs config
    let maxDelayMs := normalizeMaxRetryDelayMs config baseDelayMs
    let delivery ← Program.perform (.fetch event.dedupKey webhookUrl (toSlackPayload event) timeoutMs)
    if Delivery.ok delivery then
      let _ ← Program.perform (Effect.markSent event.dedupKey)
      pure true
    else if 0 < remaining then
      let _ ← Program.perform (Effect.sleep (retryDelayForAttempt attempt baseDelayMs maxDelayMs))
      attemptDelivery config event webhookUrl remaining (attempt + 1)
    else pure false

def notify (config : WebhookNotifierConfig) (event : NotificationEvent) : Program Effect Answer Bool :=
  if config.enabled then
    match config.webhookUrl.filter (· ≠ "") with
    | none => pure false
    | some webhookUrl => do
      let suppressed ← Program.perform (.isInCooldown event.dedupKey)
      if suppressed then pure false
      else attemptDelivery config event webhookUrl (normalizeRetryAttempts config + 1) 1
  else pure false

end Calls

section Instance

/-- One notifier, and the time its calls read. -/
structure World where
  now : ℤ
  dedupCache : String → Option ℤ

/-- A timestamp of zero counts as none. -/
def World.isInCooldown (config : WebhookNotifierConfig) (world : World) (dedupKey : String) : Bool :=
  match world.dedupCache dedupKey with
  | none => false
  | some previousTimestamp =>
    previousTimestamp ≠ 0 && ((world.now - previousTimestamp : ℤ) : ℚ) < config.cooldownMs

def World.markSent (dedupKey : String) (world : World) : World :=
  { world with dedupCache := update world.dedupCache dedupKey (some world.now) }

/-- The webhook answers what it likes, and when it likes. -/
def Serves (config : WebhookNotifierConfig) (before : World) (event : Event Effect Answer) (after : World) : Prop :=
  match event with
  | ⟨.isInCooldown dedupKey, answer⟩ => answer = before.isInCooldown config dedupKey ∧ after = before
  | ⟨.fetch _ _ _ _, _⟩ => after = before
  | ⟨.markSent dedupKey, _⟩ => after = before.markSent dedupKey
  | ⟨.sleep _, _⟩ => after = before

/-- Calls of one notifier that starts with nothing sent. The clock does not go back. -/
def notifier (config : WebhookNotifierConfig) : Server NotificationEvent Effect Answer Bool World where
  initial world := ∀ dedupKey, world.dedupCache dedupKey = none
  program := notify config
  serves := Serves config
  drifts before after := before.now ≤ after.now ∧ after.dedupCache = before.dedupCache

abbrev NotifierPool := Pool Effect Answer Bool World
abbrev NotifierMove := Move NotificationEvent Effect Answer
abbrev NotifierEntry := Transition NotifierPool NotifierMove
abbrev NotifierHistory := History NotifierPool NotifierMove

end Instance

end Agroasys.Notifications
