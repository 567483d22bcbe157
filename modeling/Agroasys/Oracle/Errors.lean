import Agroasys.Oracle.Types
import Mathlib.Data.List.Infix

namespace Agroasys.Oracle

/-- An error of a client library: the database driver, the SDK, the indexer.
`printed` is what `toString` gives. -/
structure ForeignError where
  message : String
  printed : String
  code : Option String
  reason : Option String
  deriving DecidableEq

/-- What a function throws: one of the service's own classes or a foreign error. -/
inductive Failure where
  | validation (message : String)
  | network (message : String)
  | contract (message : String) (isTerminal : Bool)
  | foreign (error : ForeignError)
  deriving DecidableEq

/-- An instance of `OracleError`. -/
structure OracleError where
  message : String
  errorType : ErrorType
  isTerminal : Bool
  deriving DecidableEq

def validationError (message : String) : OracleError := ⟨message, .validation, true⟩
def networkError (message : String) : OracleError := ⟨message, .network, false⟩
def contractError (message : String) (isTerminal : Bool) : OracleError :=
  ⟨message, .contract, isTerminal⟩

/-- `String.prototype.includes`. -/
def includes (text pattern : String) : Bool :=
  text.toList.tails.any pattern.toList.isPrefixOf

/-- `toLowerCase`, exact where the result is an ASCII letter: of the characters
beyond ASCII only the dotted capital I and the Kelvin sign have one in theirs. -/
def toLowerCase (text : String) : String :=
  .ofList (text.toList.flatMap fun character =>
    if character = '\u0130' then ['i', '\u0307']
    else if character = '\u212A' then ['k']
    else [character.toLower])

def terminalPatterns : List String :=
  ["Cannot release stage 1", "Cannot confirm arrival", "Cannot finalize", "Invalid trade ID",
    "Dispute window", "expected LOCKED", "expected IN_TRANSIT", "expected ARRIVAL_CONFIRMED"]

def networkPatterns : List String :=
  ["network", "timeout", "ECONNREFUSED", "ETIMEDOUT", "ENOTFOUND", "fetch failed", "connection"]

def contractPatterns : List String := ["execution reverted", "revert", "require"]

/-- Contract errors that no retry can help, looked for in the lower-cased message. -/
def terminalContractPatterns : List String :=
  ["invalid state", "not authorized", "trade does not exist", "already executed", "paused",
    "oracle disabled", "only oracle", "proposal expired", "timelock not elapsed"]

/-- `classifyError` on an error that is not an `OracleError` yet. -/
def classifyMessage (message : String) : OracleError :=
  if terminalPatterns.any (includes message) then validationError message
  else if networkPatterns.any (includes message) then networkError message
  else if contractPatterns.any (includes message) then
    contractError message (terminalContractPatterns.any (includes (toLowerCase message)))
  else networkError message

/-- `error.message || error.toString()`. -/
def ForeignError.text (error : ForeignError) : String :=
  if error.message = "" then error.printed else error.message

def classifyError : Failure → OracleError
  | .validation message => validationError message
  | .network message => networkError message
  | .contract message isTerminal => contractError message isTerminal
  | .foreign error => classifyMessage error.text

def determineNextStatus (error : OracleError) (attemptCount maxAttempts : Nat) : TriggerStatus :=
  if error.isTerminal then .terminalFailure
  else if maxAttempts ≤ attemptCount then .exhaustedNeedsRedrive
  else .failed

theorem determineNextStatus_cases (error : OracleError) (attemptCount maxAttempts : Nat) :
    (error.isTerminal = true ∧
        determineNextStatus error attemptCount maxAttempts = .terminalFailure) ∨
      (error.isTerminal = false ∧ maxAttempts ≤ attemptCount ∧
        determineNextStatus error attemptCount maxAttempts = .exhaustedNeedsRedrive) ∨
      (error.isTerminal = false ∧ attemptCount < maxAttempts ∧
        determineNextStatus error attemptCount maxAttempts = .failed) := by
  unfold determineNextStatus
  cases error.isTerminal with
  | true => simp
  | false => grind

/-- The codes and messages `executeTrigger` takes for a missing trade. -/
def Failure.missingTrade : Failure → Bool
  | .validation message | .network message | .contract message _ =>
    includes message "trade not found" || includes message "execution reverted"
  | .foreign error =>
    error.code = some "CALL_EXCEPTION" || includes error.message "trade not found" ||
      includes error.message "execution reverted"

/-- `error?.reason || error?.message`. -/
def Failure.cause : Failure → String
  | .validation message | .network message | .contract message _ => message
  | .foreign error => (orUndefined error.reason).getD error.message

end Agroasys.Oracle
