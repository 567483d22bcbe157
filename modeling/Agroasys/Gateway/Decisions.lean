import Agroasys.Gateway.ComplianceRequests
import Agroasys.Gateway.Consultations
import Agroasys.Gateway.Reservations

namespace Agroasys.Gateway

open Function Agroasys.Foundation

abbrev DecisionPool := GatewayPool ComplianceEffect ComplianceAnswer ComplianceBody ComplianceWorld
abbrev DecisionEntry := GatewayEntry ComplianceEffect ComplianceAnswer ComplianceContext ComplianceBody ComplianceWorld
abbrev DecisionHistory :=
  GatewayHistory ComplianceEffect ComplianceAnswer ComplianceContext ComplianceBody ComplianceWorld

/-- The step is a transaction of this request that records a decision. -/
def Inserts (entry : DecisionEntry) (pid : Nat) : Prop :=
  ∃ decision auditEntry answer, entry.label = .perform pid ⟨.own (.saveDecision decision auditEntry), answer⟩ ∧
    entry.after.world.own.decisions ≠ entry.before.world.own.decisions

def Recorded (history : DecisionHistory) (pid : Nat) : Prop :=
  ∃ entry ∈ history, Inserts entry pid

/-- What a handler has done for its decision. -/
inductive Deed where
  | clean
  | recorded (decisionId : String)
  /-- A statement failed: no decision is recorded from here on. -/
  | spoiled
  deriving DecidableEq

def Deed.permits : Deed → ComplianceEffect → Prop
  | .clean, _ => True
  | .recorded decisionId, .selectDecision asked => asked = decisionId
  | .recorded _, .now | .recorded _, .loadBlockState _ => True
  | .recorded _, _ => False
  | .spoiled, .saveDecision _ _ => False
  | .spoiled, _ => True

def Deed.after : Deed → (effect : ComplianceEffect) → ComplianceAnswer effect → Deed
  | .clean, .saveDecision decision _, answer =>
    match answer with
    | .ok _ => .recorded decision.decisionId
    | .error _ => .spoiled
  | .recorded decisionId, .selectDecision _, answer =>
    match answer with
    | .ok (some _) => .recorded decisionId
    | _ => .spoiled
  | .recorded decisionId, .loadBlockState _, answer =>
    match answer with
    | .ok _ => .recorded decisionId
    | .error _ => .spoiled
  | deed, _, _ => deed

/-- The deed of a request. It does not release its key with a decision recorded. -/
def requestDeeds : Protocol (GatewayEffect ComplianceBody ComplianceEffect) (GatewayAnswer ComplianceAnswer) Deed where
  permits deed effect :=
    match effect with
    | .own effect => deed.permits effect
    | .store (.releasePending _) => ∀ decisionId, deed ≠ .recorded decisionId
    | _ => True
  after deed effect answer :=
    match effect, answer with
    | .own effect, answer => deed.after effect answer
    | .store _, _ | .next, _ => deed

section Follows

variable {deed : Deed}

end Follows

section Requests

variable {sha256 : List UInt8 → String} {dateParse timestampOf : String → Option Int}
  {history : DecisionHistory} {pool next : DecisionPool} {entry : DecisionEntry}

abbrev deedsOf (history : DecisionHistory) : Nat → Option Deed :=
  casting requestDeeds (fun _ => .clean) history

private theorem Inserts.label (inserts : Inserts ⟨pool, .perform pid event, next⟩ other) :
    ∃ decision auditEntry answer, event = ⟨.own (.saveDecision decision auditEntry), answer⟩ ∧ other = pid := by
  obtain ⟨decision, auditEntry, answer, label, _⟩ := inserts
  cases label
  exact ⟨decision, auditEntry, answer, rfl, rfl⟩

/-- A recorded decision is there, and its request goes on to its success. -/
def Delivered (history : DecisionHistory) (pool : DecisionPool) (pid : Nat) : Prop :=
  ∃ decisionId, deedsOf history pid = some (.recorded decisionId) ∧
    (∃ row ∈ pool.world.own.decisions, row.decisionId = decisionId) ∧
      ∀ key, ¬ Made history pid ⟨.store (.releasePending key), ()⟩

private theorem Delivered.aside (delivered : Delivered history pool pid)
    (stands : deedsOf (entry :: history) pid = deedsOf history pid)
    (rows : ∀ row ∈ pool.world.own.decisions, row ∈ next.world.own.decisions)
    (quiet : ∀ key, entry.label ≠ .perform pid ⟨.store (.releasePending key), ()⟩) :
    Delivered (entry :: history) next pid := by
  obtain ⟨decisionId, deed, ⟨row, member, same⟩, unreleased⟩ := delivered
  refine ⟨decisionId, stands.trans deed, ⟨row, rows row member, same⟩, ?_⟩
  intro key made
  rcases made_cons.mp made with label | sooner
  · exact quiet key label
  · exact unreleased key sooner

section Runs

/-! A creation sent twice, with and without a failure between its COMMIT and its answer. -/

end Runs

end Requests

end Agroasys.Gateway
