import Agroasys.Auth.Controller

namespace Agroasys.Gateway

open Agroasys.Runtime Agroasys.Auth

/-- A `GatewayError`: status, code and message. -/
structure GatewayError where
  statusCode : Nat
  code : String
  message : String
  deriving DecidableEq

/-- What is thrown: a `GatewayError`, or anything else. -/
inductive Failure where
  | gateway (error : GatewayError)
  | unexpected (message : String)
  deriving DecidableEq

/-- `resolveSession`, from the answer of the auth service. -/
def resolveSession (response : HttpResponse) : Except GatewayError (Option SessionView) :=
  if response.status = 401 then .ok none
  else if response.status < 200 ∨ 300 ≤ response.status then
    .error ⟨503, "UPSTREAM_UNAVAILABLE", "Auth service session lookup failed"⟩
  else
    match response.body with
    | .session view => .ok (some view)
    | _ => .error ⟨503, "UPSTREAM_UNAVAILABLE", "Auth service returned an invalid session payload"⟩

inductive GatewayRole where
  | operatorRead
  | operatorWrite
  deriving DecidableEq, Repr

/-- The type's string values. -/
def GatewayRole.value : GatewayRole → String
  | .operatorRead => "operator:read"
  | .operatorWrite => "operator:write"

def mapGatewayRoles (session : SessionView) : List GatewayRole :=
  if session.role = .admin then [.operatorRead, .operatorWrite] else []

/-- The auth service's sessions carry no email. -/
def matchesAllowlist (session : SessionView) (allowlist : List String) : Bool :=
  [session.userId, session.walletAddress].any fun candidate =>
    candidate ≠ "" && (allowlist.map toLowerCase).contains (toLowerCase candidate)

structure GatewayPrincipal where
  session : SessionView
  gatewayRoles : List GatewayRole
  writeEnabled : Bool
  deriving DecidableEq

/-- The principal of a session, as `createAuthenticationMiddleware` builds it. -/
def principalOf (enableMutations : Bool) (writeAllowlist : List String) (session : SessionView) :
    GatewayPrincipal :=
  ⟨session, mapGatewayRoles session, enableMutations && matchesAllowlist session writeAllowlist⟩

/-- The principal the gateway makes of an answer of the auth service. -/
def authenticate (enableMutations : Bool) (writeAllowlist : List String) (response : HttpResponse) :
    Except GatewayError GatewayPrincipal := do
  match ← resolveSession response with
  | none => .error ⟨401, "AUTH_REQUIRED", "Session invalid, expired, or revoked"⟩
  | some session => .ok (principalOf enableMutations writeAllowlist session)

def requireGatewayRole (principal : GatewayPrincipal) (role : GatewayRole) : Except GatewayError Unit :=
  let name := role.value
  if role ∈ principal.gatewayRoles then .ok ()
  else .error ⟨403, "FORBIDDEN", s!"Gateway role '{name}' is required"⟩

def requireMutationWriteAccess (principal : GatewayPrincipal) : Except GatewayError Unit :=
  if .operatorWrite ∉ principal.gatewayRoles then
    .error ⟨403, "FORBIDDEN", "Admin session is required for gateway mutations"⟩
  else if principal.writeEnabled = false then
    .error ⟨403, "FORBIDDEN", "Gateway mutations are disabled or caller is not allowlisted"⟩
  else .ok ()

/-- The guards of the operators' routes refuse a principal. -/
structure GatewayPrincipal.Refused (principal : GatewayPrincipal) : Prop where
  role : ∀ role, requireGatewayRole principal role ≠ .ok ()
  mutation : requireMutationWriteAccess principal ≠ .ok ()

theorem authenticate_eq_ok : authenticate enableMutations writeAllowlist response = .ok principal ↔
    (200 ≤ response.status ∧ response.status < 300) ∧ ∃ view, response.body = .session view ∧
      principal = principalOf enableMutations writeAllowlist view := by
  obtain ⟨status, body⟩ := response
  by_cases absent : status = 401
  · have resolved : resolveSession ⟨status, body⟩ = .ok none := if_pos absent
    rw [authenticate, resolved]
    constructor
    · intro made
      cases made
    · rintro ⟨⟨_, high⟩, _⟩
      change status < 300 at high
      omega
  · by_cases failed : status < 200 ∨ 300 ≤ status
    · rw [authenticate, resolveSession, if_neg absent, if_pos failed]
      constructor
      · intro made
        cases made
      · rintro ⟨within, _⟩
        change 200 ≤ status ∧ status < 300 at within
        omega
    · rw [authenticate, resolveSession, if_neg absent, if_neg failed]
      have within : 200 ≤ status ∧ status < 300 := by omega
      rw [and_iff_right within]
      cases body with
      | session view =>
        constructor
        · intro made
          cases made
          exact ⟨view, rfl, rfl⟩
        · rintro ⟨_, shown, rfl⟩
          cases shown
          rfl
      | _ =>
        constructor
        · intro made
          cases made
        · rintro ⟨_, shown, _⟩
          cases shown

/-- A principal without a role gets nowhere. -/
theorem GatewayPrincipal.refused {principal : GatewayPrincipal} (plain : principal.gatewayRoles = []) :
    principal.Refused := by
  constructor
  · intro role passed
    simp [requireGatewayRole, plain] at passed
  · intro passed
    simp [requireMutationWriteAccess, plain] at passed

end Agroasys.Gateway
