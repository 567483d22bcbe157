import Agroasys.Runtime.Text

/-! The auth service's data: profiles, sessions, requests, and what the handlers read
of a request body. Times are seconds unless a name says milliseconds. -/

namespace Agroasys.Auth

open Agroasys.Runtime

inductive UserRole where
  | buyer
  | supplier
  | admin
  | oracle
  deriving DecidableEq, Repr

/-- The enum's string values. -/
def UserRole.value : UserRole → String
  | .buyer => "buyer"
  | .supplier => "supplier"
  | .admin => "admin"
  | .oracle => "oracle"

structure UserProfile where
  id : String
  walletAddress : String
  role : UserRole
  orgId : Option String
  active : Bool
  deriving DecidableEq

/-- A row of `user_sessions`. The three times are BIGINT columns. -/
structure SessionRow where
  sessionId : String
  userId : String
  walletAddress : String
  role : UserRole
  issuedAt : Int
  expiresAt : Int
  revokedAt : Option Int
  deriving DecidableEq

structure UserSession where
  sessionId : String
  userId : String
  walletAddress : String
  role : UserRole
  issuedAt : Nat
  expiresAt : Nat
  revokedAt : Option Nat
  deriving DecidableEq

structure SessionIssueResult where
  sessionId : String
  expiresAt : Int
  deriving DecidableEq

/-- A login nonce and the millisecond it expires at. -/
structure Challenge where
  nonce : String
  expiresAt : Nat
  deriving DecidableEq

structure LoginBody where
  walletAddress : Option String
  signature : Option String
  role : Option String
  orgId : Option String
  ttlSeconds : Option Int
  deriving DecidableEq

/-- `WALLET_REGEX`: `0x` and forty hexadecimal digits, in any case. -/
def walletRegex (text : String) : Bool :=
  match text.toList with
  | '0' :: 'x' :: digits | '0' :: 'X' :: digits =>
    digits.length = 40 && digits.all fun digit => (hexValue digit).isSome
  | _ => false

def maxSafeInteger : Int := 2 ^ 53 - 1

/-- A BIGINT column comes back as text, which must be all digits and a safe integer. -/
def parseSessionEpoch (value : Int) (field : String) : Except String Nat :=
  if 0 ≤ value ∧ value ≤ maxSafeInteger then .ok value.toNat
  else .error s!"Invalid {field} session timestamp returned from database"

def normalizeSessionRow (row : SessionRow) : Except String UserSession := do
  let issuedAt ← parseSessionEpoch row.issuedAt "issuedAt"
  let expiresAt ← parseSessionEpoch row.expiresAt "expiresAt"
  let revokedAt ← match row.revokedAt with
    | none => pure none
    | some value => some <$> parseSessionEpoch value "revokedAt"
  return {
    sessionId := row.sessionId
    userId := row.userId
    walletAddress := row.walletAddress
    role := row.role
    issuedAt := issuedAt
    expiresAt := expiresAt
    revokedAt := revokedAt }

end Agroasys.Auth
