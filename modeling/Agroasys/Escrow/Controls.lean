import Agroasys.Escrow.Storage

namespace Agroasys.Escrow

open Function

variable {σ : Type}

/-- `Pausable._pause`. -/
def pausePrimitive (msg : Message) (s : World σ) : Except Revert (World σ) := do
  whenNotPaused s
  return { s with paused := true }.emit [.paused msg.sender]

/-- `Pausable._unpause`. -/
def unpausePrimitive (msg : Message) (s : World σ) : Except Revert (World σ) := do
  require (s.paused = true) "not paused"
  return { s with paused := false }.emit [.unpaused msg.sender]

def pause (msg : Message) (s : World σ) : Except Revert (World σ) := do
  onlyAdmin msg s
  require (s.paused = false) "already paused"
  pausePrimitive msg s

def pauseClaims (msg : Message) (s : World σ) : Except Revert (World σ) := do
  onlyAdmin msg s
  require (s.claimsPaused = false) "claims already paused"
  return { s with claimsPaused := true }.emit [.claimsPaused msg.sender]

def unpauseClaims (msg : Message) (s : World σ) : Except Revert (World σ) := do
  onlyAdmin msg s
  require (s.claimsPaused = true) "claims not paused"
  return { s with claimsPaused := false }.emit [.claimsUnpaused msg.sender]

/-- The loop over `admins` that clears `unpauseHasApproved`. -/
def clearApprovals (admins : List Address) (approved : Address → Bool) : Address → Bool :=
  admins.foldl (fun approved admin => update approved admin false) approved

theorem clearApprovals_apply (admins : List Address) (approved : Address → Bool) (account : Address) :
    clearApprovals admins approved account = if account ∈ admins then false else approved account := by
  unfold clearApprovals
  induction admins generalizing approved with
  | nil => simp
  | cons admin rest ih =>
    rw [List.foldl_cons, ih]
    by_cases same : account = admin
    · subst same; simp
    · simp [same]

/-- `_cancelUnpauseProposal`. -/
def cancelUnpause (msg : Message) (s : World σ) : World σ :=
  { s with
    unpauseHasApproved := clearApprovals s.admins s.unpauseHasApproved
    hasActiveUnpauseProposal := false
    unpauseProposal := default }.emit [.unpauseProposalCancelled msg.sender]

def proposeUnpause (msg : Message) (s : World σ) : Except Revert (World σ) := do
  onlyAdmin msg s
  require (s.paused = true) "not paused"
  require (s.oracleActive = true) "oracle disabled"
  let s := if s.hasActiveUnpauseProposal then cancelUnpause msg s else s
  return { s with
    unpauseProposal := ⟨1, false, msg.timestamp, msg.sender⟩
    unpauseHasApproved := update s.unpauseHasApproved msg.sender true
    hasActiveUnpauseProposal := true }.emit
      [.unpauseProposed msg.sender, .unpauseApproved msg.sender 1 s.requiredApprovals]

/-- `_executeUnpause`. -/
def executeUnpause (msg : Message) (s : World σ) : Except Revert (World σ) := do
  require (s.unpauseProposal.executed = false) "already executed"
  require (s.governanceApprovals ≤ s.unpauseProposal.approvalCount) "not enough approvals"
  let s := { s with
    unpauseProposal := { s.unpauseProposal with executed := true }
    hasActiveUnpauseProposal := false }
  let s ← unpausePrimitive msg s
  return { s with unpauseHasApproved := clearApprovals s.admins s.unpauseHasApproved }

/-- The approval `approveUnpause` records before it looks at the quorum. -/
def recordUnpauseApproval (msg : Message) (s : World σ) : World σ :=
  { s with
    unpauseHasApproved := update s.unpauseHasApproved msg.sender true
    unpauseProposal :=
      { s.unpauseProposal with approvalCount := s.unpauseProposal.approvalCount + 1 } }.emit
    [.unpauseApproved msg.sender (s.unpauseProposal.approvalCount + 1) s.requiredApprovals]

def approveUnpause (msg : Message) (s : World σ) : Except Revert (World σ) := do
  onlyAdmin msg s
  require (s.paused = true) "not paused"
  require (s.hasActiveUnpauseProposal = true) "no active proposal"
  require (s.unpauseProposal.executed = false) "already executed"
  require (s.unpauseHasApproved msg.sender = false) "already approved"
  let s := recordUnpauseApproval msg s
  if s.governanceApprovals ≤ s.unpauseProposal.approvalCount then executeUnpause msg s
  else return s

def cancelUnpauseProposal (msg : Message) (s : World σ) : Except Revert (World σ) := do
  onlyAdmin msg s
  require (s.hasActiveUnpauseProposal = true) "no active proposal"
  require (s.unpauseProposal.executed = false) "already executed"
  return cancelUnpause msg s

def disableOracleEmergency (msg : Message) (s : World σ) : Except Revert (World σ) := do
  onlyAdmin msg s
  require (s.oracleActive = true) "oracle disabled"
  let s := { s with oracleActive := false }
  let s ← if s.paused = false then pausePrimitive msg s else pure s
  return s.emit [.oracleDisabledEmergency msg.sender s.oracleAddress]

end Agroasys.Escrow
