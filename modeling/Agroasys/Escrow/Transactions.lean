import Agroasys.Foundation.Transition
import Agroasys.Escrow.Controls
import Agroasys.Escrow.Disputes
import Agroasys.Escrow.Rotations

namespace Agroasys.Escrow

open Function Agroasys.Foundation

variable {σ Op : Type}

/-- The constructor's arguments. -/
structure Config where
  usdcToken : Address
  oracleAddress : Address
  treasuryAddress : Address
  admins : List Address
  requiredApprovals : Nat

/-- Storage after the constructor's assignments and before its loop over the
admins. -/
def Config.world (config : Config) (usdc : σ) (timestamp : Nat) : World σ where
  usdcToken := config.usdcToken
  treasuryAddress := config.treasuryAddress
  requiredApprovals := config.requiredApprovals
  governanceTimelock := 24 * 3600
  trades _ := default
  tradeCounter := 0
  nonces _ := 0
  inTransitSince _ := 0
  dispute := .empty ⟨0, .refund⟩ .zero
  tradeHasActiveDisputeProposal _ := false
  tradeActiveDisputeProposalId _ := 0
  claimableUsdc _ := 0
  totalClaimableUsdc := 0
  paused := false
  claimsPaused := false
  oracleActive := true
  oracleAddress := config.oracleAddress
  treasuryPayoutAddress := config.treasuryAddress
  admins := []
  isAdmin _ := false
  unpauseProposal := default
  unpauseHasApproved _ := false
  hasActiveUnpauseProposal := false
  oracleUpdate := .empty ⟨.zero, 0, false⟩ .zero
  adminAdd := .empty ⟨.zero, 0⟩ .zero
  treasuryPayoutAddressUpdate := .empty ⟨.zero, 0⟩ .zero
  usdc := usdc
  events := []
  now := timestamp

/-- The constructor's loop over `_admins`. -/
def addAdmins : List Address → World σ → Except Revert (World σ)
  | [], s => return s
  | admin :: rest, s => do
    require (admin ≠ .zero) "bad admin"
    require (s.isAdmin admin = false) "duplicate admin"
    addAdmins rest { s with admins := s.admins ++ [admin], isAdmin := update s.isAdmin admin true }

def Config.deploy (config : Config) (usdc : σ) (timestamp : Nat) : Except Revert (World σ) := do
  require (config.usdcToken ≠ .zero) "invalid token"
  require (config.oracleAddress ≠ .zero) "invalid oracle"
  require (config.treasuryAddress ≠ .zero) "invalid treasury"
  require (0 < config.requiredApprovals) "required approvals must be > 0"
  require (config.requiredApprovals ≤ config.admins.length) "not enough admins"
  addAdmins config.admins (config.world usdc timestamp)

/-- The state-changing external functions. -/
inductive Call where
  | pause
  | pauseClaims
  | unpauseClaims
  | proposeUnpause
  | approveUnpause
  | cancelUnpauseProposal
  | disableOracleEmergency
  | createTrade (order : Order)
  | claim
  | claimTreasury
  | releaseFundsStage1 (tradeId : Nat)
  | confirmArrival (tradeId : Nat)
  | openDispute (tradeId : Nat)
  | finalizeAfterDisputeWindow (tradeId : Nat)
  | cancelLockedTradeAfterTimeout (tradeId : Nat)
  | refundInTransitAfterTimeout (tradeId : Nat)
  | proposeDisputeSolution (tradeId : Nat) (disputeStatus : DisputeStatus)
  | approveDisputeSolution (proposalId : Nat)
  | cancelExpiredDisputeProposal (proposalId : Nat)
  | proposeOracleUpdate (newOracle : Address)
  | approveOracleUpdate (proposalId : Nat)
  | executeOracleUpdate (proposalId : Nat)
  | cancelExpiredOracleUpdateProposal (proposalId : Nat)
  | proposeAddAdmin (newAdmin : Address)
  | approveAddAdmin (proposalId : Nat)
  | executeAddAdmin (proposalId : Nat)
  | cancelExpiredAddAdminProposal (proposalId : Nat)
  | proposeTreasuryPayoutAddressUpdate (newPayoutReceiver : Address)
  | approveTreasuryPayoutAddressUpdate (proposalId : Nat)
  | executeTreasuryPayoutAddressUpdate (proposalId : Nat)
  | cancelExpiredTreasuryPayoutAddressUpdateProposal (proposalId : Nat)

def execute (chain : Chain σ Op) (msg : Message) : Call → World σ → Except Revert (World σ)
  | .pause => pause msg
  | .pauseClaims => pauseClaims msg
  | .unpauseClaims => unpauseClaims msg
  | .proposeUnpause => proposeUnpause msg
  | .approveUnpause => approveUnpause msg
  | .cancelUnpauseProposal => cancelUnpauseProposal msg
  | .disableOracleEmergency => disableOracleEmergency msg
  | .createTrade order => createTrade chain msg order
  | .claim => claim chain msg
  | .claimTreasury => claimTreasury chain msg
  | .releaseFundsStage1 tradeId => releaseFundsStage1 msg tradeId
  | .confirmArrival tradeId => confirmArrival msg tradeId
  | .openDispute tradeId => openDispute msg tradeId
  | .finalizeAfterDisputeWindow tradeId => finalizeAfterDisputeWindow msg tradeId
  | .cancelLockedTradeAfterTimeout tradeId => cancelLockedTradeAfterTimeout msg tradeId
  | .refundInTransitAfterTimeout tradeId => refundInTransitAfterTimeout msg tradeId
  | .proposeDisputeSolution tradeId decision => proposeDisputeSolution msg tradeId decision
  | .approveDisputeSolution proposalId => approveDisputeSolution msg proposalId
  | .cancelExpiredDisputeProposal proposalId => cancelExpiredDisputeProposal msg proposalId
  | .proposeOracleUpdate newOracle => proposeOracleUpdate msg newOracle
  | .approveOracleUpdate proposalId => approveOracleUpdate msg proposalId
  | .executeOracleUpdate proposalId => executeOracleUpdate msg proposalId
  | .cancelExpiredOracleUpdateProposal proposalId => cancelExpiredOracleUpdateProposal msg proposalId
  | .proposeAddAdmin newAdmin => proposeAddAdmin msg newAdmin
  | .approveAddAdmin proposalId => approveAddAdmin msg proposalId
  | .executeAddAdmin proposalId => executeAddAdmin msg proposalId
  | .cancelExpiredAddAdminProposal proposalId => cancelExpiredAddAdminProposal msg proposalId
  | .proposeTreasuryPayoutAddressUpdate newPayoutReceiver =>
    proposeTreasuryPayoutAddressUpdate msg newPayoutReceiver
  | .approveTreasuryPayoutAddressUpdate proposalId =>
    approveTreasuryPayoutAddressUpdate msg proposalId
  | .executeTreasuryPayoutAddressUpdate proposalId =>
    executeTreasuryPayoutAddressUpdate msg proposalId
  | .cancelExpiredTreasuryPayoutAddressUpdateProposal proposalId =>
    cancelExpiredTreasuryPayoutAddressUpdateProposal msg proposalId

/-- A transaction: a call of the escrow, or of the token contract by someone
else than the escrow. -/
inductive Action (Op : Type) where
  | escrow (msg : Message) (call : Call)
  | token (msg : Message) (op : Op)

def Action.message : Action Op → Message
  | .escrow msg _ => msg
  | .token msg _ => msg

/-- The block clock does not run backwards, and the escrow itself makes no token
calls besides those in its functions. -/
def Action.Valid (chain : Chain σ Op) (s : World σ) (action : Action Op) : Prop :=
  s.now ≤ action.message.timestamp ∧
    match action with
    | .escrow _ _ => True
    | .token msg _ => msg.sender ≠ chain.self

/-- One transaction; a transaction that reverts changes nothing. -/
def transact (chain : Chain σ Op) (action : Action Op) (s : World σ) : Except Revert (World σ) :=
  match action with
  | .escrow msg call =>
    match execute chain msg call s with
    | .ok s => .ok { s with now := msg.timestamp }
    | .error revert => .error revert
  | .token msg op =>
    match chain.token.call s.usdc msg.sender op with
    | .ok usdc => .ok { s with usdc := usdc, now := msg.timestamp }
    | .error error => .error (.token error)

/-- A deployment after the genesis block. -/
def Config.Deployed (config : Config) (s : World σ) : Prop :=
  ∃ usdc timestamp, 0 < timestamp ∧ config.deploy usdc timestamp = .ok s

def escrowSystem (chain : Chain σ Op) : System (World σ) (Action Op) where
  initial s := ∃ config : Config, config.Deployed s
  step s action next := action.Valid chain s ∧ transact chain action s = .ok next

abbrev EscrowHistory (σ Op : Type) := History (World σ) (Action Op)

/-- A successful step is an escrow call or a token call. -/
theorem step_cases {chain : Chain σ Op} (step : (escrowSystem chain).step s action next) :
    s.now ≤ action.message.timestamp ∧ next.now = action.message.timestamp ∧
      ((∃ msg call result, action = .escrow msg call ∧ execute chain msg call s = .ok result ∧
          next = { result with now := msg.timestamp }) ∨
        ∃ msg op usdc, action = .token msg op ∧ msg.sender ≠ chain.self ∧
          chain.token.call s.usdc msg.sender op = .ok usdc ∧
          next = { s with usdc := usdc, now := msg.timestamp }) := by
  obtain ⟨⟨clock, sender⟩, success⟩ := step
  cases action with
  | escrow msg call =>
    simp only [transact] at success
    split at success
    · rename_i result executed
      cases success
      exact ⟨clock, rfl, .inl ⟨msg, call, result, rfl, executed, rfl⟩⟩
    · cases success
  | token msg op =>
    simp only [transact] at success
    split at success
    · rename_i usdc called
      cases success
      exact ⟨clock, rfl, .inr ⟨msg, op, usdc, rfl, sender, called, rfl⟩⟩
    · cases success

theorem step_escrow {chain : Chain σ Op} (clock : s.now ≤ msg.timestamp)
    (executed : execute chain msg call s = .ok result) :
    (escrowSystem chain).step s (.escrow msg call) { result with now := msg.timestamp } :=
  ⟨⟨clock, trivial⟩, by simp [transact, executed]⟩

end Agroasys.Escrow
