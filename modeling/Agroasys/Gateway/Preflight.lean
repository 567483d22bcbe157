import Agroasys.Escrow.MockUSDC
import Agroasys.Gateway.RouteChecks
import Agroasys.Sdk.Acceptance

namespace Agroasys.Gateway

open Agroasys.Foundation Agroasys.Runtime Agroasys.Sdk Agroasys.Escrow

variable {σ Op : Type} {chain : Chain σ Op} {ethers : Ethers} {s : World σ} {request : GovernanceRequest}

section Calls

/-- The call that a queued action stands for. -/
def QueuedAction.call (ethers : Ethers) (queued : QueuedAction) : Option Call :=
  let target := queued.targetAddress.bind ethers.getAddress
  match queued.contractMethod with
  | "pause" => some .pause
  | "pauseClaims" => some .pauseClaims
  | "unpauseClaims" => some .unpauseClaims
  | "proposeUnpause" => some .proposeUnpause
  | "approveUnpause" => some .approveUnpause
  | "cancelUnpauseProposal" => some .cancelUnpauseProposal
  | "disableOracleEmergency" => some .disableOracleEmergency
  | "claimTreasury" => some .claimTreasury
  | "proposeTreasuryPayoutAddressUpdate" => target.map .proposeTreasuryPayoutAddressUpdate
  | "approveTreasuryPayoutAddressUpdate" => queued.proposalId.map .approveTreasuryPayoutAddressUpdate
  | "executeTreasuryPayoutAddressUpdate" => queued.proposalId.map .executeTreasuryPayoutAddressUpdate
  | "cancelExpiredTreasuryPayoutAddressUpdateProposal" =>
    queued.proposalId.map .cancelExpiredTreasuryPayoutAddressUpdateProposal
  | "proposeOracleUpdate" => target.map .proposeOracleUpdate
  | "approveOracleUpdate" => queued.proposalId.map .approveOracleUpdate
  | "executeOracleUpdate" => queued.proposalId.map .executeOracleUpdate
  | "cancelExpiredOracleUpdateProposal" => queued.proposalId.map .cancelExpiredOracleUpdateProposal
  | _ => none

/-- The call of a route's method, for the proposal and the address that the request spells. -/
def GovernanceRoute.call (ethers : Ethers) (request : GovernanceRequest) : GovernanceRoute → Option Call
  | .pause => some .pause
  | .unpauseProposal => some .proposeUnpause
  | .approveUnpause => some .approveUnpause
  | .cancelUnpause => some .cancelUnpauseProposal
  | .claimsPause => some .pauseClaims
  | .claimsUnpause => some .unpauseClaims
  | .treasurySweep => some .claimTreasury
  | .payoutReceiverProposals => (ethers.getAddress request.address).map .proposeTreasuryPayoutAddressUpdate
  | .approvePayoutReceiver => (proposalNumber request.proposalId).map .approveTreasuryPayoutAddressUpdate
  | .executePayoutReceiver => (proposalNumber request.proposalId).map .executeTreasuryPayoutAddressUpdate
  | .cancelExpiredPayoutReceiver =>
    (proposalNumber request.proposalId).map .cancelExpiredTreasuryPayoutAddressUpdateProposal
  | .disableOracleEmergency => some .disableOracleEmergency
  | .oracleProposals => (ethers.getAddress request.address).map .proposeOracleUpdate
  | .approveOracle => (proposalNumber request.proposalId).map .approveOracleUpdate
  | .executeOracle => (proposalNumber request.proposalId).map .executeOracleUpdate
  | .cancelExpiredOracle => (proposalNumber request.proposalId).map .cancelExpiredOracleUpdateProposal

end Calls

section Guards

/-- A text whose address the escrow takes for a proposal beside the one that is set. -/
def Proposable (ethers : Ethers) (s : World σ) (current : Address) (text : String) : Prop :=
  ∃ address, ethers.getAddress text = some address ∧ address ≠ .zero ∧ address ≠ current ∧
    s.governanceApprovals ≤ s.admins.length

/-- The condition on the proposal that the path names. -/
def Named (raw : String) (condition : Nat → Prop) : Prop :=
  ∃ number, proposalNumber raw = some number ∧ condition number

/-- What the escrow asks of an admin's call of the route's method. -/
def GovernanceRoute.Open (ethers : Ethers) (s : World σ) (msg : Message) (request : GovernanceRequest) :
    GovernanceRoute → Prop
  | .pause => s.paused = false
  | .unpauseProposal => s.paused = true ∧ s.oracleActive = true
  | .approveUnpause => s.hasActiveUnpauseProposal = true ∧ s.unpauseHasApproved msg.sender = false
  | .cancelUnpause => s.hasActiveUnpauseProposal = true
  | .claimsPause => s.claimsPaused = false
  | .claimsUnpause => s.claimsPaused = true
  | .treasurySweep => s.claimsPaused = false ∧ 0 < s.claimableUsdc s.treasuryAddress
  | .payoutReceiverProposals => Proposable ethers s s.treasuryPayoutAddress request.address
  | .approvePayoutReceiver =>
    Named request.proposalId (Approvable s.treasuryPayoutAddressUpdate msg.timestamp msg.sender)
  | .executePayoutReceiver => Named request.proposalId
      (Executable s.governanceApprovals TreasuryPayoutAddressUpdate.eta s.treasuryPayoutAddressUpdate msg.timestamp)
  | .cancelExpiredPayoutReceiver =>
    Named request.proposalId (Cancellable s.treasuryPayoutAddressUpdate msg.timestamp)
  | .disableOracleEmergency => s.oracleActive = true
  | .oracleProposals => Proposable ethers s s.oracleAddress request.address
  | .approveOracle => Named request.proposalId (Approvable s.oracleUpdate msg.timestamp msg.sender)
  | .executeOracle => Named request.proposalId
      (Executable s.governanceApprovals OracleUpdate.eta s.oracleUpdate msg.timestamp)
  | .cancelExpiredOracle => Named request.proposalId (Cancellable s.oracleUpdate msg.timestamp)

/-- The escrow takes the call that the route stands for. -/
def GovernanceRoute.Accepted (ethers : Ethers) (chain : Chain σ Op) (msg : Message) (request : GovernanceRequest)
    (s : World σ) (route : GovernanceRoute) : Prop :=
  ∃ call, route.call ethers request = some call ∧ Accepts chain msg call s

private theorem accepted_some (accepts : Accepts chain msg call s ↔ condition) :
    (∃ other, some call = some other ∧ Accepts chain msg other s) ↔ condition := by
  simp only [Option.some.injEq, exists_eq_left', accepts]

private theorem accepted_map {value : Option α} {call : α → Call} {condition : α → Prop}
    (accepts : ∀ item, Accepts chain msg (call item) s ↔ condition item) :
    (∃ other, value.map call = some other ∧ Accepts chain msg other s) ↔ ∃ item, value = some item ∧ condition item := by
  cases value with
  | none => simp
  | some item => simp [accepts]

/-- The escrow asks nothing else of a call of an admin, but that tokens can be transferred. -/
theorem accepted_iff (run : (escrowSystem chain).Run history s) (admin : s.isAdmin msg.sender = true)
    (transfers : ∃ usdc, chain.token.transfer s.usdc chain.self s.treasuryPayoutAddress
      (s.claimableUsdc s.treasuryAddress) = .ok usdc) (route : GovernanceRoute) :
    route.Accepted ethers chain msg request s ↔ route.Open ethers s msg request := by
  have slot := run_unpauseSlot run
  have pending := run_pendingUnpause run
  have received := run_received run
  cases route with
  | pause => exact accepted_some (accepts_pause admin)
  | unpauseProposal => exact accepted_some (accepts_proposeUnpause admin)
  | approveUnpause =>
    refine accepted_some ((accepts_approveUnpause admin).trans ?_)
    constructor
    · rintro ⟨_, active, _, fresh⟩
      exact ⟨active, fresh⟩
    · rintro ⟨active, fresh⟩
      exact ⟨(slot.active active).1, active, pending active, fresh⟩
  | cancelUnpause =>
    refine accepted_some ((accepts_cancelUnpauseProposal admin).trans ?_)
    exact ⟨And.left, fun active => ⟨active, pending active⟩⟩
  | claimsPause => exact accepted_some (accepts_pauseClaims admin)
  | claimsUnpause => exact accepted_some (accepts_unpauseClaims admin)
  | treasurySweep =>
    exact accepted_some (accepts_claimTreasury (run_claims run s.treasuryAddress) received.current transfers)
  | payoutReceiverProposals => exact accepted_map fun _ => accepts_proposeTreasuryPayoutAddressUpdate admin
  | approvePayoutReceiver => exact accepted_map fun _ => accepts_approveTreasuryPayoutAddressUpdate admin
  | executePayoutReceiver => exact accepted_map fun _ => accepts_executeTreasuryPayoutAddressUpdate admin received
  | cancelExpiredPayoutReceiver =>
    exact accepted_map fun _ => accepts_cancelExpiredTreasuryPayoutAddressUpdateProposal admin
  | disableOracleEmergency => exact accepted_some (accepts_disableOracleEmergency admin)
  | oracleProposals => exact accepted_map fun _ => accepts_proposeOracleUpdate admin
  | approveOracle => exact accepted_map fun _ => accepts_approveOracleUpdate admin
  | executeOracle => exact accepted_map fun _ => accepts_executeOracleUpdate admin
  | cancelExpiredOracle => exact accepted_map fun _ => accepts_cancelExpiredOracleUpdateProposal admin

end Guards

section Checks

/-- The integers that a route reads are ones that the gateway takes. -/
def GovernanceRoute.Legible (s : World σ) (request : GovernanceRequest) : GovernanceRoute → Prop
  | .approveUnpause | .cancelUnpause => UnpauseLegible s
  | .approvePayoutReceiver | .cancelExpiredPayoutReceiver => ∀ number, proposalNumber request.proposalId = some number →
      ProposalLegible TreasuryPayoutAddressUpdate.eta s.treasuryPayoutAddressUpdate number
  | .executePayoutReceiver => ∀ number, proposalNumber request.proposalId = some number →
      ProposalLegible TreasuryPayoutAddressUpdate.eta s.treasuryPayoutAddressUpdate number ∧ StatusLegible s
  | .approveOracle | .cancelExpiredOracle => ∀ number, proposalNumber request.proposalId = some number →
      ProposalLegible OracleUpdate.eta s.oracleUpdate number
  | .executeOracle => ∀ number, proposalNumber request.proposalId = some number →
      ProposalLegible OracleUpdate.eta s.oracleUpdate number ∧ StatusLegible s
  | _ => StatusLegible s

/-- The address beside which a route takes a new one. -/
def GovernanceRoute.current (s : World σ) : GovernanceRoute → Option Address
  | .payoutReceiverProposals => some s.treasuryPayoutAddress
  | .oracleProposals => some s.oracleAddress
  | _ => none

/-- What the checks of a route ask beyond legible integers. -/
def GovernanceRoute.Checked (ethers : Ethers) (s : World σ) (msg : Message) (request : GovernanceRequest)
    (route : GovernanceRoute) : Prop :=
  match route.current s with
  | some current => Proposes ethers current request.address
  | none => route.Open ethers s msg request

/-- What a route queues, where its checks pass. -/
def GovernanceRoute.action (ethers : Ethers) (s : World σ) (request : GovernanceRequest) :
    GovernanceRoute → Option QueuedAction
  | .pause => some ⟨.pause, "pause", none, none⟩
  | .unpauseProposal => some ⟨.unpause, "proposeUnpause", none, none⟩
  | .approveUnpause => some ⟨.unpause, "approveUnpause", none, none⟩
  | .cancelUnpause => some ⟨.unpause, "cancelUnpauseProposal", none, none⟩
  | .claimsPause => some ⟨.claimsPause, "pauseClaims", none, none⟩
  | .claimsUnpause => some ⟨.claimsUnpause, "unpauseClaims", none, none⟩
  | .treasurySweep => some ⟨.treasurySweep, "claimTreasury", none, none⟩
  | .payoutReceiverProposals =>
    some ⟨.treasuryPayoutReceiverUpdate, "proposeTreasuryPayoutAddressUpdate", none, some request.address⟩
  | .approvePayoutReceiver => payoutReceiver "approveTreasuryPayoutAddressUpdate"
  | .executePayoutReceiver => payoutReceiver "executeTreasuryPayoutAddressUpdate"
  | .cancelExpiredPayoutReceiver => payoutReceiver "cancelExpiredTreasuryPayoutAddressUpdateProposal"
  | .disableOracleEmergency =>
    some ⟨.oracleDisableEmergency, "disableOracleEmergency", none, some (ethers.format s.oracleAddress)⟩
  | .oracleProposals => some ⟨.oracleUpdate, "proposeOracleUpdate", none, some request.address⟩
  | .approveOracle => oracle "approveOracleUpdate"
  | .executeOracle => oracle "executeOracleUpdate"
  | .cancelExpiredOracle => oracle "cancelExpiredOracleUpdateProposal"
where
  payoutReceiver (contractMethod : String) : Option QueuedAction :=
    (proposalNumber request.proposalId).map (proposalAction ethers (·.newPayoutReceiver) s.treasuryPayoutAddressUpdate
      .treasuryPayoutReceiverUpdate contractMethod)
  oracle (contractMethod : String) : Option QueuedAction :=
    (proposalNumber request.proposalId).map (proposalAction ethers (·.newOracle) s.oracleUpdate .oracleUpdate
      contractMethod)

private theorem queues_some {result : Except GatewayError QueuedAction}
    (queues : result = .ok queued ↔ legible ∧ condition ∧ queued = action) :
    result = .ok queued ↔ legible ∧ condition ∧ some action = some queued := by
  rw [queues, Option.some.injEq, eq_comm (a := queued)]

private theorem queues_named {result : Except GatewayError QueuedAction} {action : Nat → QueuedAction}
    {legible condition : Nat → Prop}
    (queues : result = .ok queued ↔ ∃ number, proposalNumber raw = some number ∧ legible number ∧ condition number ∧
      queued = action number) :
    result = .ok queued ↔ (∀ number, proposalNumber raw = some number → legible number) ∧ Named raw condition ∧
      (proposalNumber raw).map action = some queued := by
  rw [queues]
  constructor
  · rintro ⟨number, named, legible, holds, rfl⟩
    refine ⟨?_, ⟨number, named, holds⟩, by rw [named, Option.map_some]⟩
    intro other same
    cases named.symm.trans same
    exact legible
  · rintro ⟨legible, ⟨number, named, holds⟩, made⟩
    rw [named, Option.map_some] at made
    exact ⟨number, named, legible number named, holds, (Option.some.inj made).symm⟩

/-- A route asks for legible integers and its checks, and queues its own action. -/
theorem queue_eq_ok (wallet : ethers.resolveAddress request.walletAddress = some msg.sender)
    (checksums : ethers.Checksums) (route : GovernanceRoute) :
    route.queue ethers (governanceContract ethers s) msg.timestamp request = .ok queued ↔
      route.Legible s request ∧ route.Checked ethers s msg request ∧ route.action ethers s request = some queued := by
  cases route with
  | pause => exact queues_some queuePause_eq_ok
  | unpauseProposal => exact queues_some queueUnpauseProposal_eq_ok
  | approveUnpause => exact queues_some (queueApproveUnpause_eq_ok wallet)
  | cancelUnpause => exact queues_some queueCancelUnpause_eq_ok
  | claimsPause => exact queues_some queueClaimsPause_eq_ok
  | claimsUnpause => exact queues_some queueClaimsUnpause_eq_ok
  | treasurySweep => exact queues_some (queueTreasurySweep_eq_ok checksums)
  | payoutReceiverProposals => exact queues_some (queuePayoutReceiverProposal_eq_ok checksums)
  | approvePayoutReceiver => exact queues_named (queueApproval_eq_ok wallet)
  | executePayoutReceiver => exact queues_named queueExecution_eq_ok
  | cancelExpiredPayoutReceiver => exact queues_named queueCancellation_eq_ok
  | disableOracleEmergency => exact queues_some queueDisableOracleEmergency_eq_ok
  | oracleProposals => exact queues_some (queueOracleProposal_eq_ok checksums)
  | approveOracle => exact queues_named (queueApproval_eq_ok wallet)
  | executeOracle => exact queues_named queueExecution_eq_ok
  | cancelExpiredOracle => exact queues_named queueCancellation_eq_ok

variable {route : GovernanceRoute} {queued : QueuedAction} {msg : Message}

/-- What is queued is the call that the request stands for. -/
theorem call_action (acted : route.action ethers s request = some queued) :
    queued.call ethers = route.call ethers request := by
  cases route with
  | approvePayoutReceiver | executePayoutReceiver | cancelExpiredPayoutReceiver | approveOracle | executeOracle |
      cancelExpiredOracle =>
    obtain ⟨number, named, rfl⟩ := Option.map_eq_some_iff.mp acted
    simp only [GovernanceRoute.call, named]
    rfl
  | _ =>
    cases acted
    rfl

/-- Whatever passes the checks of a route has an action. -/
theorem checked_acts (checked : route.Checked ethers s msg request) :
    ∃ queued, route.action ethers s request = some queued := by
  cases route with
  | approvePayoutReceiver | executePayoutReceiver | cancelExpiredPayoutReceiver | approveOracle | executeOracle |
      cancelExpiredOracle =>
    obtain ⟨number, named, _⟩ := checked
    exact ⟨_, Option.map_eq_some_iff.mpr ⟨number, named, rfl⟩⟩
  | _ => exact ⟨_, rfl⟩

end Checks

section Agreement

variable {route : GovernanceRoute} {msg : Message}

/-- What the routes of proposals take for granted of a text and of the escrow: the zero address and the one that is set
are spelled as ethers does, but for case, and there are admins enough for any other. -/
structure Granted (s : World σ) (current : Address) (text : String) (address : Address) : Prop where
  spelled : address = .zero ∨ address = current → toLowerCase text = addressText address
  staffed : address ≠ .zero → address ≠ current → 2 ≤ s.admins.length

private theorem enough_iff (established : Established s) :
    s.governanceApprovals ≤ s.admins.length ↔ 2 ≤ s.admins.length := by
  have staffed := established.staffed
  unfold Parameters.governanceApprovals
  split <;> omega

/-- A text that the escrow would take passes the checks of the routes of proposals. -/
theorem Proposable.proposes (marked : ethers.Marked) (proposable : Proposable ethers s current text) :
    Proposes ethers current text := by
  obtain ⟨address, read, nonzero, fresh, _⟩ := proposable
  refine ⟨Option.isSome_iff_exists.mpr ⟨address, read⟩, ?_, ?_⟩
  · rintro rfl
    exact nonzero (getAddress_zero marked read)
  · intro same
    exact fresh (getAddress_spelled marked read same).2

private theorem proposes_iff (marked : ethers.Marked) (established : Established s) :
    (Proposes ethers current text → Proposable ethers s current text) ↔
      ∀ address, ethers.getAddress text = some address → Granted s current text address := by
  constructor
  · intro passes address read
    have addressed : ethers.isAddress text = true := Option.isSome_iff_exists.mpr ⟨address, read⟩
    constructor
    · intro refused
      by_contra cased
      have named : text ≠ zeroAddress := by
        rintro rfl
        rw [getAddress_zero marked read] at cased
        exact absurd cased (by decide)
      have apart : toLowerCase text ≠ addressText current := by
        intro same
        rw [(getAddress_spelled marked read same).2] at cased
        exact cased same
      obtain ⟨other, again, nonzero, fresh, _⟩ := passes ⟨addressed, named, apart⟩
      cases read.symm.trans again
      exact refused.elim nonzero fresh
    · intro nonzero fresh
      have named : text ≠ zeroAddress := by
        rintro rfl
        exact nonzero (getAddress_zero marked read)
      have apart : toLowerCase text ≠ addressText current :=
        fun same => fresh (getAddress_spelled marked read same).2
      obtain ⟨_, _, _, _, enough⟩ := passes ⟨addressed, named, apart⟩
      exact (enough_iff established).mp enough
  · intro granted proposes
    obtain ⟨address, read⟩ := Option.isSome_iff_exists.mp proposes.1
    obtain ⟨spelled, staffed⟩ := granted address read
    have nonzero : address ≠ .zero := by
      rintro rfl
      exact proposes.2.1 (zero_spelled marked read (spelled (.inl rfl)))
    have fresh : address ≠ current := by
      rintro rfl
      exact proposes.2.2 (spelled (.inr rfl))
    exact ⟨address, read, nonzero, fresh, (enough_iff established).mpr (staffed nonzero fresh)⟩

/-- Where the escrow takes a call, its integers are legible to the gateway; and what the routes of proposals take for
granted holds. -/
structure GovernanceRoute.Preflighted (ethers : Ethers) (s : World σ) (msg : Message) (request : GovernanceRequest)
    (route : GovernanceRoute) : Prop where
  legible : route.Open ethers s msg request → route.Legible s request
  granted : ∀ current, route.current s = some current → StatusLegible s →
    ∀ address, ethers.getAddress request.address = some address → Granted s current request.address address

/-- The checks let a request through when the escrow takes the call. -/
def GovernanceRoute.Agrees (ethers : Ethers) (chain : Chain σ Op) (msg : Message) (request : GovernanceRequest)
    (s : World σ) (route : GovernanceRoute) : Prop :=
  (∃ queued, route.queue ethers (governanceContract ethers s) msg.timestamp request = .ok queued) ↔
    route.Accepted ethers chain msg request s

private theorem passes_iff (wallet : ethers.resolveAddress request.walletAddress = some msg.sender)
    (checksums : ethers.Checksums) :
    (∃ queued, route.queue ethers (governanceContract ethers s) msg.timestamp request = .ok queued) ↔
      route.Legible s request ∧ route.Checked ethers s msg request := by
  simp only [queue_eq_ok wallet checksums, exists_and_left]
  constructor
  · rintro ⟨legible, checked, _⟩
    exact ⟨legible, checked⟩
  · rintro ⟨legible, checked⟩
    exact ⟨legible, checked, checked_acts checked⟩

/-- A route without a new address has the guards of the escrow for its checks. -/
theorem checked_open (marked : ethers.Marked) (opened : route.Open ethers s msg request) :
    route.Checked ethers s msg request := by
  cases route with
  | payoutReceiverProposals | oracleProposals => exact Proposable.proposes marked opened
  | _ => exact opened

private theorem open_checked (marked : ethers.Marked) (established : Established s) :
    (route.Legible s request → route.Checked ethers s msg request → route.Open ethers s msg request) ↔
      ∀ current, route.current s = some current → StatusLegible s →
        ∀ address, ethers.getAddress request.address = some address → Granted s current request.address address := by
  cases route with
  | payoutReceiverProposals | oracleProposals =>
    simp only [GovernanceRoute.current, Option.some.injEq, forall_eq']
    exact imp_congr_right fun _ => proposes_iff marked established
  | _ =>
    refine iff_of_true (fun _ checked => checked) ?_
    intro current absent
    cases absent

theorem governance_agrees_iff (run : (escrowSystem chain).Run history s) (admin : s.isAdmin msg.sender = true)
    (wallet : ethers.resolveAddress request.walletAddress = some msg.sender)
    (transfers : ∃ usdc, chain.token.transfer s.usdc chain.self s.treasuryPayoutAddress
      (s.claimableUsdc s.treasuryAddress) = .ok usdc)
    (checksums : ethers.Checksums) (marked : ethers.Marked) :
    (∀ queued, route.queue ethers (governanceContract ethers s) msg.timestamp request = .ok queued →
      queued.call ethers = route.call ethers request) ∧
      (route.Agrees ethers chain msg request s ↔ route.Preflighted ethers s msg request) := by
  constructor
  · intro queued queues
    exact call_action ((queue_eq_ok wallet checksums route).mp queues).2.2
  · have granted := @open_checked _ ethers s request route msg marked (run_established run)
    rw [GovernanceRoute.Agrees, passes_iff wallet checksums, accepted_iff run admin transfers]
    constructor
    · intro agrees
      exact ⟨fun opened => (agrees.mpr opened).1, granted.mp fun legible checked => agrees.mp ⟨legible, checked⟩⟩
    · intro preflighted
      constructor
      · rintro ⟨legible, checked⟩
        exact granted.mpr preflighted.granted legible checked
      · intro opened
        exact ⟨preflighted.legible opened, checked_open marked opened⟩

theorem succeeds {result : Except ε α} (success : result.toOption.isSome = true) : ∃ value, result = .ok value := by
  cases result with
  | error => cases success
  | ok value => exact ⟨value, rfl⟩

theorem plainEthers_checksums : plainEthers.Checksums :=
  ⟨fun _ => rfl, fun _ => rfl⟩

/-- What an admin asks for with `Mock.admin1`'s wallet. -/
def adminRequest : GovernanceRequest where
  proposalId := "0"
  address := "0x0000000000000000000000000000000000000012"
  walletAddress := "0x00000000000000000000000000000000000000a1"

theorem adminRequest_wallet : plainEthers.resolveAddress adminRequest.walletAddress = some Mock.admin1 := by
  decide +kernel

/-- An escrow as deployed, one of whose admins is `Mock.admin1`. -/
theorem deployed_world {admins : List Address} (deploys : (Mock.scenario (Mock.config admins 1) []).map (fun s =>
      (s.isAdmin Mock.admin1, s.admins, s.requiredApprovals,
        (mockChain.token.transfer s.usdc mockChain.self s.treasuryPayoutAddress
          (s.claimableUsdc s.treasuryAddress)).toOption.isSome)) = some (true, admins, 1, true)) :
    ∃ s history, Mock.scenario (Mock.config admins 1) [] = some s ∧ (escrowSystem mockChain).Run history s ∧
      s.isAdmin Mock.admin1 = true ∧ s.admins = admins ∧ s.requiredApprovals = 1 ∧
      ∃ usdc, mockChain.token.transfer s.usdc mockChain.self s.treasuryPayoutAddress
        (s.claimableUsdc s.treasuryAddress) = .ok usdc := by
  obtain ⟨s, success, facts⟩ := Option.map_eq_some_iff.mp deploys
  simp only [Prod.mk.injEq] at facts
  obtain ⟨admin, staff, required, transfers⟩ := facts
  obtain ⟨history, run⟩ := Mock.scenario_run success
  exact ⟨s, history, success, run, admin, staff, required, succeeds transfers⟩

open Mock in
/-- A new oracle is proposed and the treasury's claim is swept: both pass, and the escrow takes both. -/
theorem routes_agree : ∃ (s : World MockUSDC) (history : EscrowHistory MockUSDC MockUSDC.Operation),
    (escrowSystem mockChain).Run history s ∧ s.claimableUsdc s.treasuryAddress = 15 ∧
      ∀ route ∈ [GovernanceRoute.oracleProposals, .treasurySweep],
        route.Agrees plainEthers mockChain ⟨admin1, 3⟩ adminRequest s ∧
          route.Accepted plainEthers mockChain ⟨admin1, 3⟩ adminRequest s := by
  have outcome : (scenario (config [admin1, admin2] 1) [call buyer 1 (.createTrade order),
      call oracle 2 (.releaseFundsStage1 0)]).map (fun s =>
        ((s.isAdmin admin1, s.admins, s.oracleAddress, s.claimableUsdc s.treasuryAddress),
          (mockChain.token.transfer s.usdc mockChain.self s.treasuryPayoutAddress
            (s.claimableUsdc s.treasuryAddress)).toOption.isSome,
          [GovernanceRoute.oracleProposals, .treasurySweep].all fun route =>
            (route.queue plainEthers (governanceContract plainEthers s) 3 adminRequest).toOption.isSome)) =
      some ((true, [admin1, admin2], oracle, 15), true, true) := by
    decide +kernel
  obtain ⟨s, success, facts⟩ := Option.map_eq_some_iff.mp outcome
  simp only [Prod.mk.injEq] at facts
  obtain ⟨⟨admin, staff, current, claimable⟩, transfers, passing⟩ := facts
  obtain ⟨history, run⟩ := scenario_run success
  refine ⟨s, history, run, claimable, fun route member => ?_⟩
  obtain ⟨queued, queues⟩ := succeeds (List.all_eq_true.mp passing route member)
  have passes : ∃ queued, route.queue plainEthers (governanceContract plainEthers s) (⟨admin1, 3⟩ : Message).timestamp
      adminRequest = .ok queued := ⟨queued, queues⟩
  have read : plainEthers.getAddress adminRequest.address = some ⟨0x12⟩ := by decide +kernel
  have preflighted : route.Preflighted plainEthers s ⟨admin1, 3⟩ adminRequest := by
    refine ⟨fun _ => ((passes_iff adminRequest_wallet plainEthers_checksums).mp passes).1, ?_⟩
    intro beside named _ address given
    cases read.symm.trans given
    refine ⟨?_, fun _ _ => by rw [staff]; decide⟩
    rintro (zero | same)
    · exact absurd zero (by decide)
    · simp only [List.mem_cons, List.not_mem_nil, or_false] at member
      rcases member with rfl | rfl
      · rw [GovernanceRoute.current, current, Option.some.injEq] at named
        exact absurd (same.trans named.symm) (by decide)
      · cases named
  have agrees := (governance_agrees_iff run admin adminRequest_wallet (succeeds transfers) plainEthers_checksums
    plainEthers_marked).2.mpr preflighted
  exact ⟨agrees, agrees.mp passes⟩

/-- The gateway lets through a proposal that an escrow with one admin never takes. -/
theorem soleAdmin_disagrees : ¬ ∀ (s : World MockUSDC) (history : EscrowHistory MockUSDC MockUSDC.Operation)
    (msg : Message) (request : GovernanceRequest) (route : GovernanceRoute),
    (escrowSystem mockChain).Run history s → s.isAdmin msg.sender = true →
    plainEthers.resolveAddress request.walletAddress = some msg.sender →
    (∃ usdc, mockChain.token.transfer s.usdc mockChain.self s.treasuryPayoutAddress
      (s.claimableUsdc s.treasuryAddress) = .ok usdc) →
    route.Agrees plainEthers mockChain msg request s := by
  intro agree
  obtain ⟨s, history, success, run, admin, staff, required, transfers⟩ :=
    @deployed_world [Mock.admin1] (by decide +kernel)
  have agrees := agree s history ⟨Mock.admin1, 2⟩ adminRequest .oracleProposals run admin adminRequest_wallet transfers
  have passes : (Mock.scenario (Mock.config [Mock.admin1] 1) []).map (fun s =>
      (GovernanceRoute.oracleProposals.queue plainEthers (governanceContract plainEthers s) 2 adminRequest).toOption.isSome)
        = some true := by
    decide +kernel
  rw [success] at passes
  have accepted := agrees.mp (succeeds (Option.some.inj passes))
  obtain ⟨_, _, _, _, enough⟩ := (accepted_iff run admin transfers .oracleProposals).mp accepted
  have two := s.two_le_governanceApprovals
  rw [staff] at enough
  exact absurd (two.trans enough) (by decide)

end Agreement

end Agroasys.Gateway
