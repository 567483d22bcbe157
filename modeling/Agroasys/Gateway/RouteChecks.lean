import Agroasys.Escrow.Guards
import Agroasys.Gateway.GovernanceMutations

namespace Agroasys.Gateway

open Agroasys.Foundation Agroasys.Runtime Agroasys.Sdk Agroasys.Escrow

variable {σ Matter : Type} {ethers : Ethers} {s : World σ} {now : Nat}
  {request : GovernanceRequest} {target : Matter → Address} {eta : Matter → Nat} {book : ProposalBook Address Matter}

section Reads

/-- An integer that JavaScript counts up to. -/
def Safe (value : Nat) : Prop :=
  value < 2 ^ 53

theorem toSafeInteger_eq_ok : toSafeInteger value field = .ok numeric ↔ Safe value ∧ numeric = value := by
  unfold toSafeInteger Safe
  dsimp only
  by_cases small : value < 2 ^ 53
  · rw [roundToDouble_exact small, if_pos small, and_iff_right small, Except.ok.injEq, eq_comm]
  · have large := le_roundToDouble (Nat.le_of_not_lt small)
    rw [if_neg (Nat.not_lt.mpr large)]
    constructor
    · intro failed
      cases failed
    · exact fun safe => absurd safe.1 small

private theorem orUnavailable_eq_ok {result : Except GatewayError α} :
    orUnavailable message result = .ok value ↔ result = .ok value := by
  cases result <;> simp [orUnavailable, Except.mapError]

theorem answered_eq_ok {answer : Option α} : answered message answer = .ok value ↔ answer = some value := by
  cases answer <;> simp [answered]

theorem refuseIf_eq_ok {condition : Prop} [Decidable condition] :
    refuseIf condition error = .ok result ↔ ¬ condition := by
  unfold refuseIf
  split <;> simp_all

/-- The numbers of the status that the gateway takes for integers. -/
structure StatusLegible (s : World σ) : Prop where
  approvals : Safe s.governanceApprovals
  timelock : Safe s.governanceTimelock
  admins : Safe s.requiredApprovals
  unpause : s.hasActiveUnpauseProposal = true → Safe s.unpauseProposal.approvalCount

/-- The status that the gateway reads of a state. -/
def snapshot (ethers : Ethers) (s : World σ) : GovernanceStatusSnapshot where
  paused := s.paused
  claimsPaused := s.claimsPaused
  oracleActive := s.oracleActive
  oracleAddress := ethers.format s.oracleAddress
  treasuryAddress := ethers.format s.treasuryAddress
  treasuryPayoutAddress := ethers.format s.treasuryPayoutAddress
  governanceApprovalsRequired := s.governanceApprovals
  governanceTimelockSeconds := s.governanceTimelock
  requiredAdminCount := s.requiredApprovals
  hasActiveUnpauseProposal := s.hasActiveUnpauseProposal
  activeUnpauseApprovals := if s.hasActiveUnpauseProposal then s.unpauseProposal.approvalCount else 0

private theorem activeUnpauseApprovals_eq_ok : activeUnpauseApprovals (governanceContract ethers s) = .ok count ↔
    (s.hasActiveUnpauseProposal = true → Safe s.unpauseProposal.approvalCount) ∧
      count = if s.hasActiveUnpauseProposal then s.unpauseProposal.approvalCount else 0 := by
  change (if s.hasActiveUnpauseProposal then toSafeInteger s.unpauseProposal.approvalCount _ else .ok 0) = _ ↔ _
  cases active : s.hasActiveUnpauseProposal with
  | true => simp [toSafeInteger_eq_ok]
  | false => simp [eq_comm]

theorem getGovernanceStatus_eq_ok : getGovernanceStatus (governanceContract ethers s) = .ok status ↔
    StatusLegible s ∧ status = snapshot ethers s := by
  simp only [getGovernanceStatus, bind_eq_ok, toSafeInteger_eq_ok, activeUnpauseApprovals_eq_ok]
  constructor
  · rintro ⟨_, ⟨approvals, rfl⟩, _, ⟨timelock, rfl⟩, _, ⟨admins, rfl⟩, _, ⟨unpause, rfl⟩, made⟩
    exact ⟨⟨approvals, timelock, admins, unpause⟩, (Except.ok.inj made).symm⟩
  · rintro ⟨⟨approvals, timelock, admins, unpause⟩, rfl⟩
    exact ⟨_, ⟨approvals, rfl⟩, _, ⟨timelock, rfl⟩, _, ⟨admins, rfl⟩, _, ⟨unpause, rfl⟩, rfl⟩

private theorem getUnpauseProposalState_eq_ok : getUnpauseProposalState (governanceContract ethers s) = .ok state ↔
    (s.hasActiveUnpauseProposal = true → Safe s.unpauseProposal.approvalCount) ∧
      state = ⟨s.hasActiveUnpauseProposal, if s.hasActiveUnpauseProposal then s.unpauseProposal.approvalCount else 0,
        s.unpauseProposal.executed⟩ := by
  rw [getUnpauseProposalState, orUnavailable_eq_ok]
  simp only [bind_eq_ok, activeUnpauseApprovals_eq_ok]
  constructor
  · rintro ⟨_, ⟨safe, rfl⟩, made⟩
    exact ⟨safe, (Except.ok.inj made).symm⟩
  · rintro ⟨safe, rfl⟩
    exact ⟨_, ⟨safe, rfl⟩, rfl⟩

/-- The numbers of a proposal that the gateway takes for integers. -/
structure ProposalLegible (eta : Matter → Nat) (book : ProposalBook Address Matter) (proposalId : Nat) : Prop where
  counter : Safe book.counter
  expiry : proposalId < book.counter → Safe (book.expiresAt proposalId)
  approvals : proposalId < book.counter → Safe (book.proposals proposalId).approvalCount
  eta : proposalId < book.counter → Safe (eta (book.proposals proposalId).matter)

/-- The proposal that the gateway finds. -/
def proposalState (ethers : Ethers) (target : Matter → Address) (eta : Matter → Nat)
    (book : ProposalBook Address Matter) (now proposalId : Nat) : GovernanceProposalState where
  proposalId := proposalId
  approvalCount := (book.proposals proposalId).approvalCount
  executed := (book.proposals proposalId).executed
  cancelled := book.cancelled proposalId
  expired := book.expiresAt proposalId < now
  etaSeconds := eta (book.proposals proposalId).matter
  targetAddress := ethers.format (target (book.proposals proposalId).matter)

private theorem getProposalState_eq_ok :
    getProposalState texts (proposalGetters ethers target eta book) now proposalId = .ok (some state) ↔
      ProposalLegible eta book proposalId ∧ proposalId < book.counter ∧
        0 < (book.proposals proposalId).createdAt ∧ state = proposalState ethers target eta book now proposalId := by
  rw [getProposalState, orUnavailable_eq_ok, bind_eq_ok]
  simp only [toSafeInteger_eq_ok]
  constructor
  · rintro ⟨counter, ⟨counted, rfl⟩, found⟩
    split at found
    · cases found
    · rename_i known
      split at found
      · cases found
      · rename_i created
        simp only [bind_eq_ok, toSafeInteger_eq_ok] at found
        obtain ⟨_, ⟨expiry, rfl⟩, _, ⟨approvals, rfl⟩, _, ⟨etas, rfl⟩, made⟩ := found
        cases made
        exact ⟨⟨counted, fun _ => expiry, fun _ => approvals, fun _ => etas⟩, Nat.lt_of_not_le known,
          Nat.lt_of_not_le created, rfl⟩
  · rintro ⟨legible, known, created, rfl⟩
    have within : ¬ (proposalGetters ethers target eta book).counter ≤ proposalId := Nat.not_le_of_lt known
    have opened : ¬ ((proposalGetters ethers target eta book).proposals proposalId).createdAt ≤ 0 :=
      Nat.not_le_of_lt created
    refine ⟨_, ⟨legible.counter, rfl⟩, ?_⟩
    rw [if_neg within, if_neg opened]
    simp only [bind_eq_ok, toSafeInteger_eq_ok]
    exact ⟨_, ⟨legible.expiry known, rfl⟩, _, ⟨legible.approvals known, rfl⟩, _, ⟨legible.eta known, rfl⟩, rfl⟩

end Reads

section Routes

theorem queued_eq_ok {queued action : QueuedAction} :
    (pure action : Except GatewayError QueuedAction) = .ok queued ↔ queued = action := by
  change Except.ok action = _ ↔ _
  rw [Except.ok.injEq, eq_comm]

theorem queuePause_eq_ok : queuePause (governanceContract ethers s) = .ok queued ↔
    StatusLegible s ∧ s.paused = false ∧ queued = ⟨.pause, "pause", none, none⟩ := by
  simp only [queuePause, bind_eq_ok, getGovernanceStatus_eq_ok, refuseIf_eq_ok, queued_eq_ok, and_assoc,
    exists_and_left, exists_eq_left, exists_const, snapshot, Bool.not_eq_true]

theorem queueUnpauseProposal_eq_ok : queueUnpauseProposal (governanceContract ethers s) = .ok queued ↔
    StatusLegible s ∧ (s.paused = true ∧ s.oracleActive = true) ∧
      queued = ⟨.unpause, "proposeUnpause", none, none⟩ := by
  simp only [queueUnpauseProposal, bind_eq_ok, getGovernanceStatus_eq_ok, refuseIf_eq_ok, queued_eq_ok, and_assoc,
    exists_and_left, exists_eq_left, exists_const, snapshot, Bool.not_eq_false]

theorem queueClaimsPause_eq_ok : queueClaimsPause (governanceContract ethers s) = .ok queued ↔
    StatusLegible s ∧ s.claimsPaused = false ∧ queued = ⟨.claimsPause, "pauseClaims", none, none⟩ := by
  simp only [queueClaimsPause, bind_eq_ok, getGovernanceStatus_eq_ok, refuseIf_eq_ok, queued_eq_ok, and_assoc,
    exists_and_left, exists_eq_left, exists_const, snapshot, Bool.not_eq_true]

theorem queueClaimsUnpause_eq_ok : queueClaimsUnpause (governanceContract ethers s) = .ok queued ↔
    StatusLegible s ∧ s.claimsPaused = true ∧ queued = ⟨.claimsUnpause, "unpauseClaims", none, none⟩ := by
  simp only [queueClaimsUnpause, bind_eq_ok, getGovernanceStatus_eq_ok, refuseIf_eq_ok, queued_eq_ok, and_assoc,
    exists_and_left, exists_eq_left, exists_const, snapshot, Bool.not_eq_false]

theorem queueDisableOracleEmergency_eq_ok : queueDisableOracleEmergency (governanceContract ethers s) = .ok queued ↔
    StatusLegible s ∧ s.oracleActive = true ∧
      queued = ⟨.oracleDisableEmergency, "disableOracleEmergency", none, some (ethers.format s.oracleAddress)⟩ := by
  simp only [queueDisableOracleEmergency, bind_eq_ok, getGovernanceStatus_eq_ok, refuseIf_eq_ok, queued_eq_ok, and_assoc,
    exists_and_left, exists_eq_left, exists_const, snapshot, Bool.not_eq_false]

/-- The count of the approvals for unpausing is one that the gateway takes for an integer. -/
def UnpauseLegible (s : World σ) : Prop :=
  s.hasActiveUnpauseProposal = true → Safe s.unpauseProposal.approvalCount

theorem queueApproveUnpause_eq_ok (wallet : ethers.resolveAddress request.walletAddress = some sender) :
    queueApproveUnpause (governanceContract ethers s) request = .ok queued ↔
      UnpauseLegible s ∧ (s.hasActiveUnpauseProposal = true ∧ s.unpauseHasApproved sender = false) ∧
        queued = ⟨.unpause, "approveUnpause", none, none⟩ := by
  have approved : (governanceContract ethers s).unpauseHasApproved request.walletAddress =
      some (s.unpauseHasApproved sender) := by
    change (ethers.resolveAddress request.walletAddress).map s.unpauseHasApproved = _
    rw [wallet, Option.map_some]
  simp only [queueApproveUnpause, bind_eq_ok, getUnpauseProposalState_eq_ok, refuseIf_eq_ok, queued_eq_ok, and_assoc,
    exists_and_left, exists_eq_left, exists_const, hasApprovedUnpause, answered_eq_ok, approved, Option.some.injEq,
    exists_eq_left', Bool.not_eq_false, Bool.not_eq_true, UnpauseLegible]

theorem queueCancelUnpause_eq_ok : queueCancelUnpause (governanceContract ethers s) = .ok queued ↔
    UnpauseLegible s ∧ s.hasActiveUnpauseProposal = true ∧ queued = ⟨.unpause, "cancelUnpauseProposal", none, none⟩ := by
  simp only [queueCancelUnpause, bind_eq_ok, getUnpauseProposalState_eq_ok, refuseIf_eq_ok, queued_eq_ok, and_assoc,
    exists_and_left, exists_eq_left, exists_const, Bool.not_eq_false, UnpauseLegible]

theorem queueTreasurySweep_eq_ok (checksums : ethers.Checksums) :
    queueTreasurySweep (governanceContract ethers s) = .ok queued ↔
      StatusLegible s ∧ (s.claimsPaused = false ∧ 0 < s.claimableUsdc s.treasuryAddress) ∧
        queued = ⟨.treasurySweep, "claimTreasury", none, none⟩ := by
  have claimable : (governanceContract ethers s).claimableUsdc (governanceContract ethers s).treasuryAddress =
      some (s.claimableUsdc s.treasuryAddress) := by
    change (ethers.resolveAddress (ethers.format s.treasuryAddress)).map s.claimableUsdc = _
    rw [resolveAddress_format checksums, Option.map_some]
  simp only [queueTreasurySweep, bind_eq_ok, getGovernanceStatus_eq_ok, refuseIf_eq_ok, queued_eq_ok, and_assoc,
    exists_and_left, exists_eq_left, exists_const, snapshot, getTreasuryClaimableBalance, answered_eq_ok, claimable,
    Option.some.injEq, exists_eq_left', Bool.not_eq_true, Nat.not_le]

/-- The number that a path parameter spells. -/
def proposalNumber (raw : String) : Option Nat :=
  if raw.toList ≠ [] ∧ raw.toList.all Char.isDigit then some (Nat.ofDigitChars 10 raw.toList 0) else none

private theorem validateProposalId_eq_ok : validateProposalId raw = .ok proposalId ↔
    ∃ number, proposalNumber raw = some number ∧ proposalId = roundToDouble number := by
  unfold validateProposalId proposalNumber
  split
  · simp [eq_comm]
  · simp

private theorem foundProposal_eq_ok : foundProposal texts found = .ok proposal ↔ found = some proposal := by
  cases found <;> simp [foundProposal]

/-- The proposal that a path names, where the gateway finds it. -/
structure Finds (eta : Matter → Nat) (book : ProposalBook Address Matter) (number : Nat) : Prop where
  legible : ProposalLegible eta book number
  known : number < book.counter
  created : 0 < (book.proposals number).createdAt

theorem found_eq_ok {next : Nat → GovernanceProposalState → Except GatewayError QueuedAction} :
    (do
      let proposalId ← validateProposalId raw
      let found ← getProposalState texts (proposalGetters ethers target eta book) now proposalId
      let proposal ← foundProposal texts found
      next proposalId proposal) = .ok queued ↔
    ∃ number, proposalNumber raw = some number ∧ Finds eta book number ∧
      next number (proposalState ethers target eta book now number) = .ok queued := by
  simp only [bind_eq_ok, validateProposalId_eq_ok, foundProposal_eq_ok]
  constructor
  · rintro ⟨_, ⟨number, named, rfl⟩, _, read, state, rfl, queues⟩
    obtain ⟨legible, known, created, rfl⟩ := getProposalState_eq_ok.mp read
    have same : roundToDouble number = number := roundToDouble_small (known.trans legible.counter)
    rw [same] at legible known created queues
    exact ⟨number, named, ⟨legible, known, created⟩, queues⟩
  · rintro ⟨number, named, finds, queues⟩
    have same := roundToDouble_exact (finds.known.trans finds.legible.counter)
    refine ⟨_, ⟨number, named, rfl⟩, ?_⟩
    rw [same]
    exact ⟨_, getProposalState_eq_ok.mpr ⟨finds.legible, finds.known, finds.created, rfl⟩, _, rfl, queues⟩

/-- What a route of a family queues about a proposal. -/
def proposalAction (ethers : Ethers) (target : Matter → Address) (book : ProposalBook Address Matter)
    (category : GovernanceActionCategory) (contractMethod : String) (number : Nat) : QueuedAction :=
  ⟨category, contractMethod, some number, some (ethers.format (target (book.proposals number).matter))⟩

theorem queueApproval_eq_ok (wallet : ethers.resolveAddress request.walletAddress = some sender) :
    queueApproval request texts (getProposalState texts (proposalGetters ethers target eta book) now)
        (hasApprovedProposal texts (proposalGetters ethers target eta book)) category contractMethod = .ok queued ↔
      ∃ number, proposalNumber request.proposalId = some number ∧ ProposalLegible eta book number ∧
        Approvable book now sender number ∧
        queued = proposalAction ethers target book category contractMethod number := by
  have votes (number : Nat) : (proposalGetters ethers target eta book).hasApproved number request.walletAddress =
      some (book.hasApproved number sender) := by
    change (ethers.resolveAddress request.walletAddress).map (book.hasApproved number) = _
    rw [wallet, Option.map_some]
  rw [queueApproval, found_eq_ok]
  simp only [bind_eq_ok, refuseIf_eq_ok, exists_const, hasApprovedProposal, answered_eq_ok, votes, queued_eq_ok,
    proposalState, Option.some.injEq, exists_eq_left', not_or, Bool.not_eq_true, decide_eq_true_eq, Nat.not_lt]
  constructor
  · rintro ⟨number, named, ⟨legible, known, created⟩, ⟨pending, standing, unexpired⟩, fresh, made⟩
    exact ⟨number, named, legible, ⟨created, ⟨known, pending, standing, unexpired⟩, fresh⟩, made⟩
  · rintro ⟨number, named, legible, ⟨created, ⟨known, pending, standing, unexpired⟩, fresh⟩, made⟩
    exact ⟨number, named, ⟨legible, known, created⟩, ⟨pending, standing, unexpired⟩, fresh, made⟩

theorem queueExecution_eq_ok :
    queueExecution (governanceContract ethers s) now request texts
        (getProposalState texts (proposalGetters ethers target eta book) now) category contractMethod = .ok queued ↔
      ∃ number, proposalNumber request.proposalId = some number ∧ (ProposalLegible eta book number ∧ StatusLegible s) ∧
        Executable s.governanceApprovals eta book now number ∧
        queued = proposalAction ethers target book category contractMethod number := by
  rw [queueExecution, found_eq_ok]
  simp only [bind_eq_ok, refuseIf_eq_ok, exists_const, getGovernanceStatus_eq_ok, and_assoc, exists_and_left,
    exists_eq_left, queued_eq_ok, proposalState, snapshot, not_or, Bool.not_eq_true, decide_eq_true_eq, Nat.not_lt,
    gt_iff_lt]
  constructor
  · rintro ⟨number, named, ⟨legible, known, created⟩, pending, standing, unexpired, status, _, enough, elapsed, made⟩
    have approved := Nat.le_of_not_lt (refuseIf_eq_ok.mp enough)
    exact ⟨number, named, legible, status, ⟨created, ⟨known, pending, standing, unexpired⟩, approved, elapsed⟩, made⟩
  · rintro ⟨number, named, legible, status, ⟨created, ⟨known, pending, standing, unexpired⟩, approved, elapsed⟩, made⟩
    exact ⟨number, named, ⟨legible, known, created⟩, pending, standing, unexpired, status, (),
      refuseIf_eq_ok.mpr (Nat.not_lt.mpr approved), elapsed, made⟩

theorem queueCancellation_eq_ok :
    queueCancellation request texts (getProposalState texts (proposalGetters ethers target eta book) now) category
        contractMethod = .ok queued ↔
      ∃ number, proposalNumber request.proposalId = some number ∧ ProposalLegible eta book number ∧
        Cancellable book now number ∧ queued = proposalAction ethers target book category contractMethod number := by
  rw [queueCancellation, found_eq_ok]
  simp only [bind_eq_ok, refuseIf_eq_ok, exists_const, queued_eq_ok, proposalState, not_or, not_not, Bool.not_eq_true,
    decide_eq_true_eq]
  constructor
  · rintro ⟨number, named, ⟨legible, known, created⟩, ⟨pending, standing, expired⟩, made⟩
    exact ⟨number, named, legible, ⟨known, created, pending, standing, expired⟩, made⟩
  · rintro ⟨number, named, legible, ⟨known, created, pending, standing, expired⟩, made⟩
    exact ⟨number, named, ⟨legible, known, created⟩, ⟨pending, standing, expired⟩, made⟩

/-- What `validateAddressInput` takes. -/
theorem validateAddressInput_eq_ok : validateAddressInput ethers value field = .ok result ↔
    ethers.isAddress value = true ∧ value ≠ zeroAddress ∧ result = value := by
  have made : (pure value : Except GatewayError String) = .ok result ↔ result = value := by
    change Except.ok value = _ ↔ _
    rw [Except.ok.injEq, eq_comm]
  simp only [validateAddressInput, bind_eq_ok, refuseIf_eq_ok, exists_const, made, Bool.not_eq_false, ne_eq]

/-- A text that the routes of proposals take for a new address. -/
def Proposes (ethers : Ethers) (current : Address) (text : String) : Prop :=
  ethers.isAddress text = true ∧ text ≠ zeroAddress ∧ toLowerCase text ≠ addressText current

theorem queuePayoutReceiverProposal_eq_ok (checksums : ethers.Checksums) :
    queuePayoutReceiverProposal ethers (governanceContract ethers s) request = .ok queued ↔
      StatusLegible s ∧ Proposes ethers s.treasuryPayoutAddress request.address ∧
        queued = ⟨.treasuryPayoutReceiverUpdate, "proposeTreasuryPayoutAddressUpdate", none, some request.address⟩ := by
  simp only [queuePayoutReceiverProposal, bind_eq_ok, getGovernanceStatus_eq_ok, validateAddressInput_eq_ok,
    refuseIf_eq_ok, queued_eq_ok, and_assoc, exists_and_left, exists_eq_left, exists_const, snapshot,
    format_lowered checksums, Proposes, ne_eq]

theorem queueOracleProposal_eq_ok (checksums : ethers.Checksums) :
    queueOracleProposal ethers (governanceContract ethers s) request = .ok queued ↔
      StatusLegible s ∧ Proposes ethers s.oracleAddress request.address ∧
        queued = ⟨.oracleUpdate, "proposeOracleUpdate", none, some request.address⟩ := by
  simp only [queueOracleProposal, bind_eq_ok, getGovernanceStatus_eq_ok, validateAddressInput_eq_ok, refuseIf_eq_ok,
    queued_eq_ok, and_assoc, exists_and_left, exists_eq_left, exists_const, snapshot, format_lowered checksums, Proposes,
    ne_eq]

end Routes

end Agroasys.Gateway
