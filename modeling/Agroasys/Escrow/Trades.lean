import Agroasys.Escrow.Storage

namespace Agroasys.Escrow

open Function

variable {σ Op : Type}

/-- The arguments of `createTrade`. -/
structure Order where
  supplier : Address
  totalAmount : Word
  logisticsAmount : Word
  platformFeesAmount : Word
  supplierFirstTranche : Word
  supplierSecondTranche : Word
  ricardianHash : Bytes32
  buyerNonce : Word
  deadline : Word
  signature : Bytes

def Word.toBytes (word : Word) : Bytes :=
  (List.range 32).map fun index => word.extractLsb' (8 * (31 - index)) 8

def Address.toWord (address : Address) : Word := address.bits.zeroExtend 256

/-- `abi.encode` of static values: one 32-byte word each. -/
def abiEncode (words : List Word) : Bytes := words.flatMap Word.toBytes

/-- The preamble of EIP-191 `personal_sign` for a 32-byte message. -/
def personalSignPreamble : Bytes :=
  "\x19Ethereum Signed Message:\n32".toList.map fun char => BitVec.ofNat 8 char.toNat

def messageHash (chain : Chain σ Op) (treasury buyer : Address) (order : Order) : Bytes32 :=
  chain.keccak256 (abiEncode [chain.chainid, chain.self.toWord, buyer.toWord, order.supplier.toWord,
    treasury.toWord, order.totalAmount, order.logisticsAmount, order.platformFeesAmount,
    order.supplierFirstTranche, order.supplierSecondTranche, order.ricardianHash, order.buyerNonce,
    order.deadline])

def ethSignedHash (chain : Chain σ Op) (treasury buyer : Address) (order : Order) : Bytes32 :=
  chain.keccak256 (personalSignPreamble ++ Word.toBytes (messageHash chain treasury buyer order))

/-- `_verifySignature`. -/
def verifySignature (chain : Chain σ Op) (msg : Message) (buyer : Address) (order : Order)
    (s : World σ) : Except Revert Address := do
  require (msg.timestamp ≤ order.deadline.toNat) "signature expired"
  match chain.recover (ethSignedHash chain s.treasuryAddress buyer order) order.signature with
  | some signer => return signer
  | none => throw .signature

/-- `usdcToken.safeTransferFrom(source, address(this), amount)`. -/
def safeTransferFrom (chain : Chain σ Op) (source : Address) (amount : Nat) (s : World σ) :
    Except Revert (World σ) :=
  match chain.token.transferFrom s.usdc chain.self source chain.self amount with
  | .ok usdc => .ok { s with usdc := usdc }
  | .error error => .error (.token error)

/-- `usdcToken.safeTransfer(target, amount)`. -/
def safeTransfer (chain : Chain σ Op) (target : Address) (amount : Nat) (s : World σ) :
    Except Revert (World σ) :=
  match chain.token.transfer s.usdc chain.self target amount with
  | .ok usdc => .ok { s with usdc := usdc }
  | .error error => .error (.token error)

/-- The trade `createTrade` stores. -/
def Order.trade (order : Order) (tradeId : Nat) (buyer : Address) (createdAt : Nat) : Trade where
  tradeId := tradeId
  ricardianHash := order.ricardianHash
  status := .locked
  buyerAddress := buyer
  supplierAddress := order.supplier
  totalAmountLocked := order.totalAmount.toNat
  logisticsAmount := order.logisticsAmount.toNat
  platformFeesAmount := order.platformFeesAmount.toNat
  supplierFirstTranche := order.supplierFirstTranche.toNat
  supplierSecondTranche := order.supplierSecondTranche.toNat
  createdAt := createdAt
  arrivalTimestamp := 0

def createTrade (chain : Chain σ Op) (msg : Message) (order : Order) (s : World σ) :
    Except Revert (World σ) := do
  whenNotPaused s
  require (order.ricardianHash ≠ 0) "ricardian hash required"
  require (order.supplier ≠ .zero) "supplier required"
  let fees ← checkedAdd .createTrade order.logisticsAmount.toNat order.platformFeesAmount.toNat
  let withFirst ← checkedAdd .createTrade fees order.supplierFirstTranche.toNat
  let totalExpected ← checkedAdd .createTrade withFirst order.supplierSecondTranche.toNat
  require (order.totalAmount.toNat = totalExpected) "breakdown mismatch"
  require (0 < order.supplierFirstTranche.toNat ∧ 0 < order.supplierSecondTranche.toNat)
    "tranches must be > 0"
  require (order.buyerNonce.toNat = s.nonces msg.sender) "bad nonce"
  let signer ← verifySignature chain msg msg.sender order s
  require (signer = msg.sender) "bad signature"
  let newTradeId := s.tradeCounter
  let trade := order.trade newTradeId msg.sender msg.timestamp
  let s := { s with
    nonces := update s.nonces msg.sender (order.buyerNonce.toNat + 1)
    tradeCounter := s.tradeCounter + 1
    trades := update s.trades newTradeId trade }
  let s ← safeTransferFrom chain msg.sender order.totalAmount.toNat s
  return s.emit [.tradeLocked newTradeId msg.sender order.supplier trade.totalAmountLocked
    trade.logisticsAmount trade.platformFeesAmount trade.supplierFirstTranche
    trade.supplierSecondTranche order.ricardianHash]

/-- `_accrueClaimable`. -/
def accrueClaimable (tradeId : Nat) (recipient : Address) (amount : Nat) (claimType : ClaimType)
    (s : World σ) : Except Revert (World σ) := do
  if amount = 0 then return s
  let claimable ← checkedAdd .accrueClaimable (s.claimableUsdc recipient) amount
  let total ← checkedAdd .accrueClaimable s.totalClaimableUsdc amount
  return { s with
    claimableUsdc := update s.claimableUsdc recipient claimable
    totalClaimableUsdc := total }.emit [.claimableAccrued tradeId recipient amount claimType]

def claim (chain : Chain σ Op) (msg : Message) (s : World σ) : Except Revert (World σ) := do
  whenClaimsNotPaused s
  let amount := s.claimableUsdc msg.sender
  require (0 < amount) "nothing claimable"
  let total ← checkedSub .claim s.totalClaimableUsdc amount
  let s := { s with
    claimableUsdc := update s.claimableUsdc msg.sender 0
    totalClaimableUsdc := total }
  let s ← safeTransfer chain msg.sender amount s
  return s.emit [.claimed msg.sender amount]

def claimTreasury (chain : Chain σ Op) (msg : Message) (s : World σ) : Except Revert (World σ) := do
  whenClaimsNotPaused s
  let amount := s.claimableUsdc s.treasuryAddress
  require (0 < amount) "nothing treasury claimable"
  let payoutReceiver := s.treasuryPayoutAddress
  require (payoutReceiver ≠ .zero) "invalid treasury payout receiver"
  let total ← checkedSub .claimTreasury s.totalClaimableUsdc amount
  let s := { s with
    claimableUsdc := update s.claimableUsdc s.treasuryAddress 0
    totalClaimableUsdc := total }
  let s ← safeTransfer chain payoutReceiver amount s
  return s.emit [.treasuryClaimed s.treasuryAddress payoutReceiver amount msg.sender]

/-- Writes `trades[tradeId].status`. -/
def setStatus (tradeId : Nat) (status : TradeStatus) (s : World σ) : World σ :=
  { s with trades := update s.trades tradeId { s.trades tradeId with status := status } }

def setInTransitSince (tradeId timestamp : Nat) (s : World σ) : World σ :=
  { s with inTransitSince := update s.inTransitSince tradeId timestamp }

def releaseFundsStage1 (msg : Message) (tradeId : Nat) (s : World σ) : Except Revert (World σ) := do
  onlyOracle msg s
  onlyOracleActive s
  whenNotPaused s
  require (tradeId < s.tradeCounter) "trade not found"
  let trade := s.trades tradeId
  require (trade.status = .locked) "status must be LOCKED"
  let s := setInTransitSince tradeId msg.timestamp (setStatus tradeId .inTransit s)
  let s ← accrueClaimable tradeId trade.supplierAddress trade.supplierFirstTranche .stage1Supplier s
  let s ← accrueClaimable tradeId s.treasuryAddress trade.logisticsAmount .stage1LogisticsFee s
  let s ← accrueClaimable tradeId s.treasuryAddress trade.platformFeesAmount .stage1PlatformFee s
  return s.emit
    [.fundsReleasedStage1 tradeId trade.supplierAddress trade.supplierFirstTranche s.treasuryAddress
      trade.logisticsAmount,
     .platformFeesPaidStage1 tradeId s.treasuryAddress trade.platformFeesAmount]

def confirmArrival (msg : Message) (tradeId : Nat) (s : World σ) : Except Revert (World σ) := do
  onlyOracle msg s
  onlyOracleActive s
  whenNotPaused s
  require (tradeId < s.tradeCounter) "trade not found"
  let trade := s.trades tradeId
  require (trade.status = .inTransit) "status must be IN_TRANSIT"
  let arrived := { trade with status := .arrivalConfirmed, arrivalTimestamp := msg.timestamp }
  let s := { s with trades := update s.trades tradeId arrived }
  return (setInTransitSince tradeId 0 s).emit [.arrivalConfirmed tradeId msg.timestamp]

/-- The time guard of `openDispute`. -/
def Trade.disputeOpen (trade : Trade) (timestamp : Nat) : Prop :=
  timestamp ≤ trade.arrivalTimestamp + disputeWindow

/-- The time guard of `finalizeAfterDisputeWindow`. -/
def Trade.disputeElapsed (trade : Trade) (timestamp : Nat) : Prop :=
  timestamp > trade.arrivalTimestamp + disputeWindow

instance (trade : Trade) (timestamp : Nat) : Decidable (trade.disputeOpen timestamp) :=
  inferInstanceAs (Decidable (_ ≤ _))

instance (trade : Trade) (timestamp : Nat) : Decidable (trade.disputeElapsed timestamp) :=
  inferInstanceAs (Decidable (_ > _))

def openDispute (msg : Message) (tradeId : Nat) (s : World σ) : Except Revert (World σ) := do
  whenNotPaused s
  require (tradeId < s.tradeCounter) "trade not found"
  let trade := s.trades tradeId
  require (trade.buyerAddress = msg.sender) "only buyer"
  require (trade.status = .arrivalConfirmed) "must be ARRIVAL_CONFIRMED"
  require (0 < trade.arrivalTimestamp) "arrival not set"
  require (trade.disputeOpen msg.timestamp) "window closed"
  return (setStatus tradeId .frozen s).emit [.disputeOpenedByBuyer tradeId]

def finalizeAfterDisputeWindow (msg : Message) (tradeId : Nat) (s : World σ) :
    Except Revert (World σ) := do
  whenNotPaused s
  require (tradeId < s.tradeCounter) "trade not found"
  let trade := s.trades tradeId
  require (trade.status = .arrivalConfirmed) "must be ARRIVAL_CONFIRMED"
  require (0 < trade.arrivalTimestamp) "arrival not set"
  require (trade.disputeElapsed msg.timestamp) "window not elapsed"
  let s := setInTransitSince tradeId 0 (setStatus tradeId .closed s)
  let s ← accrueClaimable tradeId trade.supplierAddress trade.supplierSecondTranche .stage2Supplier s
  return s.emit [.finalTrancheReleased tradeId trade.supplierAddress trade.supplierSecondTranche]

def cancelLockedTradeAfterTimeout (msg : Message) (tradeId : Nat) (s : World σ) :
    Except Revert (World σ) := do
  whenNotPaused s
  require (tradeId < s.tradeCounter) "trade not found"
  let trade := s.trades tradeId
  require (trade.buyerAddress = msg.sender) "only buyer"
  require (trade.status = .locked) "status must be LOCKED"
  require (msg.timestamp > trade.createdAt + lockTimeout) "lock timeout not elapsed"
  let s := setStatus tradeId .closed s
  let s ← accrueClaimable tradeId trade.buyerAddress trade.totalAmountLocked .lockTimeoutBuyerRefund s
  return s.emit [.tradeCancelledAfterLockTimeout tradeId trade.buyerAddress trade.totalAmountLocked]

def refundInTransitAfterTimeout (msg : Message) (tradeId : Nat) (s : World σ) :
    Except Revert (World σ) := do
  whenNotPaused s
  require (tradeId < s.tradeCounter) "trade not found"
  let trade := s.trades tradeId
  require (trade.buyerAddress = msg.sender) "only buyer"
  require (trade.status = .inTransit) "status must be IN_TRANSIT"
  let transitStart := s.inTransitSince tradeId
  require (0 < transitStart) "in-transit timestamp not set"
  require (msg.timestamp > transitStart + inTransitTimeout) "in-transit timeout not elapsed"
  let s := setInTransitSince tradeId 0 (setStatus tradeId .closed s)
  let s ← accrueClaimable tradeId trade.buyerAddress trade.supplierSecondTranche
    .inTransitTimeoutBuyerRefund s
  return s.emit [.inTransitTimeoutRefunded tradeId trade.buyerAddress trade.supplierSecondTranche]

end Agroasys.Escrow
