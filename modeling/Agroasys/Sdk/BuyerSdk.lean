import Agroasys.Foundation.Contracts
import Agroasys.Sdk.Ethers

/-! The buyer's SDK: validation of a trade's parameters, the signed message and the
`createTrade` call. -/

namespace Agroasys.Sdk

open Agroasys.Foundation Agroasys.Runtime Agroasys.Escrow

structure TradeParameters where
  supplier : String
  totalAmount : Int
  logisticsAmount : Int
  platformFeesAmount : Int
  supplierFirstTranche : Int
  supplierSecondTranche : Int
  ricardianHash : String
  deadline : Option JsNumber

/-- An `AgroasysSDKError` of one of these classes, or what the signer itself raises. -/
inductive SdkError where
  | validation (message : String)
  | signature (message : String)
  | contract (message : String)
  | raised (message : String)
  deriving DecidableEq

section Validation

variable (ethers : Ethers)

/-- `if (failed) throw new ValidationError(message)`. -/
def refuseWhen (failed : Prop) [Decidable failed] (message : String) : Except SdkError Unit :=
  if failed then .error (.validation message) else .ok ()

def validateAddress (address fieldName : String) : Except SdkError Unit := do
  refuseWhen (ethers.isAddress address = false) ("invalid " ++ fieldName ++ " address")
  refuseWhen (address = zeroAddress) (fieldName ++ " cannot be zero address")

def TradeParameters.expectedTotal (params : TradeParameters) : Int :=
  params.logisticsAmount + params.platformFeesAmount + params.supplierFirstTranche + params.supplierSecondTranche

def validateTradeParameters (params : TradeParameters) : Except SdkError Unit := do
  validateAddress ethers params.supplier "supplier"
  refuseWhen (params.totalAmount ≤ 0) "totalAmount must be positive"
  refuseWhen (params.logisticsAmount < 0) "logisticsAmount cannot be negative"
  refuseWhen (params.platformFeesAmount < 0) "platformFeesAmount cannot be negative"
  refuseWhen (params.supplierFirstTranche ≤ 0) "supplierFirstTranche must be positive"
  refuseWhen (params.supplierSecondTranche ≤ 0) "supplierSecondTranche must be positive"
  refuseWhen (params.totalAmount ≠ params.expectedTotal) "amount breakdown does not match totalAmount"
  refuseWhen (hexWord false params.ricardianHash.toList = none) "ricardianHash must be a 32-byte hex string (0x...)"

end Validation

section Signature

variable (ethers : Ethers) (keccak256 : Bytes → Bytes32)

/-- The thirteen words of a trade message, where the coder accepts them all. -/
def tradeMessageWords (chainId : JsNumber) (escrowAddress buyerAddress treasuryAddress : String)
    (params : TradeParameters) (nonce : Int) (deadline : JsNumber) : Option (List Word) := do
  let chainId ← (getBigInt chainId).bind uint256
  let escrow ← ethers.getAddress escrowAddress
  let buyer ← ethers.getAddress buyerAddress
  let supplier ← ethers.getAddress params.supplier
  let treasury ← ethers.getAddress treasuryAddress
  let totalAmount ← uint256 params.totalAmount
  let logisticsAmount ← uint256 params.logisticsAmount
  let platformFeesAmount ← uint256 params.platformFeesAmount
  let supplierFirstTranche ← uint256 params.supplierFirstTranche
  let supplierSecondTranche ← uint256 params.supplierSecondTranche
  let ricardianHash ← bytes32 params.ricardianHash
  let nonce ← uint256 nonce
  let deadline ← (getBigInt deadline).bind uint256
  return [chainId, escrow.toWord, buyer.toWord, supplier.toWord, treasury.toWord, totalAmount, logisticsAmount,
    platformFeesAmount, supplierFirstTranche, supplierSecondTranche, ricardianHash, nonce, deadline]

def createTradeMessageHash (chainId : JsNumber) (escrowAddress buyerAddress treasuryAddress : String)
    (params : TradeParameters) (nonce : Int) (deadline : JsNumber) : Option Bytes32 :=
  (tradeMessageWords ethers chainId escrowAddress buyerAddress treasuryAddress params nonce deadline).map fun words =>
    keccak256 (abiEncode words)

/-- The arguments that the call carries, where ethers accepts them all. -/
def createTradeCall (params : TradeParameters) (nonce : Int) (deadline : JsNumber) (signature : Bytes) :
    Option Order := do
  let supplier ← ethers.resolveAddress params.supplier
  let totalAmount ← uint256 params.totalAmount
  let logisticsAmount ← uint256 params.logisticsAmount
  let platformFeesAmount ← uint256 params.platformFeesAmount
  let supplierFirstTranche ← uint256 params.supplierFirstTranche
  let supplierSecondTranche ← uint256 params.supplierSecondTranche
  let ricardianHash ← bytes32 params.ricardianHash
  let nonce ← uint256 nonce
  let deadline ← (getBigInt deadline).bind uint256
  return ⟨supplier, totalAmount, logisticsAmount, platformFeesAmount, supplierFirstTranche, supplierSecondTranche,
    ricardianHash, nonce, deadline, signature⟩

end Signature

/-- What the SDK asks of the signer, the chain and the clock. -/
inductive BuyerEffect where
  | getAddress
  | allowance (owner : String)
  | approve (amount : Int)
  | getBuyerNonce (buyer : String)
  | now
  | treasuryAddress
  | signMessage (message : Bytes)
  | createTrade (order : Order)

/-- `now` is in milliseconds. -/
abbrev BuyerAnswer : BuyerEffect → Type
  | .getAddress | .treasuryAddress => Except String String
  | .allowance _ | .getBuyerNonce _ => Except String Int
  | .approve _ | .createTrade _ => Except String Unit
  | .now => Int
  | .signMessage _ => Except String Bytes

abbrev BuyerTask := Task BuyerEffect BuyerAnswer SdkError

def askBuyer (effect : BuyerEffect) : BuyerTask (BuyerAnswer effect) :=
  monadLift (Program.perform effect : Program BuyerEffect BuyerAnswer (BuyerAnswer effect))

structure SdkConfig where
  chainId : JsNumber
  escrowAddress : String

section Client

variable (ethers : Ethers) (keccak256 : Bytes → Bytes32) (config : SdkConfig)

/-- An answer, or an error of the SDK that names the cause. -/
def orThrow {α : Type} (error : String → SdkError) (action : String) (result : Except String α) :
    Except SdkError α :=
  result.mapError fun cause => error ("Failed to " ++ action ++ ": " ++ cause)

def getSignerAddress : BuyerTask String := do
  Task.ofExcept ((← askBuyer .getAddress).mapError .raised)

def getUSDCAllowance (buyerAddress : String) : BuyerTask Int := do
  Task.ofExcept (validateAddress ethers buyerAddress "buyer")
  Task.ofExcept (orThrow .contract "get USDC allowance" (← askBuyer (.allowance buyerAddress)))

def approveUSDC (amount : Int) : BuyerTask Unit := do
  Task.ofExcept (orThrow .contract "approve USDC" (← askBuyer (.approve amount)))

def getBuyerNonce (buyerAddress : String) : BuyerTask Int := do
  Task.ofExcept (validateAddress ethers buyerAddress "buyer")
  Task.ofExcept (orThrow .contract "get buyer nonce" (← askBuyer (.getBuyerNonce buyerAddress)))

def getTreasuryAddress : BuyerTask String := do
  Task.ofExcept (orThrow .contract "get treasury address" (← askBuyer .treasuryAddress))

def signTradeMessage (treasuryAddress : String) (params : TradeParameters) (nonce : Int) (deadline : JsNumber) :
    BuyerTask Bytes := do
  let buyerAddress ← Task.ofExcept (orThrow .signature "sign trade message" (← askBuyer .getAddress))
  match createTradeMessageHash ethers keccak256 config.chainId config.escrowAddress buyerAddress treasuryAddress params
      nonce deadline with
  | none => throw (.signature "Failed to sign trade message: invalid argument")
  | some messageHash =>
    Task.ofExcept (orThrow .signature "sign trade message" (← askBuyer (.signMessage (Word.toBytes messageHash))))

def defaultDeadline : BuyerTask JsNumber := do
  return .integer ((← askBuyer .now) / 1000 + 3600)

/-- `params.deadline || Math.floor(Date.now() / 1000) + 3600`. -/
def chooseDeadline (deadline : Option JsNumber) : BuyerTask JsNumber :=
  match deadline with
  | some (.integer 0) | some .nan | none => defaultDeadline
  | some deadline => return deadline

def sendCreateTrade (params : TradeParameters) (nonce : Int) (deadline : JsNumber) (signature : Bytes) :
    BuyerTask Unit := do
  match createTradeCall ethers params nonce deadline signature with
  | none => throw (.contract "Failed to create trade: invalid argument")
  | some order => Task.ofExcept (orThrow .contract "create trade" (← askBuyer (.createTrade order)))

def createTrade (params : TradeParameters) : BuyerTask Unit := do
  Task.ofExcept (validateTradeParameters ethers params)
  let buyerAddress ← getSignerAddress
  let currentAllowance ← getUSDCAllowance ethers buyerAddress
  if currentAllowance < params.totalAmount then approveUSDC params.totalAmount
  let nonce ← getBuyerNonce ethers buyerAddress
  let deadline ← chooseDeadline params.deadline
  let treasuryAddress ← getTreasuryAddress
  let signature ← signTradeMessage ethers keccak256 config treasuryAddress params nonce deadline
  sendCreateTrade ethers params nonce deadline signature

end Client

end Agroasys.Sdk
