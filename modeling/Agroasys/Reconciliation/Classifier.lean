import Agroasys.Runtime.Text

namespace Agroasys.Reconciliation

open Agroasys.Runtime

/-- A `Date`: milliseconds, or an invalid date. -/
abbrev JsDate := Option Int

/-- A trade as the SDK reads it from the escrow. -/
structure Trade where
  tradeId : String
  buyer : String
  supplier : String
  status : Nat
  totalAmountLocked : Int
  logisticsAmount : Int
  platformFeesAmount : Int
  supplierFirstTranche : Int
  supplierSecondTranche : Int
  ricardianHash : String
  createdAt : JsDate
  arrivalTimestamp : Option JsDate
  deriving DecidableEq

structure IndexedTradeRecord where
  tradeId : String
  buyer : String
  supplier : String
  status : String
  totalAmountLocked : Int
  logisticsAmount : Int
  platformFeesAmount : Int
  supplierFirstTranche : Int
  supplierSecondTranche : Int
  ricardianHash : String
  createdAt : Int
  arrivalTimestamp : Option JsDate
  deriving DecidableEq

inductive DriftSeverity where
  | critical
  | high
  | medium
  | low
  deriving DecidableEq, Repr

inductive DriftCode where
  | onchainReadError
  | onchainTradeMissing
  | statusMismatch
  | participantMismatch
  | amountMismatch
  | hashMismatch
  | arrivalTimestampMismatch
  | indexedInvalidAddress
  | onchainInvalidAddress
  deriving DecidableEq, Repr

/-- A value in a finding; an instant stands for its ISO text. -/
inductive DriftValue where
  | text (value : String)
  | amount (value : Int)
  | instant (milliseconds : Int)
  deriving DecidableEq, Repr

structure DriftFinding where
  tradeId : String
  severity : DriftSeverity
  mismatchCode : DriftCode
  comparedField : String
  onchainValue : Option DriftValue
  indexedValue : Option DriftValue
  details : List (String × String)
  deriving DecidableEq

def statusLabel : Nat → String
  | 0 => "LOCKED"
  | 1 => "IN_TRANSIT"
  | 2 => "ARRIVAL_CONFIRMED"
  | 3 => "FROZEN"
  | 4 => "CLOSED"
  | status => "UNKNOWN_" ++ toString status

def zeroAddress : String :=
  "0x0000000000000000000000000000000000000000"

section Compare

variable (getAddress : String → Option String)

/-- `ethers.getAddress`, which gives `none` where `ethers.isAddress` is false. -/
def normalizeAddressOrNull (value : String) : Option String :=
  getAddress value

def isZeroAddress (value : String) : Bool :=
  normalizeAddressOrNull getAddress value = some zeroAddress

/-- The field of the amounts, with its values on chain and in the index. -/
def amountFields (indexed : IndexedTradeRecord) (onchain : Trade) : List (String × Int × Int) :=
  [("totalAmountLocked", onchain.totalAmountLocked, indexed.totalAmountLocked),
    ("logisticsAmount", onchain.logisticsAmount, indexed.logisticsAmount),
    ("platformFeesAmount", onchain.platformFeesAmount, indexed.platformFeesAmount),
    ("supplierFirstTranche", onchain.supplierFirstTranche, indexed.supplierFirstTranche),
    ("supplierSecondTranche", onchain.supplierSecondTranche, indexed.supplierSecondTranche)]

def amountFinding (tradeId : String) (field : String × Int × Int) : Option DriftFinding :=
  if field.2.1 ≠ field.2.2 then
    some ⟨tradeId, .critical, .amountMismatch, field.1, some (.amount field.2.1), some (.amount field.2.2),
      [("field", field.1), ("impact", "financial")]⟩
  else none

def compareAmounts (indexed : IndexedTradeRecord) (onchain : Trade) : List DriftFinding :=
  (amountFields indexed onchain).filterMap (amountFinding indexed.tradeId)

inductive AddressSource where
  | indexed
  | onchain

def invalidAddressFinding (tradeId : String) (source : AddressSource) (field value : String) : DriftFinding :=
  match source with
  | .indexed => ⟨tradeId, .critical, .indexedInvalidAddress, field, none, some (.text value),
      [("source", "indexed"), ("field", field), ("reason", "address is not a valid hex EVM address")]⟩
  | .onchain => ⟨tradeId, .critical, .onchainInvalidAddress, field, some (.text value), none,
      [("source", "onchain"), ("field", field), ("reason", "address is not a valid hex EVM address")]⟩

/-- The finding on an address that is not valid. -/
def checkAddress (tradeId : String) (source : AddressSource) (field value : String) : List DriftFinding :=
  match normalizeAddressOrNull getAddress value with
  | none => [invalidAddressFinding tradeId source field value]
  | some _ => []

/-- The finding on two valid addresses that differ. -/
def compareAddress (tradeId field onchainValue indexedValue : String) : List DriftFinding :=
  match normalizeAddressOrNull getAddress indexedValue, normalizeAddressOrNull getAddress onchainValue with
  | some indexedAddress, some onchainAddress =>
    if onchainAddress ≠ indexedAddress then
      [⟨tradeId, .critical, .participantMismatch, field, some (.text onchainValue), some (.text indexedValue),
        [("field", field)]⟩]
    else []
  | _, _ => []

def compareStatus (indexed : IndexedTradeRecord) (onchain : Trade) : List DriftFinding :=
  let onchainStatus := statusLabel onchain.status
  if onchainStatus ≠ indexed.status then
    [⟨indexed.tradeId, .high, .statusMismatch, "status", some (.text onchainStatus), some (.text indexed.status),
      [("impact", "workflow divergence")]⟩]
  else []

def compareHash (indexed : IndexedTradeRecord) (onchain : Trade) : List DriftFinding :=
  if toLowerCase onchain.ricardianHash ≠ toLowerCase indexed.ricardianHash then
    [⟨indexed.tradeId, .critical, .hashMismatch, "ricardianHash", some (.text onchain.ricardianHash),
      some (.text indexed.ricardianHash), [("impact", "legal linkage divergence")]⟩]
  else []

/-- `date.toISOString()` where there is a date; an invalid one has no ISO text. -/
def toISOInstant : Option JsDate → Except String (Option Int)
  | none => .ok none
  | some (some milliseconds) => .ok (some milliseconds)
  | some none => .error "Invalid time value"

def compareArrival (indexed : IndexedTradeRecord) (onchain : Trade) : Except String (List DriftFinding) := do
  let onchainArrival ← toISOInstant onchain.arrivalTimestamp
  let indexedArrival ← toISOInstant indexed.arrivalTimestamp
  if onchainArrival ≠ indexedArrival then
    return [⟨indexed.tradeId, .medium, .arrivalTimestampMismatch, "arrivalTimestamp",
      onchainArrival.map .instant, indexedArrival.map .instant, [("impact", "timeline divergence")]⟩]
  return []

def readErrorFinding (indexed : IndexedTradeRecord) (error : String) : DriftFinding :=
  ⟨indexed.tradeId, .critical, .onchainReadError, "tradeLookup", none, some (.text indexed.status), [("error", error)]⟩

def missingFinding (indexed : IndexedTradeRecord) : DriftFinding :=
  ⟨indexed.tradeId, .critical, .onchainTradeMissing, "tradePresence", none, some (.text indexed.tradeId),
    [("reason", "trade not found on-chain")]⟩

/-- The findings on the fields but for the arrival, in the order of the checks. -/
def fieldFindings (indexed : IndexedTradeRecord) (onchain : Trade) : List DriftFinding :=
  compareStatus indexed onchain ++
    checkAddress getAddress indexed.tradeId .indexed "buyer" indexed.buyer ++
    checkAddress getAddress indexed.tradeId .indexed "supplier" indexed.supplier ++
    checkAddress getAddress indexed.tradeId .onchain "buyer" onchain.buyer ++
    checkAddress getAddress indexed.tradeId .onchain "supplier" onchain.supplier ++
    compareAddress getAddress indexed.tradeId "buyer" onchain.buyer indexed.buyer ++
    compareAddress getAddress indexed.tradeId "supplier" onchain.supplier indexed.supplier ++
    compareAmounts indexed onchain ++ compareHash indexed onchain

def classifyDrifts (indexedTrade : IndexedTradeRecord) (onchainTrade : Option Trade)
    (onchainReadError : Option String) : Except String (List DriftFinding) :=
  match onchainReadError.filter (· ≠ "") with
  | some error => .ok [readErrorFinding indexedTrade error]
  | none =>
    match onchainTrade with
    | none => .ok [missingFinding indexedTrade]
    | some onchain =>
      if isZeroAddress getAddress onchain.buyer then .ok [missingFinding indexedTrade]
      else do
        let arrival ← compareArrival indexedTrade onchain
        return fieldFindings getAddress indexedTrade onchain ++ arrival

/-- The two records name one address. -/
def SameAddress (onchainValue indexedValue : String) : Prop :=
  ∃ address, getAddress onchainValue = some address ∧ getAddress indexedValue = some address

/-- The record agrees with the trade on every compared field. -/
structure Agrees (indexed : IndexedTradeRecord) (onchain : Trade) : Prop where
  present : getAddress onchain.buyer ≠ some zeroAddress
  status : statusLabel onchain.status = indexed.status
  buyer : SameAddress getAddress onchain.buyer indexed.buyer
  supplier : SameAddress getAddress onchain.supplier indexed.supplier
  totalAmountLocked : onchain.totalAmountLocked = indexed.totalAmountLocked
  logisticsAmount : onchain.logisticsAmount = indexed.logisticsAmount
  platformFeesAmount : onchain.platformFeesAmount = indexed.platformFeesAmount
  supplierFirstTranche : onchain.supplierFirstTranche = indexed.supplierFirstTranche
  supplierSecondTranche : onchain.supplierSecondTranche = indexed.supplierSecondTranche
  ricardianHash : toLowerCase onchain.ricardianHash = toLowerCase indexed.ricardianHash
  arrivalTimestamp : onchain.arrivalTimestamp = indexed.arrivalTimestamp
  arrivalValid : onchain.arrivalTimestamp ≠ some none

section Exact

variable {getAddress} {indexed : IndexedTradeRecord} {onchain : Trade}

theorem compareStatus_nil : compareStatus indexed onchain = [] ↔ statusLabel onchain.status = indexed.status := by
  simp [compareStatus]

private theorem compareHash_nil : compareHash indexed onchain = [] ↔
    toLowerCase onchain.ricardianHash = toLowerCase indexed.ricardianHash := by
  simp [compareHash]

private theorem amountFinding_none : amountFinding tradeId field = none ↔ field.2.1 = field.2.2 := by
  simp [amountFinding]

private theorem compareAmounts_nil : compareAmounts indexed onchain = [] ↔
    onchain.totalAmountLocked = indexed.totalAmountLocked ∧
    onchain.logisticsAmount = indexed.logisticsAmount ∧
    onchain.platformFeesAmount = indexed.platformFeesAmount ∧
    onchain.supplierFirstTranche = indexed.supplierFirstTranche ∧
    onchain.supplierSecondTranche = indexed.supplierSecondTranche := by
  rw [compareAmounts, List.filterMap_eq_nil_iff]
  simp [amountFields, amountFinding_none]

/-- Both addresses are valid and one. -/
theorem addresses_nil (tradeId field : String) : checkAddress getAddress tradeId .indexed field indexedValue = [] ∧
    checkAddress getAddress tradeId .onchain field onchainValue = [] ∧
    compareAddress getAddress tradeId field onchainValue indexedValue = [] ↔
      SameAddress getAddress onchainValue indexedValue := by
  unfold checkAddress compareAddress SameAddress normalizeAddressOrNull
  cases getAddress indexedValue with
  | none => simp
  | some first =>
    cases getAddress onchainValue with
    | none => simp
    | some second => simp [eq_comm]

private theorem compareArrival_nil : compareArrival indexed onchain = .ok [] ↔
    onchain.arrivalTimestamp = indexed.arrivalTimestamp ∧ onchain.arrivalTimestamp ≠ some none := by
  unfold compareArrival
  rcases onchain.arrivalTimestamp with _ | _ | first <;> rcases indexed.arrivalTimestamp with _ | _ | second <;>
    simp [toISOInstant, bind, Except.bind, pure, Except.pure]

/-- Nothing is found exactly where the record agrees. -/
theorem classifyDrifts_nil (trade : Trade) :
    classifyDrifts getAddress indexed (some trade) none = .ok [] ↔ Agrees getAddress indexed trade := by
  unfold classifyDrifts
  simp only [Option.filter_none]
  by_cases absent : isZeroAddress getAddress trade.buyer = true
  · rw [if_pos absent]
    constructor
    · intro same
      cases same
    · intro agrees
      exact absurd (of_decide_eq_true absent) agrees.present
  · rw [if_neg absent]
    have present : getAddress trade.buyer ≠ some zeroAddress := fun zero => absent (decide_eq_true zero)
    constructor
    · intro empty
      cases arrival : compareArrival indexed trade with
      | error error =>
        rw [arrival] at empty
        cases empty
      | ok late =>
        rw [arrival] at empty
        have nothing : fieldFindings getAddress indexed trade ++ late = [] := Except.ok.inj empty
        simp only [fieldFindings, List.append_eq_nil_iff] at nothing
        obtain ⟨⟨⟨⟨⟨⟨⟨⟨⟨status, indexedBuyer⟩, indexedSupplier⟩, onchainBuyer⟩, onchainSupplier⟩, buyer⟩,
          supplier⟩, amounts⟩, hash⟩, late⟩ := nothing
        subst late
        obtain ⟨total, logistics, platform, first, second⟩ := compareAmounts_nil.mp amounts
        obtain ⟨arrived, valid⟩ := compareArrival_nil.mp arrival
        exact ⟨present, compareStatus_nil.mp status, (addresses_nil _ _).mp ⟨indexedBuyer, onchainBuyer, buyer⟩,
          (addresses_nil _ _).mp ⟨indexedSupplier, onchainSupplier, supplier⟩, total, logistics, platform, first, second,
          compareHash_nil.mp hash, arrived, valid⟩
    · intro agrees
      obtain ⟨indexedBuyer, onchainBuyer, buyer⟩ := (addresses_nil indexed.tradeId "buyer").mpr agrees.buyer
      obtain ⟨indexedSupplier, onchainSupplier, supplier⟩ :=
        (addresses_nil indexed.tradeId "supplier").mpr agrees.supplier
      have amounts := compareAmounts_nil.mpr ⟨agrees.totalAmountLocked, agrees.logisticsAmount,
        agrees.platformFeesAmount, agrees.supplierFirstTranche, agrees.supplierSecondTranche⟩
      rw [compareArrival_nil.mpr ⟨agrees.arrivalTimestamp, agrees.arrivalValid⟩, fieldFindings,
        compareStatus_nil.mpr agrees.status, indexedBuyer, indexedSupplier, onchainBuyer, onchainSupplier, buyer,
        supplier, amounts, compareHash_nil.mpr agrees.ricardianHash]
      rfl

/-- A read error is a finding. -/
theorem classifyDrifts_error (failed : error ≠ "") :
    classifyDrifts getAddress indexed trade (some error) = .ok [readErrorFinding indexed error] := by
  simp [classifyDrifts, Option.filter, failed]

/-- What makes a finding another than the others of its trade. -/
def DriftFinding.place (finding : DriftFinding) : DriftCode × String :=
  (finding.mismatchCode, finding.comparedField)

/-- The places of the checks but for the arrival, each made once. -/
def fieldPlaces : List (DriftCode × String) :=
  [(DriftCode.statusMismatch, "status")] ++ [(DriftCode.indexedInvalidAddress, "buyer")] ++
    [(DriftCode.indexedInvalidAddress, "supplier")] ++ [(DriftCode.onchainInvalidAddress, "buyer")] ++
    [(DriftCode.onchainInvalidAddress, "supplier")] ++ [(DriftCode.participantMismatch, "buyer")] ++
    [(DriftCode.participantMismatch, "supplier")] ++
    ["totalAmountLocked", "logisticsAmount", "platformFeesAmount", "supplierFirstTranche",
      "supplierSecondTranche"].map (fun field => (DriftCode.amountMismatch, field)) ++
    [(DriftCode.hashMismatch, "ricardianHash")]

/-- Findings on a trade, each at a place of its own among these. -/
def FoundAt (tradeId : String) (places : List (DriftCode × String)) (findings : List DriftFinding) : Prop :=
  (findings.map DriftFinding.place).Sublist places ∧ ∀ finding ∈ findings, finding.tradeId = tradeId

theorem FoundAt.append (first : FoundAt tradeId places findings) (second : FoundAt tradeId more others) :
    FoundAt tradeId (places ++ more) (findings ++ others) := by
  refine ⟨?_, ?_⟩
  · rw [List.map_append]
    exact first.1.append second.1
  · intro finding member
    rcases List.mem_append.mp member with before | after
    · exact first.2 finding before
    · exact second.2 finding after

theorem foundAt_nil : FoundAt tradeId places [] :=
  ⟨List.nil_sublist _, fun _ absent => nomatch absent⟩

theorem foundAt_single (finding : DriftFinding) : FoundAt finding.tradeId [finding.place] [finding] := by
  refine ⟨List.Sublist.refl _, ?_⟩
  intro other member
  rw [List.mem_singleton.mp member]

theorem foundAt_status : FoundAt indexed.tradeId [(.statusMismatch, "status")] (compareStatus indexed onchain) := by
  unfold compareStatus
  dsimp only
  split
  · exact foundAt_single _
  · exact foundAt_nil

theorem foundAt_hash : FoundAt indexed.tradeId [(.hashMismatch, "ricardianHash")] (compareHash indexed onchain) := by
  unfold compareHash
  split
  · exact foundAt_single _
  · exact foundAt_nil

private theorem foundAt_indexed : FoundAt tradeId [(.indexedInvalidAddress, field)]
    (checkAddress getAddress tradeId .indexed field value) := by
  unfold checkAddress
  split
  · exact foundAt_single _
  · exact foundAt_nil

private theorem foundAt_onchain : FoundAt tradeId [(.onchainInvalidAddress, field)]
    (checkAddress getAddress tradeId .onchain field value) := by
  unfold checkAddress
  split
  · exact foundAt_single _
  · exact foundAt_nil

private theorem foundAt_participant : FoundAt tradeId [(.participantMismatch, field)]
    (compareAddress getAddress tradeId field onchainValue indexedValue) := by
  unfold compareAddress
  split
  · split
    · exact foundAt_single _
    · exact foundAt_nil
  · exact foundAt_nil

private theorem foundAt_amounts (tradeId : String) (fields : List (String × Int × Int)) :
    FoundAt tradeId (fields.map fun field => (.amountMismatch, field.1))
      (fields.filterMap (amountFinding tradeId)) := by
  induction fields with
  | nil => exact foundAt_nil
  | cons field fields ih =>
    have first : FoundAt tradeId [(.amountMismatch, field.1)] (amountFinding tradeId field).toList := by
      unfold amountFinding
      split
      · exact foundAt_single _
      · exact foundAt_nil
    have both := first.append ih
    cases found : amountFinding tradeId field with
    | none =>
      rw [found] at both
      rw [List.filterMap_cons_none found]
      exact both
    | some finding =>
      rw [found] at both
      rw [List.filterMap_cons_some found]
      exact both

private theorem foundAt_arrival (compared : compareArrival indexed onchain = .ok findings) :
    FoundAt indexed.tradeId [(.arrivalTimestampMismatch, "arrivalTimestamp")] findings := by
  unfold compareArrival at compared
  cases first : toISOInstant onchain.arrivalTimestamp with
  | error error =>
    rw [first] at compared
    cases compared
  | ok onchainArrival =>
    cases second : toISOInstant indexed.arrivalTimestamp with
    | error error =>
      rw [first, second] at compared
      cases compared
    | ok indexedArrival =>
      rw [first, second] at compared
      simp only [bind, Except.bind] at compared
      split at compared
      · cases compared
        exact foundAt_single _
      · cases compared
        exact foundAt_nil

private theorem foundAt_fields : FoundAt indexed.tradeId fieldPlaces (fieldFindings getAddress indexed onchain) := by
  unfold fieldPlaces fieldFindings compareAmounts
  apply FoundAt.append _ foundAt_hash
  apply FoundAt.append _ (foundAt_amounts indexed.tradeId (amountFields indexed onchain))
  apply FoundAt.append _ foundAt_participant
  apply FoundAt.append _ foundAt_participant
  apply FoundAt.append _ foundAt_onchain
  apply FoundAt.append _ foundAt_onchain
  apply FoundAt.append _ foundAt_indexed
  exact foundAt_status.append foundAt_indexed

/-- Every finding is about the indexed trade, and no two are at one place. -/
theorem classified_distinct (classified : classifyDrifts getAddress indexed trade error = .ok findings) :
    (findings.map DriftFinding.place).Nodup ∧ ∀ finding ∈ findings, finding.tradeId = indexed.tradeId := by
  have single (finding : DriftFinding) (same : finding.tradeId = indexed.tradeId) :
      ([finding].map DriftFinding.place).Nodup ∧ ∀ other ∈ [finding], other.tradeId = indexed.tradeId := by
    refine ⟨by simp, ?_⟩
    intro other member
    rw [List.mem_singleton.mp member, same]
  unfold classifyDrifts at classified
  split at classified
  · cases classified
    exact single _ rfl
  · split at classified
    · cases classified
      exact single _ rfl
    · split at classified
      · cases classified
        exact single _ rfl
      · rename_i onchain _
        cases arrival : compareArrival indexed onchain with
        | error error =>
          rw [arrival] at classified
          cases classified
        | ok late =>
          rw [arrival] at classified
          cases classified
          have found : FoundAt indexed.tradeId
              (fieldPlaces ++ [(.arrivalTimestampMismatch, "arrivalTimestamp")])
              (fieldFindings getAddress indexed onchain ++ late) :=
            foundAt_fields.append (foundAt_arrival arrival)
          exact ⟨found.1.nodup (by decide), found.2⟩

end Exact

end Compare

end Agroasys.Reconciliation
