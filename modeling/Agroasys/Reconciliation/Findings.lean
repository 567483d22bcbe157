import Agroasys.Reconciliation.Service

namespace Agroasys.Reconciliation

open Agroasys.Runtime

section Findings

variable (getAddress : String → Option String)

/-- How a record can differ from its trade on chain, by where the finding on it stands. -/
inductive Differs (indexed : IndexedTradeRecord) (onchain : Trade) : DriftCode → String → Prop where
  | status : statusLabel onchain.status ≠ indexed.status → Differs indexed onchain .statusMismatch "status"
  | indexedBuyer : getAddress indexed.buyer = none → Differs indexed onchain .indexedInvalidAddress "buyer"
  | indexedSupplier : getAddress indexed.supplier = none → Differs indexed onchain .indexedInvalidAddress "supplier"
  | onchainBuyer : getAddress onchain.buyer = none → Differs indexed onchain .onchainInvalidAddress "buyer"
  | onchainSupplier : getAddress onchain.supplier = none → Differs indexed onchain .onchainInvalidAddress "supplier"
  | buyer : getAddress onchain.buyer = some onchainAddress → getAddress indexed.buyer = some indexedAddress →
      onchainAddress ≠ indexedAddress → Differs indexed onchain .participantMismatch "buyer"
  | supplier : getAddress onchain.supplier = some onchainAddress → getAddress indexed.supplier = some indexedAddress →
      onchainAddress ≠ indexedAddress → Differs indexed onchain .participantMismatch "supplier"
  | totalAmountLocked : onchain.totalAmountLocked ≠ indexed.totalAmountLocked →
      Differs indexed onchain .amountMismatch "totalAmountLocked"
  | logisticsAmount : onchain.logisticsAmount ≠ indexed.logisticsAmount →
      Differs indexed onchain .amountMismatch "logisticsAmount"
  | platformFeesAmount : onchain.platformFeesAmount ≠ indexed.platformFeesAmount →
      Differs indexed onchain .amountMismatch "platformFeesAmount"
  | supplierFirstTranche : onchain.supplierFirstTranche ≠ indexed.supplierFirstTranche →
      Differs indexed onchain .amountMismatch "supplierFirstTranche"
  | supplierSecondTranche : onchain.supplierSecondTranche ≠ indexed.supplierSecondTranche →
      Differs indexed onchain .amountMismatch "supplierSecondTranche"
  | ricardianHash : toLowerCase onchain.ricardianHash ≠ toLowerCase indexed.ricardianHash →
      Differs indexed onchain .hashMismatch "ricardianHash"
  | arrivalTimestamp : onchain.arrivalTimestamp ≠ indexed.arrivalTimestamp →
      Differs indexed onchain .arrivalTimestampMismatch "arrivalTimestamp"

/-- A finding stands at the place. -/
def At (findings : List DriftFinding) (code : DriftCode) (field : String) : Prop :=
  ∃ finding ∈ findings, finding.place = (code, field)

variable {getAddress} {indexed : IndexedTradeRecord} {onchain : Trade}

private theorem at_append : At (findings ++ others) code field ↔ At findings code field ∨ At others code field := by
  unfold At
  simp only [List.mem_append, or_and_right, exists_or]

theorem at_if [Decidable differs] : At (if differs then [finding] else []) code field ↔
    differs ∧ finding.place = (code, field) := by
  unfold At
  split
  · rename_i differ
    simp [differ]
  · rename_i agree
    simp [agree]

private theorem at_status : At (compareStatus indexed onchain) code field ↔
    statusLabel onchain.status ≠ indexed.status ∧ (DriftCode.statusMismatch, "status") = (code, field) :=
  at_if

private theorem at_hash : At (compareHash indexed onchain) code field ↔
    toLowerCase onchain.ricardianHash ≠ toLowerCase indexed.ricardianHash ∧
      (DriftCode.hashMismatch, "ricardianHash") = (code, field) :=
  at_if

private theorem at_address : At (checkAddress getAddress tradeId source name value) code field ↔
    getAddress value = none ∧ (invalidAddressFinding tradeId source name value).place = (code, field) := by
  unfold checkAddress normalizeAddressOrNull At
  cases getAddress value with
  | none => simp
  | some address => simp

private theorem at_participant : At (compareAddress getAddress tradeId name onchainValue indexedValue) code field ↔
    (∃ onchainAddress indexedAddress, getAddress onchainValue = some onchainAddress ∧
      getAddress indexedValue = some indexedAddress ∧ onchainAddress ≠ indexedAddress) ∧
      (DriftCode.participantMismatch, name) = (code, field) := by
  unfold compareAddress normalizeAddressOrNull
  cases getAddress indexedValue with
  | none => simp [At]
  | some first =>
    cases getAddress onchainValue with
    | none => simp [At]
    | some second =>
      dsimp only
      rw [at_if]
      simp [DriftFinding.place]

private theorem at_amounts : At (compareAmounts indexed onchain) code field ↔
    ∃ entry ∈ amountFields indexed onchain, entry.2.1 ≠ entry.2.2 ∧
      (DriftCode.amountMismatch, entry.1) = (code, field) := by
  unfold At compareAmounts
  constructor
  · rintro ⟨finding, found, place⟩
    obtain ⟨entry, among, made⟩ := List.mem_filterMap.mp found
    unfold amountFinding at made
    split at made
    · rename_i differ
      cases made
      exact ⟨entry, among, differ, place⟩
    · cases made
  · rintro ⟨entry, among, differ, place⟩
    refine ⟨_, List.mem_filterMap.mpr ⟨entry, among, if_pos differ⟩, place⟩

/-- Valid dates are compared. -/
theorem at_arrival (onchainDate : onchain.arrivalTimestamp ≠ some none)
    (indexedDate : indexed.arrivalTimestamp ≠ some none) : ∃ findings, compareArrival indexed onchain = .ok findings ∧
      ∀ code field, At findings code field ↔ onchain.arrivalTimestamp ≠ indexed.arrivalTimestamp ∧
        (DriftCode.arrivalTimestampMismatch, "arrivalTimestamp") = (code, field) := by
  have written (date : Option JsDate) (valid : date ≠ some none) : ∃ instant, toISOInstant date = .ok instant ∧
      date = instant.map some := by
    rcases date with _ | _ | instant
    · exact ⟨none, rfl, rfl⟩
    · exact absurd rfl valid
    · exact ⟨some instant, rfl, rfl⟩
  obtain ⟨onchainArrival, first, same⟩ := written _ onchainDate
  obtain ⟨indexedArrival, second, same'⟩ := written _ indexedDate
  unfold compareArrival
  rw [first, second, same, same']
  have apart : onchainArrival.map some ≠ indexedArrival.map some ↔ onchainArrival ≠ indexedArrival :=
    (Option.map_injective (Option.some_injective _)).ne_iff
  by_cases differ : onchainArrival ≠ indexedArrival
  · refine ⟨_, if_pos differ, fun code field => ?_⟩
    simp [At, DriftFinding.place, apart, differ]
  · refine ⟨_, if_neg differ, fun code field => ?_⟩
    simp [At, apart, differ]

variable (getAddress) in
/-- A finding stands at a place if and only if the two sides differ there. -/
theorem at_iff_differs (onchainDate : onchain.arrivalTimestamp ≠ some none)
    (indexedDate : indexed.arrivalTimestamp ≠ some none) : ∃ arrival, compareArrival indexed onchain = .ok arrival ∧
      ∀ code field, At (fieldFindings getAddress indexed onchain ++ arrival) code field ↔
        Differs getAddress indexed onchain code field := by
  obtain ⟨arrival, compared, found⟩ := at_arrival onchainDate indexedDate
  refine ⟨arrival, compared, fun code field => ?_⟩
  simp only [fieldFindings, at_append, at_status, at_address, at_participant, at_amounts, at_hash, found]
  constructor
  · rintro (((((((((⟨differ, place⟩ | ⟨invalid, place⟩) | ⟨invalid, place⟩) | ⟨invalid, place⟩) | ⟨invalid, place⟩) |
      ⟨⟨_, _, first, second, apart⟩, place⟩) | ⟨⟨_, _, first, second, apart⟩, place⟩) | ⟨entry, among, differ, place⟩) |
      ⟨differ, place⟩) | ⟨differ, place⟩)
    · cases place
      exact .status differ
    · cases place
      exact .indexedBuyer invalid
    · cases place
      exact .indexedSupplier invalid
    · cases place
      exact .onchainBuyer invalid
    · cases place
      exact .onchainSupplier invalid
    · cases place
      exact .buyer first second apart
    · cases place
      exact .supplier first second apart
    · simp only [amountFields, List.mem_cons, List.not_mem_nil, or_false] at among
      rcases among with rfl | rfl | rfl | rfl | rfl <;> cases place
      · exact .totalAmountLocked differ
      · exact .logisticsAmount differ
      · exact .platformFeesAmount differ
      · exact .supplierFirstTranche differ
      · exact .supplierSecondTranche differ
    · cases place
      exact .ricardianHash differ
    · cases place
      exact .arrivalTimestamp differ
  · intro differs
    cases differs with
    | status differ => simp [differ]
    | indexedBuyer invalid => simp [invalid, invalidAddressFinding, DriftFinding.place]
    | indexedSupplier invalid => simp [invalid, invalidAddressFinding, DriftFinding.place]
    | onchainBuyer invalid => simp [invalid, invalidAddressFinding, DriftFinding.place]
    | onchainSupplier invalid => simp [invalid, invalidAddressFinding, DriftFinding.place]
    | buyer first second apart => simp [first, second, apart]
    | supplier first second apart => simp [first, second, apart]
    | totalAmountLocked differ => simp [amountFields, differ]
    | logisticsAmount differ => simp [amountFields, differ]
    | platformFeesAmount differ => simp [amountFields, differ]
    | supplierFirstTranche differ => simp [amountFields, differ]
    | supplierSecondTranche differ => simp [amountFields, differ]
    | ricardianHash differ => simp [differ]
    | arrivalTimestamp differ => simp [differ]

end Findings

section Rows

variable {world : ReconcileWorld}

/-- The finding has a row of its own: the only one at its key, and it is what the row holds. -/
structure ReconcileWorld.Holds (world : ReconcileWorld) (runId : Nat) (runKey : String) (finding : DriftFinding) :
    Prop where
  stored : ∃ row ∈ world.drifts, row.clashes runKey finding = true
  alone : ∀ row ∈ world.drifts, row.clashes runKey finding = true → row.runId = runId ∧ row.finding = finding

/-- The findings of a trade, one upsert after the other. -/
def ReconcileWorld.upsertDrifts (world : ReconcileWorld) (runId : Nat) (runKey : String)
    (findings : List DriftFinding) : ReconcileWorld :=
  findings.foldl (fun world finding => world.upsertDrift runId runKey finding) world

private theorem clashes_self (runId : Nat) (runKey : String) (finding : DriftFinding) (occurrences : Nat) :
    DriftRow.clashes runKey finding ⟨runId, runKey, finding, occurrences⟩ = true := by
  simp [DriftRow.clashes]

/-- A row is only ever at the key of one finding, where findings have places of their own. -/
theorem clashes_apart {row : DriftRow} (clashes : row.clashes runKey finding = true) (apart : finding.place ≠ other.place) :
    row.clashes runKey other = false := by
  simp only [DriftRow.clashes, Bool.and_eq_true, decide_eq_true_eq] at clashes
  have elsewhere : row.finding.place ≠ other.place := by rw [clashes.2]; exact apart
  simp [DriftRow.clashes, elsewhere]

private theorem upsertDrift_holds : (world.upsertDrift runId runKey finding).Holds runId runKey finding := by
  unfold ReconcileWorld.upsertDrift
  split
  · rename_i taken
    obtain ⟨row, among, clashes⟩ := List.any_eq_true.mp taken
    constructor
    · refine ⟨_, List.mem_map_of_mem among, ?_⟩
      rw [if_pos clashes]
      exact clashes_self ..
    · intro changed member
      obtain ⟨row, _, rfl⟩ := List.mem_map.mp member
      split
      · intro _
        exact ⟨rfl, rfl⟩
      · rename_i clean
        intro clashes
        exact absurd clashes clean
  · rename_i free
    constructor
    · exact ⟨_, List.mem_cons_self, clashes_self ..⟩
    · intro row member clashes
      rcases List.mem_cons.mp member with rfl | before
      · exact ⟨rfl, rfl⟩
      · exact absurd (List.any_eq_true.mpr ⟨row, before, clashes⟩) free

/-- A finding at another place leaves the row. -/
theorem ReconcileWorld.Holds.upsertDrift (holds : world.Holds runId runKey finding) (apart : finding.place ≠ other.place) :
    (world.upsertDrift another runKey other).Holds runId runKey finding := by
  obtain ⟨⟨row, among, clashes⟩, alone⟩ := holds
  unfold ReconcileWorld.upsertDrift
  split
  · constructor
    · refine ⟨row, List.mem_map.mpr ⟨row, among, ?_⟩, clashes⟩
      rw [clashes_apart clashes apart]
      rfl
    · intro changed member taken
      obtain ⟨before, among, rfl⟩ := List.mem_map.mp member
      split at taken
      · have free := clashes_apart (clashes_self another runKey other (before.occurrences + 1)) (Ne.symm apart)
        rw [free] at taken
        cases taken
      · rename_i clean
        rw [if_neg clean]
        exact alone before among taken
  · constructor
    · exact ⟨row, List.mem_cons_of_mem _ among, clashes⟩
    · intro row member taken
      rcases List.mem_cons.mp member with rfl | before
      · have free := clashes_apart (clashes_self another runKey other 1) (Ne.symm apart)
        rw [free] at taken
        cases taken
      · exact alone row before taken

private theorem ReconcileWorld.Holds.upsertDrifts (holds : world.Holds runId runKey finding)
    (apart : ∀ other ∈ findings, finding.place ≠ other.place) :
    (world.upsertDrifts another runKey findings).Holds runId runKey finding := by
  induction findings generalizing world with
  | nil => exact holds
  | cons other findings ih =>
    have rest := List.forall_mem_cons.mp apart
    exact ih (holds.upsertDrift rest.1) rest.2

/-- Findings at places of their own are all stored. -/
theorem upsertDrifts_holds (distinct : (findings.map DriftFinding.place).Nodup) :
    ∀ finding ∈ findings, (world.upsertDrifts runId runKey findings).Holds runId runKey finding := by
  induction findings generalizing world with
  | nil => simp
  | cons first findings ih =>
    rw [List.map_cons, List.nodup_cons] at distinct
    intro finding member
    rcases List.mem_cons.mp member with rfl | later
    · apply ReconcileWorld.Holds.upsertDrifts upsertDrift_holds
      intro other among same
      exact distinct.1 (same ▸ List.mem_map_of_mem among)
    · exact ih distinct.2 finding later

end Rows

variable {getAddress : String → Option String} {indexed : IndexedTradeRecord}

/-- Dates are valid where there are any. -/
def Dated (indexed : IndexedTradeRecord) (trade : Option Trade) : Prop :=
  indexed.arrivalTimestamp ≠ some none ∧ ∀ onchain ∈ trade, onchain.arrivalTimestamp ≠ some none

/-- No error, or one without a text. -/
def Unfailed (readError : Option String) : Prop :=
  readError = none ∨ readError = some ""

/-- There is no trade on chain, or one without a buyer. -/
def Missing (getAddress : String → Option String) (trade : Option Trade) : Prop :=
  trade = none ∨ ∃ onchain, trade = some onchain ∧ getAddress onchain.buyer = some zeroAddress

/-- The findings are what the reading of the trade and its comparison give. -/
structure Reports (getAddress : String → Option String) (indexed : IndexedTradeRecord) (trade : Option Trade)
    (readError : Option String) (findings : List DriftFinding) : Prop where
  failed : ∀ error, readError = some error → error ≠ "" → findings = [readErrorFinding indexed error]
  missing : Unfailed readError → Missing getAddress trade → findings = [missingFinding indexed]
  exact : Unfailed readError → ∀ onchain, trade = some onchain → ¬ Missing getAddress trade →
    ∀ code field, At findings code field ↔ Differs getAddress indexed onchain code field
  agreed : Unfailed readError → ∀ onchain, trade = some onchain → ¬ Missing getAddress trade →
    (findings = [] ↔ Agrees getAddress indexed onchain)

theorem unfailed_filter (unfailed : Unfailed readError) : readError.filter (fun error => decide (error ≠ "")) = none := by
  rcases unfailed with rfl | rfl <;> rfl

private theorem classifyDrifts_unfailed (unfailed : Unfailed readError) :
    classifyDrifts getAddress indexed trade readError = classifyDrifts getAddress indexed trade none := by
  unfold classifyDrifts
  rw [unfailed_filter unfailed]
  rfl

private theorem classifyDrifts_missing (missing : Missing getAddress trade) :
    classifyDrifts getAddress indexed trade none = .ok [missingFinding indexed] := by
  rcases missing with rfl | ⟨onchain, rfl, zero⟩
  · rfl
  · exact if_pos (decide_eq_true zero)

private theorem classifyDrifts_reports (readError : Option String) (dated : Dated indexed trade) : ∃ findings,
    classifyDrifts getAddress indexed trade readError = .ok findings ∧
      Reports getAddress indexed trade readError findings := by
  by_cases unfailed : Unfailed readError
  · have never (error : String) (some : readError = some error) (filled : error ≠ "") : False := by
      rcases unfailed with none | empty
      · exact nomatch none.symm.trans some
      · exact filled (Option.some.inj (some.symm.trans empty))
    rw [classifyDrifts_unfailed unfailed]
    by_cases missing : Missing getAddress trade
    · exact ⟨_, classifyDrifts_missing missing, fun error some filled => (never error some filled).elim,
        fun _ _ => rfl, fun _ _ _ found => absurd missing found, fun _ _ _ found => absurd missing found⟩
    · cases trade with
      | none => exact absurd (.inl rfl) missing
      | some onchain =>
        have present : ¬ isZeroAddress getAddress onchain.buyer = true :=
          fun zero => missing (.inr ⟨onchain, rfl, of_decide_eq_true zero⟩)
        obtain ⟨arrival, compared, found⟩ := at_iff_differs getAddress (dated.2 onchain rfl) dated.1
        have result : classifyDrifts getAddress indexed (some onchain) none =
            .ok (fieldFindings getAddress indexed onchain ++ arrival) := by
          unfold classifyDrifts
          simp only [Option.filter_none, if_neg present, compared]
          rfl
        refine ⟨_, result, fun error some filled => (never error some filled).elim,
          fun _ absent => absurd absent missing, ?_, ?_⟩
        · intro _ other same _
          cases same
          exact found
        · intro _ other same _
          cases same
          rw [← classifyDrifts_nil onchain, result]
          exact (Except.ok.injEq ..).symm.to_iff
  · have failed : ∃ error, readError = some error ∧ error ≠ "" := by
      cases readError with
      | none => exact absurd (.inl rfl) unfailed
      | some error => exact ⟨error, rfl, fun empty => unfailed (.inr (congrArg some empty))⟩
    obtain ⟨error, rfl, filled⟩ := failed
    refine ⟨_, classifyDrifts_error filled, ?_, fun none => absurd none unfailed, fun none => absurd none unfailed,
      fun none => absurd none unfailed⟩
    intro other same _
    cases same
    rfl

/-- The findings say exactly how the two sides differ, and each has a row of its own. -/
theorem classifyDrifts_exact (getAddress : String → Option String) (trade : Option Trade) (readError : Option String)
    (dated : Dated indexed trade) : ∃ findings, classifyDrifts getAddress indexed trade readError = .ok findings ∧
      Reports getAddress indexed trade readError findings ∧ (findings.map DriftFinding.place).Nodup ∧
      ∀ (world : ReconcileWorld) (runId : Nat) (runKey : String), ∀ finding ∈ findings,
        (world.upsertDrifts runId runKey findings).Holds runId runKey finding := by
  obtain ⟨findings, result, reports⟩ := classifyDrifts_reports readError dated
  have distinct := (classified_distinct result).1
  exact ⟨findings, result, reports, distinct, fun _ _ _ => upsertDrifts_holds distinct⟩

/-- A trade on its way. -/
def shippedTrade : Trade where
  tradeId := "0"
  buyer := "0x1111111111111111111111111111111111111111"
  supplier := "0x2222222222222222222222222222222222222222"
  status := 1
  totalAmountLocked := 1000
  logisticsAmount := 100
  platformFeesAmount := 50
  supplierFirstTranche := 350
  supplierSecondTranche := 500
  ricardianHash := "0xab"
  createdAt := some 0
  arrivalTimestamp := none

/-- What the index has of it: the status from before, and another platform fee. -/
def staleRecord : IndexedTradeRecord where
  tradeId := "0"
  buyer := "0x1111111111111111111111111111111111111111"
  supplier := "0x2222222222222222222222222222222222222222"
  status := "LOCKED"
  totalAmountLocked := 1000
  logisticsAmount := 100
  platformFeesAmount := 40
  supplierFirstTranche := 350
  supplierSecondTranche := 500
  ricardianHash := "0xAB"
  createdAt := 0
  arrivalTimestamp := none

theorem staleRecord_exact : ∃ findings, classifyDrifts some staleRecord (some shippedTrade) none = .ok findings ∧
    Reports some staleRecord (some shippedTrade) none findings ∧ (findings.map DriftFinding.place).Nodup ∧
    ∀ (world : ReconcileWorld) (runId : Nat) (runKey : String), ∀ finding ∈ findings,
      (world.upsertDrifts runId runKey findings).Holds runId runKey finding :=
  classifyDrifts_exact some (some shippedTrade) none ⟨by decide, by simp [shippedTrade]⟩

end Agroasys.Reconciliation
