import Agroasys.Runtime.Sorting

namespace Agroasys.Reconciliation

open Agroasys.Runtime

section Rows

inductive ReconciliationVerdict where
  | matched
  | mismatch
  deriving DecidableEq, Repr

structure ReconciliationReportInputRow where
  tradeId : String
  txHash : Option String
  extrinsicHash : Option String
  payoutState : Option String
  mismatchCodes : List String
  /-- The id of a ledger entry. -/
  ledgerEntryId : Option Int
  deriving DecidableEq

structure ReconciliationReportRow where
  tradeId : String
  txHash : Option String
  extrinsicHash : Option String
  payoutState : Option String
  reconciliationVerdict : ReconciliationVerdict
  mismatchReason : Option String
  deriving DecidableEq

/-- A row while the rows are sorted. -/
structure SortedRow where
  row : ReconciliationReportRow
  _ledgerEntryId : Option Int
  deriving DecidableEq

structure ReportSummary where
  rowCount : Nat
  matchCount : Nat
  mismatchCount : Nat
  deriving DecidableEq

structure ReconciliationReport where
  reportVersion : String
  runKey : Option String
  rows : List ReconciliationReportRow
  summary : ReportSummary
  deriving DecidableEq

def reconciliationReportVersion : String := "1.0"

end Rows

section Comparators

/-- `/^\d+$/u.test(text)`. -/
def isNumeric (text : String) : Bool :=
  text ≠ "" && text.toList.all Char.isDigit

/-- `BigInt(text)` of digits. -/
def bigInt (text : String) : Nat :=
  text.toList.foldl (fun value digit => value * 10 + (digit.toNat - '0'.toNat)) 0

variable (localeCompare : String → String → Int)

def compareNullableStrings (a b : Option String) : Int :=
  if a = b then 0
  else
    match a, b with
    | none, _ => 1
    | some _, none => -1
    | some a, some b => localeCompare a b

def compareTradeIds (a b : String) : Int :=
  if isNumeric a && isNumeric b then
    if bigInt a = bigInt b then 0 else if bigInt a < bigInt b then -1 else 1
  else localeCompare a b

/-- The first comparison, and where it is zero the second. -/
def thenBy (first second : Int) : Int :=
  if first ≠ 0 then first else second

def maxSafeInteger : Int := 9007199254740991

/-- The comparator of the rows. -/
def compareRows (a b : SortedRow) : Int :=
  thenBy (compareTradeIds localeCompare a.row.tradeId b.row.tradeId) <|
  thenBy (compareNullableStrings localeCompare a.row.txHash b.row.txHash) <|
  thenBy (compareNullableStrings localeCompare a.row.extrinsicHash b.row.extrinsicHash) <|
  thenBy (compareNullableStrings localeCompare a.row.payoutState b.row.payoutState) <|
  a._ledgerEntryId.getD maxSafeInteger - b._ledgerEntryId.getD maxSafeInteger

end Comparators

section Report

variable (sorter : Sorter) (collation : Collation)

/-- A row before the rows are sorted. Of equal codes the set keeps the first one. -/
def unsortedRow (row : ReconciliationReportInputRow) : SortedRow :=
  let uniqueMismatchCodes := sorter.sort collation.localeCompare row.mismatchCodes.eraseDups
  { row :=
      { tradeId := row.tradeId
        txHash := row.txHash
        extrinsicHash := row.extrinsicHash
        payoutState := row.payoutState
        reconciliationVerdict := if 0 < uniqueMismatchCodes.length then .mismatch else .matched
        mismatchReason := if 0 < uniqueMismatchCodes.length then some (",".intercalate uniqueMismatchCodes) else none }
    _ledgerEntryId := row.ledgerEntryId }

def buildReconciliationReportRows (inputRows : List ReconciliationReportInputRow) : List ReconciliationReportRow :=
  (sorter.sort (compareRows collation.localeCompare) (inputRows.map (unsortedRow sorter collation))).map SortedRow.row

def buildReconciliationReport (runKey : Option String) (inputRows : List ReconciliationReportInputRow) :
    ReconciliationReport :=
  let rows := buildReconciliationReportRows sorter collation inputRows
  let matchCount := (rows.filter fun row => row.reconciliationVerdict = .matched).length
  let mismatchCount := rows.length - matchCount
  { reportVersion := reconciliationReportVersion
    runKey := runKey
    rows := rows
    summary := { rowCount := rows.length, matchCount := matchCount, mismatchCount := mismatchCount } }

/-- The report does not tell how its input was ordered. -/
structure OrderIndependent (runKey : Option String) (inputRows : List ReconciliationReportInputRow) : Prop where
  permuted : ∀ other : List ReconciliationReportInputRow, other.Perm inputRows →
    buildReconciliationReport sorter collation runKey other =
      buildReconciliationReport sorter collation runKey inputRows
  rearranged : (buildReconciliationReport sorter collation runKey inputRows).rows.Perm
    (inputRows.map fun row => (unsortedRow sorter collation row).row)
  numeric : (buildReconciliationReport sorter collation runKey inputRows).rows.Pairwise fun row later =>
    isNumeric row.tradeId → isNumeric later.tradeId → bigInt row.tradeId ≤ bigInt later.tradeId
  counted : let summary := (buildReconciliationReport sorter collation runKey inputRows).summary
    summary.matchCount + summary.mismatchCount = summary.rowCount

/-- The comparator of the rows orders these rows, and rows that it does not tell apart are shown alike. -/
structure Decisive (inputRows : List ReconciliationReportInputRow) : Prop where
  transitive : ∀ first ∈ inputRows, ∀ second ∈ inputRows, ∀ third ∈ inputRows,
    let compare := fun row other =>
      compareRows collation.localeCompare (unsortedRow sorter collation row) (unsortedRow sorter collation other)
    compare first second ≤ 0 → compare second third ≤ 0 → compare first third ≤ 0
  alike : ∀ row ∈ inputRows, ∀ other ∈ inputRows,
    compareRows collation.localeCompare (unsortedRow sorter collation row) (unsortedRow sorter collation other) = 0 →
    (unsortedRow sorter collation row).row = (unsortedRow sorter collation other).row

end Report

section Order

variable {localeCompare : String → String → Int}

private theorem compareTradeIds_swaps (swaps : Swaps localeCompare) : Swaps (compareTradeIds localeCompare) := by
  intro a b
  unfold compareTradeIds
  rw [Bool.and_comm (isNumeric b)]
  split
  · split_ifs <;> omega
  · exact swaps a b

theorem compareNullableStrings_swaps (swaps : Swaps localeCompare) : Swaps (compareNullableStrings localeCompare) := by
  intro a b
  unfold compareNullableStrings
  by_cases same : a = b
  · simp [same]
  · rw [if_neg same, if_neg (Ne.symm same)]
    rcases a with _ | a <;> rcases b with _ | b
    · exact absurd rfl same
    · simp
    · simp
    · exact swaps a b

private theorem thenBy_swaps {first second : α → α → Int} (swaps : Swaps first) (swaps' : Swaps second) :
    Swaps fun a b => thenBy (first a b) (second a b) := by
  intro a b
  have turned := swaps a b
  have back := swaps b a
  have then_turned := swaps' a b
  dsimp only [thenBy]
  split_ifs <;> omega

theorem compareRows_swaps (swaps : Swaps localeCompare) : Swaps (compareRows localeCompare) := by
  refine thenBy_swaps (fun a b => compareTradeIds_swaps swaps a.row.tradeId b.row.tradeId) <|
    thenBy_swaps (fun a b => compareNullableStrings_swaps swaps a.row.txHash b.row.txHash) <|
    thenBy_swaps (fun a b => compareNullableStrings_swaps swaps a.row.extrinsicHash b.row.extrinsicHash) <|
    thenBy_swaps (fun a b => compareNullableStrings_swaps swaps a.row.payoutState b.row.payoutState) ?_
  intro a b
  dsimp only
  omega

/-- Rows that are shown alike are ordered by their ledger entries. -/
theorem compareRows_alike (swaps : Swaps localeCompare) (alike : a.row = b.row) :
    compareRows localeCompare a b = a._ledgerEntryId.getD maxSafeInteger - b._ledgerEntryId.getD maxSafeInteger := by
  unfold compareRows thenBy
  rw [alike, (compareTradeIds_swaps swaps).self, (compareNullableStrings_swaps swaps).self,
    (compareNullableStrings_swaps swaps).self, (compareNullableStrings_swaps swaps).self]
  rfl

/-- Rows in order have their ids in order. -/
theorem bigInt_le (before : compareRows localeCompare a b ≤ 0) (numeric : isNumeric a.row.tradeId)
    (numeric' : isNumeric b.row.tradeId) : bigInt a.row.tradeId ≤ bigInt b.row.tradeId := by
  by_contra greater
  have byTrade : compareTradeIds localeCompare a.row.tradeId b.row.tradeId = 1 := by
    rw [compareTradeIds, numeric, numeric', Bool.and_self, if_pos rfl, if_neg (by omega), if_neg (by omega)]
  have after : compareRows localeCompare a b = 1 := by
    rw [compareRows, byTrade]
    exact if_pos (by decide)
  omega

end Order

section Independence

variable {sorter : Sorter} {collation : Collation} {runKey : Option String}
  {inputRows : List ReconciliationReportInputRow}

private theorem report_counted (inputRows : List ReconciliationReportInputRow) :
    let summary := (buildReconciliationReport sorter collation runKey inputRows).summary
    summary.matchCount + summary.mismatchCount = summary.rowCount :=
  Nat.add_sub_cancel' (List.length_filter_le _ _)

private theorem report_rearranged (inputRows : List ReconciliationReportInputRow) :
    (buildReconciliationReport sorter collation runKey inputRows).rows.Perm
      (inputRows.map fun row => (unsortedRow sorter collation row).row) := by
  have sorted := (sorter.perm (compareRows collation.localeCompare)
    (inputRows.map (unsortedRow sorter collation))).map SortedRow.row
  rwa [List.map_map] at sorted

/-- A report shows its rows and nothing else of its input. -/
theorem report_eq (same : buildReconciliationReportRows sorter collation other =
    buildReconciliationReportRows sorter collation inputRows) :
    buildReconciliationReport sorter collation runKey other =
      buildReconciliationReport sorter collation runKey inputRows := by
  unfold buildReconciliationReport
  rw [same]

private theorem Decisive.consistent (decisive : Decisive sorter collation inputRows) :
    Consistent (compareRows collation.localeCompare) (inputRows.map (unsortedRow sorter collation)) := by
  refine ⟨compareRows_swaps collation.swaps, ?_⟩
  simp only [List.forall_mem_map]
  exact decisive.transitive

private theorem Decisive.perm (decisive : Decisive sorter collation inputRows) (perm : other.Perm inputRows) :
    Decisive sorter collation other :=
  ⟨fun first member second member' third member'' =>
      decisive.transitive first (perm.subset member) second (perm.subset member') third (perm.subset member''),
    fun row member other member' => decisive.alike row (perm.subset member) other (perm.subset member')⟩

/-- Rows that the comparator orders are shown in one way. -/
theorem Decisive.rows_eq (decisive : Decisive sorter collation inputRows) (perm : other.Perm inputRows) :
    buildReconciliationReportRows sorter collation other =
      buildReconciliationReportRows sorter collation inputRows := by
  have members : ∀ row ∈ sorter.sort (compareRows collation.localeCompare)
      (other.map (unsortedRow sorter collation)), ∃ input ∈ inputRows, unsortedRow sorter collation input = row := by
    intro row member
    obtain ⟨input, among, rfl⟩ := List.mem_map.mp ((sorter.perm _ _).subset member)
    exact ⟨input, perm.subset among, rfl⟩
  refine pairwise_alike (r := fun row later => compareRows collation.localeCompare row later ≤ 0) ?_ ?_
    (sorter.sorted (decisive.perm perm).consistent) (sorter.sorted decisive.consistent)
  · intro row member later member' before after
    obtain ⟨input, among, rfl⟩ := members row member
    obtain ⟨input', among', rfl⟩ := members later member'
    have turned := compareRows_swaps collation.swaps (unsortedRow sorter collation input')
      (unsortedRow sorter collation input)
    exact decisive.alike input among input' among' (by omega)
  · calc sorter.sort (compareRows collation.localeCompare) (other.map (unsortedRow sorter collation))
      _ |>.Perm (other.map (unsortedRow sorter collation)) := sorter.perm _ _
      _ |>.Perm (inputRows.map (unsortedRow sorter collation)) := perm.map _
      _ |>.Perm (sorter.sort (compareRows collation.localeCompare) (inputRows.map (unsortedRow sorter collation))) :=
        (sorter.perm _ _).symm

private theorem Decisive.numeric (decisive : Decisive sorter collation inputRows) :
    (buildReconciliationReport sorter collation runKey inputRows).rows.Pairwise fun row later =>
      isNumeric row.tradeId → isNumeric later.tradeId → bigInt row.tradeId ≤ bigInt later.tradeId :=
  List.pairwise_map.mpr ((sorter.sorted decisive.consistent).imp bigInt_le)

/-- The comparator does not put the next row first. -/
def Before (sorter : Sorter) (collation : Collation) (row next : ReconciliationReportInputRow) : Prop :=
  InOrder (compareRows collation.localeCompare) (unsortedRow sorter collation row) (unsortedRow sorter collation next)

/-- The rows of an input whose neighbours are in order are shown as they come. -/
theorem rows_settled (chain : inputRows.IsChain (Before sorter collation)) :
    buildReconciliationReportRows sorter collation inputRows =
      inputRows.map fun row => (unsortedRow sorter collation row).row := by
  unfold buildReconciliationReportRows
  rw [sorter.settled ((List.isChain_map _).mpr chain), List.map_map]
  rfl

/-- A list in one order of many can be put in each of them, so rows that come both before and after
one another are shown alike. -/
theorem shown_alike (permuted : ∀ other : List ReconciliationReportInputRow, other.Perm inputRows →
      buildReconciliationReport sorter collation runKey other =
        buildReconciliationReport sorter collation runKey inputRows)
    (member : row ∈ inputRows) (member' : other ∈ inputRows)
    (forth : Reaches (Before sorter collation) inputRows row other)
    (back : Reaches (Before sorter collation) inputRows other row) :
    (unsortedRow sorter collation row).row = (unsortedRow sorter collation other).row := by
  have comparable : Comparable (Before sorter collation) inputRows := by
    intro value _ other _
    exact (compareRows_swaps collation.swaps).comparable
      [unsortedRow sorter collation value, unsortedRow sorter collation other] _ (by simp) _ (by simp)
  have alike : ∀ sorted : List ReconciliationReportInputRow, sorted.Perm inputRows →
      sorted.IsChain (Before sorter collation) →
        sorted.map (fun row => (unsortedRow sorter collation row).row) =
          buildReconciliationReportRows sorter collation inputRows := by
    intro sorted perm chain
    rw [← rows_settled chain]
    exact congrArg ReconciliationReport.rows (permuted sorted perm)
  exact reached_alike (f := fun row => (unsortedRow sorter collation row).row) comparable alike member member' forth back

private theorem transitive_of_permuted (permuted : ∀ other : List ReconciliationReportInputRow, other.Perm inputRows →
      buildReconciliationReport sorter collation runKey other =
        buildReconciliationReport sorter collation runKey inputRows)
    (member : first ∈ inputRows) (member' : second ∈ inputRows) (member'' : third ∈ inputRows)
    (before : compareRows collation.localeCompare (unsortedRow sorter collation first)
      (unsortedRow sorter collation second) ≤ 0)
    (after : compareRows collation.localeCompare (unsortedRow sorter collation second)
      (unsortedRow sorter collation third) ≤ 0) :
    compareRows collation.localeCompare (unsortedRow sorter collation first)
      (unsortedRow sorter collation third) ≤ 0 := by
  have swaps := compareRows_swaps collation.swaps
  by_contra behind
  -- The three rows are in a circle, so they are shown alike and only their ledger entries count.
  have around := (swaps (unsortedRow sorter collation first) (unsortedRow sorter collation third)).mp (by omega)
  have one : Reaches (Before sorter collation) inputRows first second :=
    .single ⟨member, member', swaps.inOrder.mpr before⟩
  have two : Reaches (Before sorter collation) inputRows second third :=
    .single ⟨member', member'', swaps.inOrder.mpr after⟩
  have three : Reaches (Before sorter collation) inputRows third first :=
    .single ⟨member'', member, swaps.inOrder.mpr (by omega)⟩
  have same := shown_alike permuted member member' one (two.trans three)
  have same' := shown_alike permuted member' member'' two (three.trans one)
  rw [compareRows_alike collation.swaps same] at before
  rw [compareRows_alike collation.swaps same'] at after
  rw [compareRows_alike collation.swaps (same.trans same')] at behind
  omega

/-- A report tells how its input was ordered unless the comparator orders the rows and tells apart
what is shown differently. -/
theorem report_independent_iff (sorter : Sorter) (collation : Collation) (runKey : Option String)
    (inputRows : List ReconciliationReportInputRow) :
    OrderIndependent sorter collation runKey inputRows ↔ Decisive sorter collation inputRows := by
  constructor
  · intro independent
    constructor
    · intro first member second member' third member'' _ before after
      exact transitive_of_permuted independent.permuted member member' member'' before after
    · intro row member other member' tied
      have swaps := compareRows_swaps collation.swaps
      have back := swaps (unsortedRow sorter collation other) (unsortedRow sorter collation row)
      have turned := swaps (unsortedRow sorter collation row) (unsortedRow sorter collation other)
      exact shown_alike independent.permuted member member'
        (.single ⟨member, member', swaps.inOrder.mpr (by omega)⟩)
        (.single ⟨member', member, swaps.inOrder.mpr (by omega)⟩)
  · intro decisive
    exact
      { permuted := fun other perm => report_eq (decisive.rows_eq perm)
        rearranged := report_rearranged inputRows
        numeric := decisive.numeric
        counted := report_counted inputRows }

/-- Three trades in a circle: 9 before 10 as numbers, 10 before 1a and 1a before 9 as texts. -/
def circle : List ReconciliationReportInputRow :=
  ["9", "10", "1a"].map fun tradeId => ⟨tradeId, none, none, none, [], none⟩

theorem circle_dependent : circle.Nodup ∧ ¬ OrderIndependent insertion codePoints none circle := by
  refine ⟨by decide, fun independent => ?_⟩
  have turned := independent.permuted (circle.rotate 1) (by decide)
  revert turned
  decide

end Independence

end Agroasys.Reconciliation
