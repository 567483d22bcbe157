import Agroasys.Gateway.GovernanceStore

/-! The keys of governance intents: what the backfill of the schema writes beside what the
store computes. -/

namespace Agroasys.Gateway

open Agroasys.Runtime

section Bars

/-- How many separators a text holds. -/
def bars (text : String) : Nat := text.toList.count '|'

@[simp] theorem bars_append (text other : String) : bars (text ++ other) = bars text + bars other := by
  simp [bars]

@[simp] theorem bars_toLowerCase (text : String) : bars (toLowerCase text) = bars text := by
  have same : (fun char : Char => char == '|') ∘ Char.toLower = fun char => char == '|' := by
    funext char
    exact Bool.eq_iff_iff.mpr (by simp only [Function.comp, beq_iff_eq, toLower_mark (by decide : '|'.isAlpha = false)])
  rw [bars, bars, toLowerCase, String.toList_ofList, List.count, List.countP_map, same]

private theorem count_dropWhile (spaces : List Char) : (spaces.dropWhile isSpace).count '|' = spaces.count '|' := by
  induction spaces with
  | nil => rfl
  | cons char rest ih =>
    rw [List.dropWhile_cons]
    split
    · rename_i space
      have apart : char ≠ '|' := by
        rintro rfl
        exact absurd space (by decide)
      rw [ih, List.count_cons_of_ne apart]
    · rfl

@[simp] theorem bars_trim (text : String) : bars (trim text) = bars text := by
  rw [bars, trim, String.toList_ofList, List.count_reverse, count_dropWhile, List.count_reverse, count_dropWhile]
  rfl

@[simp] theorem bars_toString (number : Nat) : bars (toString number) = 0 :=
  List.count_eq_zero.mpr (mark_toString (by decide) number)

@[simp] theorem bars_toString_int (value : Int) : bars (toString value) = 0 :=
  List.count_eq_zero.mpr (mark_toString_int (by decide) (by decide) value)

@[simp] theorem bars_writeNumber (value : Int) : bars (writeNumber value) = 0 := by
  rw [writeNumber]
  split
  · rw [bars_append, bars_toString]
    rfl
  · exact bars_toString _

/-- A joined text has the separators of its parts and those between them. -/
theorem bars_join (part : String) (parts : List String) :
    bars ("|".intercalate (part :: parts)) = bars part + (parts.map fun part => bars part + 1).sum := by
  induction parts generalizing part with
  | nil => simp
  | cons next parts ih =>
    rw [String.intercalate_cons_cons, bars_append, bars_append, ih]
    have bar : bars "|" = 1 := rfl
    simp only [List.map_cons, List.sum_cons, bar]
    omega

end Bars

section Backfill

/-- The separators of an optional text. -/
def barsOf (text : Option String) : Nat := bars (text.getD "")

theorem bars_fragment (text : Option String) : bars (normalizeIntentFragment (text.map .text)) = barsOf text := by
  cases text with
  | none => rfl
  | some text => simp [normalizeIntentFragment, IntentValue.write, barsOf]

private theorem bars_number (value : Option Int) : bars (normalizeIntentFragment (value.map .number)) = 0 := by
  cases value with
  | none => rfl
  | some value => simp [normalizeIntentFragment, IntentValue.write]

/-- The separators of the row's own texts. -/
def GovernanceActionRow.barsWithin (row : GovernanceActionRow) : Nat :=
  bars row.category.value + bars row.contractMethod + barsOf row.targetAddress + barsOf row.tradeId + barsOf row.chainId

private theorem bars_backfill (row : GovernanceActionRow) (kept : ∀ text, bars (lower text) = bars text) :
    bars (backfillIntentKey lower row) = 6 + row.barsWithin := by
  have version : bars "v1" = 0 := rfl
  have proposal : bars ((row.proposalId.map toString).getD "") = 0 := by
    cases row.proposalId with
    | none => rfl
    | some value => exact bars_toString_int value
  rw [backfillIntentKey, concatWs]
  simp only [List.filterMap_cons, List.filterMap_nil, id, bars_join, List.map_cons, List.map_nil, List.sum_cons,
    List.sum_nil, version, proposal, kept]
  unfold GovernanceActionRow.barsWithin barsOf
  omega

private theorem bars_mapRow (row : GovernanceActionRow) (empty : row.intentKey = none) :
    7 + row.barsWithin ≤ bars (mapRow row).intentKey := by
  have version : bars "v1" = 0 := rfl
  have category := bars_fragment (some row.category.value)
  have method := bars_fragment (some row.contractMethod)
  have target := bars_fragment row.targetAddress
  have trade := bars_fragment row.tradeId
  have chain := bars_fragment row.chainId
  rw [mapRow, empty, Option.getD_none, buildGovernanceIntentKey, GovernanceIntent.fragments, bars_join]
  simp only [List.map_cons, List.map_nil, List.sum_cons, List.sum_nil, version, bars_number, target, trade, chain]
  change bars (normalizeIntentFragment (some (.text row.category.value))) = _ at category
  change bars (normalizeIntentFragment (some (.text row.contractMethod))) = _ at method
  rw [category, method]
  unfold GovernanceActionRow.barsWithin barsOf
  simp only [Option.getD_some]
  omega

/-- The backfilled key of no row is the one that the store computes for it: it has one part less. -/
theorem backfillIntentKey_differs (lower : String → String) (kept : ∀ text, bars (lower text) = bars text)
    (row : GovernanceActionRow) (empty : row.intentKey = none) :
    backfillIntentKey lower row ≠ (mapRow row).intentKey := by
  intro same
  have filled := bars_backfill row kept
  have computed := bars_mapRow row empty
  rw [← same, filled] at computed
  omega

/-- A pause asked for before there were keys. -/
def legacyPause : GovernanceActionRow where
  actionId := "7f1c"
  intentKey := none
  proposalId := none
  category := .pause
  status := .requested
  contractMethod := "pause"
  txHash := none
  extrinsicHash := none
  blockNumber := none
  tradeId := none
  chainId := some "31337"
  targetAddress := none
  requestId := "r1"
  correlationId := none
  reason := "incident"
  evidenceLinks := []
  ticketRef := "SEC-1"
  actorSessionId := "s1"
  actorWallet := "0x00000000000000000000000000000000000000aa"
  actorRole := "admin"
  requestedBy := "account:1"
  approvedBy := []
  errorCode := none
  errorMessage := none
  createdAt := 0
  expiresAt := none
  executedAt := none

private theorem legacyPause_keys : backfillIntentKey toLowerCase legacyPause = "v1|pause|pause||||31337" ∧
    (mapRow legacyPause).intentKey = "v1|pause|pause||||31337|" := by
  constructor <;> decide

theorem legacyPause_unequal : ¬ ∀ row : GovernanceActionRow, row.intentKey = none →
    backfillIntentKey toLowerCase row = (mapRow row).intentKey := by
  intro equal
  have same := equal legacyPause rfl
  rw [legacyPause_keys.1, legacyPause_keys.2] at same
  exact absurd same (by decide)

theorem legacyPause_unrecognised : legacyPause.intentKey = none ∧ bars (toLowerCase "|") = bars "|" ∧
    backfillIntentKey toLowerCase legacyPause ≠ (mapRow legacyPause).intentKey :=
  ⟨rfl, bars_toLowerCase "|", backfillIntentKey_differs toLowerCase bars_toLowerCase legacyPause rfl⟩

end Backfill

end Agroasys.Gateway
