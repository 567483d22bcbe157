import Agroasys.Ricardian.Hash

/-! The order of the members in canonical JSON: an object lists its index keys first, whatever
order its members are defined in. -/

namespace Agroasys.Ricardian

open Agroasys.Runtime

/-- The members of every object, at every depth, are in the strict order of their keys. -/
inductive Ascending : JsValue → Prop where
  | undefined : Ascending .undefined
  | null : Ascending .null
  | boolean : Ascending (.boolean value)
  | number : Ascending (.number value)
  | string : Ascending (.string value)
  | array (ascending : ∀ item ∈ items, Ascending item) : Ascending (.array items)
  | object (ordered : members.Pairwise fun first second => first.1 < second.1)
      (ascending : ∀ member ∈ members, Ascending member.2) : Ascending (.object members)

/-- An object lists the first key before the second when it is defined before it. -/
def Kept (first second : JsString) : Prop :=
  arrayIndex second = none ∨ ∃ number number', arrayIndex first = some number ∧ arrayIndex second = some number' ∧
    number < number'

/-- No object has an index key that is greater than another key and that is listed before it: a
greater index key stands only with lower numbers before it. -/
inductive Regular : JsValue → Prop where
  | undefined : Regular .undefined
  | null : Regular .null
  | boolean : Regular (.boolean value)
  | number : Regular (.number value)
  | string : Regular (.string value)
  | array (regular : ∀ item ∈ items, Regular item) : Regular (.array items)
  | object (kept : ∀ first ∈ present members, ∀ second ∈ present members, first.1 < second.1 → Kept first.1 second.1)
      (regular : ∀ member ∈ present members, Regular member.2) : Regular (.object members)

section Order

variable {members : Members JsValue}

private theorem isIndex_iff {member : JsString × JsValue} :
    isIndex member = true ↔ arrayIndex member.1 = some (indexOf member) := by
  unfold isIndex indexOf
  cases arrayIndex member.1 <;> simp

private theorem isIndex_false {member : JsString × JsValue} : isIndex member = false ↔ arrayIndex member.1 = none := by
  unfold isIndex
  cases arrayIndex member.1 <;> simp

private theorem kept_iff {first second : JsString × JsValue} :
    Kept first.1 second.1 ↔
      isIndex second = false ∨ isIndex first = true ∧ isIndex second = true ∧ indexOf first < indexOf second := by
  rw [isIndex_false, isIndex_iff, isIndex_iff]
  constructor
  · rintro (none | ⟨number, number', index, index', less⟩)
    · exact .inl none
    · unfold indexOf
      rw [index, index']
      exact .inr ⟨rfl, rfl, less⟩
  · rintro (none | ⟨index, index', less⟩)
    · exact .inl none
    · exact .inr ⟨_, _, index, index', less⟩

/-- The members whose keys are indices, by number. -/
def byIndex (members : Members JsValue) : Members JsValue :=
  (members.filter isIndex).insertionSort fun first second => indexOf first ≤ indexOf second

private theorem mem_byIndex : member ∈ byIndex members ↔ member ∈ members ∧ isIndex member = true :=
  (List.perm_insertionSort _ _).mem_iff.trans List.mem_filter

private theorem byIndex_sorted (members : Members JsValue) :
    (byIndex members).Pairwise fun first second => indexOf first ≤ indexOf second := by
  have total : Std.Total fun first second : JsString × JsValue => indexOf first ≤ indexOf second :=
    ⟨fun first second => le_total _ _⟩
  have trans : IsTrans (JsString × JsValue) fun first second => indexOf first ≤ indexOf second :=
    ⟨fun _ _ _ first second => le_trans first second⟩
  exact List.pairwise_insertionSort _ _

/-- Two index keys of an object that is in order are in the order of their numbers. -/
theorem index_lt (ordered : (byIndex members).Pairwise fun first second => first.1 < second.1)
    (among : first ∈ byIndex members) (among' : second ∈ byIndex members) (less : first.1 < second.1) :
    indexOf first < indexOf second := by
  have forward : (byIndex members).Pairwise fun first second => first.1 < second.1 → indexOf first ≤ indexOf second :=
    (byIndex_sorted members).imp fun {_ _} least => fun _ => least
  have back : (byIndex members).Pairwise fun first second => second.1 < first.1 → indexOf second ≤ indexOf first :=
    ordered.imp fun {_ _} before after => absurd before after.asymm
  have least := forward.forall_of_forall_of_flip (fun _ _ _ => le_rfl) back among among' less
  apply lt_of_le_of_ne least
  intro same
  have index := isIndex_iff.mp (mem_byIndex.mp among).2
  have index' := isIndex_iff.mp (mem_byIndex.mp among').2
  rw [← same] at index'
  exact less.ne (arrayIndex_unique index index')

/-- Members that are defined by their keys are listed so if and only if no index key moves. -/
theorem ownOrder_ordered (distinct : Distinct members) :
    (ownOrder (sortMembers members)).Pairwise (fun first second => first.1 < second.1) ↔
      ∀ first ∈ members, ∀ second ∈ members, first.1 < second.1 → Kept first.1 second.1 := by
  have sorted := sortMembers_strict distinct
  have listed := sortMembers_perm members
  have split : ownOrder (sortMembers members) = byIndex (sortMembers members) ++
      (sortMembers members).filter fun member => !isIndex member := rfl
  rw [split, List.pairwise_append]
  constructor
  · rintro ⟨ordered, _, apart⟩ first among second among' less
    have member := listed.mem_iff.mpr among
    have member' := listed.mem_iff.mpr among'
    rw [kept_iff]
    cases index' : isIndex second with
    | false => exact .inl rfl
    | true =>
      have moved := mem_byIndex.mpr ⟨member', index'⟩
      cases index : isIndex first with
      | true => exact .inr ⟨rfl, rfl, index_lt ordered (mem_byIndex.mpr ⟨member, index⟩) moved less⟩
      | false =>
        -- the greater key is an index and the lesser is none, so that it is listed first
        have stays : first ∈ (sortMembers members).filter fun member => !isIndex member :=
          List.mem_filter.mpr ⟨member, by simp [index]⟩
        exact absurd less (apart second moved first stays).asymm
  · intro kept
    have indices : (byIndex (sortMembers members)).Pairwise fun first second => first.1 ≠ second.1 := by
      have part := (List.perm_insertionSort (fun first second : JsString × JsValue => indexOf first ≤ indexOf second)
        ((sortMembers members).filter isIndex))
      have apart : Distinct ((sortMembers members).filter isIndex) :=
        (distinct.perm listed).sublist (List.filter_sublist.map Prod.fst)
      exact List.pairwise_map.mp (apart.perm part)
    refine ⟨?_, sorted.sublist List.filter_sublist, ?_⟩
    · apply ((byIndex_sorted _).and indices).imp_of_mem
      rintro first second among among' ⟨least, different⟩
      rw [mem_byIndex] at among among'
      rcases lt_trichotomy first.1 second.1 with less | same | greater
      · exact less
      · exact absurd same different
      · rcases kept_iff.mp (kept second (listed.mem_iff.mp among'.1) first (listed.mem_iff.mp among.1) greater) with
          none | ⟨_, _, less⟩
        · rw [among.2] at none
          cases none
        · omega
    · intro first among second among'
      rw [mem_byIndex] at among
      obtain ⟨member, none⟩ := List.mem_filter.mp among'
      rcases lt_trichotomy first.1 second.1 with less | same | greater
      · exact less
      · rw [(distinct.perm listed).eq_of_key among.1 member same] at among
        simp [among.2] at none
      · rcases kept_iff.mp (kept second (listed.mem_iff.mp member) first (listed.mem_iff.mp among.1) greater) with
          none' | ⟨index, _⟩
        · rw [among.2] at none'
          cases none'
        · simp [index] at none

end Order

private theorem ascending_object : Ascending (.object members) ↔
    (members.Pairwise fun first second => first.1 < second.1) ∧ ∀ member ∈ members, Ascending member.2 :=
  ⟨fun | .object ordered ascending => ⟨ordered, ascending⟩, fun both => .object both.1 both.2⟩

private theorem regular_object : Regular (.object members) ↔
    (∀ first ∈ present members, ∀ second ∈ present members, first.1 < second.1 → Kept first.1 second.1) ∧
      ∀ member ∈ present members, Regular member.2 :=
  ⟨fun | .object kept regular => ⟨kept, regular⟩, fun both => .object both.1 both.2⟩

private theorem ascending_array : Ascending (.array items) ↔ ∀ item ∈ items, Ascending item :=
  ⟨fun | .array ascending => ascending, .array⟩

private theorem regular_array : Regular (.array items) ↔ ∀ item ∈ items, Regular item :=
  ⟨fun | .array regular => regular, .array⟩

/-- What a value is written as is in order if and only if the value is regular. -/
theorem ascending_normal (sound : Sound value) : Ascending (normal value) ↔ Regular value := by
  induction sound with
  | undefined => exact ⟨fun _ => .undefined, fun _ => .undefined⟩
  | null => exact ⟨fun _ => .null, fun _ => .null⟩
  | boolean => exact ⟨fun _ => .boolean, fun _ => .boolean⟩
  | number =>
    rw [normal_number]
    exact ⟨fun _ => .number, fun _ => .number⟩
  | string => exact ⟨fun _ => .string, fun _ => .string⟩
  | @array items _ ih =>
    rw [normal_array, ascending_array, regular_array, List.forall_mem_map]
    exact forall₂_congr ih
  | @object members distinct _ ih =>
    have below : (∀ member ∈ mapMembers normal (present members), Ascending member.2) ↔
        ∀ member ∈ present members, Regular member.2 := by
      unfold mapMembers
      rw [List.forall_mem_map]
      exact forall₂_congr fun member among => ih member (mem_present.mp among).1
    have keys : (∀ first ∈ mapMembers normal (present members), ∀ second ∈ mapMembers normal (present members),
        first.1 < second.1 → Kept first.1 second.1) ↔
        ∀ first ∈ present members, ∀ second ∈ present members, first.1 < second.1 → Kept first.1 second.1 := by
      unfold mapMembers
      rw [List.forall_mem_map]
      exact forall₂_congr fun first _ => List.forall_mem_map
    rw [normal_object, ascending_object, regular_object, ownOrder_ordered (distinct.present.map normal), keys, ← below]
    exact and_congr_right fun _ => forall_congr' fun member => imp_congr_left (normalMembers_perm members).mem_iff

/-- The members in the canonical JSON of a value are in the order of their keys, in the document
it reads as, if and only if the value is regular. -/
theorem canonicalJson_ascending (body : Body) (written : canonicalJsonStringify body.value = .ok json) :
    ∃ text document, json = some text ∧ parseJson text = some document ∧ (Ascending document ↔ Regular body.value) := by
  obtain ⟨writable, rfl⟩ := (canonicalJsonStringify_eq body.sound _).mp written
  obtain ⟨text, same, reads, _⟩ := text_again body.sound writable
  exact ⟨text, _, same, reads, ascending_normal body.sound⟩

/-- An object with no index keys is regular if its members are. -/
theorem regular_named (named : ∀ member ∈ members, arrayIndex member.1 = none)
    (regular : ∀ member ∈ members, Regular member.2) : Regular (.object members) :=
  .object (fun _ _ second among _ => .inl (named second (mem_present.mp among).1))
    fun member among => regular member (mem_present.mp among).1

/-- What is hashed, with two clauses for terms. -/
def clausesBody (first second : String) (different : utf16 first ≠ utf16 second) : Body where
  value := canonicalPayload (.string (utf16 "doc")) (.object [])
    (.object [(utf16 first, .string (utf16 "price")), (utf16 second, .string (utf16 "delivery"))])
  sound := by
    refine sound_payload .string (.object List.nodup_nil nofun) (.object (by simpa [Distinct] using different) ?_)
    simp only [List.mem_cons, List.not_mem_nil, or_false, forall_eq_or_imp, forall_eq]
    exact ⟨.string, .string⟩

theorem canonicalJson_clauses : ∃ text document,
    canonicalJsonStringify (clausesBody "b" "a" (by decide)).value = .ok (some text) ∧
    parseJson text = some document ∧ Ascending document := by
  obtain ⟨text, document, same, reads, order⟩ := canonicalJson_ascending (clausesBody "b" "a" (by decide)) rfl
  have terms : Regular (.object [(utf16 "b", .string (utf16 "price")), (utf16 "a", .string (utf16 "delivery"))]) := by
    apply regular_named
    · simp only [List.mem_cons, List.not_mem_nil, or_false, forall_eq_or_imp, forall_eq]
      decide
    · simp only [List.mem_cons, List.not_mem_nil, or_false, forall_eq_or_imp, forall_eq]
      exact ⟨.string, .string⟩
  have regular : Regular (clausesBody "b" "a" (by decide)).value := by
    apply regular_named
    · simp only [List.mem_cons, List.not_mem_nil, or_false, forall_eq_or_imp, forall_eq]
      decide
    · simp only [List.mem_cons, List.not_mem_nil, or_false, forall_eq_or_imp, forall_eq]
      exact ⟨.string, regular_named nofun nofun, terms⟩
  exact ⟨text, document, congrArg Except.ok same, reads, order.mpr regular⟩

/-- The tenth clause comes after the ninth, though its key is the lesser. -/
theorem canonicalJson_descending : ∃ text document,
    canonicalJsonStringify (clausesBody "9" "10" (by decide)).value = .ok (some text) ∧
    parseJson text = some document ∧ ¬ Ascending document := by
  have sound := (clausesBody "9" "10" (by decide)).sound
  have written : canonicalJsonStringify (clausesBody "9" "10" (by decide)).value = .ok _ := rfl
  obtain ⟨writable, same⟩ := (canonicalJsonStringify_eq sound _).mp written
  obtain ⟨text, json, reads, _⟩ := text_again sound writable
  refine ⟨text, _, ?_, reads, fun ascending => ?_⟩
  · rw [written, same, json]
  · have payload := regular_object.mp ((ascending_normal sound).mp ascending)
    have terms := regular_object.mp (payload.2 _ (mem_present.mpr ⟨.tail _ (.tail _ (.head _)), rfl⟩))
    have tenth : arrayIndex (utf16 "10") = some 10 := by decide
    have ninth : arrayIndex (utf16 "9") = some 9 := by decide
    rcases terms.1 (utf16 "10", _) (mem_present.mpr ⟨.tail _ (.head _), rfl⟩) (utf16 "9", _)
      (mem_present.mpr ⟨.head _, rfl⟩) (by decide) with none | ⟨number, number', index, index', less⟩
    · cases ninth.symm.trans none
    · cases tenth.symm.trans index
      cases ninth.symm.trans index'
      omega

end Agroasys.Ricardian
