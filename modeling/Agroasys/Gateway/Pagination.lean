import Agroasys.Foundation.Keyset
import Agroasys.Gateway.Cursors

namespace Agroasys.Gateway

open Agroasys.Foundation Agroasys.Runtime

section Codec

/-- A text of characters of one byte. -/
def PlainText (text : String) : Prop := ∀ char ∈ text.toList, char.toNat < 0x80

private theorem plainText_all (all : (text.toList.all fun char => char.toNat.blt 0x80) = true) : PlainText text := by
  intro char member
  have small := List.all_eq_true.mp all char member
  exact Nat.le_of_ble_eq_true small

theorem utf16_plain (plain : PlainText text) : utf16 text = text.toList.map unit := by
  rw [utf16, List.map_eq_flatMap]
  apply List.flatMap_congr
  intro char member
  exact if_pos (Nat.lt_of_lt_of_le (plain char member) (by decide))

private theorem unit_val (small : char.toNat < 0x80) : (unit char).val = char.toNat :=
  Nat.mod_eq_of_lt (Nat.lt_of_lt_of_le small (by decide))

private theorem utf16_ascii (plain : PlainText text) : Ascii (utf16 text) := by
  rw [utf16_plain plain]
  intro code member
  obtain ⟨char, among, rfl⟩ := List.mem_map.mp member
  rw [unit_val (plain char among)]
  exact plain char among

theorem unitsText_ascii (ascii : Ascii units) : unitsText units = units.map fun code => Char.ofNat code.val := by
  have single : ∀ code : CodeUnit, code.val < 0x80 →
      (if isLead code || isTrail code then Char.ofNat 0xFFFD else Char.ofNat code.val) = Char.ofNat code.val := by
    intro code small
    have plain : (isLead code || isTrail code) = false := by
      simp only [isLead, isTrail, Bool.or_eq_false_iff, Bool.and_eq_false_iff, decide_eq_false_iff_not]
      omega
    rw [plain, if_neg (by decide)]
  induction units using unitsText.induct with
  | case1 => rfl
  | case2 code =>
    rw [unitsText, single code (ascii code List.mem_cons_self)]
    rfl
  | case3 lead trail rest pair =>
    have small := ascii lead List.mem_cons_self
    simp only [isLead, Bool.and_eq_true, decide_eq_true_eq] at pair
    omega
  | case4 lead trail rest pair ih =>
    rw [unitsText, if_neg pair, single lead (ascii lead List.mem_cons_self),
      ih fun code member => ascii code (List.mem_cons_of_mem _ member)]
    rfl

private theorem unitsText_utf16 (plain : PlainText text) : unitsText (utf16 text) = text.toList := by
  rw [unitsText_ascii (utf16_ascii plain), utf16_plain plain, List.map_map]
  refine (List.map_congr_left ?_).trans (List.map_id _)
  intro char member
  rw [Function.comp, unit_val (plain char member)]
  exact Char.ofNat_toNat char

private theorem quoteUnit_ascii : ∀ value : Fin 0x80,
    ((quoteUnit (Fin.ofNat 0x10000 value.val)).all fun code => code.val.blt 0x80) = true := by
  decide

private theorem quote_ascii (ascii : Ascii text) : Ascii (quote text) := by
  have each : ∀ code : CodeUnit, code.val < 0x80 → Ascii (quoteUnit code) := by
    intro code small
    have same : Fin.ofNat 0x10000 code.val = code := Fin.ext (Nat.mod_eq_of_lt code.isLt)
    have all := quoteUnit_ascii ⟨code.val, small⟩
    dsimp only at all
    rw [same, List.all_eq_true] at all
    exact fun other member => Nat.le_of_ble_eq_true (all other member)
  have units : Ascii (quoteUnits text) := by
    induction text using quoteUnits.induct with
    | case1 => exact fun _ absent => absurd absent List.not_mem_nil
    | case2 code => exact each code (ascii code List.mem_cons_self)
    | case3 lead trail rest pair =>
      have small := ascii lead List.mem_cons_self
      simp only [isLead, Bool.and_eq_true, decide_eq_true_eq] at pair
      omega
    | case4 lead trail rest pair ih =>
      rw [quoteUnits, if_neg pair]
      intro code member
      rcases List.mem_append.mp member with first | later
      · exact each lead (ascii lead List.mem_cons_self) code first
      · exact ih (fun other among => ascii other (List.mem_cons_of_mem _ among)) code later
  intro code member
  rcases List.mem_append.mp member with first | last
  · rcases List.mem_cons.mp first with rfl | inside
    · decide
    · exact units code inside
  · rw [List.mem_singleton.mp last]
    decide

/-- The names of two members that are no indices, in characters of one byte. -/
structure CursorFields.Proper (fields : CursorFields) : Prop where
  different : utf16 fields.time ≠ utf16 fields.id
  plain : PlainText fields.time ∧ PlainText fields.id
  named : arrayIndex (utf16 fields.time) = none ∧ arrayIndex (utf16 fields.id) = none

theorem governanceCursor_proper : governanceCursor.Proper :=
  ⟨by decide, ⟨plainText_all (by decide), plainText_all (by decide)⟩, by decide⟩

theorem complianceCursor_proper : complianceCursor.Proper :=
  ⟨by decide, ⟨plainText_all (by decide), plainText_all (by decide)⟩, by decide⟩

private theorem ownOrder_named {members : Members α} (named : ∀ member ∈ members, isIndex member = false) :
    ownOrder members = members := by
  have none : members.filter isIndex = [] := List.filter_eq_nil_iff.mpr fun member among => by simp [named member among]
  have all : (members.filter fun member => !isIndex member) = members :=
    List.filter_eq_self.mpr fun member among => by simp [named member among]
  rw [ownOrder, none, all]
  rfl

private theorem CursorFields.Proper.order {fields : CursorFields} (proper : fields.Proper) (time id : α) :
    ownOrder [(utf16 fields.time, time), (utf16 fields.id, id)] = [(utf16 fields.time, time), (utf16 fields.id, id)] := by
  apply ownOrder_named
  intro member among
  rcases List.mem_cons.mp among with rfl | other
  · rw [isIndex, proper.named.1]
    rfl
  · rw [List.mem_singleton.mp other, isIndex, proper.named.2]
    rfl

private theorem ascii_append (first : Ascii text) (second : Ascii other) : Ascii (text ++ other) := by
  intro code member
  rcases List.mem_append.mp member with inside | inside
  · exact first code inside
  · exact second code inside

private theorem ascii_cons (small : code.val < 0x80) (rest : Ascii text) : Ascii (code :: text) := by
  intro other member
  rcases List.mem_cons.mp member with rfl | inside
  · exact small
  · exact rest other inside

/-- The JSON text of a cursor: characters of one byte, which read as the cursor. -/
theorem cursor_json {fields : CursorFields} {cursor : PageCursor} (proper : fields.Proper) (time : PlainText cursor.time) (id : PlainText cursor.id) :
    ∃ json, stringify (cursor.object fields) = some json ∧ Ascii json ∧ parseJson json = some (cursor.object fields) := by
  have plain : Plain (cursor.object fields) := by
    refine .object ?_ ?_
    · simp only [Distinct, List.map_cons, List.map_nil, List.nodup_cons, List.mem_singleton, List.not_mem_nil,
        not_false_eq_true, List.nodup_nil, and_true]
      exact proper.different
    · intro member among
      rcases List.mem_cons.mp among with rfl | other
      · exact .string
      · rw [List.mem_singleton.mp other]
        exact .string
  obtain ⟨json, written', parsed⟩ := parseJson_stringify plain
  have same : written (cursor.object fields) = cursor.object fields := by
    rw [PageCursor.object, written]
    exact congrArg JsValue.object (proper.order ..)
  refine ⟨json, written', ?_, same ▸ parsed⟩
  rw [PageCursor.object, stringify] at written'
  simp only [stringifyMembers, stringify, proper.order, memberTexts, List.filterMap_cons, List.filterMap_nil,
    Option.map_some, joined, List.intercalate_cons_cons, List.intercalate_singleton, Option.some.injEq] at written'
  rw [← written']
  have colon : (unit ':').val < 0x80 := by decide
  have comma : Ascii [unit ','] := ascii_cons (by decide) fun _ absent => absurd absent List.not_mem_nil
  have opened : braceOpen.val < 0x80 := by decide
  have closed : Ascii [braceClose] := ascii_cons (by decide) fun _ absent => absurd absent List.not_mem_nil
  have member : ∀ {name value : String}, PlainText name → PlainText value →
      Ascii (quote (utf16 name) ++ unit ':' :: quote (utf16 value)) := fun name value =>
    ascii_append (quote_ascii (utf16_ascii name)) (ascii_cons colon (quote_ascii (utf16_ascii value)))
  exact ascii_append (ascii_cons opened (ascii_append (ascii_append (member proper.plain.1 time) comma)
    (member proper.plain.2 id))) closed

/-- A cursor that a list hands out: a time that is one, and an id. -/
structure PageCursor.Proper (engine : CursorEngine) (cursor : PageCursor) : Prop where
  time : PlainText cursor.time
  dated : (dateParse engine.toDateEngine cursor.time).isSome
  id : PlainText cursor.id
  filled : cursor.time ≠ "" ∧ cursor.id ≠ ""

theorem encodeCursor_filled {fields : CursorFields} {cursor : PageCursor} (proper : fields.Proper) (given : cursor.Proper engine) :
    encodeCursor fields cursor ≠ "" := by
  obtain ⟨json, written, ascii, parsed⟩ := cursor_json proper given.time given.id
  rw [encodeCursor, written, Option.getD_some, utf8Bytes_ascii ascii]
  apply base64Url_filled
  intro empty
  rw [List.map_eq_nil_iff.mp empty] at parsed
  cases parsed

theorem truthy_utf16 (plain : PlainText text) (filled : text ≠ "") : (JsValue.string (utf16 text)).truthy = true := by
  rw [JsValue.truthy, utf16_plain plain, Bool.not_eq_true', List.isEmpty_eq_false_iff]
  intro empty
  exact filled (String.toList_injective (List.map_eq_nil_iff.mp empty))

/-- Decoding an encoded cursor gives its members back. -/
theorem decodeCursor_encodeCursor {fields : CursorFields} {cursor : PageCursor} (proper : fields.Proper) (given : cursor.Proper engine) :
    decodeCursor engine fields (encodeCursor fields cursor) =
      some (.string (utf16 cursor.time), .string (utf16 cursor.id)) := by
  obtain ⟨json, written, ascii, parsed⟩ := cursor_json proper given.time given.id
  have bytes : ∀ byte ∈ json.map Fin.val, byte < 256 := by
    intro byte member
    obtain ⟨code, among, rfl⟩ := List.mem_map.mp member
    exact Nat.lt_of_lt_of_le (ascii code among) (by decide)
  have read : parseJson (utf8Text (base64UrlBytes (encodeCursor fields cursor))) = some (cursor.object fields) := by
    rw [encodeCursor, written, Option.getD_some, utf8Bytes_ascii ascii, base64UrlBytes_base64Url bytes,
      utf8Text_ascii ascii, parsed]
  have time : property (cursor.object fields) fields.time = .string (utf16 cursor.time) := by
    rw [PageCursor.object, property, getMember_cons, if_pos rfl]
  have id : property (cursor.object fields) fields.id = .string (utf16 cursor.id) := by
    rw [PageCursor.object, property, getMember_cons, if_neg proper.different, getMember_cons, if_pos rfl]
  have text : engine.text (.string (utf16 cursor.time)) = cursor.time := by
    rw [CursorEngine.text, unitsText_utf16 given.time, String.ofList_toList]
  rw [decodeCursor, read]
  simp only [Option.bind_eq_bind, Option.bind_some, time, id, text, truthy_utf16 given.time given.filled.1,
    truthy_utf16 given.id given.filled.2, given.dated, Bool.and_self, if_true]

private theorem textCursor_utf16 {cursor : PageCursor} (given : cursor.Proper engine) :
    textCursor (.string (utf16 cursor.time), .string (utf16 cursor.id)) = some cursor := by
  rw [textCursor, unitsText_utf16 given.time, unitsText_utf16 given.id, String.ofList_toList, String.ofList_toList]

end Codec

section Shapes

/-- Texts with the same marks in the same places, and digits or small letters elsewhere. -/
def SameShape (text other : String) : Prop :=
  List.Forall₂ (fun char char' => char = char' ∨ ((char.isDigit ∨ char.isLower) ∧ (char'.isDigit ∨ char'.isLower)))
    text.toList other.toList

/-- What `localeCompare` makes of texts of one shape: the order of their code units. -/
def Collates (localeCompare : String → String → Int) : Prop :=
  ∀ text other, SameShape text other → (localeCompare text other ≤ 0 ↔ text ≤ other)

/-- A lower-case UUID. -/
def IsUuid (text : String) : Prop :=
  List.Forall₂ (fun char mark => if mark = '-' then char = '-' else char.isDigit = true ∨ 'a' ≤ char ∧ char ≤ 'f')
    text.toList "00000000-0000-0000-0000-000000000000".toList

instance : DecidablePred IsUuid := fun text =>
  decidable_of_iff (text.toList.length = "00000000-0000-0000-0000-000000000000".toList.length ∧
      ∀ pair ∈ text.toList.zip "00000000-0000-0000-0000-000000000000".toList,
        if pair.2 = '-' then pair.1 = '-' else pair.1.isDigit = true ∨ 'a' ≤ pair.1 ∧ pair.1 ≤ 'f')
    ⟨fun both => List.forall₂_iff_zip.mpr ⟨both.1, fun member => both.2 _ member⟩,
      fun matched => ⟨matched.length_eq, fun _ member => (List.forall₂_iff_zip.mp matched).2 member⟩⟩

private theorem forall₂_both {R : α → γ → Prop} {R' : β → γ → Prop} {S : α → β → Prop} {marks : List γ}
    (first : List.Forall₂ R values marks) (second : List.Forall₂ R' others marks)
    (both : ∀ value other mark, R value mark → R' other mark → S value other) : List.Forall₂ S values others := by
  induction first generalizing others with
  | nil =>
    cases second
    exact .nil
  | cons head _ ih =>
    cases second with
    | cons head' rest' => exact .cons (both _ _ _ head head') (ih rest')

private theorem letter_lower (letter : 'a' ≤ char ∧ char ≤ 'f') : char.isLower = true := by
  rw [Char.isLower, Bool.and_eq_true, decide_eq_true_eq, decide_eq_true_eq]
  exact ⟨letter.1, le_trans letter.2 (by decide)⟩

private theorem IsUuid.sameShape (first : IsUuid text) (second : IsUuid other) : SameShape text other := by
  refine forall₂_both first second ?_
  intro char char' mark
  split
  · rintro rfl rfl
    exact .inl rfl
  · intro one another
    exact .inr ⟨one.imp_right letter_lower, another.imp_right letter_lower⟩

private theorem digit_plain (digit : Char.isDigit char = true) : char.toNat < 0x80 := by
  rw [Char.isDigit, Bool.and_eq_true, decide_eq_true_eq, decide_eq_true_eq] at digit
  have bound : char.val.toNat ≤ 57 := UInt32.le_iff_toNat_le.mp digit.2
  exact Nat.lt_of_le_of_lt bound (by decide)

private theorem forall₂_left {R : α → γ → Prop} {P : α → Prop} {marks : List γ} (matched : List.Forall₂ R values marks)
    (each : ∀ value mark, R value mark → P value) : ∀ value ∈ values, P value := by
  induction matched with
  | nil => exact fun _ absent => absurd absent List.not_mem_nil
  | cons head _ ih =>
    intro value member
    rcases List.mem_cons.mp member with rfl | later
    · exact each _ _ head
    · exact ih value later

private theorem IsUuid.plain (uuid : IsUuid text) : PlainText text := by
  refine forall₂_left uuid ?_
  intro char mark
  split
  · rintro rfl
    decide
  · rintro (digit | letter)
    · exact digit_plain digit
    · have bound : char.val.toNat ≤ 102 := UInt32.le_iff_toNat_le.mp letter.2
      exact Nat.lt_of_le_of_lt bound (by decide)

private theorem IsUuid.filled (uuid : IsUuid text) : text ≠ "" := by
  rintro rfl
  exact absurd uuid.length_eq (by decide)

private theorem padded_sameShape (width number other : Nat) : List.Forall₂
    (fun char char' : Char => char = char' ∨ ((char.isDigit ∨ char.isLower) ∧ (char'.isDigit ∨ char'.isLower)))
    (padded width number) (padded width other) := by
  rw [List.forall₂_iff_get]
  refine ⟨by rw [padded_length, padded_length], ?_⟩
  intro place within within'
  exact .inr ⟨.inl (padded_digits width number _ (List.get_mem ..)), .inl (padded_digits width other _ (List.get_mem ..))⟩

theorem toISOString_sameShape (four : FourDigit time) (four' : FourDigit later) :
    SameShape (toISOString time) (toISOString later) := by
  unfold SameShape
  rw [toISOString, toISOString, String.toList_ofList, String.toList_ofList, DateTime.isoText, DateTime.isoText,
    yearText_four four, yearText_four four']
  have step : ∀ {width number other mark} {rest rest' : List Char},
      List.Forall₂ (fun char char' : Char => char = char' ∨
        ((char.isDigit ∨ char.isLower) ∧ (char'.isDigit ∨ char'.isLower))) rest rest' →
      List.Forall₂ (fun char char' : Char => char = char' ∨
        ((char.isDigit ∨ char.isLower) ∧ (char'.isDigit ∨ char'.isLower)))
        (padded width number ++ mark :: rest) (padded width other ++ mark :: rest') := fun rest =>
    List.rel_append (padded_sameShape ..) (.cons (.inl rfl) rest)
  exact step (step (step (step (step (step (step .nil))))))

private theorem toISOString_plain (four : FourDigit time) : PlainText (toISOString time) := by
  unfold PlainText
  rw [toISOString, String.toList_ofList, DateTime.isoText, yearText_four four]
  have step : ∀ {width number mark} {rest : List Char}, mark.toNat < 0x80 → (∀ char ∈ rest, char.toNat < 0x80) →
      ∀ char ∈ padded width number ++ mark :: rest, char.toNat < 0x80 := by
    intro width number mark rest small others char member
    rcases List.mem_append.mp member with digit | other
    · exact digit_plain (padded_digits width number char digit)
    · rcases List.mem_cons.mp other with rfl | later
      · exact small
      · exact others char later
  exact step (by decide) (step (by decide) (step (by decide) (step (by decide) (step (by decide) (step (by decide)
    (step (by decide) fun _ absent => absurd absent List.not_mem_nil))))))

end Shapes

section Stamps

/-- The instant that an ISO text denotes. -/
def isoInstant (text : String) : Int :=
  ((readIso text).map fun reading => reading.moment.time).getD 0

theorem isoInstant_toISOString (four : FourDigit time) : isoInstant (toISOString time) = time := by
  rw [isoInstant, readIso_toISOString four.range]
  exact DateTime.time_ofTime time

theorem toISOString_inj (four : FourDigit time) (four' : FourDigit later) :
    toISOString time = toISOString later ↔ time = later := by
  constructor
  · intro same
    rw [← isoInstant_toISOString four, same, isoInstant_toISOString four']
  · exact congrArg toISOString

private theorem toISOString_filled (four : FourDigit time) : toISOString time ≠ "" := by
  intro empty
  have digits := padded_length 4 (DateTime.ofTime time).year.toNat
  have none : (toISOString time).toList = [] := by rw [empty]; rfl
  rw [toISOString, String.toList_ofList, DateTime.isoText, yearText_four four] at none
  rw [(List.append_eq_nil_iff.mp none).1] at digits
  cases digits

theorem stamp_proper (engine : CursorEngine) (four : FourDigit time) (uuid : IsUuid name) :
    PageCursor.Proper engine ⟨toISOString time, name⟩ where
  time := toISOString_plain four
  dated := by rw [dateParse_toISOString engine.toDateEngine four.range]; rfl
  id := uuid.plain
  filled := ⟨toISOString_filled four, uuid.filled⟩

end Stamps

section Keysets

variable {Record : Type}

private theorem pageOf_keysetPage (positive : 1 ≤ limit) (cursorOf : Record → String) (rows : List Record) :
    pageOf limit cursorOf rows = ((keysetPage limit rows).1, (keysetPage limit rows).2.map cursorOf) := by
  have first : (rows.take (limit + 1)).take limit = rows.take limit := by
    rw [List.take_take, Nat.min_eq_left (Nat.le_succ limit)]
  have last : (rows.take (limit + 1))[limit - 1]? = rows[limit - 1]? := by
    rw [List.getElem?_take, if_pos (by omega)]
  have short : (rows.take (limit + 1)).length ≤ limit ↔ rows.length ≤ limit := by
    rw [List.length_take]
    omega
  unfold pageOf keysetPage
  dsimp only
  rw [first, last]
  by_cases whole : rows.length ≤ limit
  · rw [if_pos (short.mpr whole), if_pos whole]
    rfl
  · rw [if_neg (mt short.mp whole), if_neg whole]

/-- Tables whose records have their own ids, lower-case UUIDs, and keep their times. -/
structure MemoryOrder.Regular (order : MemoryOrder Record) (stamp : String → Int) (records : List Record) : Prop where
  distinct : (records.map order.id).Nodup
  uuids : ∀ record ∈ records, IsUuid (order.id record)
  stamped : ∀ record ∈ records, order.time record = toISOString (stamp (order.id record))
  four : ∀ record ∈ records, FourDigit (stamp (order.id record))

namespace MemoryOrder

variable (order : MemoryOrder Record)

def place (record : Record) : Int ×ₗ String := toLex (isoInstant (order.time record), order.id record)

/-- A record with a time and an id as a list has them. -/
structure Proper (record : Record) : Prop where
  uuid : IsUuid (order.id record)
  stamped : ∃ time, FourDigit time ∧ order.time record = toISOString time

variable {order}

theorem Regular.proper (regular : order.Regular stamp records) (member : record ∈ records) : order.Proper record :=
  ⟨regular.uuids record member, _, regular.four record member, regular.stamped record member⟩

theorem before_iff (collates : Collates order.localeCompare) (proper : order.Proper left) (proper' : order.Proper right) :
    order.before left right = true ↔ order.place right ≤ order.place left := by
  obtain ⟨uuid, time, four, same⟩ := proper
  obtain ⟨uuid', time', four', same'⟩ := proper'
  rw [place, place, Prod.Lex.toLex_le_toLex, before, same, same', isoInstant_toISOString four, isoInstant_toISOString four']
  by_cases tie : time = time'
  · rw [if_pos ((toISOString_inj four four').mpr tie), decide_eq_true_eq, collates _ _ (uuid'.sameShape uuid)]
    exact ⟨fun less => .inr ⟨tie.symm, less⟩, fun either => either.elim (fun less => absurd tie.symm (ne_of_lt less)) And.right⟩
  · rw [if_neg (mt (toISOString_inj four four').mp tie), decide_eq_true_eq, collates _ _ (toISOString_sameShape four' four), le_iff_lt_or_eq,
      toISOString_lt four' four, toISOString_inj four' four]
    exact ⟨fun either => either.elim .inl fun same => absurd same.symm tie,
      fun either => either.elim .inl fun both => absurd both.1.symm tie⟩

private theorem behind_iff (proper : order.Proper record) (proper' : order.Proper other) :
    order.behind ⟨order.time other, order.id other⟩ record = true ↔ order.place record < order.place other := by
  obtain ⟨_, time, four, same⟩ := proper
  obtain ⟨_, time', four', same'⟩ := proper'
  rw [place, place, Prod.Lex.toLex_lt_toLex, behind, same, same', isoInstant_toISOString four, isoInstant_toISOString four',
    Bool.or_eq_true, Bool.and_eq_true, decide_eq_true_eq, decide_eq_true_eq, decide_eq_true_eq, toISOString_lt four four',
    toISOString_inj four four']

private theorem Regular.filter (regular : order.Regular stamp records) (kept : Record → Bool) :
    order.Regular stamp (records.filter kept) where
  distinct := regular.distinct.sublist (List.filter_sublist.map _)
  uuids := fun record member => regular.uuids record (List.mem_filter.mp member).1
  stamped := fun record member => regular.stamped record (List.mem_filter.mp member).1
  four := fun record member => regular.four record (List.mem_filter.mp member).1

private theorem Regular.places (regular : order.Regular stamp records) : (records.map order.place).Nodup := by
  refine List.Nodup.of_map (fun place => (ofLex place).2) ?_
  rw [List.map_map]
  exact regular.distinct

/-- A list in memory is a listing by time and id. -/
theorem keyset {fields : CursorFields} (order : MemoryOrder Record) (collates : Collates order.localeCompare) (named : fields.Proper) (engine : CursorEngine)
    (wanted : Record → Bool) (positive : 1 ≤ limit) (regular : order.Regular stamp records) :
    Keyset (listInMemory order (decodeCursor engine fields) (encodeCursor fields) wanted limit)
      (fun record => encodeCursor fields ⟨order.time record, order.id record⟩) order.place (fun records => records.filter wanted)
      order.Proper limit records := by
  have sorted : (order.sorted records).Pairwise fun record later => order.place later < order.place record :=
    insertionSort_descending regular.places fun row member later member' =>
      before_iff collates (regular.proper member) (regular.proper member')
  have members : ∀ record, record ∈ (order.sorted records).filter wanted ↔ record ∈ records.filter wanted := by
    intro record
    rw [List.mem_filter, List.mem_filter, MemoryOrder.sorted, List.mem_insertionSort]
  constructor
  · intro record member
    exact regular.proper (List.mem_filter.mp member).1
  · intro boundary legit
    cases boundary with
    | none =>
      refine ⟨(order.sorted records).filter wanted, sorted.filter _, ?_, ?_⟩
      · intro record
        rw [members record]
        exact ⟨fun among => ⟨among, fun _ absent => absurd absent (Option.not_mem_none _)⟩, And.left⟩
      · exact congrArg some (pageOf_keysetPage positive _ _)
    | some other =>
      have proper := legit other rfl
      have ⟨uuid, time, four, same⟩ := proper
      have given : PageCursor.Proper engine ⟨order.time other, order.id other⟩ := same ▸ stamp_proper engine four uuid
      refine ⟨((order.sorted records).filter wanted).filter (order.behind ⟨order.time other, order.id other⟩),
        (sorted.filter _).filter _, ?_, ?_⟩
      · intro record
        rw [List.mem_filter, members record]
        constructor
        · rintro ⟨among, behind⟩
          refine ⟨among, ?_⟩
          rintro _ ⟨⟩
          exact (behind_iff (regular.proper (List.mem_filter.mp among).1) proper).mp behind
        · rintro ⟨among, behind⟩
          exact ⟨among, (behind_iff (regular.proper (List.mem_filter.mp among).1) proper).mpr (behind other rfl)⟩
      · have present : givenCursor (some (encodeCursor fields ⟨order.time other, order.id other⟩)) =
            some (encodeCursor fields ⟨order.time other, order.id other⟩) :=
          Option.filter_some.trans (if_pos (decide_eq_true (encodeCursor_filled named given)))
        have read : (decodeCursor engine fields (encodeCursor fields ⟨order.time other, order.id other⟩)).bind textCursor =
            some ⟨order.time other, order.id other⟩ := by
          rw [decodeCursor_encodeCursor named given]
          exact textCursor_utf16 given
        rw [Option.map_some, listInMemory, present]
        dsimp only
        rw [read]
        exact congrArg some (pageOf_keysetPage positive _ _)

end MemoryOrder

/-- Postgres reads the text of a time of the years 1 to 9999 as that time. -/
def ReadsStamps (timestampOf : String → Option Int) : Prop :=
  ∀ time, FourDigit time → 1 ≤ (DateTime.ofTime time).year → timestampOf (toISOString time) = some time

theorem pageOf_map {Row : Type} (shape : Row → Record) (limit : Nat) (cursorOf : Record → String) (rows : List Row) :
    pageOf limit cursorOf (rows.map shape) = ((pageOf limit (fun row => cursorOf (shape row)) rows).1.map shape,
      (pageOf limit (fun row => cursorOf (shape row)) rows).2) := by
  unfold pageOf
  dsimp only
  rw [← List.map_take, ← List.map_take, List.length_map, List.getElem?_map, Option.map_map]
  rfl

theorem listInPostgres_map {Row Rank : Type} [LinearOrder Rank] (order : ColumnOrder Row Rank) (mapRow : Row → Record)
    (decode : String → Option (JsValue × JsValue)) (cursorOf : Record → String) (wanted : Row → Bool) (limit : Nat)
    (cursor : Option String) (rows : List Row) :
    listInPostgres order mapRow decode cursorOf wanted limit cursor rows =
      (listInPostgres order (fun row => row) decode (fun row => cursorOf (mapRow row)) wanted limit cursor rows).map
        fun shown => (shown.1.map mapRow, shown.2) := by
  unfold listInPostgres
  dsimp only
  simp only [List.map_id', pageOf_map]
  cases givenCursor cursor with
  | none => rfl
  | some text =>
    dsimp only [Option.bind_eq_bind]
    simp only [Option.map_bind, Function.comp_def, Option.map_some]

namespace ColumnOrder

variable {Row Rank : Type} {order : ColumnOrder Row Rank}

/-- Tables whose rows have their own ids, lower-case UUIDs, and keep their times. -/
structure Regular (order : ColumnOrder Row Rank) (stamp : String → Int) (rows : List Row) : Prop where
  distinct : (rows.map order.id).Nodup
  uuids : ∀ row ∈ rows, IsUuid (order.id row)
  stamped : ∀ row ∈ rows, order.time row = stamp (order.id row)
  four : ∀ row ∈ rows, FourDigit (stamp (order.id row)) ∧ 1 ≤ (DateTime.ofTime (stamp (order.id row))).year

def place (order : ColumnOrder Row Rank) (row : Row) : Int ×ₗ Rank := toLex (order.time row, order.rank (order.id row))

/-- A row with a time and an id as a list has them. -/
structure Proper (order : ColumnOrder Row Rank) (row : Row) : Prop where
  uuid : IsUuid (order.id row)
  four : FourDigit (order.time row)
  common : 1 ≤ (DateTime.ofTime (order.time row)).year

private theorem Regular.proper (regular : order.Regular stamp rows) (member : row ∈ rows) : order.Proper row := by
  have four := regular.four row member
  rw [← regular.stamped row member] at four
  exact ⟨regular.uuids row member, four.1, four.2⟩

private theorem Regular.places (injective : Function.Injective order.rank) (regular : order.Regular stamp rows) :
    (rows.map order.place).Nodup := by
  refine List.Nodup.of_map (fun place => (ofLex place).2) ?_
  have ranks := regular.distinct.map injective
  rw [List.map_map] at ranks ⊢
  exact ranks

variable [LinearOrder Rank]

theorem before_iff (left right : Row) : order.before left right = true ↔ order.place right ≤ order.place left := by
  rw [place, place, Prod.Lex.toLex_le_toLex, before, Bool.or_eq_true, Bool.and_eq_true, decide_eq_true_eq, decide_eq_true_eq,
    decide_eq_true_eq, eq_comm (a := order.time left)]

private theorem behind_iff (row other : Row) :
    order.behind (order.time other) (order.id other) row = true ↔ order.place row < order.place other := by
  rw [place, place, Prod.Lex.toLex_lt_toLex, behind, Bool.or_eq_true, Bool.and_eq_true, decide_eq_true_eq, decide_eq_true_eq,
    decide_eq_true_eq]

/-- A list in Postgres is a listing by time and rank. -/
theorem keyset {fields : CursorFields} (order : ColumnOrder Row Rank) (injective : Function.Injective order.rank) (reads : ReadsStamps order.timestampOf)
    (named : fields.Proper) (engine : CursorEngine) (wanted : Row → Bool) (positive : 1 ≤ limit)
    (regular : order.Regular stamp rows) :
    Keyset (listInPostgres order (fun row => row) (decodeCursor engine fields)
        (fun row => encodeCursor fields ⟨toISOString (order.time row), order.id row⟩) wanted limit)
      (fun row => encodeCursor fields ⟨toISOString (order.time row), order.id row⟩) order.place (fun rows => rows.filter wanted)
      order.Proper limit rows := by
  have sorted : ∀ keep : Row → Bool, ((rows.filter keep).insertionSort fun left right => order.before left right = true).Pairwise
      fun row later => order.place later < order.place row := fun keep =>
    insertionSort_descending ((regular.places injective).sublist (List.filter_sublist.map _)) fun row _ later _ => before_iff row later
  constructor
  · intro row member
    exact regular.proper (List.mem_filter.mp member).1
  · intro boundary legit
    cases boundary with
    | none =>
      refine ⟨_, sorted wanted, ?_, ?_⟩
      · intro row
        rw [List.mem_insertionSort]
        exact ⟨fun among => ⟨among, fun _ absent => absurd absent (Option.not_mem_none _)⟩, And.left⟩
      · rw [Option.map_none, listInPostgres]
        dsimp only [givenCursor, Option.filter_none]
        rw [List.map_id']
        exact congrArg some (pageOf_keysetPage positive _ _)
    | some other =>
      have proper := legit other rfl
      have given := stamp_proper engine proper.four proper.uuid
      refine ⟨_, sorted fun row => wanted row && order.behind (order.time other) (order.id other) row, ?_, ?_⟩
      · intro row
        rw [List.mem_insertionSort, List.mem_filter, List.mem_filter, Bool.and_eq_true, behind_iff]
        constructor
        · rintro ⟨among, wanted, behind⟩
          exact ⟨⟨among, wanted⟩, by rintro _ ⟨⟩; exact behind⟩
        · rintro ⟨⟨among, wanted⟩, behind⟩
          exact ⟨among, wanted, behind other rfl⟩
      · have present : givenCursor (some (encodeCursor fields ⟨toISOString (order.time other), order.id other⟩)) =
            some (encodeCursor fields ⟨toISOString (order.time other), order.id other⟩) :=
          Option.filter_some.trans (if_pos (decide_eq_true (encodeCursor_filled named given)))
        have read : (decodeCursor engine fields (encodeCursor fields ⟨toISOString (order.time other), order.id other⟩)).bind
            textCursor = some ⟨toISOString (order.time other), order.id other⟩ := by
          rw [decodeCursor_encodeCursor named given]
          exact textCursor_utf16 given
        rw [Option.map_some, listInPostgres, present]
        dsimp only
        rw [read]
        dsimp only [Option.bind_eq_bind, Option.bind_some]
        rw [reads _ proper.four proper.common, Option.bind_some, List.map_id']
        exact congrArg some (pageOf_keysetPage positive _ _)

end ColumnOrder

end Keysets

section Reading

variable {Item Table Rank : Type} [LinearOrder Rank]

/-- A list is read from its first page to its last, whatever its tables at the pages: the newest
items first, no id twice, and each id that every table shows once. Over finitely many ids the reading ends. -/
structure ReadsOnce (page : Option String → Table → Option (List Item × Option String)) (time : Item → Int)
    (idOf : Item → String) (rank : String → Rank) (wanted : Table → List Item)
    (Regular : (String → Int) → Table → Prop) : Prop where
  once : ∀ stamp tables visited, (∀ table ∈ tables, Regular stamp table) → Traversal page none tables visited →
    (visited.Pairwise fun item later =>
      time later < time item ∨ time later = time item ∧ rank (idOf later) < rank (idOf item)) ∧
    (visited.map idOf).Nodup ∧
    ∀ name, (∀ table ∈ tables, name ∈ (wanted table).map idOf) → (visited.map idOf).count name = 1
  ends : ∀ stamp (tables : Nat → Table) (names : Finset String), (∀ number, Regular stamp (tables number)) →
    (∀ number, ∀ item ∈ wanted (tables number), idOf item ∈ names) →
    ∃ count visited, Traversal page none ((List.range' 0 (count + 1)).map tables) visited

theorem readsOnce_keysets {page : Option String → Table → Option (List Item × Option String)} {time : Item → Int}
    {idOf : Item → String} {rank : String → Rank} {wanted : Table → List Item} {Regular : (String → Int) → Table → Prop}
    {known : Item → Prop} (cursorOf : Item → String) (positive : 1 ≤ limit) (injective : Function.Injective rank)
    (keysets : ∀ stamp table, Regular stamp table →
      Keyset page cursorOf (fun item => toLex (time item, rank (idOf item))) wanted known limit table)
    (stamped : ∀ stamp table, Regular stamp table → ∀ item ∈ wanted table, time item = stamp (idOf item)) :
    ReadsOnce page time idOf rank wanted Regular := by
  constructor
  · intro stamp tables visited regular traversal
    have shown := traversal.shown positive (fun table member => keysets stamp table (regular table member)) none rfl
      fun _ absent => absurd absent (Option.not_mem_none _)
    have times : ∀ item ∈ visited, time item = stamp (idOf item) := by
      intro item member
      obtain ⟨⟨table, among, inside⟩, _⟩ := shown.behind item member
      exact stamped stamp table (regular table among) item inside
    have descending := shown.descending.imp fun less => Prod.Lex.toLex_lt_toLex.mp less
    have distinct : (visited.map idOf).Nodup := by
      rw [List.nodup_iff_pairwise_ne, List.pairwise_map]
      refine descending.imp_of_mem ?_
      intro item later member member' less same
      rcases less with newer | ⟨_, behind⟩
      · rw [times item member, times later member', same] at newer
        exact lt_irrefl _ newer
      · rw [same] at behind
        exact lt_irrefl _ behind
    refine ⟨descending, distinct, ?_⟩
    intro name present
    have place : ∀ table ∈ tables, ∃ item ∈ wanted table,
        toLex (time item, rank (idOf item)) = toLex (stamp name, rank name) := by
      intro table among
      obtain ⟨item, inside, rfl⟩ := List.mem_map.mp (present table among)
      exact ⟨item, inside, by rw [stamped stamp table (regular table among) item inside]⟩
    obtain ⟨item, member, same⟩ := shown.complete _ (fun _ absent => absurd absent (Option.not_mem_none _)) place
    have named : idOf item = name := injective (Prod.mk.inj (toLex.injective same)).2
    exact List.count_eq_one_of_mem distinct (List.mem_map.mpr ⟨item, member, named⟩)
  · intro stamp tables names regular among
    refine traversal_ends positive tables (fun number => keysets stamp _ (regular number))
      (names.image fun name => toLex (stamp name, rank name)) ?_ none (fun _ absent => absurd absent (Option.not_mem_none _)) 0
    intro number item member
    refine Finset.mem_image.mpr ⟨idOf item, among number item member, ?_⟩
    rw [stamped stamp _ (regular number) item member]

end Reading

section Lists

variable {Rank : Type} [LinearOrder Rank]

theorem actionsInMemory_readsOnce (engine : CursorEngine) (collates : Collates localeCompare) (input : GovernanceFilter)
    (positive : 1 ≤ input.limit) : ReadsOnce (listActionsInMemory engine localeCompare input)
      (fun action => isoInstant action.createdAt) GovernanceActionRecord.actionId (fun text => text)
      (fun actions => actions.filter fun action => input.wants action.category action.status action.tradeId)
      (governanceMemory localeCompare).Regular := by
  refine readsOnce_keysets _ positive Function.injective_id (fun stamp actions regular =>
    (governanceMemory localeCompare).keyset collates governanceCursor_proper engine _ positive regular) ?_
  intro stamp actions regular action member
  have among := (List.mem_filter.mp member).1
  exact (congrArg isoInstant (regular.stamped action among)).trans (isoInstant_toISOString (regular.four action among))

theorem actionsInPostgres_readsOnce {rank : String → Rank} (engine : CursorEngine) (injective : Function.Injective rank)
    (reads : ReadsStamps timestampOf) (input : GovernanceFilter) (positive : 1 ≤ input.limit) :
    ReadsOnce (listActionsInPostgres engine rank timestampOf input)
      (fun action => isoInstant action.createdAt) GovernanceActionRecord.actionId rank
      (fun rows => (rows.filter fun row => input.wants row.category row.status row.tradeId).map mapRow)
      (governanceColumns rank timestampOf).Regular := by
  refine readsOnce_keysets (fun action => encodeGovernanceActionCursor ⟨action.createdAt, action.actionId⟩) positive injective
    (fun stamp rows regular =>
    ((governanceColumns rank timestampOf).keyset injective reads governanceCursor_proper engine _ positive
      regular).map mapRow rfl ?_ ?_) ?_
  · intro row proper
    exact ⟨congrArg (fun time : Int => toLex (time, rank row.actionId)) (isoInstant_toISOString proper.four), rfl⟩
  · exact fun cursor => listInPostgres_map ..
  intro stamp rows regular action member
  obtain ⟨row, inside, rfl⟩ := List.mem_map.mp member
  have among := (List.mem_filter.mp inside).1
  exact (isoInstant_toISOString (regular.proper among).four).trans (regular.stamped row among)

theorem decisionsInMemory_readsOnce (engine : CursorEngine) (collates : Collates localeCompare) (tradeId : String)
    (positive : 1 ≤ limit) : ReadsOnce (listDecisionsInMemory engine localeCompare tradeId limit)
      (fun decision => isoInstant decision.decidedAt) ComplianceDecisionRecord.decisionId (fun text => text)
      (fun store => (store.1.filter fun decision => decision.tradeId = tradeId).map fun decision =>
        { cloneDecisionRecord decision with blockState := blockStateOf store.2 })
      fun stamp store => (decisionMemory localeCompare).Regular stamp store.1 := by
  refine readsOnce_keysets
    (fun decision => encodeComplianceDecisionCursor ⟨decision.decidedAt, decision.decisionId⟩) positive Function.injective_id
    (fun stamp store regular => ((decisionMemory localeCompare).keyset collates complianceCursor_proper
      engine (fun _ => true) positive (regular.filter fun decision => decision.tradeId = tradeId)).map
        (fun decision => { cloneDecisionRecord decision with blockState := blockStateOf store.2 }) ?_ ?_ ?_) ?_
  · rw [List.filter_true]
  · exact fun _ _ => ⟨rfl, rfl⟩
  · exact fun _ => rfl
  intro stamp store regular action member
  obtain ⟨decision, inside, rfl⟩ := List.mem_map.mp member
  have among := (List.mem_filter.mp inside).1
  exact (congrArg isoInstant (regular.stamped decision among)).trans (isoInstant_toISOString (regular.four decision among))

theorem decisionsInPostgres_readsOnce {rank : String → Rank} (engine : CursorEngine) (injective : Function.Injective rank)
    (reads : ReadsStamps timestampOf) (tradeId : String) (positive : 1 ≤ limit) :
    ReadsOnce (listDecisionsInPostgres engine rank timestampOf tradeId limit)
      (fun decision => decision.decidedAt) (fun decision => decision.decisionId) rank
      (fun tables => (tables.1.filter fun row => row.tradeId = tradeId).map (mapDecisionRow · (blockStateOf tables.2)))
      fun stamp tables => (decisionColumns rank timestampOf).Regular stamp tables.1 := by
  refine readsOnce_keysets
    (fun decision => encodeComplianceDecisionCursor ⟨toISOString decision.decidedAt, decision.decisionId⟩) positive injective
    (fun stamp tables regular => ((decisionColumns rank timestampOf).keyset injective reads
      complianceCursor_proper engine (fun row => row.tradeId = tradeId) positive regular).map
        (mapDecisionRow · (blockStateOf tables.2)) rfl ?_ ?_) ?_
  · exact fun _ _ => ⟨rfl, rfl⟩
  · exact fun cursor => listInPostgres_map ..
  intro stamp tables regular decision member
  obtain ⟨row, inside, rfl⟩ := List.mem_map.mp member
  exact regular.stamped row (List.mem_filter.mp inside).1

/-- Both lists of both stores show every record once, the newest first, and their cursors are read as they are written. -/
theorem pages_visit_once (engine : CursorEngine) (rank : String → Rank) (collates : Collates localeCompare)
    (injective : Function.Injective rank) (reads : ReadsStamps timestampOf) :
    (∀ input : GovernanceFilter, 1 ≤ input.limit →
      ReadsOnce (listActionsInMemory engine localeCompare input)
        (fun action => isoInstant action.createdAt) GovernanceActionRecord.actionId (fun text => text)
        (fun actions => actions.filter fun action => input.wants action.category action.status action.tradeId)
        (governanceMemory localeCompare).Regular ∧
      ReadsOnce (listActionsInPostgres engine rank timestampOf input)
        (fun action => isoInstant action.createdAt) GovernanceActionRecord.actionId rank
        (fun rows => (rows.filter fun row => input.wants row.category row.status row.tradeId).map mapRow)
        (governanceColumns rank timestampOf).Regular) ∧
    (∀ tradeId limit, 1 ≤ limit →
      ReadsOnce (listDecisionsInMemory engine localeCompare tradeId limit)
        (fun decision => isoInstant decision.decidedAt) ComplianceDecisionRecord.decisionId (fun text => text)
        (fun store => (store.1.filter fun decision => decision.tradeId = tradeId).map fun decision =>
          { cloneDecisionRecord decision with blockState := blockStateOf store.2 })
        (fun stamp store => (decisionMemory localeCompare).Regular stamp store.1) ∧
      ReadsOnce (listDecisionsInPostgres engine rank timestampOf tradeId limit)
        (fun decision => decision.decidedAt) (fun decision => decision.decisionId) rank
        (fun tables => (tables.1.filter fun row => row.tradeId = tradeId).map (mapDecisionRow · (blockStateOf tables.2)))
        (fun stamp tables => (decisionColumns rank timestampOf).Regular stamp tables.1)) ∧
    ∀ time name, FourDigit time → IsUuid name →
      decodeGovernanceActionCursor engine (encodeGovernanceActionCursor ⟨toISOString time, name⟩) =
        some (.string (utf16 (toISOString time)), .string (utf16 name)) ∧
      decodeComplianceDecisionCursor engine (encodeComplianceDecisionCursor ⟨toISOString time, name⟩) =
        some (.string (utf16 (toISOString time)), .string (utf16 name)) := by
  refine ⟨?_, ?_, ?_⟩
  · intro input positive
    exact ⟨actionsInMemory_readsOnce engine collates input positive,
      actionsInPostgres_readsOnce engine injective reads input positive⟩
  · intro tradeId limit positive
    exact ⟨decisionsInMemory_readsOnce engine collates tradeId positive,
      decisionsInPostgres_readsOnce engine injective reads tradeId positive⟩
  · intro time name four uuid
    have given := stamp_proper engine four uuid
    exact ⟨decodeCursor_encodeCursor governanceCursor_proper given, decodeCursor_encodeCursor complianceCursor_proper given⟩

def codeUnitCompare (text other : String) : Int := if text < other then -1 else if text = other then 0 else 1

def readStamp (text : String) : Option Int := (readIso text).map fun reading => reading.moment.time

/-- A decision on trade 7 at a time. -/
def pagedDecision (decisionId : String) (decidedAt : Int) : DecisionRow Int where
  decisionId := decisionId
  tradeId := "7"
  decisionType := .kyb
  result := .allow
  reasonCode := "KYB_CLEAR"
  provider := "provider"
  providerRef := "ref"
  subjectId := "subject"
  subjectType := "company"
  riskLevel := none
  correlationId := "c1"
  decidedAt := decidedAt
  overrideWindowEndsAt := none
  audit := ⟨"checked", [], "SEC-1", "s1", "0x00000000000000000000000000000000000000aa", .admin, decidedAt, "account:1"⟩

def pagedDecisions : List (DecisionRow Int) × Option ProgressionBlock :=
  ([pagedDecision "00000000-0000-4000-8000-00000000000a" 1000, pagedDecision "00000000-0000-4000-8000-00000000000b" 1000], none)

theorem codeUnitCompare_collates : Collates codeUnitCompare := by
  intro text other _
  unfold codeUnitCompare
  split
  · rename_i less
    exact ⟨fun _ => le_of_lt less, fun _ => by decide⟩
  · rename_i greater
    split
    · rename_i same
      exact ⟨fun _ => le_of_eq same, fun _ => le_rfl⟩
    · rename_i different
      exact ⟨fun positive => absurd positive (by decide), fun less => absurd (lt_of_le_of_ne less different) greater⟩

private theorem readStamp_reads : ReadsStamps readStamp := by
  intro time four _
  rw [readStamp, readIso_toISOString four.range]
  exact congrArg some (DateTime.time_ofTime time)

theorem pagedDecisions_regular : (decisionColumns (fun text => text) readStamp).Regular (fun _ => 1000) pagedDecisions.1 := by
  constructor <;> decide

theorem pagedDecisions_visited : ∃ count visited,
    Traversal (listDecisionsInPostgres ⟨⟨fun wall => wall, fun _ => none⟩, fun _ => ""⟩ (fun text => text) readStamp "7" 1) none
      ((List.range' 0 (count + 1)).map fun _ => pagedDecisions) visited ∧
    (visited.map fun decision => decision.decisionId).count "00000000-0000-4000-8000-00000000000a" = 1 := by
  have paged := (pages_visit_once ⟨⟨fun wall => wall, fun _ => none⟩, fun _ => ""⟩ (fun text => text)
    codeUnitCompare_collates Function.injective_id readStamp_reads).2.1 "7" 1 le_rfl
  obtain ⟨count, visited, traversal⟩ := paged.2.ends (fun _ => 1000) (fun _ => pagedDecisions)
    ⟨["00000000-0000-4000-8000-00000000000a", "00000000-0000-4000-8000-00000000000b"], by decide⟩
    (fun _ => pagedDecisions_regular) (fun _ => by decide)
  refine ⟨count, visited, traversal, (paged.2.once (fun _ => 1000) _ visited ?_ traversal).2.2 _ ?_⟩
  · intro table member
    obtain ⟨_, _, rfl⟩ := List.mem_map.mp member
    exact pagedDecisions_regular
  · intro table member
    obtain ⟨_, _, rfl⟩ := List.mem_map.mp member
    decide

end Lists

end Agroasys.Gateway
