import Agroasys.Runtime.Decimals

namespace Agroasys.Runtime

/-- The values of JSON, and `undefined`. The members of an object are in the order of their creation. -/
inductive JsValue where
  | undefined
  | null
  | boolean (value : Bool)
  | number (value : JsNumber)
  | string (value : JsString)
  | array (items : List JsValue)
  | object (members : List (JsString × JsValue))

section Quote

def quotation : CodeUnit := 0x22
def backslash : CodeUnit := 0x5C
def braceOpen : CodeUnit := 0x7B
def braceClose : CodeUnit := 0x7D

def isLead (unit : CodeUnit) : Bool := 0xD800 ≤ unit.val && unit.val ≤ 0xDBFF
def isTrail (unit : CodeUnit) : Bool := 0xDC00 ≤ unit.val && unit.val ≤ 0xDFFF

def hexUnit (digit : Fin 16) : CodeUnit :=
  if digit.val < 10 then ⟨48 + digit.val, by omega⟩ else ⟨87 + digit.val, by omega⟩

def unitHex (unit : CodeUnit) : Option (Fin 16) :=
  if digit : 48 ≤ unit.val ∧ unit.val ≤ 57 then some ⟨unit.val - 48, by omega⟩
  else if lower : 97 ≤ unit.val ∧ unit.val ≤ 102 then some ⟨unit.val - 87, by omega⟩
  else if upper : 65 ≤ unit.val ∧ unit.val ≤ 70 then some ⟨unit.val - 55, by omega⟩
  else none

def unicodeEscape (code : CodeUnit) : JsString :=
  [backslash, unit 'u', hexUnit (Fin.ofNat 16 (code.val / 4096)), hexUnit (Fin.ofNat 16 (code.val / 256)),
    hexUnit (Fin.ofNat 16 (code.val / 16)), hexUnit (Fin.ofNat 16 code.val)]

/-- The letter of a control character that has one. -/
def shortEscape (code : CodeUnit) : Option CodeUnit :=
  if code = 0x08 then some (unit 'b')
  else if code = 0x09 then some (unit 't')
  else if code = 0x0A then some (unit 'n')
  else if code = 0x0C then some (unit 'f')
  else if code = 0x0D then some (unit 'r')
  else if code = quotation then some (quotation)
  else if code = backslash then some (backslash)
  else none

/-- A code unit that is no half of a pair. -/
def quoteUnit (code : CodeUnit) : JsString :=
  match shortEscape code with
  | some letter => [backslash, letter]
  | none => if code.val < 0x20 ∨ isLead code ∨ isTrail code then unicodeEscape code else [code]

def quoteUnits : JsString → JsString
  | [] => []
  | [code] => quoteUnit code
  | code :: next :: rest =>
    if isLead code && isTrail next then code :: next :: quoteUnits rest else quoteUnit code ++ quoteUnits (next :: rest)

/-- `QuoteJSONString`. -/
def quote (text : JsString) : JsString := quotation :: quoteUnits text ++ [quotation]

/-- What a letter after a backslash means. -/
def escaped (letter : CodeUnit) : Option CodeUnit :=
  if letter = unit 'b' then some 0x08
  else if letter = unit 't' then some 0x09
  else if letter = unit 'n' then some 0x0A
  else if letter = unit 'f' then some 0x0C
  else if letter = unit 'r' then some 0x0D
  else if letter = quotation ∨ letter = backslash ∨ letter = unit '/' then some letter
  else none

def readHex (first second third fourth : CodeUnit) : Option CodeUnit := do
  let first ← unitHex first
  let second ← unitHex second
  let third ← unitHex third
  let fourth ← unitHex fourth
  some ⟨4096 * first.val + 256 * second.val + 16 * third.val + fourth.val, by omega⟩

/-- A string after its first quotation mark, and what follows it. -/
def readUnits : JsString → Option (JsString × JsString)
  | [] => none
  | code :: rest =>
    if code = quotation then some ([], rest)
    else if code = backslash then
      match rest with
      | [] => none
      | letter :: rest =>
        if letter = unit 'u' then
          match rest with
          | first :: second :: third :: fourth :: rest => do
            let code ← readHex first second third fourth
            let (text, rest) ← readUnits rest
            some (code :: text, rest)
          | _ => none
        else do
          let code ← escaped letter
          let (text, rest) ← readUnits rest
          some (code :: text, rest)
    else if code.val < 0x20 then none
    else do
      let (text, rest) ← readUnits rest
      some (code :: text, rest)

end Quote

section Stringify

def jsonNumber : JsNumber → JsString
  | .finite negative magnitude => writeFinite negative magnitude
  | .zero _ => utf16 "0"
  | .nan | .infinity _ => utf16 "null"

/-- Texts with commas between them. -/
def joined (texts : List JsString) : JsString := [unit ','].intercalate texts

/-- The texts of the members that are not undefined. -/
def memberTexts (members : Members (Option JsString)) : List JsString :=
  members.filterMap fun member => member.2.map fun text => quote member.1 ++ unit ':' :: text

mutual

/-- `JSON.stringify`: `none` is `undefined`. -/
def stringify : JsValue → Option JsString
  | .undefined => none
  | .null => some (utf16 "null")
  | .boolean true => some (utf16 "true")
  | .boolean false => some (utf16 "false")
  | .number value => some (jsonNumber value)
  | .string value => some (quote value)
  | .array items => some (unit '[' :: joined (stringifyItems items) ++ [unit ']'])
  | .object members => some (braceOpen :: joined (memberTexts (ownOrder (stringifyMembers members))) ++ [braceClose])

def stringifyItems : List JsValue → List JsString
  | [] => []
  | item :: items => (stringify item).getD (utf16 "null") :: stringifyItems items

def stringifyMembers : List (JsString × JsValue) → Members (Option JsString)
  | [] => []
  | (key, value) :: members => (key, stringify value) :: stringifyMembers members

end

theorem stringifyItems_eq (items : List JsValue) :
    stringifyItems items = items.map fun item => (stringify item).getD (utf16 "null") := by
  induction items with
  | nil => rfl
  | cons item items ih => rw [stringifyItems, ih, List.map_cons]

theorem stringifyMembers_eq (members : Members JsValue) : stringifyMembers members = mapMembers stringify members := by
  induction members with
  | nil => rfl
  | cons member members ih =>
    rw [stringifyMembers, ih]
    rfl

end Stringify

section Parse

def isWhite (code : CodeUnit) : Bool := code = 0x20 || code = 0x09 || code = 0x0A || code = 0x0D

def skip (text : JsString) : JsString := text.dropWhile isWhite

/-- The text after a word that it starts with. -/
def afterWord (word text : JsString) : Option JsString :=
  if word.isPrefixOf text then some (text.drop word.length) else none

/-- Creating a property, or giving it a new value. -/
def defineMember (members : Members JsValue) (member : JsString × JsValue) : Members JsValue :=
  if members.any (·.1 = member.1) then members.map fun other => if other.1 = member.1 then member else other
  else members ++ [member]

/-- A key and its colon, and what follows them. -/
def parseKey (text : JsString) : Option (JsString × JsString) :=
  match skip text with
  | [] => none
  | mark :: rest =>
    if mark = quotation then do
      let (key, rest) ← readUnits rest
      match skip rest with
      | [] => none
      | mark :: rest => if mark = unit ':' then some (key, rest) else none
    else none

mutual

/-- A value, and what follows it. -/
def parseValue : Nat → JsString → Option (JsValue × JsString)
  | 0, _ => none
  | fuel + 1, text =>
    match skip text with
    | [] => none
    | mark :: rest =>
      if mark = quotation then (readUnits rest).map fun read => (.string read.1, read.2)
      else if mark = unit '[' then
        if (skip rest).head? = some (unit ']') then some (.array [], (skip rest).tail)
        else (parseItems fuel rest).map fun read => (.array read.1, read.2)
      else if mark = braceOpen then
        if (skip rest).head? = some (braceClose) then some (.object [], (skip rest).tail)
        else (parseMembers fuel rest).map fun read => (.object (read.1.foldl defineMember []), read.2)
      else if mark = unit 'n' then (afterWord (utf16 "ull") rest).map fun rest => (.null, rest)
      else if mark = unit 't' then (afterWord (utf16 "rue") rest).map fun rest => (.boolean true, rest)
      else if mark = unit 'f' then (afterWord (utf16 "alse") rest).map fun rest => (.boolean false, rest)
      else (readNumber (mark :: rest)).map fun read => (.number read.1, read.2)

/-- The items of an array up to its end. -/
def parseItems : Nat → JsString → Option (List JsValue × JsString)
  | 0, _ => none
  | fuel + 1, text => do
    let (item, rest) ← parseValue fuel text
    match skip rest with
    | [] => none
    | mark :: rest =>
      if mark = unit ',' then (parseItems fuel rest).map fun read => (item :: read.1, read.2)
      else if mark = unit ']' then some ([item], rest)
      else none

/-- The members of an object up to its end. -/
def parseMembers : Nat → JsString → Option (Members JsValue × JsString)
  | 0, _ => none
  | fuel + 1, text => do
    let (key, rest) ← parseKey text
    let (value, rest) ← parseValue fuel rest
    match skip rest with
    | [] => none
    | mark :: rest =>
      if mark = unit ',' then (parseMembers fuel rest).map fun read => ((key, value) :: read.1, read.2)
      else if mark = braceClose then some ([(key, value)], rest)
      else none

end

/-- `JSON.parse`: `none` is a syntax error. -/
def parseJson (text : JsString) : Option JsValue := do
  let (value, rest) ← parseValue (2 * text.length) text
  if skip rest = [] then some value else none

end Parse

section Strings

/-- What reading a string makes of one more code unit. -/
def prepend (code : CodeUnit) (read : JsString × JsString) : JsString × JsString := (code :: read.1, read.2)

theorem readUnits_literal (different : code ≠ quotation) (different' : code ≠ backslash) (printed : ¬ code.val < 0x20)
    (text : JsString) : readUnits (code :: text) = (readUnits text).map (prepend code) := by
  rw [readUnits.eq_def]
  dsimp only
  rw [if_neg different, if_neg different', if_neg printed]
  cases readUnits text <;> rfl

private theorem readUnits_end (rest : JsString) : readUnits (quotation :: rest) = some ([], rest) := by
  rw [readUnits.eq_def]
  exact if_pos rfl

private theorem readUnits_letter (plain : letter ≠ unit 'u') (means : escaped letter = some code) (text : JsString) :
    readUnits (backslash :: letter :: text) = (readUnits text).map (prepend code) := by
  have apart : backslash ≠ quotation := by decide
  rw [readUnits.eq_def]
  dsimp only
  rw [if_neg apart, if_pos rfl]
  simp only [if_neg plain, means, Option.bind_eq_bind, Option.bind_some]
  cases readUnits text <;> rfl

theorem shortEscape_some (short : shortEscape code = some letter) : letter ≠ unit 'u' ∧ escaped letter = some code := by
  unfold shortEscape at short
  repeat' split at short
  all_goals cases short
  all_goals
    subst code
    exact ⟨by decide, by decide⟩

private theorem shortEscape_none (long : shortEscape code = none) : code ≠ quotation ∧ code ≠ backslash := by
  constructor
  · rintro rfl
    revert long
    decide
  · rintro rfl
    revert long
    decide

private theorem unitHex_hexUnit : ∀ digit, unitHex (hexUnit digit) = some digit := by decide

private theorem readHex_escape (code : CodeUnit) : readHex (hexUnit (Fin.ofNat 16 (code.val / 4096)))
    (hexUnit (Fin.ofNat 16 (code.val / 256))) (hexUnit (Fin.ofNat 16 (code.val / 16)))
    (hexUnit (Fin.ofNat 16 code.val)) = some code := by
  unfold readHex
  simp only [unitHex_hexUnit, Option.bind_eq_bind, Option.bind_some, Fin.val_ofNat, Option.some.injEq]
  apply Fin.ext
  dsimp only
  omega

private theorem readUnits_escape (code : CodeUnit) (text : JsString) :
    readUnits (unicodeEscape code ++ text) = (readUnits text).map (prepend code) := by
  have apart : backslash ≠ quotation := by decide
  unfold unicodeEscape
  simp only [List.cons_append, List.nil_append]
  rw [readUnits.eq_def]
  dsimp only
  rw [if_neg apart, if_pos rfl, if_pos rfl, readHex_escape]
  cases readUnits text <;> rfl

private theorem readUnits_quoteUnit (code : CodeUnit) (text : JsString) :
    readUnits (quoteUnit code ++ text) = (readUnits text).map (prepend code) := by
  unfold quoteUnit
  split
  · rename_i letter short
    obtain ⟨plain, means⟩ := shortEscape_some short
    exact readUnits_letter plain means text
  · rename_i long
    split
    · exact readUnits_escape code text
    · rename_i literal
      obtain ⟨different, different'⟩ := shortEscape_none long
      rw [not_or] at literal
      exact readUnits_literal different different' literal.1 text

private theorem readUnits_surrogate (surrogate : 0xD800 ≤ code.val) (text : JsString) :
    readUnits (code :: text) = (readUnits text).map (prepend code) := by
  apply readUnits_literal
  · rintro rfl
    exact absurd surrogate (by decide)
  · rintro rfl
    exact absurd surrogate (by decide)
  · omega

/-- A string that is quoted reads as itself. -/
theorem readUnits_quote (text rest : JsString) :
    readUnits (quoteUnits text ++ quotation :: rest) = some (text, rest) := by
  induction text using quoteUnits.induct with
  | case1 => rw [quoteUnits, List.nil_append, readUnits_end]
  | case2 code =>
    rw [quoteUnits, readUnits_quoteUnit, readUnits_end]
    rfl
  | case3 code next rest' pair ih =>
    rw [quoteUnits, if_pos pair]
    unfold isLead isTrail at pair
    simp only [Bool.and_eq_true, decide_eq_true_eq] at pair
    rw [List.cons_append, List.cons_append, readUnits_surrogate pair.1.1, readUnits_surrogate (by omega), ih]
    rfl
  | case4 code next rest' single ih =>
    rw [quoteUnits, if_neg single, List.append_assoc, readUnits_quoteUnit, ih]
    rfl

end Strings

section RoundTrip

/-- A value that is written whole: nothing in it is undefined or a number that is not finite. -/
inductive Plain : JsValue → Prop where
  | null : Plain .null
  | boolean : Plain (.boolean value)
  | number (finite : value.isFinite = true) : Plain (.number value)
  | string : Plain (.string value)
  | array (plain : ∀ item ∈ items, Plain item) : Plain (.array items)
  | object (distinct : Distinct members) (plain : ∀ member ∈ members, Plain member.2) : Plain (.object members)

mutual

/-- What a value that is written reads as: `-0` as `0`, and members as they are listed. -/
def written : JsValue → JsValue
  | .number (.zero _) => .number (.zero false)
  | .array items => .array (writtenItems items)
  | .object members => .object (ownOrder (writtenMembers members))
  | value => value

def writtenItems : List JsValue → List JsValue
  | [] => []
  | item :: items => written item :: writtenItems items

def writtenMembers : List (JsString × JsValue) → Members JsValue
  | [] => []
  | (key, value) :: members => (key, written value) :: writtenMembers members

end

theorem writtenItems_eq (items : List JsValue) : writtenItems items = items.map written := by
  induction items with
  | nil => rfl
  | cons item items ih => rw [writtenItems, ih, List.map_cons]

theorem writtenMembers_eq (members : Members JsValue) : writtenMembers members = mapMembers written members := by
  induction members with
  | nil => rfl
  | cons member members ih =>
    rw [writtenMembers, ih]
    rfl

/-- A text reads as a value, whatever follows that is not part of a number. -/
structure Reads (value : JsValue) (text : JsString) : Prop where
  starts : ∃ mark rest, text = mark :: rest ∧ isWhite mark = false ∧ mark ≠ unit ']'
  reads : ∀ fuel rest, 2 * text.length ≤ fuel → Stops rest → parseValue fuel (text ++ rest) = some (value, rest)

theorem skip_mark (solid : isWhite mark = false) (rest : JsString) : skip (mark :: rest) = mark :: rest :=
  List.dropWhile_cons_of_neg (by simp [solid])

theorem stops_mark (plain : unitDigit mark = none ∧ mark ≠ unit '.' ∧ mark ≠ unit 'e' ∧ mark ≠ unit 'E') :
    Stops (mark :: rest) := by
  intro next member
  cases member
  exact plain

theorem joined_cons (text next : JsString) (texts : List JsString) :
    joined (text :: next :: texts) = text ++ unit ',' :: joined (next :: texts) := by
  unfold joined
  rw [List.intercalate_cons_cons]
  simp

/-- Items that are joined read as the values of their texts. -/
theorem parseItems_joined (items : List (JsValue × JsString)) (filled : items ≠ [])
    (reads : ∀ item ∈ items, Reads item.1 item.2) (fuel : Nat) (rest : JsString)
    (enough : 2 * (joined (items.map Prod.snd)).length + 1 ≤ fuel) :
    parseItems fuel (joined (items.map Prod.snd) ++ unit ']' :: rest) = some (items.map Prod.fst, rest) := by
  induction items generalizing fuel with
  | nil => exact absurd rfl filled
  | cons item items ih =>
    obtain ⟨head, tail⟩ := List.forall_mem_cons.mp reads
    cases fuel with
    | zero => omega
    | succ fuel =>
      cases items with
      | nil =>
        have single : joined ([item].map Prod.snd) = item.2 := by simp [joined]
        rw [single] at enough ⊢
        have stops : Stops (unit ']' :: rest) := stops_mark (by decide)
        rw [parseItems, head.reads fuel _ (by omega) stops]
        simp only [Option.bind_eq_bind, Option.bind_some]
        rw [skip_mark (by decide)]
        dsimp only
        rw [if_neg (by decide), if_pos rfl]
        rfl
      | cons next items =>
        have stops : Stops (unit ',' :: (joined ((next :: items).map Prod.snd) ++ unit ']' :: rest)) :=
          stops_mark (by decide)
        rw [List.map_cons, List.map_cons, joined_cons] at enough ⊢
        rw [List.length_append, List.length_cons, ← List.map_cons] at enough
        rw [List.append_assoc, List.cons_append, ← List.map_cons, parseItems, head.reads fuel _ (by omega) stops]
        simp only [Option.bind_eq_bind, Option.bind_some]
        rw [skip_mark (by decide)]
        dsimp only
        rw [if_pos rfl, ih (by simp) tail fuel (by omega)]
        rfl

/-- The text of a member. -/
def memberText (key text : JsString) : JsString := quote key ++ unit ':' :: text

private theorem memberText_length (key text : JsString) : text.length + 3 ≤ (memberText key text).length := by
  simp [memberText, quote]

theorem parseKey_text (key text rest : JsString) : parseKey (memberText key text ++ rest) = some (key, text ++ rest) := by
  unfold memberText quote parseKey
  simp only [List.cons_append, List.append_assoc, List.nil_append]
  rw [skip_mark (by decide)]
  dsimp only
  rw [if_pos rfl, readUnits_quote]
  simp only [Option.bind_eq_bind, Option.bind_some]
  rw [skip_mark (by decide)]
  exact if_pos rfl

/-- A member's key, its value and the text of that. -/
abbrev ReadMember := JsString × JsValue × JsString

def ReadMember.text (member : ReadMember) : JsString := memberText member.1 member.2.2

def ReadMember.value (member : ReadMember) : JsString × JsValue := (member.1, member.2.1)

/-- Members that are joined read as the values of their texts. -/
theorem parseMembers_joined (members : List ReadMember) (filled : members ≠ [])
    (reads : ∀ member ∈ members, Reads member.2.1 member.2.2) (fuel : Nat) (rest : JsString)
    (enough : 2 * (joined (members.map ReadMember.text)).length + 1 ≤ fuel) :
    parseMembers fuel (joined (members.map ReadMember.text) ++ braceClose :: rest) =
      some (members.map ReadMember.value, rest) := by
  induction members generalizing fuel with
  | nil => exact absurd rfl filled
  | cons member members ih =>
    obtain ⟨head, tail⟩ := List.forall_mem_cons.mp reads
    obtain ⟨key, value, text⟩ := member
    dsimp only at head
    have length := memberText_length key text
    have own : ReadMember.text (key, value, text) = memberText key text := rfl
    cases fuel with
    | zero => omega
    | succ fuel =>
      cases members with
      | nil =>
        have stops : Stops (braceClose :: rest) := stops_mark (by decide)
        have single : joined ([(key, value, text)].map ReadMember.text) = memberText key text := by simp [joined, own]
        rw [single] at enough ⊢
        rw [parseMembers, parseKey_text]
        simp only [Option.bind_eq_bind, Option.bind_some]
        rw [head.reads fuel _ (by omega) stops]
        simp only [Option.bind_some]
        rw [skip_mark (by decide)]
        dsimp only
        rw [if_neg (by decide), if_pos rfl]
        rfl
      | cons next members =>
        have stops : Stops (unit ',' :: (joined ((next :: members).map ReadMember.text) ++ braceClose :: rest)) :=
          stops_mark (by decide)
        rw [List.map_cons, List.map_cons, joined_cons] at enough ⊢
        rw [List.length_append, List.length_cons, ← List.map_cons, own] at enough
        rw [List.append_assoc, List.cons_append, ← List.map_cons, own, parseMembers, parseKey_text]
        simp only [Option.bind_eq_bind, Option.bind_some]
        rw [head.reads fuel _ (by omega) stops]
        simp only [Option.bind_some]
        rw [skip_mark (by decide)]
        dsimp only
        rw [if_pos rfl, ih (by simp) tail fuel (by omega)]
        rfl

theorem defineMember_new {members : Members JsValue} (new : ∀ other ∈ members, other.1 ≠ member.1) :
    defineMember members member = members ++ [member] := by
  have absent : members.any (·.1 = member.1) = false :=
    List.any_eq_false.mpr fun other among same => new other among (of_decide_eq_true same)
  rw [defineMember, absent, if_neg Bool.false_ne_true]

/-- Members with one key each are all created. -/
theorem defineMember_distinct (members before : Members JsValue) (distinct : Distinct (before ++ members)) :
    members.foldl defineMember before = before ++ members := by
  induction members generalizing before with
  | nil => rw [List.foldl_nil, List.append_nil]
  | cons member members ih =>
    rw [List.foldl_cons, defineMember_new distinct.new, ih (before ++ [member]) (by simpa using distinct),
      List.append_assoc, List.singleton_append]

/-- What reads after its first mark. -/
theorem Reads.of_mark (solid : isWhite mark = false) (inside : mark ≠ unit ']')
    (reads : ∀ fuel rest, 2 * text.length + 1 ≤ fuel → Stops rest →
      parseValue (fuel + 1) (mark :: (text ++ rest)) = some (value, rest)) : Reads value (mark :: text) := by
  refine ⟨⟨mark, text, rfl, solid, inside⟩, fun fuel rest enough stops => ?_⟩
  rw [List.length_cons] at enough
  cases fuel with
  | zero => omega
  | succ fuel => exact reads fuel rest (by omega) stops

private theorem afterWord_append (word rest : JsString) : afterWord word (word ++ rest) = some rest := by
  unfold afterWord
  rw [if_pos (by simp), List.drop_left]

/-- The three words of JSON. -/
theorem reads_word (solid : isWhite mark = false) (inside : mark ≠ unit ']')
    (parses : ∀ fuel rest, parseValue (fuel + 1) (mark :: rest) = (afterWord word rest).map fun rest => (value, rest)) :
    Reads value (mark :: word) := by
  apply Reads.of_mark solid inside
  intro fuel rest _ _
  rw [parses, afterWord_append, Option.map_some]

private theorem reads_null : Reads .null (utf16 "null") := by
  have spelled : utf16 "null" = unit 'n' :: utf16 "ull" := by decide
  rw [spelled]
  apply reads_word (by decide) (by decide)
  intro fuel rest
  rw [parseValue, skip_mark (by decide)]
  rfl

private theorem reads_true : Reads (.boolean true) (utf16 "true") := by
  have spelled : utf16 "true" = unit 't' :: utf16 "rue" := by decide
  rw [spelled]
  apply reads_word (by decide) (by decide)
  intro fuel rest
  rw [parseValue, skip_mark (by decide)]
  rfl

private theorem reads_false : Reads (.boolean false) (utf16 "false") := by
  have spelled : utf16 "false" = unit 'f' :: utf16 "alse" := by decide
  rw [spelled]
  apply reads_word (by decide) (by decide)
  intro fuel rest
  rw [parseValue, skip_mark (by decide)]
  rfl

private theorem reads_string (value : JsString) : Reads (.string value) (quote value) := by
  apply Reads.of_mark (by decide) (by decide)
  intro fuel rest _ _
  rw [parseValue, skip_mark (by decide)]
  dsimp only
  rw [if_pos rfl, List.append_eq, List.append_assoc, List.singleton_append, readUnits_quote]
  rfl

/-- A mark that a number starts with. -/
def Numeral (mark : CodeUnit) : Prop := mark = unit '-' ∨ ∃ digit, mark = digitUnit digit

private theorem Numeral.value (numeral : Numeral mark) : mark.val = 45 ∨ 48 ≤ mark.val ∧ mark.val ≤ 57 := by
  rcases numeral with rfl | ⟨digit, rfl⟩
  · exact .inl (by decide)
  · unfold digitUnit
    dsimp only
    omega

private theorem Numeral.ne {other : CodeUnit} (numeral : Numeral mark)
    (unlike : other.val ≠ 45 ∧ ¬ (48 ≤ other.val ∧ other.val ≤ 57)) : mark ≠ other := by
  rintro rfl
  rcases numeral.value with minus | digit
  · exact unlike.1 minus
  · exact unlike.2 digit

private theorem reads_number (starts : ∃ mark rest, text = mark :: rest ∧ Numeral mark)
    (reads : ∀ {rest}, Stops rest → readNumber (text ++ rest) = some (value, rest)) : Reads (.number value) text := by
  obtain ⟨mark, tail, rfl, numeral⟩ := starts
  have solid : isWhite mark = false := by
    have space : mark ≠ 0x20 := numeral.ne (by decide)
    have tab : mark ≠ 0x09 := numeral.ne (by decide)
    have line : mark ≠ 0x0A := numeral.ne (by decide)
    have feed : mark ≠ 0x0D := numeral.ne (by decide)
    unfold isWhite
    rw [decide_eq_false space, decide_eq_false tab, decide_eq_false line, decide_eq_false feed]
    rfl
  apply Reads.of_mark solid (numeral.ne (by decide))
  intro fuel rest _ stops
  rw [parseValue, skip_mark solid]
  dsimp only
  rw [if_neg (numeral.ne (by decide)), if_neg (numeral.ne (by decide)), if_neg (numeral.ne (by decide)),
    if_neg (numeral.ne (by decide)), if_neg (numeral.ne (by decide)), if_neg (numeral.ne (by decide)),
    ← List.cons_append, reads stops]
  rfl

private theorem writeFinite_starts (negative : Bool) (decimal : Decimal) :
    ∃ mark rest, writeFinite negative decimal = mark :: rest ∧ Numeral mark := by
  cases negative with
  | true => exact ⟨_, _, rfl, .inl rfl⟩
  | false =>
    obtain ⟨digit, rest, same⟩ := List.exists_cons_of_ne_nil (layout_valid decimal).1
    have start : writeFinite false decimal = decimal.layout.write := rfl
    rw [start, Layout.write, same]
    exact ⟨digitUnit digit, _, rfl, .inr ⟨digit, rfl⟩⟩

/-- An array reads as its items do. -/
theorem reads_array (items : List (JsValue × JsString)) (reads : ∀ item ∈ items, Reads item.1 item.2) :
    Reads (.array (items.map Prod.fst)) (unit '[' :: (joined (items.map Prod.snd) ++ [unit ']'])) := by
  apply Reads.of_mark (by decide) (by decide)
  intro fuel rest enough _
  rw [List.length_append, List.length_singleton] at enough
  rw [List.append_assoc, List.singleton_append, parseValue, skip_mark (by decide)]
  dsimp only
  rw [if_neg (by decide), if_pos rfl]
  cases items with
  | nil =>
    rw [if_pos (by rfl)]
    rfl
  | cons item items =>
    have filled : ¬ (skip (joined ((item :: items).map Prod.snd) ++ unit ']' :: rest)).head? = some (unit ']') := by
      obtain ⟨mark, tail, same, solid, inside⟩ := (reads item List.mem_cons_self).starts
      have first : ∃ more, joined ((item :: items).map Prod.snd) = mark :: more := by
        cases items with
        | nil => exact ⟨tail, by simp [joined, same]⟩
        | cons next items => exact ⟨_, by rw [List.map_cons, List.map_cons, joined_cons, same, List.cons_append]⟩
      obtain ⟨more, start⟩ := first
      rw [start, List.cons_append, skip_mark solid]
      exact fun closed => inside (Option.some.inj closed)
    rw [if_neg filled, parseItems_joined (item :: items) (by simp) reads fuel rest (by omega)]
    rfl

/-- An object reads as its members do. -/
theorem reads_object (members : List ReadMember) (distinct : Distinct (members.map ReadMember.value))
    (reads : ∀ member ∈ members, Reads member.2.1 member.2.2) :
    Reads (.object (members.map ReadMember.value))
      (braceOpen :: (joined (members.map ReadMember.text) ++ [braceClose])) := by
  apply Reads.of_mark (by decide) (by decide)
  intro fuel rest enough _
  rw [List.length_append, List.length_singleton] at enough
  rw [List.append_assoc, List.singleton_append, parseValue, skip_mark (by decide)]
  dsimp only
  rw [if_neg (by decide), if_neg (by decide), if_pos rfl]
  cases members with
  | nil =>
    rw [if_pos (by rfl)]
    rfl
  | cons member members =>
    have filled : ¬ (skip (joined ((member :: members).map ReadMember.text) ++ braceClose :: rest)).head? =
        some braceClose := by
      have first : ∃ more, joined ((member :: members).map ReadMember.text) = quotation :: more := by
        cases members with
        | nil => exact ⟨_, by simp [joined, ReadMember.text, memberText, quote]; rfl⟩
        | cons next members =>
          exact ⟨_, by
            rw [List.map_cons, List.map_cons, joined_cons]
            rfl⟩
      obtain ⟨more, start⟩ := first
      rw [start, List.cons_append, skip_mark (by decide)]
      exact fun closed => absurd (Option.some.inj closed) (by decide)
    rw [if_neg filled, parseMembers_joined (member :: members) (by simp) reads fuel rest (by omega)]
    exact congrArg (fun members => some (JsValue.object members, rest))
      (defineMember_distinct _ [] (by simpa using distinct))

/-- Every plain value is written, and its text reads as what is written. -/
theorem reads_written (plain : Plain value) : ∃ text, stringify value = some text ∧ Reads (written value) text := by
  induction plain with
  | null => exact ⟨_, rfl, reads_null⟩
  | @boolean value =>
    cases value with
    | true => exact ⟨_, rfl, reads_true⟩
    | false => exact ⟨_, rfl, reads_false⟩
  | @number value finite =>
    cases value with
    | nan => cases finite
    | infinity => cases finite
    | zero => exact ⟨_, rfl, reads_number ⟨_, _, rfl, .inr ⟨0, rfl⟩⟩ readNumber_zero⟩
    | finite negative magnitude =>
      exact ⟨_, rfl, reads_number (writeFinite_starts negative magnitude) (readNumber_finite negative magnitude)⟩
  | string => exact ⟨_, rfl, reads_string _⟩
  | @array items _ ih =>
    refine ⟨_, rfl, ?_⟩
    have reads := reads_array (items.map fun item => (written item, (stringify item).getD (utf16 "null"))) (by
      intro read member
      obtain ⟨item, among, rfl⟩ := List.mem_map.mp member
      obtain ⟨text, same, reads⟩ := ih item among
      rw [same]
      exact reads)
    rw [List.map_map, List.map_map] at reads
    rw [written, writtenItems_eq, stringifyItems_eq]
    exact reads
  | @object members distinct _ ih =>
    refine ⟨_, rfl, ?_⟩
    have listed := ownOrder_perm members
    have texts : memberTexts (mapMembers stringify (ownOrder members)) =
        ((ownOrder members).map fun member => (member.1, written member.2, (stringify member.2).getD [])).map
          ReadMember.text := by
      unfold memberTexts mapMembers
      rw [List.filterMap_map, List.map_map, ← List.filterMap_eq_map]
      apply List.filterMap_congr
      intro member among
      obtain ⟨text, same, _⟩ := ih member (listed.mem_iff.mp among)
      simp only [Function.comp_apply, same, Option.map_some, Option.getD_some]
      rfl
    have values : mapMembers written (ownOrder members) =
        ((ownOrder members).map fun member => (member.1, written member.2, (stringify member.2).getD [])).map
          ReadMember.value := by
      rw [List.map_map]
      rfl
    rw [written, writtenMembers_eq, stringifyMembers_eq, ownOrder_map, ownOrder_map, texts, values]
    apply reads_object
    · rw [← values]
      unfold Distinct mapMembers
      rw [List.map_map]
      exact distinct.perm listed
    · intro read listing
      obtain ⟨member, among, rfl⟩ := List.mem_map.mp listing
      obtain ⟨text, same, reads⟩ := ih member (listed.mem_iff.mp among)
      rw [same]
      exact reads

/-- `JSON.parse` undoes `JSON.stringify` up to the order of members and the sign of zero. -/
theorem parseJson_stringify (plain : Plain value) :
    ∃ text, stringify value = some text ∧ parseJson text = some (written value) := by
  obtain ⟨text, same, reads⟩ := reads_written plain
  have all := reads.reads (2 * text.length) [] le_rfl (by rintro next ⟨⟩)
  rw [List.append_nil] at all
  refine ⟨text, same, ?_⟩
  unfold parseJson
  rw [all]
  rfl

end RoundTrip

end Agroasys.Runtime
