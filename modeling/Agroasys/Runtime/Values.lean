import Agroasys.Runtime.JsonText

namespace Agroasys.Runtime

namespace JsValue

def isDefined : JsValue → Bool
  | .undefined => false
  | _ => true

private theorem isDefined_false {value : JsValue} : value.isDefined = false ↔ value = .undefined := by
  cases value <;> simp [isDefined]

/-- What a condition makes of a value. -/
def truthy : JsValue → Bool
  | .undefined | .null | .number (.zero _) | .number .nan => false
  | .boolean value => value
  | .string value => !value.isEmpty
  | _ => true

/-- `typeof value === 'object'`. -/
def isObject : JsValue → Bool
  | .null | .array _ | .object _ => true
  | _ => false

end JsValue

/-- `String.prototype.trim`, on code units: no white space is beyond the basic plane. -/
def trimUnits (text : JsString) : JsString :=
  let blank := fun code : CodeUnit => isSpace (Char.ofNat code.val)
  ((text.dropWhile blank).reverse.dropWhile blank).reverse

section Members

/-- `value[key]` of an object's own properties. -/
def getMember (members : Members JsValue) (key : JsString) : JsValue :=
  ((members.find? (·.1 = key)).map Prod.snd).getD .undefined

theorem getMember_cons (member : JsString × JsValue) (members : Members JsValue) (key : JsString) :
    getMember (member :: members) key = if member.1 = key then member.2 else getMember members key := by
  unfold getMember
  rw [List.find?_cons]
  by_cases same : member.1 = key <;> simp [same]

/-- A property of a value, for a key that nothing inherits. -/
def property (value : JsValue) (key : String) : JsValue :=
  match value with
  | .object members => getMember members (utf16 key)
  | _ => .undefined

/-- The members that are not undefined. -/
def present (members : Members JsValue) : Members JsValue := members.filter (·.2.isDefined)

theorem mem_present {members : Members JsValue} : member ∈ present members ↔ member ∈ members ∧ member.2.isDefined = true :=
  List.mem_filter

theorem Distinct.present {members : Members JsValue} (distinct : Distinct members) : Distinct (present members) :=
  distinct.sublist (List.filter_sublist.map Prod.fst)

theorem getMember_mem (distinct : Distinct members) (among : member ∈ members) :
    getMember members member.1 = member.2 := by
  unfold getMember
  cases found : members.find? (·.1 = member.1) with
  | none =>
    rw [List.find?_eq_none] at found
    exact absurd (decide_eq_true rfl) (found member among)
  | some other =>
    have same : other.1 = member.1 := by simpa using List.find?_some found
    rw [distinct.eq_of_key (List.mem_of_find?_eq_some found) among same]
    rfl

/-- What holds of every member and of `undefined` holds of every property. -/
theorem getMember_all (holds : JsValue → Prop) (absent : holds .undefined) (all : ∀ member ∈ members, holds member.2) :
    holds (getMember members key) := by
  unfold getMember
  cases found : members.find? (·.1 = key) with
  | none => exact absent
  | some member => exact all member (List.mem_of_find?_eq_some found)

theorem mem_getMember (defined : (getMember members key).isDefined = true) :
    (key, getMember members key) ∈ present members := by
  unfold getMember at defined ⊢
  cases found : members.find? (·.1 = key) with
  | none =>
    rw [found] at defined
    cases defined
  | some member =>
    have same : member.1 = key := by simpa using List.find?_some found
    rw [found] at defined
    subst same
    exact mem_present.mpr ⟨List.mem_of_find?_eq_some found, defined⟩

/-- An object has a property with a value if and only if it has that member. -/
theorem getMember_iff (distinct : Distinct members) (defined : value.isDefined = true) :
    getMember members key = value ↔ (key, value) ∈ present members := by
  constructor
  · rintro rfl
    exact mem_getMember defined
  · exact fun among => getMember_mem distinct (mem_present.mp among).1

end Members

section Equality

/-- A value as objects of JavaScript can be: at every depth, one member with each key. -/
inductive Sound : JsValue → Prop where
  | undefined : Sound .undefined
  | null : Sound .null
  | boolean : Sound (.boolean value)
  | number : Sound (.number value)
  | string : Sound (.string value)
  | array (sound : ∀ item ∈ items, Sound item) : Sound (.array items)
  | object (distinct : Distinct members) (sound : ∀ member ∈ members, Sound member.2) : Sound (.object members)

theorem Sound.property (sound : Sound value) (key : String) : Sound (property value key) := by
  cases sound with
  | object distinct sound => exact getMember_all Sound .undefined sound
  | _ => exact .undefined

/-- Equality of JSON values: objects are equal when they have equal properties, and a property
that is undefined is as one that is not there; zero has no sign. -/
inductive Same : JsValue → JsValue → Prop where
  | undefined : Same .undefined .undefined
  | null : Same .null .null
  | boolean : Same (.boolean value) (.boolean value)
  | number : Same (.number value) (.number value)
  | zero : Same (.number (.zero negative)) (.number (.zero negative'))
  | string : Same (.string value) (.string value)
  | array {items others : List JsValue} (length : items.length = others.length)
      (same : ∀ (index : Nat) item other, items[index]? = some item → others[index]? = some other → Same item other) :
      Same (.array items) (.array others)
  | object (same : ∀ key, Same (getMember members key) (getMember others key)) : Same (.object members) (.object others)

theorem Same.isDefined {value other : JsValue} (same : Same value other) : value.isDefined = other.isDefined := by
  cases same <;> rfl

end Equality

section NormalForm

mutual

/-- A value without what is undefined, its members by their keys. -/
def canonical : JsValue → JsValue
  | .array items => .array (canonicalItems items)
  | .object members => .object (sortMembers (canonicalMembers members))
  | value => value

def canonicalItems : List JsValue → List JsValue
  | [] => []
  | item :: items => canonical item :: canonicalItems items

def canonicalMembers : List (JsString × JsValue) → Members JsValue
  | [] => []
  | (key, value) :: members =>
    if value.isDefined then (key, canonical value) :: canonicalMembers members else canonicalMembers members

end

theorem canonicalItems_eq (items : List JsValue) : canonicalItems items = items.map canonical := by
  induction items with
  | nil => rfl
  | cons item items ih => rw [canonicalItems, ih, List.map_cons]

theorem canonicalMembers_eq (members : Members JsValue) :
    canonicalMembers members = mapMembers canonical (present members) := by
  induction members with
  | nil => rfl
  | cons member members ih =>
    rw [canonicalMembers, ih, present, present, List.filter_cons]
    split <;> rfl

/-- A number without the sign of zero. -/
def JsNumber.unsigned : JsNumber → JsNumber
  | .zero _ => .zero false
  | value => value

/-- What the canonical value is written as. -/
def normal (value : JsValue) : JsValue := written (canonical value)

@[simp] theorem normal_undefined : normal .undefined = .undefined := rfl
@[simp] theorem normal_null : normal .null = .null := rfl
@[simp] theorem normal_boolean (value : Bool) : normal (.boolean value) = .boolean value := rfl
@[simp] theorem normal_string (value : JsString) : normal (.string value) = .string value := rfl

@[simp] theorem normal_number (value : JsNumber) : normal (.number value) = .number value.unsigned := by
  cases value <;> rfl

@[simp] theorem normal_array (items : List JsValue) : normal (.array items) = .array (items.map normal) := by
  rw [normal, canonical, written, writtenItems_eq, canonicalItems_eq, List.map_map]
  rfl

@[simp] theorem normal_object (members : Members JsValue) :
    normal (.object members) = .object (ownOrder (sortMembers (mapMembers normal (present members)))) := by
  have composed : mapMembers written (mapMembers canonical (present members)) = mapMembers normal (present members) := by
    unfold mapMembers
    rw [List.map_map]
    rfl
  rw [normal, canonical, written, writtenMembers_eq, canonicalMembers_eq, ← sortMembers_map, composed]

/-- Nothing in the value that has no text: no number that is not finite, and no undefined item. -/
inductive Writable : JsValue → Prop where
  | null : Writable .null
  | boolean : Writable (.boolean value)
  | number (finite : value.isFinite = true) : Writable (.number value)
  | string : Writable (.string value)
  | array (writable : ∀ item ∈ items, Writable item) : Writable (.array items)
  | object (writable : ∀ member ∈ present members, Writable member.2) : Writable (.object members)

theorem Distinct.map {members : Members JsValue} (distinct : Distinct members) (f : JsValue → β) :
    Distinct (mapMembers f members) := by
  unfold Distinct mapMembers
  rw [List.map_map]
  exact distinct

theorem mem_mapMembers {members : Members α} {f : α → β} :
    member ∈ mapMembers f members ↔ ∃ value, (member.1, value) ∈ members ∧ f value = member.2 := by
  unfold mapMembers
  rw [List.mem_map]
  constructor
  · rintro ⟨origin, among, rfl⟩
    exact ⟨origin.2, among, rfl⟩
  · rintro ⟨value, among, same⟩
    exact ⟨_, among, Prod.ext rfl same⟩

theorem canonical_plain (sound : Sound value) (writable : Writable value) : Plain (canonical value) := by
  induction sound with
  | undefined => cases writable
  | null => exact .null
  | boolean => exact .boolean
  | number =>
    cases writable with
    | number finite => exact .number finite
  | string => exact .string
  | @array items _ ih =>
    cases writable with
    | array writable =>
      rw [canonical, canonicalItems_eq]
      refine .array fun item among => ?_
      obtain ⟨origin, member, rfl⟩ := List.mem_map.mp among
      exact ih origin member (writable origin member)
  | @object members distinct _ ih =>
    cases writable with
    | object writable =>
      rw [canonical, canonicalMembers_eq]
      have sorted := sortMembers_perm (mapMembers canonical (present members))
      refine .object ((distinct.present.map canonical).perm sorted) fun member among => ?_
      obtain ⟨value, origin, same⟩ := mem_mapMembers.mp (sorted.mem_iff.mp among)
      rw [← same]
      exact ih _ (mem_present.mp origin).1 (writable _ origin)

@[simp] theorem normal_isDefined (value : JsValue) : (normal value).isDefined = value.isDefined := by
  cases value with
  | undefined | null | boolean | string => rfl
  | number => rw [normal_number]; rfl
  | array => rw [normal_array]; rfl
  | object => rw [normal_object]; rfl

theorem mem_normal (distinct : Distinct members) : member ∈ mapMembers normal (present members) ↔
    (getMember members member.1).isDefined = true ∧ normal (getMember members member.1) = member.2 := by
  rw [mem_mapMembers]
  constructor
  · rintro ⟨value, among, same⟩
    have defined := (mem_present.mp among).2
    rw [(getMember_iff distinct defined).mpr among]
    exact ⟨defined, same⟩
  · rintro ⟨defined, same⟩
    exact ⟨_, mem_getMember defined, same⟩

theorem normalMembers_perm (members : Members JsValue) :
    (ownOrder (sortMembers (mapMembers normal (present members)))).Perm (mapMembers normal (present members)) :=
  (ownOrder_perm _).trans (sortMembers_perm _)

/-- The normal form of an object has the normal forms of its properties. -/
theorem getMember_normal (distinct : Distinct members) (key : JsString) :
    getMember (ownOrder (sortMembers (mapMembers normal (present members)))) key = normal (getMember members key) := by
  have listed := normalMembers_perm members
  cases defined : (getMember members key).isDefined with
  | true =>
    have among : (key, normal (getMember members key)) ∈ mapMembers normal (present members) :=
      (mem_normal distinct).mpr ⟨defined, rfl⟩
    exact getMember_mem ((distinct.present.map normal).perm listed) (listed.mem_iff.mpr among)
  | false =>
    have absent : getMember members key = .undefined := JsValue.isDefined_false.mp defined
    rw [absent, normal_undefined, ← JsValue.isDefined_false, Bool.eq_false_iff]
    intro defined'
    have among := listed.mem_iff.mp (mem_present.mp (mem_getMember defined')).1
    rw [(mem_normal distinct).mp among |>.1] at defined
    cases defined

/-- Equal values have the same normal form. -/
theorem Same.normal_eq (same : Same value other) (sound : Sound value) (sound' : Sound other) :
    normal value = normal other := by
  induction same with
  | undefined | null | boolean | number | zero | string => rfl
  | @array items others length _ ih =>
    cases sound with | array sound => ?_
    cases sound' with | array sound' => ?_
    rw [normal_array, normal_array]
    congr 1
    apply List.ext_getElem (by simpa using length)
    intro index bound bound'
    rw [List.length_map] at bound bound'
    rw [List.getElem_map, List.getElem_map]
    exact ih index _ _ (List.getElem?_eq_getElem bound) (List.getElem?_eq_getElem bound')
      (sound _ (List.getElem_mem bound)) (sound' _ (List.getElem_mem bound'))
  | @object members others same ih =>
    cases sound with | object distinct sound => ?_
    cases sound' with | object distinct' sound' => ?_
    have listed : (mapMembers normal (present members)).Perm (mapMembers normal (present others)) := by
      apply (List.perm_ext_iff_of_nodup (distinct.present.map normal).of_map (distinct'.present.map normal).of_map).mpr
      intro member
      rw [mem_normal distinct, mem_normal distinct', (same member.1).isDefined,
        ih member.1 (getMember_all Sound .undefined sound) (getMember_all Sound .undefined sound')]
    rw [normal_object, normal_object, sortMembers_eq (distinct'.present.map normal) listed]

/-- Values with the same normal form are equal. -/
theorem same_of_normal (sound : Sound value) (sound' : Sound other) (same : normal value = normal other) :
    Same value other := by
  induction sound generalizing other with
  | undefined => cases sound' <;> simp at same; exact .undefined
  | null => cases sound' <;> simp at same; exact .null
  | boolean => cases sound' <;> simp at same; subst same; exact .boolean
  | string => cases sound' <;> simp at same; subst same; exact .string
  | @number value =>
    cases sound' with
    | @number other =>
      simp only [normal_number, JsValue.number.injEq] at same
      cases value <;> cases other <;> cases same
      all_goals first | exact .number | exact .zero
    | _ => simp at same
  | @array items _ ih =>
    cases sound' with
    | @array others sound' =>
      simp only [normal_array, JsValue.array.injEq] at same
      have length : items.length = others.length := by simpa using congrArg List.length same
      refine .array length fun index item other first second => ?_
      have equal := congrArg (·[index]?) same
      simp only [List.getElem?_map, first, second, Option.map_some, Option.some.injEq] at equal
      exact ih item (List.mem_of_getElem? first) (sound' other (List.mem_of_getElem? second)) equal
    | _ => simp at same
  | @object members distinct _ ih =>
    cases sound' with
    | @object others distinct' sound' =>
      simp only [normal_object, JsValue.object.injEq] at same
      refine .object fun key => ?_
      have equal : normal (getMember members key) = normal (getMember others key) := by
        rw [← getMember_normal distinct, ← getMember_normal distinct', same]
      have absent : ∀ other, Sound other → normal .undefined = normal other → Same .undefined other := by
        intro other sound equal
        cases sound <;> simp at equal
        exact .undefined
      have below : ∀ other, Sound other → normal (getMember members key) = normal other →
          Same (getMember members key) other := by
        apply getMember_all fun value => ∀ other, Sound other → normal value = normal other → Same value other
        · exact absent
        · exact fun member among other => ih member among
      exact below _ (getMember_all Sound .undefined sound') equal
    | _ => simp at same

end NormalForm

section Text

private theorem ownOrder_idempotent (members : Members α) : ownOrder (ownOrder members) = ownOrder members := by
  have total : Std.Total fun first second : JsString × α => indexOf first ≤ indexOf second :=
    ⟨fun first second => le_total _ _⟩
  have trans : IsTrans (JsString × α) fun first second => indexOf first ≤ indexOf second :=
    ⟨fun _ _ _ first second => le_trans first second⟩
  have sorted := List.pairwise_insertionSort (fun first second => indexOf first ≤ indexOf second)
    (members.filter isIndex)
  have indices : ∀ member ∈ (members.filter isIndex).insertionSort fun first second => indexOf first ≤ indexOf second,
      isIndex member = true :=
    fun member among => (List.mem_filter.mp ((List.perm_insertionSort _ _).mem_iff.mp among)).2
  have others : ∀ member ∈ members.filter fun member => !isIndex member, isIndex member = false := by
    intro member among
    simpa using (List.mem_filter.mp among).2
  have none : (members.filter fun member => !isIndex member).filter isIndex = [] :=
    List.filter_eq_nil_iff.mpr fun member among => by simp [others member among]
  have none' : ((members.filter isIndex).insertionSort fun first second => indexOf first ≤ indexOf second).filter
      (fun member => !isIndex member) = [] :=
    List.filter_eq_nil_iff.mpr fun member among => by simp [indices member among]
  have first : (ownOrder members).filter isIndex =
      (members.filter isIndex).insertionSort fun first second => indexOf first ≤ indexOf second := by
    rw [ownOrder, List.filter_append, List.filter_eq_self.mpr indices, none, List.append_nil]
  have last : (ownOrder members).filter (fun member => !isIndex member) =
      members.filter fun member => !isIndex member := by
    rw [ownOrder, List.filter_append, none', List.nil_append, List.filter_filter]
    simp only [Bool.and_self]
  rw [ownOrder, first, last, sorted.insertionSort_eq]
  rfl

/-- A value is written as what it reads as is. -/
theorem stringify_written (plain : Plain value) : stringify (written value) = stringify value := by
  induction plain with
  | null | boolean | string => rfl
  | @number value _ => cases value <;> rfl
  | @array items _ ih =>
    have filled : (items.map written).map (fun item => (stringify item).getD (utf16 "null")) =
        items.map fun item => (stringify item).getD (utf16 "null") := by
      rw [List.map_map]
      exact List.map_congr_left fun item among => congrArg (·.getD (utf16 "null")) (ih item among)
    rw [written, writtenItems_eq, stringify, stringify, stringifyItems_eq, stringifyItems_eq]
    exact congrArg (fun texts => some (unit '[' :: joined texts ++ [unit ']'])) filled
  | @object members _ _ ih =>
    have texts : mapMembers stringify (mapMembers written members) = mapMembers stringify members := by
      unfold mapMembers
      rw [List.map_map]
      exact List.map_congr_left fun member among => congrArg (Prod.mk member.1) (ih member among)
    rw [written, writtenMembers_eq, stringify, stringify, stringifyMembers_eq, stringifyMembers_eq, ← ownOrder_map,
      ownOrder_idempotent, texts]

private theorem Plain.written (plain : Plain value) : Plain (written value) := by
  induction plain with
  | null => exact .null
  | boolean => exact .boolean
  | @number value finite =>
    cases value with
    | nan | infinity => cases finite
    | zero => exact .number rfl
    | finite => exact .number rfl
  | string => exact .string
  | @array items _ ih =>
    rw [Runtime.written, writtenItems_eq]
    refine .array fun item among => ?_
    obtain ⟨origin, member, rfl⟩ := List.mem_map.mp among
    exact ih origin member
  | @object members distinct _ ih =>
    rw [Runtime.written, writtenMembers_eq]
    have listed := ownOrder_perm (mapMembers Runtime.written members)
    refine .object ((distinct.map Runtime.written).perm listed) fun member among => ?_
    obtain ⟨value, origin, same⟩ := mem_mapMembers.mp (listed.mem_iff.mp among)
    rw [← same]
    exact ih _ origin

theorem Plain.sound (plain : Plain value) : Sound value := by
  induction plain with
  | null => exact .null
  | boolean => exact .boolean
  | number => exact .number
  | string => exact .string
  | array _ ih => exact .array ih
  | object distinct _ ih => exact .object distinct ih

theorem Plain.writable (plain : Plain value) : Writable value := by
  induction plain with
  | null => exact .null
  | boolean => exact .boolean
  | number finite => exact .number finite
  | string => exact .string
  | array _ ih => exact .array ih
  | object _ _ ih => exact .object fun member among => ih member (mem_present.mp among).1

/-- A value equals its normal form. -/
theorem same_normal (sound : Sound value) : Same value (normal value) := by
  induction sound with
  | undefined => exact .undefined
  | null => exact .null
  | boolean => exact .boolean
  | @number value =>
    rw [normal_number]
    cases value with
    | zero => exact .zero
    | _ => exact .number
  | string => exact .string
  | @array items _ ih =>
    rw [normal_array]
    refine .array (List.length_map _).symm fun index item other first second => ?_
    rw [List.getElem?_map, first] at second
    cases second
    exact ih item (List.mem_of_getElem? first)
  | @object members distinct _ ih =>
    rw [normal_object]
    refine .object fun key => ?_
    rw [getMember_normal distinct]
    exact getMember_all (fun value => Same value (normal value)) .undefined ih

/-- Two canonical values have one text if and only if the values are equal. -/
theorem text_iff (sound : Sound value) (writable : Writable value) (sound' : Sound other) (writable' : Writable other) :
    stringify (canonical value) = stringify (canonical other) ↔ Same value other := by
  have plain := canonical_plain sound writable
  have plain' := canonical_plain sound' writable'
  constructor
  · intro same
    obtain ⟨text, written, reads⟩ := parseJson_stringify plain
    obtain ⟨text', written', reads'⟩ := parseJson_stringify plain'
    rw [← same, written] at written'
    cases written'
    exact same_of_normal sound sound' (Option.some.inj (reads.symm.trans reads'))
  · intro same
    have equal := same.normal_eq sound sound'
    unfold normal at equal
    rw [← stringify_written plain, ← stringify_written plain', equal]

/-- The text of a value reads as one that has the same text again. -/
theorem text_again (sound : Sound value) (writable : Writable value) :
    ∃ text, stringify (canonical value) = some text ∧ parseJson text = some (normal value) ∧ Plain (normal value) ∧
      stringify (canonical (normal value)) = some text := by
  have plain := canonical_plain sound writable
  obtain ⟨text, written, reads⟩ := parseJson_stringify plain
  have again := (text_iff sound writable plain.written.sound plain.written.writable).mpr (same_normal sound)
  exact ⟨text, written, reads, plain.written, again.symm.trans written⟩

end Text

end Agroasys.Runtime
