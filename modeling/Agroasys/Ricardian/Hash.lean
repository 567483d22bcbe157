import Agroasys.Ricardian.Canonicalize

namespace Agroasys.Ricardian

open Agroasys.Runtime

section Model

def rulesVersion : String := "RICARDIAN_CANONICAL_V1"

structure HashBuildResult where
  requestId : JsValue
  documentRef : JsValue
  canonicalJson : Option JsString
  hash : JsString
  rulesVersion : String
  metadata : JsValue

/-- `value.key`, for a key that nothing inherits. -/
def readProperty (value : JsValue) (key : String) : Except Failure JsValue :=
  match value with
  | .undefined | .null => .error .typeError
  | value => .ok (property value key)

/-- `!documentRef || documentRef.trim().length === 0`. -/
def isMissing (documentRef : JsValue) : Except Failure Bool :=
  if documentRef.truthy then
    match documentRef with
    | .string text => .ok (trimUnits text).isEmpty
    | _ => .error .typeError
  else .ok true

/-- `if (!condition) throw new Error(message)`. -/
def require (condition : Bool) (message : String) : Except Failure Unit :=
  if condition then .ok () else .error (.error message)

/-- `value || {}`. -/
def orEmpty (value : JsValue) : JsValue := if value.truthy then value else .object []

def canonicalPayload (documentRef metadata terms : JsValue) : JsValue :=
  .object [(utf16 "documentRef", documentRef), (utf16 "metadata", metadata), (utf16 "terms", terms)]

/-- What the hash is taken of. -/
def preimage (canonicalJson : Option JsString) : JsString :=
  utf16 rulesVersion ++ unit ':' :: canonicalJson.getD (utf16 "undefined")

def buildRicardianHash (sha256Hex : JsString → JsString) (randomUUID : JsString) (request : JsValue) :
    Except Failure HashBuildResult := do
  let documentRef ← readProperty request "documentRef"
  let missing ← isMissing documentRef
  require (!missing) "documentRef is required"
  let terms ← readProperty request "terms"
  require (terms.truthy && terms.isObject) "terms must be an object"
  let given ← readProperty request "metadata"
  let metadata := orEmpty given
  let canonicalJson ← canonicalJsonStringify (canonicalPayload documentRef metadata terms)
  let requestId ← readProperty request "requestId"
  return { requestId := if requestId.truthy then requestId else .string randomUUID, documentRef, canonicalJson,
           hash := sha256Hex (preimage canonicalJson), rulesVersion, metadata }

end Model

section Canonical

/-- The body of a request, which has one property with each key at every depth. -/
structure Body where
  value : JsValue
  sound : Sound value

private theorem readProperty_ok (read : readProperty request key = .ok value) : value = property request key := by
  unfold readProperty at read
  split at read <;> cases read
  rfl

private theorem require_ok (checked : require condition message = .ok ()) : condition = true := by
  unfold require at checked
  split at checked
  · assumption
  · cases checked

/-- A document reference that is there is a string that is not blank. -/
theorem isMissing_false (checked : isMissing documentRef = .ok false) :
    ∃ text, documentRef = .string text ∧ trimUnits text ≠ [] := by
  unfold isMissing at checked
  split at checked
  · split at checked
    · refine ⟨_, rfl, fun blank => ?_⟩
      rw [blank] at checked
      cases checked
    · cases checked
  · cases checked

/-- What a request that is accepted gives: a reference, and the canonical JSON of what is hashed. -/
theorem buildRicardianHash_ok (built : buildRicardianHash sha256Hex randomUUID request = .ok result) :
    (∃ text, property request "documentRef" = .string text ∧ trimUnits text ≠ []) ∧
      (property request "terms").truthy = true ∧
      canonicalJsonStringify (canonicalPayload (property request "documentRef")
        (orEmpty (property request "metadata")) (property request "terms")) = .ok result.canonicalJson ∧
      result.hash = sha256Hex (preimage result.canonicalJson) := by
  unfold buildRicardianHash at built
  simp only [bind_eq_ok] at built
  obtain ⟨documentRef, ref, missing, checked, _, there, terms, read, _, object, metadata, given, canonicalJson,
    written, requestId, _, same⟩ := built
  obtain rfl := readProperty_ok ref
  obtain rfl := readProperty_ok read
  obtain rfl := readProperty_ok given
  have named : missing = false := by simpa using require_ok there
  rw [named] at checked
  cases same
  exact ⟨isMissing_false checked, (Bool.and_eq_true_iff.mp (require_ok object)).1, written, rfl⟩

private theorem sound_orEmpty (sound : Sound value) : Sound (orEmpty value) := by
  unfold orEmpty
  split
  · exact sound
  · exact .object List.nodup_nil nofun

theorem sound_payload (sound : Sound documentRef) (sound' : Sound metadata) (sound'' : Sound terms) :
    Sound (canonicalPayload documentRef metadata terms) := by
  have keys : [utf16 "documentRef", utf16 "metadata", utf16 "terms"].Nodup := by decide
  refine .object keys fun member among => ?_
  simp only [List.mem_cons, List.not_mem_nil, or_false] at among
  rcases among with rfl | rfl | rfl <;> assumption

/-- What is hashed is equal if and only if each of its parts is. -/
theorem same_payload : Same (canonicalPayload documentRef metadata terms)
    (canonicalPayload documentRef' metadata' terms') ↔
      Same documentRef documentRef' ∧ Same metadata metadata' ∧ Same terms terms' := by
  constructor
  · rintro (_ | _ | _ | _ | _ | _ | _ | same)
    exact ⟨same (utf16 "documentRef"), same (utf16 "metadata"), same (utf16 "terms")⟩
  · rintro ⟨same, same', same''⟩
    refine .object fun key => ?_
    rw [getMember_cons, getMember_cons, getMember_cons, getMember_cons, getMember_cons, getMember_cons]
    split
    · exact same
    · split
      · exact same'
      · split
        · exact same''
        · exact .undefined

private theorem same_string : Same (.string text) (.string text') ↔ text = text' := by
  constructor
  · rintro ⟨⟩
    rfl
  · rintro rfl
    exact .string

/-- The canonical JSON of what is hashed is equal for two requests if and only if they have the
same reference, and terms and metadata that are equal as JSON; and it reads as a value with that
canonical JSON. -/
theorem canonicalJson_iff (first second : Body)
    (built : buildRicardianHash sha256Hex randomUUID first.value = .ok result)
    (built' : buildRicardianHash sha256Hex randomUUID' second.value = .ok result') :
    (result.canonicalJson = result'.canonicalJson ↔
      property first.value "documentRef" = property second.value "documentRef" ∧
      Same (property first.value "terms") (property second.value "terms") ∧
      Same (orEmpty (property first.value "metadata")) (orEmpty (property second.value "metadata"))) ∧
    ∃ text document, result.canonicalJson = some text ∧ parseJson text = some document ∧
      canonicalJsonStringify document = .ok (some text) := by
  obtain ⟨⟨reference, named, _⟩, _, written, _⟩ := buildRicardianHash_ok built
  obtain ⟨⟨reference', named', _⟩, _, written', _⟩ := buildRicardianHash_ok built'
  have sound := sound_payload (first.sound.property "documentRef") (sound_orEmpty (first.sound.property "metadata"))
    (first.sound.property "terms")
  have sound' := sound_payload (second.sound.property "documentRef") (sound_orEmpty (second.sound.property "metadata"))
    (second.sound.property "terms")
  obtain ⟨writable, text⟩ := (canonicalJsonStringify_eq sound _).mp written
  obtain ⟨writable', text'⟩ := (canonicalJsonStringify_eq sound' _).mp written'
  constructor
  · rw [text, text', text_iff sound writable sound' writable', same_payload, named, named', same_string,
      JsValue.string.injEq, and_comm (a := Same (orEmpty _) _)]
  · obtain ⟨json, same, reads, plain, again⟩ := text_again sound writable
    refine ⟨json, _, text.trans same, reads, ?_⟩
    exact (canonicalJsonStringify_eq plain.sound _).mpr ⟨plain.writable, again.symm⟩

/-- A request with one term, which is zero. -/
def zeroBody (negative : Bool) : Body where
  value := .object [(utf16 "documentRef", .string (utf16 "doc")),
    (utf16 "terms", .object [(utf16 "price", .number (.zero negative))])]
  sound := by
    have keys : [utf16 "documentRef", utf16 "terms"].Nodup := by decide
    refine .object keys ?_
    simp only [List.mem_cons, List.not_mem_nil, or_false, forall_eq_or_imp, forall_eq]
    refine ⟨.string, .object (List.nodup_singleton _) ?_⟩
    simp only [List.mem_singleton, forall_eq]
    exact .number

theorem zeroBody_canonicalJson : ∃ result result',
    buildRicardianHash id [] (zeroBody true).value = .ok result ∧
    buildRicardianHash id [] (zeroBody false).value = .ok result' ∧ result.canonicalJson = result'.canonicalJson := by
  refine ⟨_, _, rfl, rfl, (canonicalJson_iff (zeroBody true) (zeroBody false) rfl rfl).1.mpr ⟨rfl, ?_, ?_⟩⟩
  · exact same_of_normal ((zeroBody true).sound.property "terms") ((zeroBody false).sound.property "terms") rfl
  · exact same_of_normal (sound_orEmpty ((zeroBody true).sound.property "metadata"))
      (sound_orEmpty ((zeroBody false).sound.property "metadata")) rfl

end Canonical

end Agroasys.Ricardian
