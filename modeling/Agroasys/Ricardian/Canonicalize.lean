import Agroasys.Foundation.Outcomes
import Agroasys.Runtime.Values

/-! The ricardian service's canonical JSON: the text of a copy whose members are created by their keys. -/

namespace Agroasys.Ricardian

open Agroasys.Runtime

/-- What is thrown: an `Error` with its message, or the engine's `TypeError`. -/
inductive Failure where
  | error (message : String)
  | typeError
  deriving DecidableEq

section Model

def assertFiniteNumber (value : JsNumber) : Except Failure Unit :=
  if value.isFinite then .ok ()
  else .error (.error "Non-finite numbers are not supported in Ricardian canonicalization")

/-- The loop over the keys: each is defined on the result unless its value is undefined. -/
def defineKeys (result : Members JsValue) : Members (Option (Except Failure JsValue)) → Except Failure (Members JsValue)
  | [] => .ok result
  | (_, none) :: rest => defineKeys result rest
  | (key, some canonical) :: rest => do
    let value ← canonical
    defineKeys (defineMember result (key, value)) rest

/-- `canonicalizeObject`, on what `canonicalize` makes of each value that is not undefined. -/
def canonicalizeObject (values : Members (Option (Except Failure JsValue))) : Except Failure JsValue := do
  let result ← defineKeys [] (sortMembers (ownOrder values))
  return .object result

mutual

def canonicalize : JsValue → Except Failure JsValue
  | .null => .ok .null
  | .string value => .ok (.string value)
  | .boolean value => .ok (.boolean value)
  | .number value => do
    assertFiniteNumber value
    return .number value
  | .array entries => do
    let values ← canonicalizeArray entries
    return .array values
  | .object members => canonicalizeObject (canonicalizeValues members)
  | .undefined => .error (.error "Unsupported value type in Ricardian payload: undefined")

def canonicalizeArray : List JsValue → Except Failure (List JsValue)
  | [] => .ok []
  | entry :: entries => do
    let value ← canonicalize entry
    let values ← canonicalizeArray entries
    return value :: values

def canonicalizeValues : List (JsString × JsValue) → Members (Option (Except Failure JsValue))
  | [] => []
  | (key, raw) :: members => (key, if raw.isDefined then some (canonicalize raw) else none) :: canonicalizeValues members

end

def canonicalJsonStringify (value : JsValue) : Except Failure (Option JsString) := do
  let canonical ← canonicalize value
  return stringify canonical

end Model

section Refinement

/-- What the loop is given for a value. -/
def canonicalizeRaw (raw : JsValue) : Option (Except Failure JsValue) :=
  if raw.isDefined then some (canonicalize raw) else none

private theorem canonicalizeValues_eq (members : Members JsValue) :
    canonicalizeValues members = mapMembers canonicalizeRaw members := by
  induction members with
  | nil => rfl
  | cons member members ih =>
    rw [canonicalizeValues, ih]
    rfl

/-- `canonicalize` returns the canonical value of one that can be written, and fails on the others. -/
def Canonicalizes (value : JsValue) : Prop :=
  ∀ result, canonicalize value = .ok result ↔ Writable value ∧ result = canonical value

private theorem canonicalizeArray_eq (each : ∀ entry ∈ entries, Canonicalizes entry) (values : List JsValue) :
    canonicalizeArray entries = .ok values ↔ (∀ entry ∈ entries, Writable entry) ∧ values = entries.map canonical := by
  induction entries generalizing values with
  | nil =>
    rw [canonicalizeArray]
    simp [eq_comm]
  | cons entry entries ih =>
    obtain ⟨first, others⟩ := List.forall_mem_cons.mp each
    rw [canonicalizeArray, bind_eq_ok, List.forall_mem_cons, List.map_cons]
    simp only [bind_eq_ok, first _, ih others]
    constructor
    · rintro ⟨_, ⟨writable, rfl⟩, _, ⟨rest, rfl⟩, same⟩
      cases same
      exact ⟨⟨writable, rest⟩, rfl⟩
    · rintro ⟨⟨writable, rest⟩, rfl⟩
      exact ⟨_, ⟨writable, rfl⟩, _, ⟨rest, rfl⟩, rfl⟩

private theorem defineKeys_eq (each : ∀ member ∈ members, Canonicalizes member.2) (before : Members JsValue)
    (distinct : Distinct (before ++ members)) (result : Members JsValue) :
    defineKeys before (mapMembers canonicalizeRaw members) = .ok result ↔
      (∀ member ∈ present members, Writable member.2) ∧ result = before ++ mapMembers canonical (present members) := by
  induction members generalizing before with
  | nil =>
    rw [mapMembers, List.map_nil, defineKeys]
    simp [eq_comm, present, mapMembers]
  | cons member members ih =>
    obtain ⟨first, others⟩ := List.forall_mem_cons.mp each
    obtain ⟨key, raw⟩ := member
    cases defined : raw.isDefined with
    | false =>
      have absent : canonicalizeRaw raw = none := by rw [canonicalizeRaw, defined, if_neg Bool.false_ne_true]
      have skipped : present ((key, raw) :: members) = present members :=
        List.filter_cons_of_neg (by simp [defined])
      have rest : Distinct (before ++ members) :=
        distinct.sublist ((List.sublist_cons_self _ _).append_left before |>.map _)
      rw [mapMembers, List.map_cons, absent, defineKeys, skipped]
      exact ih others before rest
    | true =>
      have there : canonicalizeRaw raw = some (canonicalize raw) := by rw [canonicalizeRaw, defined, if_pos rfl]
      have kept : present ((key, raw) :: members) = (key, raw) :: present members := List.filter_cons_of_pos defined
      have added : defineMember before (key, canonical raw) = before ++ [(key, canonical raw)] :=
        defineMember_new distinct.new
      have rest : Distinct (before ++ [(key, canonical raw)] ++ members) := by
        unfold Distinct at distinct ⊢
        simpa using distinct
      rw [mapMembers, List.map_cons, there, defineKeys, bind_eq_ok, kept, List.forall_mem_cons]
      constructor
      · rintro ⟨value, canonical, run⟩
        obtain ⟨writable, rfl⟩ := (first value).mp canonical
        rw [added] at run
        obtain ⟨all, rfl⟩ := (ih others _ rest).mp run
        exact ⟨⟨writable, all⟩, by simp [mapMembers]⟩
      · rintro ⟨⟨writable, all⟩, rfl⟩
        refine ⟨_, (first _).mpr ⟨writable, rfl⟩, ?_⟩
        rw [added]
        exact (ih others _ rest).mpr ⟨all, by simp [mapMembers]⟩

/-- Leaving out what is undefined and sorting can change places. -/
theorem present_sorted (distinct : Distinct members) :
    present (sortMembers (ownOrder members)) = sortMembers (present members) := by
  have total : Std.Total fun first second : JsString × JsValue => first.1 ≤ second.1 :=
    ⟨fun first second => le_total first.1 second.1⟩
  have trans : IsTrans (JsString × JsValue) fun first second => first.1 ≤ second.1 :=
    ⟨fun _ _ _ first second => le_trans first second⟩
  have sorted : (present (sortMembers (ownOrder members))).Pairwise fun first second => first.1 ≤ second.1 :=
    (sortMembers_sorted _).sublist List.filter_sublist
  have listed : (present (sortMembers (ownOrder members))).Perm (present members) :=
    ((sortMembers_perm _).trans (ownOrder_perm members)).filter _
  have fixed : sortMembers (present (sortMembers (ownOrder members))) = present (sortMembers (ownOrder members)) :=
    sorted.insertionSort_eq
  rw [← fixed, sortMembers_eq distinct.present listed]

private theorem canonicalize_eq (sound : Sound value) : Canonicalizes value := by
  induction sound with
  | undefined =>
    intro result
    rw [canonicalize]
    exact ⟨nofun, nofun⟩
  | null => exact fun result => ⟨fun same => ⟨.null, by cases same; rfl⟩, fun same => by rw [same.2]; rfl⟩
  | boolean => exact fun result => ⟨fun same => ⟨.boolean, by cases same; rfl⟩, fun same => by rw [same.2]; rfl⟩
  | string => exact fun result => ⟨fun same => ⟨.string, by cases same; rfl⟩, fun same => by rw [same.2]; rfl⟩
  | @number value =>
    intro result
    rw [canonicalize, assertFiniteNumber]
    split
    · rename_i finite
      exact ⟨fun same => ⟨.number finite, by cases same; rfl⟩, fun same => by rw [same.2]; rfl⟩
    · rename_i infinite
      exact ⟨nofun, fun same => by cases same.1 with | number finite => exact absurd finite infinite⟩
  | @array entries _ ih =>
    intro result
    rw [canonicalize, bind_eq_ok, canonical, canonicalItems_eq]
    simp only [canonicalizeArray_eq ih]
    constructor
    · rintro ⟨_, ⟨writable, rfl⟩, same⟩
      cases same
      exact ⟨.array writable, rfl⟩
    · rintro ⟨writable, rfl⟩
      cases writable with
      | array writable => exact ⟨_, ⟨writable, rfl⟩, rfl⟩
  | @object members distinct _ ih =>
    intro result
    have listed := (sortMembers_perm _).trans (ownOrder_perm members)
    have each : ∀ member ∈ sortMembers (ownOrder members), Canonicalizes member.2 :=
      fun member among => ih member (listed.mem_iff.mp among)
    have run := defineKeys_eq each [] (distinct.perm listed)
    rw [present_sorted distinct] at run
    rw [canonicalize, canonicalizeObject, canonicalizeValues_eq, ownOrder_map, sortMembers_map, bind_eq_ok, canonical,
      canonicalMembers_eq, sortMembers_map]
    simp only [run, List.nil_append, (sortMembers_perm (present members)).mem_iff]
    constructor
    · rintro ⟨_, ⟨writable, rfl⟩, same⟩
      cases same
      exact ⟨.object writable, rfl⟩
    · rintro ⟨writable, rfl⟩
      cases writable with
      | object writable => exact ⟨_, ⟨writable, rfl⟩, rfl⟩

/-- The canonical JSON of a value is the text of its canonical value. -/
theorem canonicalJsonStringify_eq (sound : Sound value) (text : Option JsString) :
    canonicalJsonStringify value = .ok text ↔ Writable value ∧ text = stringify (canonical value) := by
  rw [canonicalJsonStringify, bind_eq_ok]
  simp only [canonicalize_eq sound _]
  constructor
  · rintro ⟨_, ⟨writable, rfl⟩, same⟩
    cases same
    exact ⟨writable, rfl⟩
  · rintro ⟨writable, rfl⟩
    exact ⟨_, ⟨writable, rfl⟩, rfl⟩

end Refinement

end Agroasys.Ricardian
