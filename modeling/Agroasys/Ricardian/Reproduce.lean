import Agroasys.Ricardian.Hash

namespace Agroasys.Ricardian.Reproduce

open Agroasys.Runtime

section Model

def rulesVersion : String := "RICARDIAN_CANONICAL_V1"

def assertFiniteNumber (value : JsNumber) : Except Failure Unit :=
  if value.isFinite then .ok ()
  else .error (.error "Non-finite numbers are not supported in Ricardian canonicalization")

/-- The loop over the sorted keys of an object. -/
def canonicalizeKeys (result : Members JsValue) :
    Members (Option (Except Failure JsValue)) → Except Failure (Members JsValue)
  | [] => .ok result
  | (key, raw) :: rest =>
    match raw with
    | none => canonicalizeKeys result rest
    | some canonical => do
      let value ← canonical
      canonicalizeKeys (defineMember result (key, value)) rest

mutual

def canonicalize : JsValue → Except Failure JsValue
  | .null => .ok .null
  | .string value => .ok (.string value)
  | .boolean value => .ok (.boolean value)
  | .number value => do
    assertFiniteNumber value
    return .number value
  | .array entries => do
    let values ← canonicalizeEntries entries
    return .array values
  | .object members => do
    let result ← canonicalizeKeys [] (sortMembers (ownOrder (canonicalizeRaws members)))
    return .object result
  | .undefined => .error (.error "Unsupported value type in Ricardian payload: undefined")

def canonicalizeEntries : List JsValue → Except Failure (List JsValue)
  | [] => .ok []
  | entry :: entries => do
    let value ← canonicalize entry
    let values ← canonicalizeEntries entries
    return value :: values

def canonicalizeRaws : List (JsString × JsValue) → Members (Option (Except Failure JsValue))
  | [] => []
  | (key, raw) :: members => (key, if raw.isDefined then some (canonicalize raw) else none) :: canonicalizeRaws members

end

def canonicalJsonStringify (value : JsValue) : Except Failure (Option JsString) := do
  let canonical ← canonicalize value
  return stringify canonical

structure Result where
  documentRef : JsValue
  rulesVersion : String
  canonicalJson : Option JsString
  preimage : JsString
  hash : JsString
  metadata : JsValue

def buildRicardianHash (sha256Hex : JsString → JsString) (payload : JsValue) : Except Failure Result := do
  let documentRef ← readProperty payload "documentRef"
  let missing ← isMissing documentRef
  require (!missing) "documentRef is required"
  let terms ← readProperty payload "terms"
  require (terms.truthy && terms.isObject) "terms must be an object"
  let given ← readProperty payload "metadata"
  let metadata := orEmpty given
  let canonicalPayload := JsValue.object
    [(utf16 "documentRef", documentRef), (utf16 "metadata", metadata), (utf16 "terms", terms)]
  let canonicalJson ← canonicalJsonStringify canonicalPayload
  let preimage := utf16 rulesVersion ++ unit ':' :: canonicalJson.getD (utf16 "undefined")
  return { documentRef, rulesVersion, canonicalJson, preimage, hash := sha256Hex preimage, metadata }

/-- What `parseArgs` makes of the arguments. -/
structure Options where
  payloadFile : Option JsString
  documentRef : Option JsString
  termsFile : Option JsString
  metadataFile : Option JsString

/-- An option that is there and not empty. -/
def isGiven (option : Option JsString) : Bool := !(option.getD []).isEmpty

/-- `readFile` is what `JSON.parse` makes of a file's text. -/
def readJsonFile (readFile : JsString → Except Failure JsValue) (filePath : Option JsString) (label : String) :
    Except Failure JsValue := do
  require (isGiven filePath) (label ++ " is required")
  readFile (filePath.getD [])

def readMetadata (readFile : JsString → Except Failure JsValue) (opts : Options) : Except Failure JsValue :=
  if isGiven opts.metadataFile then readJsonFile readFile opts.metadataFile "--metadata-file" else .ok .undefined

def buildPayload (readFile : JsString → Except Failure JsValue) (opts : Options) : Except Failure JsValue :=
  if isGiven opts.payloadFile then do
    let payload ← readJsonFile readFile opts.payloadFile "--payload-file"
    require (payload.truthy && payload.isObject) "--payload-file must contain an object"
    return payload
  else do
    let terms ← readJsonFile readFile opts.termsFile "--terms-file"
    let metadata ← readMetadata readFile opts
    return .object [(utf16 "documentRef", (opts.documentRef.map JsValue.string).getD .undefined),
      (utf16 "terms", terms), (utf16 "metadata", metadata)]

/-- How a run ends that prints no result. -/
inductive Exit where
  | usage
  | thrown (failure : Failure)

def main (sha256Hex : JsString → JsString) (readFile : JsString → Except Failure JsValue) (opts : Options) :
    Except Exit Result :=
  if !isGiven opts.payloadFile && (!isGiven opts.documentRef || !isGiven opts.termsFile) then .error .usage
  else (buildPayload readFile opts >>= buildRicardianHash sha256Hex).mapError .thrown

end Model

section Agreement

theorem canonicalizeKeys_same (values : Members (Option (Except Failure JsValue))) (result : Members JsValue) :
    canonicalizeKeys result values = defineKeys result values := by
  induction values generalizing result with
  | nil => rfl
  | cons member values ih =>
    obtain ⟨key, raw⟩ := member
    cases raw with
    | none => exact ih result
    | some canonical =>
      rw [canonicalizeKeys, defineKeys]
      exact congrArg _ (funext fun value => ih _)

mutual

private theorem canonicalize_same : ∀ value, canonicalize value = Ricardian.canonicalize value
  | .undefined | .null | .boolean _ | .number _ | .string _ => rfl
  | .array entries => by rw [canonicalize, Ricardian.canonicalize, canonicalizeEntries_same entries]
  | .object members => by
    rw [canonicalize, Ricardian.canonicalize, canonicalizeRaws_same members, canonicalizeKeys_same]
    rfl

theorem canonicalizeEntries_same : ∀ entries, canonicalizeEntries entries = canonicalizeArray entries
  | [] => rfl
  | entry :: entries => by
    rw [canonicalizeEntries, canonicalizeArray, canonicalize_same entry, canonicalizeEntries_same entries]

theorem canonicalizeRaws_same : ∀ members, canonicalizeRaws members = canonicalizeValues members
  | [] => rfl
  | (key, raw) :: members => by
    rw [canonicalizeRaws, canonicalizeValues, canonicalize_same raw, canonicalizeRaws_same members]

end

private theorem canonicalJsonStringify_same (value : JsValue) :
    canonicalJsonStringify value = Ricardian.canonicalJsonStringify value := by
  rw [canonicalJsonStringify, canonicalize_same]
  rfl

/-- The canonical JSON and the hash of a result. -/
def Result.fingerprint (result : Result) : Option JsString × JsString := (result.canonicalJson, result.hash)

def served (result : HashBuildResult) : Option JsString × JsString := (result.canonicalJson, result.hash)

private theorem readProperty_again (read : readProperty value key = .ok found) (other : String) :
    readProperty value other = .ok (property value other) := by
  unfold readProperty at read ⊢
  split at read <;> cases read
  rfl

/-- On one payload the service and the script fail with one failure or give one result. -/
theorem buildRicardianHash_same (sha256Hex : JsString → JsString) (randomUUID : JsString) (payload : JsValue) :
    (buildRicardianHash sha256Hex payload).map Result.fingerprint =
      (Ricardian.buildRicardianHash sha256Hex randomUUID payload).map served := by
  unfold buildRicardianHash Ricardian.buildRicardianHash
  cases read : readProperty payload "documentRef" with
  | error => rfl
  | ok documentRef =>
    rw [readProperty_again read "requestId"]
    simp only [canonicalJsonStringify_same, map_bind]
    rfl

/-- The script reads nothing of a payload but three properties. -/
theorem buildRicardianHash_property (read : readProperty payload "documentRef" = .ok documentRef)
    (read' : readProperty other "documentRef" = .ok documentRef)
    (terms : property payload "terms" = property other "terms")
    (metadata : property payload "metadata" = property other "metadata") (sha256Hex : JsString → JsString) :
    buildRicardianHash sha256Hex payload = buildRicardianHash sha256Hex other := by
  unfold buildRicardianHash
  rw [read, read', readProperty_again read, readProperty_again read', readProperty_again read "metadata",
    readProperty_again read' "metadata", terms, metadata]

/-- An option is a value if it is not given and that is undefined, or a file that holds it. -/
def Holds (readFile : JsString → Except Failure JsValue) (file : Option JsString) (value : JsValue) : Prop :=
  if isGiven file then readFile (file.getD []) = .ok value else value = .undefined

private theorem Holds.read (holds : Holds readFile file value) (given : isGiven file = true) (label : String) :
    readJsonFile readFile file label = .ok value := by
  unfold Holds at holds
  rw [if_pos given] at holds
  unfold readJsonFile
  rw [given, holds]
  rfl

theorem Holds.absent (holds : Holds readFile file value) (given : isGiven file = false) : value = .undefined := by
  unfold Holds at holds
  rwa [if_neg (by simp [given])] at holds

/-- The value of an option that is a text. -/
def optionValue (option : Option JsString) : JsValue := (option.map JsValue.string).getD .undefined

/-- The options hold the parts of a payload, each in a file of its own but the reference. -/
structure Separate (readFile : JsString → Except Failure JsValue) (opts : Options) (payload : JsValue) : Prop where
  alone : isGiven opts.payloadFile = false
  documentRef : optionValue opts.documentRef = property payload "documentRef"
  terms : Holds readFile opts.termsFile (property payload "terms")
  metadata : Holds readFile opts.metadataFile (property payload "metadata")

theorem Separate.buildPayload (separate : Separate readFile opts payload) (given : isGiven opts.termsFile = true) :
    buildPayload readFile opts = .ok (.object [(utf16 "documentRef", property payload "documentRef"),
      (utf16 "terms", property payload "terms"), (utf16 "metadata", property payload "metadata")]) := by
  have metadata : readMetadata readFile opts = .ok (property payload "metadata") := by
    unfold readMetadata
    split
    · rename_i given'
      exact separate.metadata.read given' _
    · rename_i absent
      rw [separate.metadata.absent (by simpa using absent)]
  unfold Reproduce.buildPayload
  rw [if_neg (by simp [separate.alone]), separate.terms.read given, metadata]
  exact congrArg (fun value => Except.ok (JsValue.object [(utf16 "documentRef", value), _, _])) separate.documentRef

/-- A payload that the service accepts is one whose options are given. -/
theorem Separate.given (separate : Separate readFile opts payload)
    (built : Ricardian.buildRicardianHash sha256Hex randomUUID payload = .ok result) :
    isGiven opts.documentRef = true ∧ isGiven opts.termsFile = true := by
  obtain ⟨⟨reference, named, filled⟩, truthy, _⟩ := buildRicardianHash_ok built
  constructor
  · have same := separate.documentRef.trans named
    cases option : opts.documentRef with
    | none =>
      rw [option] at same
      cases same
    | some text =>
      rw [option] at same
      cases same
      cases reference with
      | nil => exact absurd rfl filled
      | cons => rfl
  · by_contra absent
    rw [separate.terms.absent (by simpa using absent)] at truthy
    cases truthy

private theorem readProperty_string (named : property payload key = .string text) :
    readProperty payload key = .ok (.string text) := by
  cases payload with
  | object members => exact congrArg Except.ok named
  | _ => cases named

private theorem Separate.named (separate : Separate readFile opts payload) (given : isGiven opts.documentRef = true) :
    ∃ text, property payload "documentRef" = .string text := by
  rw [← separate.documentRef]
  cases option : opts.documentRef with
  | none =>
    rw [option] at given
    cases given
  | some text => exact ⟨text, rfl⟩

theorem map_toOption (action : Except Error α) (f : α → β) : (action.map f).toOption = action.toOption.map f := by
  cases action <;> rfl

theorem mapError_toOption (action : Except Error α) (f : Error → Error') : (action.mapError f).toOption = action.toOption := by
  cases action <;> rfl

/-- The service refuses what is not an object. -/
theorem built_object (built : Ricardian.buildRicardianHash sha256Hex randomUUID payload = .ok result) :
    (payload.truthy && payload.isObject) = true := by
  obtain ⟨⟨reference, named, _⟩, _⟩ := buildRicardianHash_ok built
  cases payload with
  | object => rfl
  | _ => cases named

private theorem main_payloadFile {opts : Options} (given : isGiven opts.payloadFile = true)
    (holds : Holds readFile opts.payloadFile payload) :
    (main sha256Hex readFile opts).toOption = ((require (payload.truthy && payload.isObject)
      "--payload-file must contain an object") >>= fun _ => buildRicardianHash sha256Hex payload).toOption := by
  have checked : buildPayload readFile opts = require (payload.truthy && payload.isObject)
      "--payload-file must contain an object" >>= fun _ => .ok payload := by
    rw [buildPayload, if_pos given, holds.read given]
    rfl
  rw [main, if_neg (by simp [given]), mapError_toOption, checked]
  cases payload.truthy && payload.isObject <;> rfl

private theorem main_separate (separate : Separate readFile opts payload)
    (given : isGiven opts.documentRef = true ∧ isGiven opts.termsFile = true) :
    (main sha256Hex readFile opts).toOption = (buildRicardianHash sha256Hex payload).toOption := by
  obtain ⟨text, named⟩ := separate.named given.1
  have read : readProperty (.object [(utf16 "documentRef", property payload "documentRef"),
      (utf16 "terms", property payload "terms"), (utf16 "metadata", property payload "metadata")]) "documentRef" =
      .ok (.string text) :=
    congrArg Except.ok named
  rw [main, if_neg (by simp [given.1, given.2]), mapError_toOption, separate.buildPayload given.2]
  exact congrArg Except.toOption (buildRicardianHash_property read (readProperty_string named) rfl rfl sha256Hex)

/-- The script gives what the service gives: on the payload itself, on a file of it, and on files
of its parts. -/
theorem reproduces (sha256Hex : JsString → JsString) (randomUUID : JsString) (payload : JsValue) :
    (buildRicardianHash sha256Hex payload).map Result.fingerprint =
        (Ricardian.buildRicardianHash sha256Hex randomUUID payload).map served ∧
      (∀ readFile opts, isGiven opts.payloadFile = true → Holds readFile opts.payloadFile payload →
        (main sha256Hex readFile opts).toOption.map Result.fingerprint =
          (Ricardian.buildRicardianHash sha256Hex randomUUID payload).toOption.map served) ∧
      ∀ readFile opts, Separate readFile opts payload →
        (main sha256Hex readFile opts).toOption.map Result.fingerprint =
          (Ricardian.buildRicardianHash sha256Hex randomUUID payload).toOption.map served := by
  have same := buildRicardianHash_same sha256Hex randomUUID payload
  have outcome := congrArg Except.toOption same
  rw [map_toOption, map_toOption] at outcome
  refine ⟨same, fun readFile opts given holds => ?_, fun readFile opts separate => ?_⟩
  · rw [main_payloadFile given holds, ← outcome]
    cases object : payload.truthy && payload.isObject with
    | true => rfl
    | false =>
      cases built : Ricardian.buildRicardianHash sha256Hex randomUUID payload with
      | error =>
        rw [outcome, built]
        rfl
      | ok result =>
        rw [built_object built] at object
        cases object
  · by_cases given : isGiven opts.documentRef = true ∧ isGiven opts.termsFile = true
    · rw [main_separate separate given, outcome]
    · cases built : Ricardian.buildRicardianHash sha256Hex randomUUID payload with
      | ok result => exact absurd (separate.given built) given
      | error =>
        rw [main, if_pos]
        · rfl
        · rw [separate.alone]
          cases ref : isGiven opts.documentRef <;> cases terms : isGiven opts.termsFile <;> simp_all

/-- One request whose terms are in a file of their own. -/
theorem reproduces_zeroBody :
    (main id (fun _ => .ok (property (zeroBody true).value "terms"))
        ⟨none, some (utf16 "doc"), some (utf16 "terms.json"), none⟩).toOption.map Result.fingerprint =
      (Ricardian.buildRicardianHash id [] (zeroBody true).value).toOption.map served :=
  (reproduces id [] (zeroBody true).value).2.2 _ _ ⟨rfl, rfl, rfl, rfl⟩

end Agreement

end Agroasys.Ricardian.Reproduce
