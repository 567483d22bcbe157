import Agroasys.Foundation.Casting
import Agroasys.Foundation.Faults
import Agroasys.Ricardian.Hash
import Agroasys.Runtime.Buffers
import Agroasys.Runtime.Dates
import Mathlib.Data.List.MinMax

/-! The registry of contract hashes: the table, the statements of `queries.ts` and the two
routes of the controller over them. Each statement is atomic. -/

namespace Agroasys.Ricardian.Registry

open Function Agroasys.Foundation Agroasys.Runtime

section Model

structure RicardianHashRow where
  id : Nat
  requestId : JsString
  documentRef : JsString
  hash : JsString
  rulesVersion : String
  canonicalJson : JsString
  metadata : JsValue
  createdAt : Nat

/-- What the service rests on: the digest, which fills a `CHAR(64)`; how the driver writes a
parameter that is neither text nor absent; and what a column of JSON holds of a value, or
why it refuses it. -/
structure Settings where
  sha256Hex : JsString → JsString
  writeParameter : JsValue → JsString
  jsonb : JsValue → Except String JsValue

/-- The first characters of a text and the rest; a surrogate pair is one character. -/
def spanCharacters : Nat → JsString → JsString × JsString
  | 0, text => ([], text)
  | _ + 1, [] => ([], [])
  | _ + 1, [code] => ([code], [])
  | count + 1, lead :: trail :: rest =>
    if isLead lead && isTrail trail then
      let (front, back) := spanCharacters count rest
      (lead :: trail :: front, back)
    else
      let (front, back) := spanCharacters count (trail :: rest)
      (lead :: front, back)

/-- A text on its way to the database: as UTF-8, and without NUL. -/
def encodeText (text : JsString) : Except String JsString :=
  if text.contains 0 then .error "invalid byte sequence for encoding \"UTF8\": 0x00"
  else .ok (utf8Text (utf8Bytes text))

/-- A parameter for a column that is text and not null. -/
def textColumn (settings : Settings) : JsValue → Except String JsString
  | .undefined | .null => .error "null value violates not-null constraint"
  | .string text => encodeText text
  | value => encodeText (settings.writeParameter value)

/-- `VARCHAR(limit)`: spaces beyond the limit are cut off. -/
def varchar (limit : Nat) (text : JsString) : Except String JsString :=
  let (front, back) := spanCharacters limit text
  if back.all (· = unit ' ') then .ok front else .error "value too long for type character varying"

/-- The columns that an insert gives. -/
structure Columns where
  requestId : JsString
  documentRef : JsString
  hash : JsString
  rulesVersion : String
  canonicalJson : JsString
  metadata : JsValue

/-- What the table has one row for. -/
def RicardianHashRow.key (row : RicardianHashRow) : JsString × JsString := (row.hash, row.documentRef)

def Columns.key (columns : Columns) : JsString × JsString := (columns.hash, columns.documentRef)

def Columns.row (serial createdAt : Nat) (columns : Columns) : RicardianHashRow :=
  ⟨serial, columns.requestId, columns.documentRef, columns.hash, columns.rulesVersion, columns.canonicalJson,
    columns.metadata, createdAt⟩

def readColumns (settings : Settings) (data : HashBuildResult) : Except String Columns := do
  let requestId ← textColumn settings data.requestId
  let requestId ← varchar 100 requestId
  let documentRef ← textColumn settings data.documentRef
  let canonicalJson ← textColumn settings ((data.canonicalJson.map JsValue.string).getD .undefined)
  let metadata ← settings.jsonb data.metadata
  return ⟨requestId, documentRef, data.hash, data.rulesVersion, canonicalJson, metadata⟩

abbrev World := List RicardianHashRow

/-- `ON CONFLICT (hash, document_ref) DO UPDATE SET metadata`. `serial` is what the sequence
of ids gives. -/
def upsert (serial createdAt : Nat) (columns : Columns) (world : World) :
    Except String (RicardianHashRow × World) :=
  match world.find? (·.key = columns.key) with
  | some stored =>
    .ok ({ stored with metadata := columns.metadata }, world.map fun row =>
      if row.key = columns.key then { row with metadata := columns.metadata } else row)
  | none =>
    match world.find? (·.id = serial) with
    | some _ => .error "duplicate key value violates unique constraint"
    | none => .ok (columns.row serial createdAt, columns.row serial createdAt :: world)

/-- `WHERE hash = $1 ORDER BY created_at DESC`: the rows that may come first. -/
def newest (hash : JsString) (world : World) : List RicardianHashRow :=
  let matching := world.filter (·.hash = hash)
  matching.filter fun row => matching.all fun other => other.createdAt ≤ row.createdAt

inductive Effect where
  | randomUUID
  | createRicardianHash (data : HashBuildResult)
  | getRicardianHash (hash : JsString)

abbrev Answer : Effect → Type
  | .randomUUID => JsString
  | .createRicardianHash _ => Except String RicardianHashRow
  | .getRicardianHash _ => Except String (Option RicardianHashRow)

/-- What the surroundings choose: the outcome of the statement, the time, the id, the random
id of a request, and which of several rows of one time comes first. -/
structure Choice where
  fate : Fate
  time : Nat
  serial : Nat
  uuid : JsString
  tie : Nat

def unreachable : String := "Connection terminated unexpectedly"

def serve (settings : Settings) : Serving Choice Effect Answer World
  | choice, world, .randomUUID => (choice.uuid, world)
  | choice, world, .createRicardianHash data =>
    choice.fate.execute unreachable
      ((readColumns settings data).bind fun columns => upsert choice.serial choice.time columns world) world
  | choice, world, .getRicardianHash hash =>
    choice.fate.execute unreachable
      (.ok ((newest hash world)[choice.tie]?.or (newest hash world).head?, world)) world

structure RicardianHashResponse where
  id : Nat
  requestId : JsString
  documentRef : JsString
  hash : JsString
  rulesVersion : String
  canonicalJson : JsString
  metadata : JsValue
  createdAt : String

def mapRowToResponse (row : RicardianHashRow) : RicardianHashResponse where
  id := row.id
  requestId := row.requestId
  documentRef := row.documentRef
  hash := row.hash
  rulesVersion := row.rulesVersion
  canonicalJson := row.canonicalJson
  metadata := row.metadata
  createdAt := toISOString row.createdAt

inductive Reply where
  | data (response : RicardianHashResponse)
  | refused (error : Failure)

structure HttpResponse where
  status : Nat
  reply : Reply

/-- `error?.message || text`. -/
def messageOr (text : String) : Failure → Failure
  | .error "" => .error text
  | error => error

def refuse (status : Nat) (text message : String) : HttpResponse :=
  ⟨status, .refused (messageOr text (.error message))⟩

/-- `RicardianController.createHash`. The random id is drawn whether it is used or not. -/
def createHash (settings : Settings) (body : JsValue) : Program Effect Answer HttpResponse :=
  .call .randomUUID fun uuid =>
    match buildRicardianHash settings.sha256Hex uuid body with
    | .error error => .done ⟨400, .refused (messageOr "Invalid Ricardian payload" error)⟩
    | .ok hashed => .call (.createRicardianHash hashed) fun
      | .ok row => .done ⟨200, .data (mapRowToResponse row)⟩
      | .error message => .done (refuse 500 "Failed to persist Ricardian hash" message)

/-- A unit of `[a-f0-9]`, in either case. -/
def isHexUnit (code : CodeUnit) : Bool :=
  (0x30 ≤ code.val && code.val ≤ 0x39) || (0x41 ≤ code.val && code.val ≤ 0x46) ||
    (0x61 ≤ code.val && code.val ≤ 0x66)

/-- `/^[a-f0-9]{64}$/i`. -/
def hashFormat (hash : JsString) : Bool := hash.length = 64 && hash.all isHexUnit

/-- `hash.toLowerCase()`, of such a hash. -/
def lowerHash (hash : JsString) : JsString :=
  hash.map fun code => if 0x41 ≤ code.val && code.val ≤ 0x46 then code + 0x20 else code

/-- `RicardianController.getHash`. -/
def getHash (hash : JsString) : Program Effect Answer HttpResponse :=
  if hashFormat hash then
    .call (.getRicardianHash (lowerHash hash)) fun
      | .ok (some row) => .done ⟨200, .data (mapRowToResponse row)⟩
      | .ok none => .done ⟨404, .refused (.error "Hash not found")⟩
      | .error message => .done (refuse 500 "Failed to fetch Ricardian hash" message)
  else .done ⟨400, .refused (.error "Invalid hash format")⟩

inductive Request where
  | createHash (body : JsValue)
  | getHash (hash : JsString)

def handle (settings : Settings) : Request → Program Effect Answer HttpResponse
  | .createHash body => createHash settings body
  | .getHash hash => getHash hash

/-- The service, from an empty table on. -/
def registry (settings : Settings) : Server Request Effect Answer HttpResponse World where
  initial world := world = []
  program := handle settings
  serves := (serve settings).serves
  drifts _ _ := False

abbrev RegistryPool := Pool Effect Answer HttpResponse World
abbrev RegistryHistory := History RegistryPool (Move Request Effect Answer)

end Model

section Rows

variable {settings : Settings} {before after world : World} {row last later sooner : RicardianHashRow}
  {hash : JsString}

/-- A row later on: only its metadata is ever written again. -/
def RicardianHashRow.Continues (later sooner : RicardianHashRow) : Prop :=
  later = { sooner with metadata := later.metadata }

theorem RicardianHashRow.Continues.refl (row : RicardianHashRow) : row.Continues row := rfl

theorem RicardianHashRow.Continues.trans (second : last.Continues later) (first : later.Continues sooner) :
    last.Continues sooner := by
  unfold RicardianHashRow.Continues at *
  rw [second, first]

private theorem RicardianHashRow.Continues.key (continues : later.Continues sooner) : later.key = sooner.key := by
  rw [continues]
  rfl

private theorem continues_rewritten (row : RicardianHashRow) (metadata : JsValue) :
    RicardianHashRow.Continues { row with metadata := metadata } row := rfl

/-- What an upsert leaves: its own row, and every other as it was. -/
structure Upserted (columns : Columns) (before : World) (row : RicardianHashRow) (after : World) : Prop where
  named : row.key = columns.key
  stored : row ∈ after
  kept : ∀ old ∈ before, ∃ later ∈ after, later.Continues old
  sources : ∀ later ∈ after, (∃ old ∈ before, later.Continues old) ∨
    ∃ serial createdAt, later = columns.row serial createdAt
  unique : (before.map (·.key)).Nodup → (after.map (·.key)).Nodup

private theorem upsert_eq_ok (done : upsert serial createdAt columns before = .ok (row, after)) :
    Upserted columns before row after := by
  unfold upsert at done
  split at done
  · rename_i stored found
    cases done
    have present : stored ∈ before := List.mem_of_find?_eq_some found
    have mine : stored.key = columns.key := by simpa using List.find?_some found
    refine ⟨mine, ?_, ?_, ?_, ?_⟩
    · exact List.mem_map.mpr ⟨stored, present, if_pos mine⟩
    · intro old member
      refine ⟨_, List.mem_map.mpr ⟨old, member, rfl⟩, ?_⟩
      split
      · exact continues_rewritten old _
      · exact .refl old
    · intro later member
      obtain ⟨old, sooner, rfl⟩ := List.mem_map.mp member
      refine .inl ⟨old, sooner, ?_⟩
      split
      · exact continues_rewritten old _
      · exact .refl old
    · intro unique
      rw [List.map_map]
      convert unique using 1
      apply List.map_congr_left
      intro old _
      dsimp only [Function.comp_apply]
      split <;> rfl
  · rename_i absent
    split at done <;> cases done
    refine ⟨rfl, List.mem_cons_self, ?_, ?_, ?_⟩
    · intro old member
      exact ⟨old, List.mem_cons_of_mem _ member, .refl old⟩
    · intro later member
      rcases List.mem_cons.mp member with rfl | sooner
      · exact .inr ⟨serial, createdAt, rfl⟩
      · exact .inl ⟨later, sooner, .refl later⟩
    · intro unique
      rw [List.map_cons, List.nodup_cons]
      refine ⟨?_, unique⟩
      intro taken
      obtain ⟨old, member, same⟩ := List.mem_map.mp taken
      exact List.find?_eq_none.mp absent old member (decide_eq_true same)

private theorem newest_mem (member : row ∈ newest hash world) : row ∈ world ∧ row.hash = hash := by
  obtain ⟨matching, _⟩ := List.mem_filter.mp member
  obtain ⟨stored, same⟩ := List.mem_filter.mp matching
  exact ⟨stored, of_decide_eq_true same⟩

/-- Of the rows of a hash one is the newest. -/
theorem newest_nil (none : newest hash world = []) : ∀ row ∈ world, row.hash ≠ hash := by
  intro row member same
  have matching : row ∈ world.filter (·.hash = hash) := List.mem_filter.mpr ⟨member, decide_eq_true same⟩
  obtain ⟨latest, last⟩ := Option.ne_none_iff_exists'.mp
    fun absent => List.ne_nil_of_mem matching (List.argmax_eq_none (f := RicardianHashRow.createdAt).mp absent)
  have newer : latest ∈ newest hash world := by
    refine List.mem_filter.mpr ⟨List.argmax_mem last, List.all_eq_true.mpr ?_⟩
    intro other present
    exact decide_eq_true (List.le_of_mem_argmax present last)
  rw [none] at newer
  cases newer

/-- The table changes by upserts only. -/
theorem served_upserted {event : Event Effect Answer} (served : (serve settings).serves before event after) :
    after = before ∨ ∃ data columns row, event.effect = .createRicardianHash data ∧
      readColumns settings data = .ok columns ∧ Upserted columns before row after := by
  obtain ⟨choice, served⟩ := served
  obtain ⟨effect, answer⟩ := event
  cases effect with
  | randomUUID => cases served; exact .inl rfl
  | getRicardianHash => exact .inl (Fate.executed_read served).1
  | createRicardianHash data =>
    rcases Fate.executed served with ⟨row, done, _⟩ | ⟨rfl, _⟩
    · obtain ⟨columns, read, done⟩ := bind_eq_ok.mp done
      exact .inr ⟨data, columns, row, rfl, read, upsert_eq_ok done⟩
    · exact .inl rfl

/-- A row that is stored stays stored. -/
theorem served_kept {event : Event Effect Answer} (served : (serve settings).serves before event after)
    (member : row ∈ before) : ∃ later ∈ after, later.Continues row := by
  rcases served_upserted served with rfl | ⟨_, _, _, _, _, upserted⟩
  · exact ⟨row, member, .refl row⟩
  · exact upserted.kept row member

/-- The row that an insert returns. -/
theorem create_answer (served : (serve settings).serves before ⟨.createRicardianHash data, .ok row⟩ after) :
    ∃ columns, readColumns settings data = .ok columns ∧ row ∈ after ∧ row.key = columns.key := by
  obtain ⟨choice, served⟩ := served
  obtain ⟨columns, read, done⟩ := bind_eq_ok.mp (Fate.executed_ok served)
  have upserted := upsert_eq_ok done
  exact ⟨columns, read, upserted.stored, upserted.named⟩

/-- What a lookup tells of the table. -/
theorem get_answer (served : (serve settings).serves before ⟨.getRicardianHash hash, .ok answer⟩ after) :
    (∀ row, answer = some row → row ∈ after ∧ row.hash = hash) ∧
      (answer = none → ∀ row ∈ before, row.hash ≠ hash) := by
  obtain ⟨choice, served⟩ := served
  obtain ⟨rfl, told | lost⟩ := Fate.executed_read served
  · have same := Except.ok.inj told
    constructor
    · rintro row rfl
      apply newest_mem
      rcases Option.or_eq_some_iff.mp same.symm with at_tie | ⟨_, first⟩
      · exact List.mem_of_getElem? at_tie
      · exact List.mem_of_mem_head? first
    · rintro rfl
      apply newest_nil
      exact List.head?_eq_none_iff.mp (Option.or_eq_none_iff.mp same.symm).2
  · cases lost

end Rows

section Stages

variable (settings : Settings)

/-- How far a request has come. -/
inductive Point where
  | begun
  | drawn (uuid : JsString)
  | told (row : RicardianHashRow)
  | absent
  | failed

structure Stage where
  request : Request
  point : Point

def Stage.permits : Stage → Effect → Prop
  | ⟨.createHash _, .begun⟩, .randomUUID => True
  | ⟨.createHash body, .drawn uuid⟩, .createRicardianHash data =>
    buildRicardianHash settings.sha256Hex uuid body = .ok data
  | ⟨.getHash asked, .begun⟩, .getRicardianHash hash => hash = lowerHash asked
  | _, _ => False

def pointAfter : (effect : Effect) → Answer effect → Point
  | .randomUUID, uuid => .drawn uuid
  | .createRicardianHash _, .ok row => .told row
  | .getRicardianHash _, .ok (some row) => .told row
  | .getRicardianHash _, .ok none => .absent
  | _, _ => .failed

def stages : Protocol Effect Answer Stage where
  permits := Stage.permits settings
  after stage effect answer := ⟨stage.request, pointAfter effect answer⟩

/-- What an answer of a request says of the table. -/
structure Stage.Fits (stage : Stage) (response : HttpResponse) : Prop where
  told : ∀ data, response = ⟨200, .data data⟩ → ∃ row, stage.point = .told row ∧ data = mapRowToResponse row
  absent : response.status = 404 → stage.point = .absent

private theorem fits_refused (different : status ≠ 404) : Stage.Fits stage ⟨status, .refused error⟩ :=
  ⟨fun _ same => by (cases same), fun same => absurd same different⟩

private theorem fits_told (row : RicardianHashRow) (request : Request) :
    Stage.Fits ⟨request, .told row⟩ ⟨200, .data (mapRowToResponse row)⟩ := by
  refine ⟨?_, fun same => by (cases same)⟩
  rintro data ⟨⟩
  exact ⟨row, rfl, rfl⟩

variable {settings}

theorem handle_follows (request : Request) :
    (stages settings).Follows Stage.Fits ⟨request, .begun⟩ ((registry settings).program request) := by
  cases request with
  | createHash body =>
    refine ⟨trivial, ?_⟩
    intro uuid
    dsimp only
    split
    · exact fits_refused (by decide)
    · rename_i built
      refine ⟨built, ?_⟩
      intro answer
      cases answer with
      | ok row => exact fits_told row _
      | error => exact fits_refused (by decide)
  | getHash asked =>
    change Protocol.Follows _ _ _ (getHash asked)
    unfold getHash
    split
    · refine ⟨rfl, ?_⟩
      intro answer
      cases answer with
      | ok found =>
        cases found with
        | none => exact ⟨fun _ same => by (cases same), fun _ => rfl⟩
        | some row => exact fits_told row _
      | error => exact fits_refused (by decide)
    · exact fits_refused (by decide)

abbrev points (settings : Settings) (history : RegistryHistory) : Nat → Option Stage :=
  casting (stages settings) (fun request => ⟨request, .begun⟩) history

/-- A stage is one of the request that began. -/
theorem points_began {history : RegistryHistory} {pool : RegistryPool}
    (run : (registry settings).system.Run history pool) (assigned : points settings history pid = some stage) :
    Began history pid stage.request := by
  obtain ⟨request, began, traced⟩ := Server.casting_traced handle_follows run assigned
  have same : stage.request = request := by
    clear assigned began run
    generalize eventsOf pid history = events at traced
    induction traced with
    | start => rfl
    | next _ _ ih => exact ih
  rw [same]
  exact began

end Stages

section Runs

variable {settings : Settings} {history earlier later : RegistryHistory} {middle pool : RegistryPool}
  {row last : RicardianHashRow} {hash : JsString}

/-- A row is what a request is hashed and written to, but for metadata that a later one gave. -/
def Files (settings : Settings) (body : JsValue) (row : RicardianHashRow) : Prop :=
  ∃ uuid data columns serial createdAt, buildRicardianHash settings.sha256Hex uuid body = .ok data ∧
    readColumns settings data = .ok columns ∧ row.Continues (columns.row serial createdAt)

theorem Files.kept (files : Files settings body row) (continues : last.Continues row) : Files settings body last := by
  obtain ⟨uuid, data, columns, serial, createdAt, built, read, first⟩ := files
  exact ⟨uuid, data, columns, serial, createdAt, built, read, continues.trans first⟩

/-- A row is the one a request is about: of its hash, and of its document where it names one. -/
def Request.About (settings : Settings) (row : RicardianHashRow) : Request → Prop
  | .createHash body => ∃ uuid data columns, buildRicardianHash settings.sha256Hex uuid body = .ok data ∧
    readColumns settings data = .ok columns ∧ row.key = columns.key
  | .getHash asked => row.hash = lowerHash asked

theorem Request.About.kept {request : Request} (about : request.About settings row) (continues : last.Continues row) :
    request.About settings last := by
  cases request with
  | createHash =>
    obtain ⟨uuid, data, columns, built, read, same⟩ := about
    exact ⟨uuid, data, columns, built, read, continues.key.trans same⟩
  | getHash => exact (congrArg Prod.fst continues.key).trans about

/-- The table has one row for a hash and a document, filed by a request, and the rows that
requests were told of. -/
structure Recorded (settings : Settings) (history : RegistryHistory) (pool : RegistryPool) : Prop where
  unique : (pool.world.map (·.key)).Nodup
  filed : ∀ row ∈ pool.world, ∃ pid body, Began history pid (.createHash body) ∧ Files settings body row
  told : ∀ pid request row, points settings history pid = some ⟨request, .told row⟩ →
    ∃ kept ∈ pool.world, kept.Continues row ∧ request.About settings kept

/-- An insert is of what a body is hashed to. -/
theorem permits_created {stage : Stage} (permitted : stage.permits settings (.createRicardianHash data)) :
    ∃ body uuid, stage.request = .createHash body ∧ buildRicardianHash settings.sha256Hex uuid body = .ok data := by
  obtain ⟨request, point⟩ := stage
  cases request with
  | getHash => cases point <;> exact permitted.elim
  | createHash body =>
    cases point with
    | drawn uuid => exact ⟨body, uuid, rfl, permitted⟩
    | _ => exact permitted.elim

/-- A lookup is of the hash that is asked for. -/
theorem permits_looked {stage : Stage} (permitted : stage.permits settings (.getRicardianHash hash)) :
    ∃ asked, stage.request = .getHash asked ∧ hash = lowerHash asked := by
  obtain ⟨request, point⟩ := stage
  cases request with
  | createHash => cases point <;> exact permitted.elim
  | getHash asked =>
    cases point with
    | begun => exact ⟨asked, rfl, permitted⟩
    | _ => exact permitted.elim

/-- A row that a call tells of is stored, and what the request is about. -/
theorem served_told {stage : Stage} {event : Event Effect Answer} {before after : World}
    (served : (serve settings).serves before event after) (permitted : stage.permits settings event.effect)
    (told : pointAfter event.effect event.answer = .told row) :
    row ∈ after ∧ stage.request.About settings row := by
  obtain ⟨effect, answer⟩ := event
  cases effect with
  | randomUUID => cases told
  | createRicardianHash data =>
    cases answer with
    | error => cases told
    | ok given =>
      cases told
      obtain ⟨columns, read, stored, named⟩ := create_answer served
      obtain ⟨body, uuid, asks, built⟩ := permits_created permitted
      rw [asks]
      exact ⟨stored, uuid, data, columns, built, read, named⟩
  | getRicardianHash hash =>
    cases answer with
    | error => cases told
    | ok found =>
      cases found with
      | none => cases told
      | some given =>
        cases told
        obtain ⟨stored, same⟩ := (get_answer served).1 row rfl
        obtain ⟨asked, asks, lower⟩ := permits_looked permitted
        rw [asks]
        exact ⟨stored, same.trans lower⟩

/-- A request that finds nothing asked for a hash that no row had. -/
theorem served_absent {stage : Stage} {event : Event Effect Answer} {before after : World}
    (served : (serve settings).serves before event after) (permitted : stage.permits settings event.effect)
    (absent : pointAfter event.effect event.answer = .absent) :
    ∀ row ∈ before, ∀ asked, stage.request = .getHash asked → row.hash ≠ lowerHash asked := by
  obtain ⟨effect, answer⟩ := event
  cases effect with
  | randomUUID => cases absent
  | createRicardianHash => cases answer <;> cases absent
  | getRicardianHash hash =>
    cases answer with
    | error => cases absent
    | ok found =>
      cases found with
      | some => cases absent
      | none =>
        intro row member asked asks
        obtain ⟨named, same, rfl⟩ := permits_looked permitted
        cases asks.symm.trans same
        exact (get_answer served).2 rfl row member

private theorem run_recorded (run : (registry settings).system.Run history pool) : Recorded settings history pool := by
  apply run.history_invariant (P := Recorded settings)
  · intro pool initial
    obtain ⟨empty, _⟩ := initial
    change pool.world = [] at empty
    refine ⟨by rw [empty]; exact List.nodup_nil, ?_, fun _ _ _ assigned => by cases assigned⟩
    intro row member
    rw [empty] at member
    cases member
  · intro earlier pool move next before taken ih
    cases move with
    | start pid request =>
      have same := (Server.started taken).1
      refine ⟨same ▸ ih.unique, ?_, ?_⟩
      · intro row member
        rw [same] at member
        obtain ⟨other, body, began, files⟩ := ih.filed row member
        exact ⟨other, body, began.later _, files⟩
      · intro other asked row assigned
        rw [points, casting_start] at assigned
        rw [same]
        rcases update_assigned assigned with ⟨_, fresh⟩ | ⟨_, assigned⟩
        · cases fresh
        · exact ih.told other asked row assigned
    | perform pid event =>
      obtain ⟨stage, acts⟩ := Server.acts handle_follows before taken
      have served := acts.served
      refine ⟨?_, ?_, ?_⟩
      · rcases served_upserted served with same | ⟨_, _, _, _, _, upserted⟩
        · rw [same]
          exact ih.unique
        · exact upserted.unique ih.unique
      · intro row member
        have sooner (old : RicardianHashRow) (present : old ∈ pool.world) (continues : row.Continues old) :
            ∃ other body, Began (⟨pool, .perform pid event, next⟩ :: earlier) other (.createHash body) ∧
              Files settings body row := by
          obtain ⟨other, body, began, files⟩ := ih.filed old present
          exact ⟨other, body, began.later _, files.kept continues⟩
        rcases served_upserted served with same | ⟨data, columns, _, created, read, upserted⟩
        · exact sooner row (same ▸ member) (.refl row)
        · rcases upserted.sources row member with ⟨old, present, continues⟩ | ⟨serial, createdAt, rfl⟩
          · exact sooner old present continues
          · have permitted : stage.permits settings event.effect := acts.permitted
            rw [created] at permitted
            obtain ⟨body, uuid, asks, built⟩ := permits_created permitted
            have began := points_began before acts.assigned
            rw [asks] at began
            exact ⟨pid, body, began.later _, uuid, data, columns, serial, createdAt, built, read, .refl _⟩
      · intro other asked row assigned
        rw [points, casting_perform acts.assigned] at assigned
        rcases update_assigned assigned with ⟨rfl, same⟩ | ⟨_, assigned⟩
        · injection same with asks told
          obtain ⟨stored, about⟩ := served_told served acts.permitted told.symm
          rw [← asks] at about
          exact ⟨row, stored, .refl row, about⟩
        · obtain ⟨kept, present, continues, about⟩ := ih.told other asked row assigned
          obtain ⟨last, stored, again⟩ := served_kept served present
          exact ⟨last, stored, again.trans continues, about.kept again⟩
    | drift => exact taken.1.elim

/-- What becomes of the rows that are stored, and of the requests that look for them later. -/
structure Lasting (settings : Settings) (middle : RegistryPool) (earlier later : RegistryHistory)
    (pool : RegistryPool) : Prop where
  kept : ∀ row ∈ middle.world, ∃ last ∈ pool.world, last.Continues row
  found : ∀ pid asked, points settings (later ++ earlier) pid = some ⟨.getHash asked, .absent⟩ →
    Began earlier pid (.getHash asked) ∨ ∀ row ∈ middle.world, row.hash ≠ lowerHash asked

private theorem path_lasting (run : (registry settings).system.Run earlier middle)
    (path : Path (registry settings).system middle later pool) : Lasting settings middle earlier later pool := by
  induction path with
  | start =>
    exact ⟨fun row member => ⟨row, member, .refl row⟩, fun _ _ assigned => .inl (points_began run assigned)⟩
  | @next later pool move next reached taken ih =>
    have sofar := run.extend reached
    cases move with
    | start pid request =>
      refine ⟨(Server.started taken).1 ▸ ih.kept, ?_⟩
      intro other asked assigned
      rw [List.cons_append, points, casting_start] at assigned
      rcases update_assigned assigned with ⟨_, fresh⟩ | ⟨_, assigned⟩
      · cases fresh
      · exact ih.found other asked assigned
    | perform pid event =>
      obtain ⟨stage, acts⟩ := Server.acts handle_follows sofar taken
      have served := acts.served
      constructor
      · intro row member
        obtain ⟨kept, present, continues⟩ := ih.kept row member
        obtain ⟨last, stored, again⟩ := served_kept served present
        exact ⟨last, stored, again.trans continues⟩
      · intro other asked assigned
        rw [List.cons_append, points, casting_perform acts.assigned] at assigned
        rcases update_assigned assigned with ⟨rfl, same⟩ | ⟨_, assigned⟩
        · injection same with asks absent
          right
          intro row member
          obtain ⟨kept, present, continues⟩ := ih.kept row member
          have missing := served_absent served acts.permitted absent.symm kept present asked asks.symm
          exact fun named => missing ((congrArg Prod.fst continues.key).trans named)
        · exact ih.found other asked assigned
    | drift => exact taken.1.elim

/-- Whatever is asked of the registry, its table has one row for each hash and document, which
a request was hashed to; only the metadata of a row changes; an answer with a row tells of
one that is stored and that its request is about; and a hash that is stored is never again
answered as unknown to a request that begins later. -/
theorem registry_attests (run : (registry settings).system.Run earlier middle)
    (path : Path (registry settings).system middle later pool) :
    (pool.world.map (·.key)).Nodup ∧
      (∀ row ∈ pool.world, ∃ pid body, Began (later ++ earlier) pid (.createHash body) ∧ Files settings body row) ∧
      (∀ row ∈ middle.world, ∃ last ∈ pool.world, last.Continues row) ∧
      (∀ pid request data, Began (later ++ earlier) pid request → pool.running pid = some (.done ⟨200, .data data⟩) →
        ∃ told, data = mapRowToResponse told ∧
          ∃ last ∈ pool.world, last.Continues told ∧ request.About settings last) ∧
      ∀ pid asked reply, Began (later ++ earlier) pid (.getHash asked) → pool.running pid = some (.done ⟨404, reply⟩) →
        Began earlier pid (.getHash asked) ∨ ∀ row ∈ middle.world, row.hash ≠ lowerHash asked := by
  have whole := run.extend path
  have recorded := run_recorded whole
  have lasting := path_lasting run path
  refine ⟨recorded.unique, recorded.filed, lasting.kept, ?_, ?_⟩
  · intro pid request data began finished
    obtain ⟨stage, assigned, fits⟩ := (Server.run_casting handle_follows whole).finished finished
    obtain ⟨told, point, rfl⟩ := fits.told data rfl
    have asks : stage.request = request := Server.began_unique whole (points_began whole assigned) began
    obtain ⟨_, _⟩ := stage
    cases asks
    cases point
    exact ⟨told, rfl, recorded.told pid _ told assigned⟩
  · intro pid asked reply began finished
    obtain ⟨stage, assigned, fits⟩ := (Server.run_casting handle_follows whole).finished finished
    have asks : stage.request = .getHash asked := Server.began_unique whole (points_began whole assigned) began
    have absent := fits.absent rfl
    obtain ⟨_, _⟩ := stage
    cases asks
    cases absent
    exact lasting.found pid asked assigned

end Runs

section Examples

/-- The digest of the one text that is hashed here. -/
def zeroDigest : String := "9f143449ed73cb032353f805f67578f53a69e0b022381c3524980be6d8c58c5a"

def zeroSettings : Settings where
  sha256Hex _ := utf16 zeroDigest
  writeParameter _ := []
  jsonb := .ok

/-- A price of zero is filed twice, once with a sign, and then looked up in capitals. -/
def zeroCues : List (Cue Request) :=
  [.start 0 (.createHash (zeroBody true).value), .go 0 2, .start 1 (.createHash (zeroBody false).value), .go 1 2,
    .start 2 (.getHash (utf16 zeroDigest.toUpper)), .go 2 1]

def zeroScript (turn : Nat) : Choice where
  fate := .acknowledged
  time := turn
  serial := turn
  uuid := if turn < 2 then utf16 "5a0e" else utf16 "c1f4"
  tie := 0

/-- A request was told of the row that the first one filed. -/
def tellsFirst (pool : RegistryPool) (pid : Nat) : Bool :=
  match pool.running pid with
  | some (.done ⟨200, .data data⟩) => data.requestId = utf16 "5a0e" && data.hash = utf16 zeroDigest
  | _ => false

/-- A path falls into its later steps and the earlier ones. -/
theorem path_parted (path : Path system origin history final) (count : Nat) :
    ∃ middle, Path system origin (history.drop count) middle ∧ Path system middle (history.take count) final := by
  induction path generalizing count with
  | start =>
    rw [List.drop_nil, List.take_nil]
    exact ⟨_, .start, .start⟩
  | next earlier taken ih =>
    cases count with
    | zero => exact ⟨_, earlier.next taken, .start⟩
    | succ count =>
      obtain ⟨middle, first, second⟩ := ih count
      exact ⟨middle, first, second.next taken⟩

/-- Three requests are told of the one row of a contract. -/
theorem registered_once : ∃ (earlier later : RegistryHistory) (middle pool : RegistryPool),
    (registry zeroSettings).system.Run earlier middle ∧
      Path (registry zeroSettings).system middle later pool ∧ earlier.length = 3 ∧ later.length = 5 ∧
      ([0, 1, 2].all (tellsFirst pool) && pool.world.length = 1) = true ∧ (pool.world.map (·.key)).Nodup ∧
      ∀ row ∈ middle.world, ∃ last ∈ pool.world, last.Continues row := by
  obtain ⟨recording, ⟨origin, first, path⟩, checked⟩ :=
    (registry zeroSettings).record_run (serve zeroSettings) zeroScript [] zeroCues
      (fun recording => decide (recording.history.length = 8) &&
        ([0, 1, 2].all (tellsFirst recording.pool) && recording.pool.world.length = 1))
      rfl rfl (by decide +kernel)
  rw [Bool.and_eq_true] at checked
  have long := of_decide_eq_true checked.1
  obtain ⟨middle, sooner, rest⟩ := path_parted path 5
  have attested := registry_attests ⟨origin, first, sooner⟩ rest
  refine ⟨_, _, middle, recording.pool, ⟨origin, first, sooner⟩, rest, ?_, ?_, checked.2, attested.1, attested.2.2.1⟩
  · rw [List.length_drop, long]
  · rw [List.length_take, long]
    rfl

end Examples

end Agroasys.Ricardian.Registry
