import Agroasys.Gateway.Compliance
import Agroasys.Gateway.GovernanceStore
import Agroasys.Runtime.Buffers
import Agroasys.Runtime.Values

/-! The lists that the gateway shows page by page: governance actions and compliance
decisions, and the cursors between their pages. -/

namespace Agroasys.Gateway

open Agroasys.Auth Agroasys.Runtime

section Codec

/-- What a cursor of a list is made of: the names of its two members. -/
structure CursorFields where
  time : String
  id : String

/-- `GovernanceActionCursor`. -/
def governanceCursor : CursorFields := ⟨"createdAt", "actionId"⟩

/-- `ComplianceDecisionCursor`. -/
def complianceCursor : CursorFields := ⟨"decidedAt", "decisionId"⟩

structure PageCursor where
  time : String
  id : String
  deriving DecidableEq

def PageCursor.object (fields : CursorFields) (cursor : PageCursor) : JsValue :=
  .object [(utf16 fields.time, .string (utf16 cursor.time)), (utf16 fields.id, .string (utf16 cursor.id))]

/-- `Buffer.from(JSON.stringify(cursor), 'utf8').toString('base64url')`. -/
def encodeCursor (fields : CursorFields) (cursor : PageCursor) : String :=
  base64Url (utf8Bytes ((stringify (cursor.object fields)).getD []))

def encodeGovernanceActionCursor : PageCursor → String := encodeCursor governanceCursor
def encodeComplianceDecisionCursor : PageCursor → String := encodeCursor complianceCursor

/-- The text of code units; a half of a pair alone is replaced. -/
def unitsText : JsString → List Char
  | [] => []
  | [code] => [if isLead code || isTrail code then Char.ofNat 0xFFFD else Char.ofNat code.val]
  | lead :: trail :: rest =>
    if isLead lead && isTrail trail then
      Char.ofNat (0x10000 + (lead.val - 0xD800) * 0x400 + (trail.val - 0xDC00)) :: unitsText rest
    else (if isLead lead || isTrail lead then Char.ofNat 0xFFFD else Char.ofNat lead.val) :: unitsText (trail :: rest)

/-- What the process makes of a cursor: its dates, and the texts of values that are no strings. -/
structure CursorEngine extends DateEngine where
  write : JsValue → String

def CursorEngine.text (engine : CursorEngine) : JsValue → String
  | .string units => String.ofList (unitsText units)
  | value => engine.write value

/-- The two members of a cursor, if `JSON.parse` reads it, both are truthy and the time is one. -/
def decodeCursor (engine : CursorEngine) (fields : CursorFields) (cursor : String) : Option (JsValue × JsValue) := do
  let parsed ← parseJson (utf8Text (base64UrlBytes cursor))
  let time := property parsed fields.time
  let id := property parsed fields.id
  if time.truthy && id.truthy && (dateParse engine.toDateEngine (engine.text time)).isSome then some (time, id) else none

def decodeGovernanceActionCursor (engine : CursorEngine) : String → Option (JsValue × JsValue) :=
  decodeCursor engine governanceCursor

def decodeComplianceDecisionCursor (engine : CursorEngine) : String → Option (JsValue × JsValue) :=
  decodeCursor engine complianceCursor

end Codec

section Pages

variable {Record : Type}

/-- `items` and `nextCursor` of a list that was read one further than its limit. -/
def pageOf (limit : Nat) (cursorOf : Record → String) (candidates : List Record) : List Record × Option String :=
  let page := candidates.take (limit + 1)
  (page.take limit, if page.length ≤ limit then none else page[limit - 1]?.map cursorOf)

/-- How a list is ordered and filtered by a cursor in memory: `localeCompare` is negative where its
first text comes first. -/
structure MemoryOrder (Record : Type) where
  localeCompare : String → String → Int
  time : Record → String
  id : Record → String

namespace MemoryOrder

variable (order : MemoryOrder Record)

/-- The comparison is not positive. -/
def before (left right : Record) : Bool :=
  if order.time left = order.time right then order.localeCompare (order.id right) (order.id left) ≤ 0
  else order.localeCompare (order.time right) (order.time left) ≤ 0

def sorted (records : List Record) : List Record := records.insertionSort fun left right => order.before left right

/-- A record is behind a cursor. A cursor that a list hands out has two texts. -/
def behind (cursor : PageCursor) (record : Record) : Bool :=
  order.time record < cursor.time || (order.time record = cursor.time && order.id record < cursor.id)

end MemoryOrder

/-- How Postgres orders a list: a `TIMESTAMP` column and a text in the order of a collation. -/
structure ColumnOrder (Row Rank : Type) where
  rank : String → Rank
  timestampOf : String → Option Int
  time : Row → Int
  id : Row → String

namespace ColumnOrder

variable {Row Rank : Type} [LinearOrder Rank] (order : ColumnOrder Row Rank)

/-- `ORDER BY time DESC, id DESC`. -/
def before (left right : Row) : Bool :=
  order.time right < order.time left ||
    (order.time left = order.time right && order.rank (order.id right) ≤ order.rank (order.id left))

/-- `time < $1::timestamp OR (time = $1::timestamp AND id < $2)`. -/
def behind (instant : Int) (id : String) (row : Row) : Bool :=
  order.time row < instant || (order.time row = instant && order.rank (order.id row) < order.rank id)

end ColumnOrder

/-- A cursor as it is given, if it is. -/
def givenCursor (cursor : Option String) : Option String := cursor.filter (· ≠ "")

/-- A cursor of two texts. -/
def textCursor : JsValue × JsValue → Option PageCursor
  | (.string time, .string id) => some ⟨String.ofList (unitsText time), String.ofList (unitsText id)⟩
  | _ => none

/-- A list in memory: the wanted records, sorted, behind the cursor. -/
def listInMemory (order : MemoryOrder Record) (decode : String → Option (JsValue × JsValue))
    (encode : PageCursor → String) (wanted : Record → Bool) (limit : Nat) (cursor : Option String)
    (records : List Record) : Option (List Record × Option String) :=
  let candidates := (order.sorted records).filter wanted
  let cursorOf := fun record => encode ⟨order.time record, order.id record⟩
  match givenCursor cursor with
  | none => some (pageOf limit cursorOf candidates)
  | some text => do
    let cursor ← (decode text).bind textCursor
    some (pageOf limit cursorOf (candidates.filter (order.behind cursor)))

/-- A list in Postgres: the wanted rows behind the cursor, in order, each as a record. -/
def listInPostgres {Row Rank : Type} [LinearOrder Rank] (order : ColumnOrder Row Rank) (mapRow : Row → Record)
    (decode : String → Option (JsValue × JsValue)) (cursorOf : Record → String) (wanted : Row → Bool) (limit : Nat)
    (cursor : Option String) (rows : List Row) : Option (List Record × Option String) :=
  let answer := fun rows : List Row =>
    pageOf limit cursorOf ((rows.insertionSort fun left right => order.before left right).map mapRow)
  match givenCursor cursor with
  | none => some (answer (rows.filter wanted))
  | some text => do
    let cursor ← (decode text).bind textCursor
    let instant ← order.timestampOf cursor.time
    some (answer (rows.filter fun row => wanted row && order.behind instant cursor.id row))

end Pages

section Lists

/-- `ListGovernanceActionsInput`, without the cursor. -/
structure GovernanceFilter where
  category : Option GovernanceActionCategory
  status : Option GovernanceActionStatus
  tradeId : Option String
  limit : Nat

def GovernanceFilter.wants (input : GovernanceFilter) (category : GovernanceActionCategory)
    (status : GovernanceActionStatus) (tradeId : Option String) : Bool :=
  input.category.all (· = category) && input.status.all (· = status) &&
    (givenCursor input.tradeId).all fun wanted => tradeId = some wanted

def governanceMemory (localeCompare : String → String → Int) : MemoryOrder GovernanceActionRecord :=
  ⟨localeCompare, GovernanceActionRecord.createdAt, GovernanceActionRecord.actionId⟩

def governanceColumns {Rank : Type} (rank : String → Rank) (timestampOf : String → Option Int) :
    ColumnOrder GovernanceActionRow Rank :=
  ⟨rank, timestampOf, GovernanceActionRow.createdAt, GovernanceActionRow.actionId⟩

/-- `list` of `createInMemoryGovernanceActionStore`. -/
def listActionsInMemory (engine : CursorEngine) (localeCompare : String → String → Int) (input : GovernanceFilter) :
    Option String → List GovernanceActionRecord → Option (List GovernanceActionRecord × Option String) :=
  listInMemory (governanceMemory localeCompare) (decodeGovernanceActionCursor engine) encodeGovernanceActionCursor
    (fun action => input.wants action.category action.status action.tradeId) input.limit

/-- `list` of `createPostgresGovernanceActionStore`. -/
def listActionsInPostgres {Rank : Type} [LinearOrder Rank] (engine : CursorEngine) (rank : String → Rank)
    (timestampOf : String → Option Int) (input : GovernanceFilter) :
    Option String → List GovernanceActionRow → Option (List GovernanceActionRecord × Option String) :=
  listInPostgres (governanceColumns rank timestampOf) mapRow (decodeGovernanceActionCursor engine)
    (fun action => encodeGovernanceActionCursor ⟨action.createdAt, action.actionId⟩)
    (fun row => input.wants row.category row.status row.tradeId) input.limit

/-- The audit of a decision. Nothing sets `approvedBy`. -/
structure ComplianceAuditRecord where
  reason : String
  evidenceLinks : List EvidenceLink
  ticketRef : String
  actorSessionId : String
  actorWallet : String
  actorRole : UserRole
  createdAt : String
  requestedBy : String
  deriving DecidableEq

/-- A decision as the service and the store in memory have it. -/
structure ComplianceDecisionRecord where
  decisionId : String
  tradeId : String
  decisionType : DecisionType
  result : DecisionResult
  reasonCode : String
  provider : String
  providerRef : String
  subjectId : String
  subjectType : String
  riskLevel : Option RiskLevel
  correlationId : String
  decidedAt : String
  overrideWindowEndsAt : Option String
  blockState : BlockState
  audit : ComplianceAuditRecord
  deriving DecidableEq

/-- An empty note is left out. -/
def cloneDecisionRecord (decision : ComplianceDecisionRecord) : ComplianceDecisionRecord :=
  { decision with audit := { decision.audit with
      evidenceLinks := decision.audit.evidenceLinks.map fun link => { link with note := link.note.filter (· ≠ "") } } }

def decisionMemory (localeCompare : String → String → Int) : MemoryOrder ComplianceDecisionRecord :=
  ⟨localeCompare, ComplianceDecisionRecord.decidedAt, ComplianceDecisionRecord.decisionId⟩

def decisionColumns {Rank : Type} (rank : String → Rank) (timestampOf : String → Option Int) :
    ColumnOrder (DecisionRow Int) Rank :=
  ⟨rank, timestampOf, DecisionRow.decidedAt, DecisionRow.decisionId⟩

/-- `listTradeDecisions` of `createInMemoryComplianceStore`, from its decisions and the block of the trade. -/
def listDecisionsInMemory (engine : CursorEngine) (localeCompare : String → String → Int) (tradeId : String)
    (limit : Nat) (cursor : Option String) (store : List ComplianceDecisionRecord × Option ProgressionBlock) :
    Option (List ComplianceDecisionRecord × Option String) :=
  (listInMemory (decisionMemory localeCompare) (decodeComplianceDecisionCursor engine) encodeComplianceDecisionCursor
      (fun _ => true) limit cursor (store.1.filter fun decision => decision.tradeId = tradeId)).map fun page =>
    (page.1.map fun decision => { cloneDecisionRecord decision with blockState := blockStateOf store.2 }, page.2)

/-- `listTradeDecisions` of `createPostgresComplianceStore`. -/
def listDecisionsInPostgres {Rank : Type} [LinearOrder Rank] (engine : CursorEngine) (rank : String → Rank)
    (timestampOf : String → Option Int) (tradeId : String) (limit : Nat) (cursor : Option String)
    (tables : List (DecisionRow Int) × Option ProgressionBlock) : Option (List (ComplianceDecision Int) × Option String) :=
  listInPostgres (decisionColumns rank timestampOf) (mapDecisionRow · (blockStateOf tables.2))
    (decodeComplianceDecisionCursor engine)
    (fun decision => encodeComplianceDecisionCursor ⟨toISOString decision.decidedAt, decision.decisionId⟩)
    (fun row => row.tradeId = tradeId) limit cursor tables.1

end Lists

end Agroasys.Gateway
