import Agroasys.Foundation.Faults
import Agroasys.Foundation.Lifecycle
import Agroasys.Foundation.Paging

namespace Agroasys.Treasury

open Agroasys.Foundation

inductive PayoutState where
  | pendingReview
  | readyForPayout
  | processing
  | paid
  | cancelled
  deriving DecidableEq, Repr

def PayoutState.value : PayoutState → String
  | .pendingReview => "PENDING_REVIEW"
  | .readyForPayout => "READY_FOR_PAYOUT"
  | .processing => "PROCESSING"
  | .paid => "PAID"
  | .cancelled => "CANCELLED"

inductive TreasuryComponent where
  | logistics
  | platformFee
  deriving DecidableEq, Repr

/-- `component.toLowerCase()`. -/
def TreasuryComponent.lowered : TreasuryComponent → String
  | .logistics => "logistics"
  | .platformFee => "platform_fee"

/-- An event as the indexer returns it, and as the client hands it on. -/
structure IndexerTradeEvent where
  id : String
  tradeId : String
  eventName : String
  txHash : Option String
  extrinsicHash : Option String
  blockNumber : Int
  timestamp : Int
  releasedLogisticsAmount : Option String
  paidPlatformFees : Option String
  deriving DecidableEq

/-- What `upsertLedgerEntryWithInitialState` is given. -/
structure LedgerEntryData where
  entryKey : String
  tradeId : String
  txHash : String
  blockNumber : Int
  eventName : String
  componentType : TreasuryComponent
  amountRaw : String
  sourceTimestamp : Int
  sourceEventId : String
  deriving DecidableEq

/-- A row of `treasury_ledger_entries`; `metadata` is `{ sourceEventId }`. -/
structure LedgerEntry extends LedgerEntryData where
  id : Int
  createdAt : Int
  deriving DecidableEq

/-- A row of `payout_lifecycle_events`. -/
structure PayoutLifecycleEvent where
  id : Int
  ledgerEntryId : Int
  state : PayoutState
  note : Option String
  actor : Option String
  createdAt : Int
  deriving DecidableEq

/-- Rows are listed newest first; `nextOffset` is the row of the cursor `trade_events`,
and the two counters are the sequences behind the ids. -/
structure TreasuryWorld where
  tradeEvents : List IndexerTradeEvent
  entries : List LedgerEntry
  payouts : List PayoutLifecycleEvent
  nextOffset : Option Nat
  nextEntryId : Int
  nextPayoutId : Int

section Queries

/-- `ORDER BY created_at DESC, id DESC`: the first may stand before the second. -/
def PayoutLifecycleEvent.upTo (payout other : PayoutLifecycleEvent) : Prop :=
  other.createdAt < payout.createdAt ∨ (payout.createdAt = other.createdAt ∧ other.id ≤ payout.id)

instance : DecidableRel PayoutLifecycleEvent.upTo :=
  fun payout other => inferInstanceAs
    (Decidable (other.createdAt < payout.createdAt ∨ (payout.createdAt = other.createdAt ∧ other.id ≤ payout.id)))

variable (world : TreasuryWorld)

/-- The payout events of an entry, as they were inserted. -/
def TreasuryWorld.payoutsOf (entryId : Int) : List PayoutLifecycleEvent :=
  world.payouts.filter (·.ledgerEntryId = entryId)

/-- The payout events of an entry, in the order of `getLatestPayoutState`. -/
def TreasuryWorld.orderedPayouts (entryId : Int) : List PayoutLifecycleEvent :=
  (world.payoutsOf entryId).insertionSort PayoutLifecycleEvent.upTo

/-- `LIMIT 1` of that order. -/
def TreasuryWorld.latestPayout (entryId : Int) : Option PayoutLifecycleEvent :=
  (world.orderedPayouts entryId).head?

/-- The states stored for an entry, oldest first. -/
def TreasuryWorld.payoutHistory (entryId : Int) : List PayoutState :=
  ((world.orderedPayouts entryId).map (·.state)).reverse

def treasuryEventNames : List String :=
  ["FundsReleasedStage1", "PlatformFeesPaidStage1"]

/-- `where: { eventName_in: [...] }`, in the order of the indexer. -/
def TreasuryWorld.treasuryEvents : List IndexerTradeEvent :=
  world.tradeEvents.filter (·.eventName ∈ treasuryEventNames)

end Queries

section Statements

/-- `value || null`. -/
def truthy : Option String → Option String
  | some "" => none
  | value => value

/-- What a lost connection raises. -/
def connectionLost : String :=
  "Connection terminated unexpectedly"

/-- `INSERT INTO payout_lifecycle_events`; the sequence may have skipped some ids. -/
def TreasuryWorld.insertPayout (world : TreasuryWorld) (gap : Nat) (now entryId : Int) (state : PayoutState)
    (note actor : Option String) : PayoutLifecycleEvent × TreasuryWorld :=
  let payout := ⟨world.nextPayoutId + gap, entryId, state, note, actor, now⟩
  (payout, { world with payouts := payout :: world.payouts, nextPayoutId := world.nextPayoutId + gap + 1 })

/-- `DO UPDATE SET`: the row with the key takes the new values. -/
def LedgerEntry.refresh (data : LedgerEntryData) (entry : LedgerEntry) : LedgerEntry :=
  if entry.entryKey = data.entryKey then { entry with toLedgerEntryData := data } else entry

/-- `INSERT INTO treasury_ledger_entries ... ON CONFLICT (entry_key) DO UPDATE`. -/
def TreasuryWorld.upsertEntry (world : TreasuryWorld) (gap : Nat) (now : Int) (data : LedgerEntryData) :
    LedgerEntry × TreasuryWorld :=
  match world.entries.find? (·.entryKey = data.entryKey) with
  | some entry =>
    (entry.refresh data, { world with
      entries := world.entries.map (LedgerEntry.refresh data)
      nextEntryId := world.nextEntryId + gap + 1 })
  | none =>
    let entry := ⟨data, world.nextEntryId + gap, now⟩
    (entry, { world with entries := entry :: world.entries, nextEntryId := world.nextEntryId + gap + 1 })

/-- The transaction of `upsertLedgerEntryWithInitialState`. -/
def TreasuryWorld.upsertWithInitialState (world : TreasuryWorld) (gap : Nat) (now : Int) (data : LedgerEntryData) :
    (LedgerEntry × Bool) × TreasuryWorld :=
  let (entry, world) := world.upsertEntry gap now data
  if world.payouts.any (·.ledgerEntryId = entry.id) then ((entry, false), world)
  else
    let (_, world) := world.insertPayout gap now entry.id .pendingReview
      (some "Auto-created from indexer ingestion") (some "system:indexer-ingest")
    ((entry, true), world)

/-- `appendPayoutState`, under its foreign key. -/
def TreasuryWorld.appendPayout (world : TreasuryWorld) (gap : Nat) (now entryId : Int) (state : PayoutState)
    (note actor : Option String) : Except String (PayoutLifecycleEvent × TreasuryWorld) :=
  if world.entries.any (·.id = entryId) then
    .ok (world.insertPayout gap now entryId state note actor)
  else .error "insert or update on table \"payout_lifecycle_events\" violates foreign key constraint"

end Statements

/-- The queries to the indexer, and the statements and transactions on the tables. -/
inductive TreasuryEffect where
  | tradeEvents (limit offset : Nat)
  | selectOffset
  | insertOffset
  | setOffset (nextOffset : Nat)
  | upsertEntry (data : LedgerEntryData)
  | selectEntry (entryId : Int)
  | selectLatestPayout (entryId : Int)
  | insertPayout (entryId : Int) (state : PayoutState) (note actor : Option String)

abbrev TreasuryAnswer : TreasuryEffect → Type
  | .tradeEvents _ _ => Except String (List IndexerTradeEvent)
  | .selectOffset => Except String (Option Nat)
  | .insertOffset | .setOffset _ => Except String Unit
  | .upsertEntry _ => Except String (LedgerEntry × Bool)
  | .selectEntry _ => Except String (Option LedgerEntry)
  | .selectLatestPayout _ => Except String (Option PayoutLifecycleEvent)
  | .insertPayout _ _ _ _ => Except String PayoutLifecycleEvent

/-- How a statement ends, which ids the sequences skip and what its clock shows. -/
structure TreasuryChoice where
  fate : Fate
  gap : Nat
  now : Int

def treasuryServing : Serving TreasuryChoice TreasuryEffect TreasuryAnswer TreasuryWorld :=
  fun choice world effect =>
    match effect with
    | .tradeEvents limit offset =>
      choice.fate.execute connectionLost (.ok (page limit offset world.treasuryEvents, world)) world
    | .selectOffset => choice.fate.execute connectionLost (.ok (world.nextOffset, world)) world
    | .insertOffset =>
      choice.fate.execute connectionLost
        (.ok ((), { world with nextOffset := some (world.nextOffset.getD 0) })) world
    | .setOffset nextOffset =>
      choice.fate.execute connectionLost (.ok ((), { world with nextOffset := some nextOffset })) world
    | .upsertEntry data =>
      choice.fate.execute connectionLost (.ok (world.upsertWithInitialState choice.gap choice.now data)) world
    | .selectEntry entryId =>
      choice.fate.execute connectionLost (.ok (world.entries.find? (·.id = entryId), world)) world
    | .selectLatestPayout entryId =>
      choice.fate.execute connectionLost (.ok (world.latestPayout entryId, world)) world
    | .insertPayout entryId state note actor =>
      choice.fate.execute connectionLost (world.appendPayout choice.gap choice.now entryId state note actor) world

end Agroasys.Treasury
