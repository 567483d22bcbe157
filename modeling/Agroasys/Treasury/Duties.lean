import Agroasys.Foundation.Casting
import Agroasys.Treasury.Service

namespace Agroasys.Treasury

open Agroasys.Foundation

/-- The entry an event gives to a component. -/
def IndexerTradeEvent.entryFor (event : IndexerTradeEvent) (component : TreasuryComponent) :
    Option LedgerEntryData :=
  match event.fee component, truthy event.txHash with
  | some amountRaw, some txHash => some (event.entryData component amountRaw txHash)
  | _, _ => none

/-- The entries an event gives, in the order of the loop body. -/
def IndexerTradeEvent.entries (event : IndexerTradeEvent) : List LedgerEntryData :=
  [TreasuryComponent.logistics, .platformFee].filterMap event.entryFor

theorem mem_entries {event : IndexerTradeEvent} :
    data ∈ event.entries ↔ ∃ component, event.entryFor component = some data := by
  rw [IndexerTradeEvent.entries, List.mem_filterMap]
  constructor
  · intro found
    obtain ⟨component, _, given⟩ := found
    exact ⟨component, given⟩
  · intro found
    obtain ⟨component, given⟩ := found
    cases component <;> exact ⟨_, by simp, given⟩

theorem entryFor_eq_some {event : IndexerTradeEvent} : event.entryFor component = some data ↔
    ∃ amountRaw txHash, event.fee component = some amountRaw ∧ truthy event.txHash = some txHash ∧
      data = event.entryData component amountRaw txHash := by
  unfold IndexerTradeEvent.entryFor
  split
  · rename_i amountRaw txHash fee hash
    simp [fee, hash, eq_comm]
  · rename_i absent
    constructor
    · intro given
      cases given
    · intro found
      obtain ⟨amountRaw, txHash, fee, hash, _⟩ := found
      exact absurd hash (absent amountRaw txHash fee)

private theorem truthy_twice (value : Option String) : truthy (truthy value) = truthy value := by
  cases value with
  | none => rfl
  | some text =>
    by_cases empty : text = ""
    · subst empty
      rfl
    · have kept : truthy (some text) = some text := by simp [truthy, empty]
      rw [kept, kept]

/-- The client changes no fee and no entry. -/
theorem entries_toTradeEvent (event : IndexerTradeEvent) : (toTradeEvent event).entries = event.entries := by
  have same (component : TreasuryComponent) : (toTradeEvent event).fee component = event.fee component := by
    unfold IndexerTradeEvent.fee
    congr 1
    cases component <;> exact truthy_twice _
  unfold IndexerTradeEvent.entries IndexerTradeEvent.entryFor
  simp only [same]
  rfl

/-- Where a call stands. An ingestion remembers how far its pages reach and which
entries of theirs it has yet to store. -/
inductive Duty where
  | opening
  | seeding
  | ingesting (reach : Nat) (pending : List LedgerEntryData)
  | ingested (reach : Nat)
  | finding
  | found (entryId : Int)
  | reviewing (entryId : Int) (current : PayoutState)
  | settled

def TreasuryCall.enter : TreasuryCall → Duty
  | .ingest => .opening
  | .appendState _ => .finding

def Duty.permits : Duty → TreasuryEffect → Prop
  | .opening, .selectOffset => True
  | .seeding, .insertOffset => True
  | .ingesting reach [], .tradeEvents _ offset => offset = reach
  | .ingesting reach [], .setOffset nextOffset => nextOffset = reach
  | .ingesting _ (data :: _), .upsertEntry stored => stored = data
  | .finding, .selectEntry _ => True
  | .found entryId, .selectLatestPayout asked => asked = entryId
  | .reviewing entryId current, .insertPayout asked state _ _ =>
    asked = entryId ∧ state ∈ allowedTransitions current
  | _, _ => False

def Duty.after : Duty → (effect : TreasuryEffect) → TreasuryAnswer effect → Duty
  | .opening, .selectOffset, answer =>
    match answer with
    | .ok (some nextOffset) => .ingesting nextOffset []
    | .ok none => .seeding
    | .error _ => .settled
  | .seeding, .insertOffset, answer =>
    match answer with
    | .ok _ => .ingesting 0 []
    | .error _ => .settled
  | .ingesting reach [], .tradeEvents _ _, answer =>
    match answer with
    | .ok events => .ingesting (reach + events.length) (events.flatMap IndexerTradeEvent.entries)
    | .error _ => .settled
  | .ingesting reach [], .setOffset _, answer =>
    match answer with
    | .ok _ => .ingested reach
    | .error _ => .settled
  | .ingesting reach (_ :: rest), .upsertEntry _, answer =>
    match answer with
    | .ok _ => .ingesting reach rest
    | .error _ => .settled
  | .finding, .selectEntry entryId, answer =>
    match answer with
    | .ok (some _) => .found entryId
    | _ => .settled
  | .found entryId, .selectLatestPayout _, answer =>
    match answer with
    | .ok latest => .reviewing entryId (currentState latest)
    | .error _ => .settled
  | _, _, _ => .settled

def treasuryDuties : Protocol TreasuryEffect TreasuryAnswer Duty where
  permits := Duty.permits
  after := Duty.after

section Follows

/-- `Runs` for a task that may fail anywhere. -/
abbrev Works {α : Type} (returns : Duty → α → Prop) (duty : Duty) (task : TreasuryTask α) : Prop :=
  treasuryDuties.Runs returns (fun _ _ => True) duty task

theorem works_ofExcept {α : Type} {returns : Duty → α → Prop} {result : Except String α}
    (returned : ∀ value, result = .ok value → returns duty value) : Works returns duty (Task.ofExcept result) :=
  Protocol.Runs.ofExcept returned fun _ _ => trivial

private theorem works_appending (entryId : Int) (request : AppendStateRequest) :
    Works (fun _ response => ∀ fetched inserted, response ≠ .ingested fetched inserted) .finding
      (appendToEntry entryId request) := by
  apply Protocol.Runs.bind
  refine .perform (by trivial) ?_
  intro answer
  apply Protocol.Runs.bind
  apply works_ofExcept
  intro entry same
  subst same
  cases entry with
  | none => exact .pure fun _ _ => TreasuryResponse.noConfusion
  | some entry =>
    apply Protocol.Runs.bind
    apply works_ofExcept
    intro state _
    apply Protocol.Runs.bind
    refine .perform (by rfl) ?_
    intro answer
    apply Protocol.Runs.bind
    apply works_ofExcept
    intro latest same
    subst same
    apply Protocol.Runs.bind
    apply works_ofExcept
    intro _ valid
    have allowed : state ∈ allowedTransitions (currentState latest) := by
      unfold assertValidTransition at valid
      split at valid
      · assumption
      · cases valid
    apply Protocol.Runs.bind
    apply Protocol.Runs.bind
    refine .perform ⟨rfl, allowed⟩ ?_
    intro answer
    apply works_ofExcept
    intro event _
    exact .pure fun _ _ => TreasuryResponse.noConfusion

private theorem works_opening : Works (fun duty offset => duty = .ingesting offset []) .opening getIngestionOffset := by
  apply Protocol.Runs.bind
  refine .perform (by trivial) ?_
  intro answer
  apply Protocol.Runs.bind
  apply works_ofExcept
  intro nextOffset same
  subst same
  cases nextOffset with
  | some nextOffset => exact .pure rfl
  | none =>
    apply Protocol.Runs.bind
    refine .perform (by trivial) ?_
    intro answer
    apply Protocol.Runs.bind
    apply works_ofExcept
    intro _ same
    subst same
    exact .pure rfl

private theorem works_component {event : IndexerTradeEvent} {component : TreasuryComponent} :
    Works (fun duty (inserted : Option Nat) => duty = .ingesting reach rest ∧
        (inserted = none → truthy event.txHash = none))
      (.ingesting reach ((event.entryFor component).toList ++ rest))
      (ingestComponent event component inserted) := by
  unfold ingestComponent IndexerTradeEvent.entryFor
  cases event.fee component with
  | none => exact .pure ⟨rfl, fun absent => nomatch absent⟩
  | some amountRaw =>
    cases truthy event.txHash with
    | none => exact .pure ⟨rfl, fun _ => rfl⟩
    | some txHash =>
      apply Protocol.Runs.bind
      apply Protocol.Runs.bind
      refine .perform (by rfl) ?_
      intro answer
      apply works_ofExcept
      intro stored same
      subst same
      exact .pure ⟨rfl, fun absent => nomatch absent⟩

private theorem works_event {event : IndexerTradeEvent} :
    Works (fun duty _ => duty = .ingesting reach rest) (.ingesting reach (event.entries ++ rest))
      (ingestEvent event inserted) := by
  have split : event.entries ++ rest = (event.entryFor .logistics).toList ++
      ((event.entryFor .platformFee).toList ++ rest) := by
    unfold IndexerTradeEvent.entries
    cases logistics : event.entryFor .logistics <;> cases platformFee : event.entryFor .platformFee <;>
      simp [logistics, platformFee]
  rw [split]
  apply Protocol.Runs.bind
  apply Protocol.Runs.mono works_component
  · intro duty continued ends
    obtain ⟨rfl, skipped⟩ := ends
    cases continued with
    | none =>
      -- The second branch would find no transaction hash either.
      have absent : event.entryFor .platformFee = none := by
        unfold IndexerTradeEvent.entryFor
        rw [skipped rfl]
        split
        · rename_i hash
          cases hash
        · rfl
      rw [absent]
      exact .pure rfl
    | some inserted =>
      apply Protocol.Runs.bind
      apply Protocol.Runs.mono works_component
      · intro duty continued ends
        obtain ⟨rfl, _⟩ := ends
        cases continued with
        | none => exact .pure rfl
        | some inserted => exact .pure rfl
      · exact fun _ _ failed => failed
  · exact fun _ _ failed => failed

private theorem works_events {events : List IndexerTradeEvent} :
    Works (fun duty _ => duty = .ingesting reach [])
      (.ingesting reach (events.flatMap IndexerTradeEvent.entries)) (ingestEvents events inserted) := by
  induction events generalizing inserted with
  | nil => exact .pure rfl
  | cons event events ih =>
    rw [List.flatMap_cons]
    apply Protocol.Runs.bind
    apply Protocol.Runs.mono works_event
    · intro duty counted ends
      subst ends
      exact ih
    · exact fun _ _ failed => failed

private theorem works_pages {config : IngestConfig} (progress : IngestProgress) :
    Works (fun duty last => duty = .ingesting last.offset []) (.ingesting progress.offset [])
      (ingestPages config fuel progress) := by
  induction fuel generalizing progress with
  | zero => exact .pure rfl
  | succ fuel ih =>
    unfold ingestPages
    split
    · apply Protocol.Runs.bind
      apply Protocol.Runs.bind
      refine .perform (by rfl) ?_
      intro answer
      apply Protocol.Runs.bind
      apply works_ofExcept
      intro events same
      subst same
      apply Protocol.Runs.pure
      rw [List.length_map]
      have reached : treasuryDuties.after (.ingesting progress.offset [])
          (.tradeEvents (min config.ingestBatchSize (config.ingestMaxEvents - progress.fetched)) progress.offset)
          (.ok events) = .ingesting (progress.offset + events.length)
            ((events.map toTradeEvent).flatMap IndexerTradeEvent.entries) := by
        rw [List.flatMap_map]
        simp only [entries_toTradeEvent]
        rfl
      rw [reached]
      split
      · rename_i empty
        rw [List.eq_nil_of_length_eq_zero empty]
        exact .pure rfl
      · apply Protocol.Runs.bind
        apply Protocol.Runs.mono works_events
        · intro duty counted ends
          subst ends
          split
          · exact .pure rfl
          · exact ih ⟨_, _, _⟩
        · exact fun _ _ failed => failed
    · exact .pure rfl

/-- A completed ingestion has stored the offset it reached. -/
def Duty.ends (duty : Duty) : Except String TreasuryResponse → Prop
  | .ok (.ingested _ _) => ∃ reach, duty = .ingested reach
  | _ => True

/-- Every call does its duty. -/
theorem duties_follow (config : IngestConfig) (call : TreasuryCall) :
    treasuryDuties.Follows Duty.ends call.enter ((treasuryServer config).program call) := by
  apply Protocol.Runs.follows
  cases call with
  | ingest =>
    apply Protocol.Runs.tryCatch
    have worked : Works (fun duty response => duty.ends (.ok response)) .opening (ingestOnce config) := by
      apply Protocol.Runs.bind
      apply Protocol.Runs.mono works_opening
      · intro duty offset ends
        subst ends
        apply Protocol.Runs.bind
        apply Protocol.Runs.mono (works_pages ⟨offset, 0, 0⟩)
        · intro duty last ends
          subst ends
          apply Protocol.Runs.bind
          apply Protocol.Runs.bind
          refine .perform (by rfl) ?_
          intro answer
          apply works_ofExcept
          intro _ same
          subst same
          exact .pure ⟨_, rfl⟩
        · exact fun _ _ failed => failed
      · exact fun _ _ failed => failed
    apply Protocol.Runs.mono worked
    · exact fun _ _ ends => ends
    · intro duty error _
      exact .pure trivial
  | appendState request =>
    change treasuryDuties.Runs _ _ _ (appendState request)
    unfold appendState
    split
    · exact .pure trivial
    · apply Protocol.Runs.tryCatch
      apply Protocol.Runs.mono (works_appending _ request)
      · intro duty response other
        cases response with
        | ingested fetched inserted => exact absurd rfl (other fetched inserted)
        | _ => trivial
      · intro duty error _
        exact .pure trivial

end Follows

end Agroasys.Treasury
