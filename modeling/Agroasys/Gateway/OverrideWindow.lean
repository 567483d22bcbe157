import Agroasys.Gateway.ComplianceRequests
import Agroasys.Gateway.DecisionOrder

/-! The override window of a decision: the text that a request gives, the column that takes it, and
the text that is read back. -/

namespace Agroasys.Gateway

open Agroasys.Foundation Agroasys.Runtime

section Windows

/-- The instant that the process reads from a `TIMESTAMP` column that took a text: `columnWall` gives the
wall clock of the text, and `node-pg` takes it for a local one. -/
def columnInstant (engine : DateEngine) (columnWall : String → Option Int) (text : String) : Option Int :=
  dateTime ((columnWall text).map engine.utc)

/-- A `TIMESTAMP` column takes the wall clock of an ISO text and ignores its zone. -/
def ReadsWalls (columnWall : String → Option Int) : Prop :=
  ∀ text reading wall, readIso text = some reading → columnWall text = some wall → wall = reading.moment.time

/-- What a text says of a time: a wall clock, and how many minutes its zone is ahead of UTC. -/
structure TimeReading where
  wall : Int
  zone : Option Int

/-- Without a zone a wall clock is a local one. -/
def TimeReading.time (engine : DateEngine) (reading : TimeReading) : Int :=
  match reading.zone with
  | some minutes => reading.wall - minutes * 60000
  | none => engine.utc reading.wall

/-- An ISO date alone is in UTC. -/
def isoTime (reading : IsoReading) : TimeReading :=
  ⟨reading.moment.time, reading.zone.or (if reading.dated then some 0 else none)⟩

/-- In a text of another format the engine finds a wall clock, and a zone if the text has one. -/
def ReadsFields (engine : DateEngine) (fields : String → Option TimeReading) : Prop :=
  ∀ text, readIso text = none → engine.legacy text = dateTime ((fields text).map (·.time engine))

/-- How far the process's clock is ahead of UTC when it shows this. -/
def localOffset (engine : DateEngine) (wall : Int) : Int := wall - engine.utc wall

/-- A zone that is named is that of the process at the wall clock. -/
def TimeReading.Local (engine : DateEngine) (reading : TimeReading) : Prop :=
  ∀ minutes, reading.zone = some minutes → localOffset engine reading.wall = minutes * 60000

/-- The offset that a wall clock is read with. -/
def TimeReading.offset (engine : DateEngine) (reading : TimeReading) : Int :=
  match reading.zone with
  | some minutes => minutes * 60000
  | none => localOffset engine reading.wall

/-- The zone of a text is that of the process. Where the column finds another wall clock in it than `Date.parse`,
as in some texts that are not ISO, the process's offset there has to make up for the difference. -/
def InProcessZone (engine : DateEngine) (fields : String → Option TimeReading) (columnWall : String → Option Int)
    (text : String) : Prop :=
  match readIso text with
  | some reading => (isoTime reading).Local engine
  | none => ∃ reading wall, fields text = some reading ∧ columnWall text = some wall ∧
      if wall = reading.wall then reading.Local engine
      else localOffset engine wall = reading.offset engine + (wall - reading.wall)

/-- `resumeOracleProgression` does not find the override of the latest decision expired. -/
def overrideHonoured (engine : DateEngine) (latestDecision : ComplianceDecisionRecord) (now : Int) : Bool :=
  !(latestDecision.reasonCode = "CMP_OVERRIDE_ACTIVE" &&
    match latestDecision.overrideWindowEndsAt with
    | none => true
    | some text => text = "" || (dateParse engine text).any (· ≤ now))

variable {engine : DateEngine} {fields : String → Option TimeReading} {columnWall : String → Option Int}

private theorem dateTime_some (inside : dateTime (some time) = some instant) :
    instant = time ∧ -maxDate ≤ instant ∧ instant ≤ maxDate := by
  rw [dateTime, Option.filter_eq_some_iff] at inside
  obtain ⟨same, range⟩ := inside
  cases same
  exact ⟨rfl, of_decide_eq_true range⟩

/-- A local wall clock and a text show one instant just where their offsets differ as they do. -/
private theorem utc_eq_time (reading : TimeReading) (wall : Int) : engine.utc wall = reading.time engine ↔
    localOffset engine wall = reading.offset engine + (wall - reading.wall) := by
  unfold TimeReading.time TimeReading.offset localOffset
  cases reading.zone with
  | some minutes =>
    dsimp only
    omega
  | none =>
    dsimp only
    omega

private theorem utc_eq_time_local (reading : TimeReading) :
    engine.utc reading.wall = reading.time engine ↔ reading.Local engine := by
  rw [utc_eq_time, Int.sub_self, Int.add_zero]
  unfold TimeReading.offset TimeReading.Local
  cases reading.zone with
  | some minutes => simp
  | none => simp

private theorem isoTime_time (engine : DateEngine) (reading : IsoReading) :
    (isoTime reading).time engine = IsoReading.time engine reading := by
  unfold isoTime TimeReading.time IsoReading.time
  cases reading.zone with
  | some minutes => rfl
  | none =>
    by_cases dated : reading.dated = true
    · simp [dated]
    · simp [dated]

/-- What the column gives back is what `Date.parse` makes of the text just where the zones agree. -/
theorem columnInstant_kept (reads : ReadsFields engine fields) (walls : ReadsWalls columnWall)
    (taken : columnInstant engine columnWall text = some instant) (parsed : (dateParse engine text).isSome) :
    dateParse engine (toISOString instant) = dateParse engine text ↔ InProcessZone engine fields columnWall text := by
  unfold columnInstant at taken
  obtain ⟨approved, denotes⟩ := Option.isSome_iff_exists.mp parsed
  cases stored : columnWall text with
  | none =>
    rw [stored] at taken
    cases taken
  | some wall =>
    rw [stored, Option.map_some] at taken
    obtain ⟨rfl, range⟩ := dateTime_some taken
    rw [dateParse_toISOString engine range, denotes, Option.some.injEq]
    unfold InProcessZone
    unfold dateParse at denotes
    cases iso : readIso text with
    | some reading =>
      rw [iso] at denotes
      obtain ⟨rfl, _⟩ := dateTime_some denotes
      have same : wall = (isoTime reading).wall := walls text reading wall iso stored
      rw [same, ← isoTime_time]
      exact utc_eq_time_local _
    | none =>
      rw [iso] at denotes
      have legacy : dateTime ((fields text).map (·.time engine)) = some approved := (reads text iso) ▸ denotes
      cases found : fields text with
      | none =>
        rw [found] at legacy
        cases legacy
      | some reading =>
        rw [found, Option.map_some] at legacy
        obtain ⟨rfl, _⟩ := dateTime_some legacy
        have kept : engine.utc wall = reading.time engine ↔
            if wall = reading.wall then reading.Local engine
            else localOffset engine wall = reading.offset engine + (wall - reading.wall) := by
          split
          · rename_i same
            rw [same]
            exact utc_eq_time_local reading
          · exact utc_eq_time reading wall
        rw [kept]
        constructor
        · exact fun zone => ⟨reading, wall, rfl, stored, zone⟩
        · rintro ⟨other, shown, same, again, zone⟩
          cases same
          cases stored.symm.trans again
          exact zone

end Windows

section Requests

variable {serve : (effect : ComplianceEffect) → ComplianceWorld → ComplianceAnswer effect × ComplianceWorld}

private theorem evaluate_ok {task : ComplianceTask α} {next : α → ComplianceTask β}
    (done : (evaluate serve (task >>= next) world).1 = .ok result) :
    ∃ value middle, evaluate serve task world = (.ok value, middle) ∧ (evaluate serve (next value) middle).1 = .ok result := by
  rw [evaluate_bind] at done
  cases reached : evaluate serve task world with
  | mk outcome middle =>
    rw [reached] at done
    cases outcome with
    | error failure => cases done
    | ok value => exact ⟨value, middle, rfl, done⟩

/-- A window is given with an override only. -/
theorem checkReasonCode_window (checked : (evaluate serve (checkReasonCode parse result reasonCode (some text)) world).1 = .ok ()) :
    reasonCode = "CMP_OVERRIDE_ACTIVE" := by
  by_contra other
  unfold checkReasonCode at checked
  by_cases denied : reasonCode ∈ denyOnlyReasonCodes ∧ result ≠ .deny
  · rw [if_pos denied] at checked
    cases checked
  · rw [if_neg denied] at checked
    dsimp only at checked
    rw [if_neg other] at checked
    cases checked

theorem validateOptionalTimestamp_parses (valid : validateOptionalTimestamp parse value field = .ok (some text)) :
    (parse text).isSome := by
  unfold validateOptionalTimestamp at valid
  split at valid
  · cases valid
  · obtain ⟨normalized, _, rest⟩ := bind_eq_ok.mp valid
    split at rest
    · cases rest
    · rename_i parsed
      cases rest
      exact Option.isSome_iff_ne_none.mpr parsed

theorem validateDecisionFields_window (valid : validateDecisionFields raw result reasonCode window context = .ok input) :
    input.overrideWindowEndsAt = window ∧ input.reasonCode = reasonCode := by
  unfold validateDecisionFields at valid
  obtain ⟨_, _, valid⟩ := bind_eq_ok.mp valid
  obtain ⟨_, _, valid⟩ := bind_eq_ok.mp valid
  obtain ⟨_, _, valid⟩ := bind_eq_ok.mp valid
  obtain ⟨_, _, valid⟩ := bind_eq_ok.mp valid
  obtain ⟨_, _, valid⟩ := bind_eq_ok.mp valid
  obtain ⟨_, _, valid⟩ := bind_eq_ok.mp valid
  obtain ⟨_, _, valid⟩ := bind_eq_ok.mp valid
  obtain ⟨_, _, valid⟩ := bind_eq_ok.mp valid
  obtain ⟨_, _, valid⟩ := bind_eq_ok.mp valid
  cases valid
  exact ⟨rfl, rfl⟩

/-- The window of an accepted request is a time that `Date.parse` reads, of an override. -/
theorem accepted_window {parse : String → Option Int} {input : DecisionCreateInput}
    (accepted : (evaluate serve (validateComplianceDecisionCreateRequest parse raw context) world).1 = .ok input)
    (given : input.overrideWindowEndsAt = some text) : (parse text).isSome ∧ input.reasonCode = "CMP_OVERRIDE_ACTIVE" := by
  unfold validateComplianceDecisionCreateRequest at accepted
  split at accepted
  · obtain ⟨result, _, _, accepted⟩ := evaluate_ok accepted
    obtain ⟨reasonCode, _, _, accepted⟩ := evaluate_ok accepted
    obtain ⟨window, _, timed, accepted⟩ := evaluate_ok accepted
    obtain ⟨_, _, checked, accepted⟩ := evaluate_ok accepted
    rw [evaluate_ofExcept] at timed accepted
    obtain ⟨same, code⟩ := validateDecisionFields_window accepted
    rw [given] at same
    subst same
    exact ⟨validateOptionalTimestamp_parses (Prod.mk.inj timed).1,
      code.trans (checkReasonCode_window (congrArg Prod.fst checked))⟩
  · cases accepted

end Requests

section Storage

theorem takeTimestamp_ok (taken : takeTimestamp timestampOf text = .ok instant) : timestampOf text = some instant := by
  unfold takeTimestamp at taken
  split at taken
  · rename_i read
    cases taken
    exact read
  · cases taken

private theorem row_window {decision : ComplianceDecisionRecord} (taken : decision.row timestampOf = .ok row)
    (given : decision.overrideWindowEndsAt = some text) : ∃ instant, timestampOf text = some instant ∧
      row.overrideWindowEndsAt = some instant ∧ row.reasonCode = decision.reasonCode ∧ row.decisionId = decision.decisionId := by
  unfold ComplianceDecisionRecord.row at taken
  obtain ⟨_, _, rest⟩ := bind_eq_ok.mp taken
  obtain ⟨window, read, last⟩ := bind_eq_ok.mp rest
  cases last
  rw [given] at read
  obtain ⟨instant, first, done⟩ := bind_eq_ok.mp read
  cases done
  exact ⟨instant, takeTimestamp_ok first, rfl, rfl, rfl⟩

/-- What Postgres keeps of a decision that is recorded: its row alone has its id. -/
theorem created_row {call : DecisionCall} (created : (postgresStore timestampOf).createDecision engine call world = .ok (decision, next))
    (given : call.input.overrideWindowEndsAt = some text) : ∃ row instant, timestampOf text = some instant ∧
      row.overrideWindowEndsAt = some instant ∧ row.reasonCode = call.input.reasonCode ∧ row.decisionId = call.decisionId ∧
      decision = row.record (blockStateOf (world.blocks row.tradeId)) ∧
      ∀ other ∈ next.decisions, other.decisionId = call.decisionId → other = row := by
  obtain ⟨decidedAt, _, saved⟩ := bind_eq_ok.mp created
  obtain ⟨row, taken, rest⟩ := bind_eq_ok.mp saved
  obtain ⟨instant, read, window, code, name⟩ := row_window taken given
  split at rest
  · cases rest
  · rename_i absent
    cases rest
    refine ⟨row, instant, read, window, code, name, rfl, ?_⟩
    intro other member same
    rcases List.mem_cons.mp member with first | old
    · exact first
    · refine absurd (List.any_eq_true.mpr ⟨other, old, decide_eq_true ?_⟩) absent
      exact same.trans name.symm

/-- The window of an override keeps its instant in Postgres just where its zone is that of the process, and
there no override is honoured after its instant. -/
theorem window_keeps_instant (reads : ReadsFields engine fields) (walls : ReadsWalls columnWall)
    (accepted : (evaluate (fun effect world => complianceServing (columnInstant engine columnWall) choice world effect)
      (validateComplianceDecisionCreateRequest (dateParse engine) raw context) before).1 = .ok input)
    (given : input.overrideWindowEndsAt = some text)
    (created : (postgresStore (columnInstant engine columnWall)).createDecision engine ⟨input, nowMs, decisionId⟩ world =
      .ok (decision, next)) :
    ∃ kept, decision.overrideWindowEndsAt = some kept ∧
      (∀ later : ComplianceWorld, (∀ row ∈ later.decisions, row.decisionId = decisionId → row ∈ next.decisions) →
        (∀ found, (postgresStore (columnInstant engine columnWall)).getDecision decisionId later = some found →
          found.overrideWindowEndsAt = some kept) ∧
        ∀ tradeId found, (postgresStore (columnInstant engine columnWall)).getLatestDecision tradeId later = some found →
          found.decisionId = decisionId → found.overrideWindowEndsAt = some kept) ∧
      (dateParse engine kept = dateParse engine text ↔ InProcessZone engine fields columnWall text) ∧
      (InProcessZone engine fields columnWall text → ∀ now approved, dateParse engine text = some approved →
        overrideHonoured engine decision now → now < approved) := by
  obtain ⟨parsed, code⟩ := accepted_window accepted given
  obtain ⟨row, instant, taken, window, code', name, rfl, only⟩ := created_row created given
  have kept := columnInstant_kept reads walls taken parsed
  have shown : ∀ blockState, (row.record blockState).overrideWindowEndsAt = some (toISOString instant) := by
    intro blockState
    exact congrArg (Option.map toISOString) window
  refine ⟨toISOString instant, shown _, ?_, kept, ?_⟩
  · intro later unchanged
    constructor
    · intro found read
      obtain ⟨other, present, rfl⟩ := Option.map_eq_some_iff.mp read
      have same : other.decisionId = decisionId := by simpa using List.find?_some present
      rw [only other (unchanged other (List.mem_of_find?_eq_some present) same) same]
      exact shown _
    · intro tradeId found read same
      obtain ⟨other, present, rfl⟩ := Option.map_eq_some_iff.mp read
      rw [only other (unchanged other (latestDecision_some present).1 same) same]
      exact shown _
  · intro inZone now approved denotes honoured
    have stored := kept.mpr inZone
    rw [denotes] at stored
    have override : (row.record (blockStateOf (world.blocks row.tradeId))).reasonCode = "CMP_OVERRIDE_ACTIVE" := code'.trans code
    unfold overrideHonoured at honoured
    rw [shown, override] at honoured
    simp only [stored, Option.any_some, decide_true, Bool.true_and, Bool.not_or, Bool.and_eq_true, Bool.not_eq_true',
      decide_eq_false_iff_not, not_le] at honoured
    exact honoured.2

/-- A request for an override until a time. -/
def overridePayload (window : String) : Json := .object [
  ("tradeId", .string "TRD-1"), ("decisionType", .string "KYT"), ("result", .string "ALLOW"),
  ("reasonCode", .string "CMP_OVERRIDE_ACTIVE"), ("provider", .string "provider"), ("providerRef", .string "ref-1"),
  ("subjectId", .string "subject-1"), ("subjectType", .string "counterparty"),
  ("overrideWindowEndsAt", .string window), ("correlationId", .string "corr-1"),
  ("audit", .object [("reason", .string "Override approved by the board"), ("ticketRef", .string "CMP-2"),
    ("evidenceLinks", .array [.object [("kind", .string "ticket"), ("uri", .string "https://tickets/2")]])])]

/-- How the dates of some mails are read. -/
def mailFields (text : String) : Option TimeReading :=
  if text = "Tue, 01 Jan 2030 00:00:00 GMT" then some ⟨1893456000000, some 0⟩
  else if text = "Tue, 01 Jan 2030 05:00:00 +0500" then some ⟨1893474000000, some 300⟩
  else none

def mailEngine : DateEngine := ⟨fun wall => wall, fun text => dateTime ((mailFields text).map (·.time utcEngine))⟩

def mailWall (text : String) : Option Int :=
  (readStamp text).or ((mailFields text).map (·.wall))

def overrideRequest (window : String) : Except Failure DecisionCreateInput :=
  (evaluate (fun effect world => complianceServing (columnInstant mailEngine mailWall) (.acknowledged, "") world effect)
    (validateComplianceDecisionCreateRequest (dateParse mailEngine) (some (overridePayload window))
      (complianceContext "idem-override")) emptyCompliance).1

def overrideInput (window : String) : DecisionCreateInput :=
  { decisionInput .allow "CMP_OVERRIDE_ACTIVE" with
    overrideWindowEndsAt := some window
    audit := ⟨"Override approved by the board", [⟨.ticket, "https://tickets/2", none⟩], "CMP-2"⟩
    context := complianceContext "idem-override" }

def createOverride (window : String) : Except Failure (ComplianceDecisionRecord × ComplianceWorld) :=
  (postgresStore (columnInstant mailEngine mailWall)).createDecision mailEngine ⟨overrideInput window, 1000, "decision-1"⟩
    emptyCompliance

private theorem mailFields_reads : ReadsFields mailEngine mailFields :=
  fun _ _ => rfl

private theorem mailWall_walls : ReadsWalls mailWall := by
  intro text reading wall read taken
  rw [mailWall, readStamp, read] at taken
  cases taken
  rfl

/-- Five in the morning at an offset of five hours is midnight in UTC, and comes back as five. -/
theorem offsetWindow_moved : ¬ ∀ text decision next, overrideRequest text = .ok (overrideInput text) →
    createOverride text = .ok (decision, next) → ∀ kept, decision.overrideWindowEndsAt = some kept →
      dateParse mailEngine kept = dateParse mailEngine text := by
  intro keeps
  have created : ∃ decision next, createOverride "2030-01-01T05:00:00+05:00" = .ok (decision, next) ∧
      decision.overrideWindowEndsAt = some "2030-01-01T05:00:00.000Z" := ⟨_, _, rfl, by decide⟩
  obtain ⟨decision, next, done, kept⟩ := created
  have same := keeps _ decision next (by decide) done _ kept
  exact absurd same (by decide)

/-- In UTC a time in UTC is kept, of an ISO text and of a mail's date, and a mail's date of another zone is not. -/
theorem zuluWindow_kept :
    (∃ decision next, createOverride "2030-01-01T00:00:00Z" = .ok (decision, next) ∧
      ∃ kept, decision.overrideWindowEndsAt = some kept ∧
        dateParse mailEngine kept = dateParse mailEngine "2030-01-01T00:00:00Z") ∧
    (∃ decision next, createOverride "Tue, 01 Jan 2030 00:00:00 GMT" = .ok (decision, next) ∧
      ∃ kept, decision.overrideWindowEndsAt = some kept ∧
        dateParse mailEngine kept = dateParse mailEngine "Tue, 01 Jan 2030 00:00:00 GMT") ∧
    ∃ decision next, createOverride "Tue, 01 Jan 2030 05:00:00 +0500" = .ok (decision, next) ∧
      ∃ kept, decision.overrideWindowEndsAt = some kept ∧
        dateParse mailEngine kept ≠ dateParse mailEngine "Tue, 01 Jan 2030 05:00:00 +0500" := by
  have window (text : String) (accepted : overrideRequest text = .ok (overrideInput text))
      (done : ∃ decision next, createOverride text = .ok (decision, next)) : ∃ decision next,
        createOverride text = .ok (decision, next) ∧ ∃ kept, decision.overrideWindowEndsAt = some kept ∧
          (dateParse mailEngine kept = dateParse mailEngine text ↔ InProcessZone mailEngine mailFields mailWall text) := by
    obtain ⟨decision, next, created⟩ := done
    obtain ⟨kept, given, _, same, _⟩ := window_keeps_instant mailFields_reads mailWall_walls accepted rfl created
    exact ⟨decision, next, created, kept, given, same⟩
  refine ⟨?_, ?_, ?_⟩
  · obtain ⟨decision, next, created, kept, given, same⟩ := window "2030-01-01T00:00:00Z" (by decide) ⟨_, _, rfl⟩
    have read : readIso "2030-01-01T00:00:00Z" = some ⟨⟨2030, 1, 1, 0, 0, 0, 0⟩, some 0, false⟩ := by decide
    refine ⟨decision, next, created, kept, given, same.mpr ?_⟩
    unfold InProcessZone
    rw [read]
    rintro minutes ⟨⟩
    rfl
  · obtain ⟨decision, next, created, kept, given, same⟩ := window "Tue, 01 Jan 2030 00:00:00 GMT" (by decide) ⟨_, _, rfl⟩
    refine ⟨decision, next, created, kept, given, same.mpr ⟨⟨1893456000000, some 0⟩, _, rfl, rfl, ?_⟩⟩
    rw [if_pos rfl]
    rintro minutes ⟨⟩
    rfl
  · obtain ⟨decision, next, created, kept, given, same⟩ := window "Tue, 01 Jan 2030 05:00:00 +0500" (by decide) ⟨_, _, rfl⟩
    refine ⟨decision, next, created, kept, given, fun instant => ?_⟩
    obtain ⟨reading, wall, read, stored, zone⟩ := same.mp instant
    cases read
    cases stored
    rw [if_pos rfl] at zone
    exact absurd (zone 300 rfl) (by decide)

end Storage

end Agroasys.Gateway
