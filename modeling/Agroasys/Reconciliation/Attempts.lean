import Agroasys.Foundation.Casting
import Agroasys.Reconciliation.Service

namespace Agroasys.Reconciliation

open Agroasys.Foundation

/-- Where a call stands. Under way it has a page of trades before it, the trades it has
listed, and the findings on the last of them and on the ones before. -/
inductive Attempt where
  | opening
  | looking (runKey : String)
  | working (runKey : String) (runId : Nat) (queue trades : List String) (past mine : List DriftFinding)
  | failing (runKey : String)
  | closed

/-- The key that a call executes. -/
def Attempt.runKey : Attempt → Option String
  | .working runKey _ _ _ _ _ => some runKey
  | .failing runKey => some runKey
  | _ => none

/-- What a run has counted, of a list of trades and a list of findings. -/
structure RunStats.Tallies (stats : RunStats) (runKey : String) (trades : List String) (findings : List DriftFinding) :
    Prop where
  key : stats.runKey = runKey
  status : stats.status = .completed
  total : stats.totalTrades = trades.length
  count : stats.driftCount = findings.length
  severities : ∀ severity, stats.severityCounts.of severity = findings.countP (·.severity = severity)

def Attempt.permits : Attempt → ReconcileEffect → Prop
  | .opening, .generateRunKey _ => True
  | .opening, .insertRun _ _ => True
  | .looking runKey, .selectRun asked => asked = runKey
  | .working _ _ queue _ _ _, .fetchTrades _ _ => queue = []
  | .working runKey runId queue _ _ _, .upsertRunTradeScope number asked tradeId =>
    number = runId ∧ asked = runKey ∧ queue.head? = some tradeId
  | .working _ _ _ _ _ _, .getTrade _ => True
  | .working runKey runId _ trades _ mine, .upsertDrift number asked finding =>
    number = runId ∧ asked = runKey ∧ trades.head? = some finding.tradeId ∧
      finding.place ∉ mine.map DriftFinding.place
  | .working _ _ _ _ _ _, .notify _ _ => True
  | .working runKey _ queue trades past mine, .completeRun stats =>
    queue = [] ∧ stats.Tallies runKey trades (mine ++ past)
  | .working runKey _ _ _ _ _, .failRun asked _ => asked = runKey
  | .failing runKey, .failRun asked _ => asked = runKey
  | _, _ => False

def Attempt.after : Attempt → (effect : ReconcileEffect) → ReconcileAnswer effect → Attempt
  | .opening, .generateRunKey _, _ => .opening
  | .opening, .insertRun runKey _, answer =>
    match answer with
    | .ok (some row) => .working runKey row.id [] [] [] []
    | .ok none => .looking runKey
    | .error _ => .closed
  | .looking runKey, .selectRun _, answer =>
    match answer with
    | .ok (some row) =>
      if row.status = .completed ∨ row.status = .running then .closed
      else .working runKey row.id [] [] [] []
    | .ok none | .error _ => .closed
  | .working runKey runId _ trades past mine, .fetchTrades _ _, answer =>
    match answer with
    | .ok records => .working runKey runId (records.map (·.tradeId)) trades past mine
    | .error _ => .failing runKey
  | .working runKey runId queue trades past mine, .upsertRunTradeScope _ _ tradeId, answer =>
    match answer with
    | .ok _ => .working runKey runId queue.tail (tradeId :: trades) (mine ++ past) []
    | .error _ => .failing runKey
  | .working runKey runId queue trades past mine, .getTrade _, _ =>
    .working runKey runId queue trades past mine
  | .working runKey runId queue trades past mine, .upsertDrift _ _ finding, answer =>
    match answer with
    | .ok _ => .working runKey runId queue trades past (finding :: mine)
    | .error _ => .failing runKey
  | .working runKey runId queue trades past mine, .notify _ _, answer =>
    match answer with
    | .ok _ => .working runKey runId queue trades past mine
    | .error _ => .failing runKey
  | .working runKey _ _ _ _ _, .completeRun _, answer =>
    match answer with
    | .ok _ => .closed
    | .error _ => .failing runKey
  | _, _, _ => .closed

def attempting : Protocol ReconcileEffect ReconcileAnswer Attempt where
  permits := Attempt.permits
  after := Attempt.after

section Follows

/-- An execution that may fail its run. -/
def Attempt.Abortable (runKey : String) (attempt : Attempt) : Prop :=
  attempt.runKey = some runKey

/-- `Runs` for a part of an execution. -/
abbrev Executes {α : Type} (runKey : String) (returns : Attempt → α → Prop) (attempt : Attempt)
    (task : ReconcileTask α) : Prop :=
  attempting.Runs returns (fun attempt _ => attempt.Abortable runKey) attempt task

/-- An execution under way, with its count. -/
def Attempt.Stands (runKey : String) (runId : Nat) (queue trades : List String) (stats : RunStats)
    (attempt : Attempt) : Prop :=
  ∃ past mine, attempt = .working runKey runId queue trades past mine ∧ stats.Tallies runKey trades (mine ++ past)

variable {settings : ReconcileSettings}

private theorem increment_of (counts : SeverityCounts) (severity other : DriftSeverity) :
    (counts.increment severity).of other = counts.of other + if severity = other then 1 else 0 := by
  cases severity <;> cases other <;> rfl

theorem RunStats.Tallies.find {stats : RunStats} {runKey : String} (tallies : stats.Tallies runKey trades findings)
    (finding : DriftFinding) :
    { stats with
      driftCount := stats.driftCount + 1
      severityCounts := stats.severityCounts.increment finding.severity }.Tallies runKey trades (finding :: findings) := by
  refine ⟨tallies.key, tallies.status, tallies.total, ?_, ?_⟩
  · rw [List.length_cons, ← tallies.count]
  · intro severity
    rw [increment_of, tallies.severities, List.countP_cons]
    simp

theorem RunStats.Tallies.list {stats : RunStats} {runKey : String} (tallies : stats.Tallies runKey trades findings) (tradeId : String) :
    { stats with totalTrades := stats.totalTrades + 1 }.Tallies runKey (tradeId :: trades) findings :=
  ⟨tallies.key, tallies.status, by rw [List.length_cons, ← tallies.total], tallies.count, tallies.severities⟩

private theorem executes_notify {returns : Attempt → Unit → Prop}
    (returned : returns (.working runKey runId queue trades past mine) ()) :
    Executes runKey returns (.working runKey runId queue trades past mine) (notifyCriticalDrift asked finding) := by
  unfold notifyCriticalDrift
  split
  · exact returned
  · apply Protocol.Runs.bind
    refine .perform (by trivial) ?_
    intro answer
    cases answer with
    | ok => exact returned
    | error => exact rfl

/-- Findings at new places are recorded. -/
theorem executes_findings (tallies : stats.Tallies runKey trades (mine ++ past))
    (named : ∀ finding ∈ findings, trades.head? = some finding.tradeId)
    (places : (findings.map DriftFinding.place ++ mine.map DriftFinding.place).Nodup) :
    Executes runKey (fun attempt next => attempt.Stands runKey runId queue trades next)
      (.working runKey runId queue trades past mine) (recordFindings runId findings stats) := by
  induction findings generalizing stats mine with
  | nil => exact ⟨past, mine, rfl, tallies⟩
  | cons finding findings ih =>
    obtain ⟨fresh, rest⟩ := List.nodup_cons.mp places
    apply Protocol.Runs.bind
    apply Protocol.Runs.bind
    refine .perform ⟨rfl, tallies.key, named finding List.mem_cons_self, ?_⟩ ?_
    · intro member
      exact fresh (List.mem_append_right _ member)
    intro answer
    cases answer with
    | error => exact rfl
    | ok =>
      apply Protocol.Runs.bind
      apply executes_notify
      apply ih (tallies.find finding)
      · intro other member
        exact named other (List.mem_cons_of_mem _ member)
      · rw [List.map_cons]
        exact (List.perm_middle.nodup_iff).mpr places

private theorem executes_read {returns : Attempt → Except String Trade → Prop}
    (returned : ∀ result, returns (.working runKey runId queue trades past mine) result) :
    Executes runKey returns (.working runKey runId queue trades past mine) (readTrade tradeId) := by
  apply Protocol.Runs.tryCatch
  apply Protocol.Runs.bind
  apply Protocol.Runs.bind
  refine .perform (by trivial) ?_
  intro answer
  cases answer with
  | ok trade => exact returned _
  | error error => exact returned _

private theorem executes_trade (stands : attempt.Stands runKey runId (record.tradeId :: queue) trades stats) :
    Executes runKey (fun attempt next => attempt.Stands runKey runId queue (record.tradeId :: trades) next) attempt
      (reconcileTrade settings runId record stats) := by
  obtain ⟨past, mine, rfl, tallies⟩ := stands
  apply Protocol.Runs.bind
  apply Protocol.Runs.bind
  refine .perform ⟨rfl, tallies.key, rfl⟩ ?_
  intro answer
  cases answer with
  | error => exact rfl
  | ok =>
    apply Protocol.Runs.bind
    apply executes_read
    intro result
    apply Protocol.Runs.bind
    apply Protocol.Runs.ofExcept
    · intro findings given
      have distinct : (findings.map DriftFinding.place).Nodup ∧
          ∀ finding ∈ findings, finding.tradeId = record.tradeId := by
        cases result with
        | ok trade => exact classified_distinct given
        | error error => exact classified_distinct given
      have counted : RunStats.Tallies { stats with totalTrades := stats.totalTrades + 1 } runKey
          (record.tradeId :: trades) ([] ++ (mine ++ past)) := tallies.list record.tradeId
      apply executes_findings counted
      · intro finding member
        rw [distinct.2 finding member]
        rfl
      · simpa using distinct.1
    · intro error _
      exact rfl

private theorem executes_trades {records : List IndexedTradeRecord}
    (stands : attempt.Stands runKey runId (records.map (·.tradeId)) trades stats) :
    Executes runKey (fun attempt next => ∃ listed, attempt.Stands runKey runId [] listed next) attempt
      (reconcileTrades settings runId records stats) := by
  induction records generalizing attempt trades stats with
  | nil => exact ⟨trades, stands⟩
  | cons record records ih =>
    apply Protocol.Runs.bind
    apply Protocol.Runs.mono (executes_trade stands)
    · intro next counted standing
      exact ih standing
    · exact fun _ _ abortable => abortable

private theorem executes_pages (stands : attempt.Stands runKey runId [] trades stats) :
    Executes runKey (fun attempt next => ∃ listed, attempt.Stands runKey runId [] listed next) attempt
      (reconcilePages settings runId fuel offset stats) := by
  induction fuel generalizing attempt trades stats offset with
  | zero => exact ⟨trades, stands⟩
  | succ fuel ih =>
    unfold reconcilePages
    split
    · obtain ⟨past, mine, rfl, tallies⟩ := stands
      apply Protocol.Runs.bind
      apply Protocol.Runs.bind
      refine .perform (by rfl) ?_
      intro answer
      cases answer with
      | error => exact rfl
      | ok records =>
        apply Protocol.Runs.ofExcept
        · intro fetched same
          cases same
          split
          · rename_i empty
            rw [List.eq_nil_of_length_eq_zero empty]
            exact ⟨trades, past, mine, rfl, tallies⟩
          · apply Protocol.Runs.bind
            apply Protocol.Runs.mono (executes_trades ⟨past, mine, rfl, tallies⟩)
            · intro attempt counted standing
              obtain ⟨listed, standing⟩ := standing
              split
              · exact ⟨listed, standing⟩
              · exact ih standing
            · exact fun _ _ abortable => abortable
        · intro error failed
          cases failed
    · exact ⟨trades, stands⟩

private theorem executes_run (runKey : String) (mode : ReconcileMode) (runId : Nat) :
    attempting.Runs (fun _ _ => True) (fun _ _ => True) (.working runKey runId [] [] [] [])
      (executeRun settings runKey mode runId) := by
  have fails (attempt : Attempt) (message error : String) (abortable : attempt.Abortable runKey) :
      attempting.Runs (fun _ _ => True) (fun _ _ => True) attempt (do
        failRun runKey message
        throw error : ReconcileTask RunStats) := by
    apply Protocol.Runs.bind
    apply Protocol.Runs.bind
    refine .perform ?_ ?_
    · cases attempt with
      | working => exact (Option.some.inj abortable).symm
      | failing => exact (Option.some.inj abortable).symm
      | _ => cases abortable
    · intro answer
      exact .ofExcept (fun _ _ => trivial) fun _ _ => trivial
  apply Protocol.Runs.tryCatch
  have counted : RunStats.Tallies ⟨runKey, mode, .completed, 0, 0, noCounts, none⟩ runKey [] [] :=
    ⟨rfl, rfl, rfl, rfl, fun severity => by cases severity <;> rfl⟩
  apply Protocol.Runs.bind
  apply Protocol.Runs.mono (executes_pages ⟨[], [], rfl, counted⟩)
  · intro attempt stats standing
    obtain ⟨listed, past, mine, rfl, tallies⟩ := standing
    apply Protocol.Runs.bind
    apply Protocol.Runs.bind
    refine .perform ⟨rfl, tallies⟩ ?_
    intro answer
    cases answer with
    | ok => exact trivial
    | error => exact fails _ _ _ rfl
  · intro attempt error abortable
    exact fails attempt _ error abortable

/-- Every call is an attempt. -/
theorem attempts_follow (settings : ReconcileSettings) (call : ReconcileCall) :
    attempting.Follows (fun _ _ => True) .opening ((reconcileServer settings).program call) := by
  apply Protocol.Runs.follows
  apply Protocol.Runs.bind
  have resolved : attempting.Runs (fun attempt _ => attempt = .opening) (fun _ _ => True) .opening
      (resolveRunKey call.mode call.runKeyOverride) := by
    unfold resolveRunKey
    split
    · exact .pure rfl
    · exact .perform (by trivial) fun _ => rfl
  apply Protocol.Runs.mono resolved
  · intro attempt runKey same
    subst same
    apply Protocol.Runs.bind
    apply Protocol.Runs.bind
    refine .perform (by trivial) ?_
    intro answer
    apply Protocol.Runs.bind
    apply Protocol.Runs.ofExcept
    · intro inserted same
      subst same
      cases inserted with
      | some row =>
        apply Protocol.Runs.pure
        exact executes_run runKey call.mode row.id
      | none =>
        apply Protocol.Runs.bind
        refine .perform (by rfl) ?_
        intro answer
        apply Protocol.Runs.bind
        apply Protocol.Runs.ofExcept
        · intro found same
          subst same
          apply Protocol.Runs.pure
          cases found with
          | none => exact .throw trivial
          | some row =>
            unfold continueRun
            by_cases completed : row.status = .completed
            · simp only [completed, Bool.not_false, decide_true, Bool.and_self, if_true]
              exact .pure trivial
            · by_cases running : row.status = .running
              · simp only [running, Bool.not_false, decide_true, Bool.and_self, if_true]
                exact .pure trivial
              · simp only [completed, running, decide_false, Bool.and_false]
                have entered : attempting.after (.looking runKey) (.selectRun runKey) (.ok (some row)) =
                    .working runKey row.id [] [] [] [] := if_neg (not_or.mpr ⟨completed, running⟩)
                change attempting.Runs _ _ (attempting.after (.looking runKey) (.selectRun runKey) (.ok (some row))) _
                rw [entered]
                exact executes_run runKey call.mode row.id
        · exact fun _ _ => trivial
    · exact fun _ _ => trivial
  · exact fun _ _ _ => trivial

end Follows

end Agroasys.Reconciliation
