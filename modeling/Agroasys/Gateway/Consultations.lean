import Agroasys.Foundation.Casting
import Agroasys.Gateway.Compliance

namespace Agroasys.Gateway

open Function Agroasys.Foundation

/-- The override window of a decision is open. -/
def DecisionRow.open (now : Int) (decision : DecisionRow Int) : Bool :=
  decision.overrideWindowEndsAt.any (now < ·)

/-- Where a call stands. A resume remembers the trade of the block it has found, the
latest decisions it has read, and those whose window it has found open. -/
inductive Progress where
  | recording
  | blocking (tradeId : String) (begun : Bool)
  | resuming (tradeId : String) (held : Option String) (seen passed : List (DecisionRow Int))
  | settled

def ComplianceCall.enter : ComplianceCall → Progress
  | .createDecision _ _ => .recording
  | .blockOracleProgression input => .blocking input.tradeId false
  | .resumeOracleProgression _ input => .resuming input.tradeId none [] []

/-- The decision allows a resume, by what the call has read. -/
def Cleared (seen passed : List (DecisionRow Int)) (decision : DecisionRow Int) : Prop :=
  decision ∈ seen ∧ decision.result = .allow ∧
    (decision.reasonCode = "CMP_OVERRIDE_ACTIVE" → decision ∈ passed)

private theorem Cleared.later (cleared : Cleared seen passed decision) (wider : passed ⊆ more) :
    Cleared seen more decision :=
  ⟨cleared.1, cleared.2.1, fun active => wider (cleared.2.2 active)⟩

def Progress.permits : Progress → ComplianceEffect → Prop
  | .recording, .saveBlockState _ _ => False
  | .recording, _ => True
  | .blocking tradeId false, effect => effect = .loadBlockState tradeId
  | .blocking tradeId true, .saveBlockState block _ => block.tradeId = tradeId ∧ block.blockState = .blocked
  | .resuming tradeId none _ _, effect => effect = .loadBlockState tradeId
  | .resuming tradeId (some _) _ _, .selectLatestDecision asked => asked = tradeId
  | .resuming _ (some held) seen passed, .saveBlockState block _ =>
    block.tradeId = held ∧ block.blockState = .notBlocked ∧ ∃ decision, Cleared seen passed decision
  | _, effect => effect.Reads

/-- The rows an answer holds. -/
def rowsOf : Except Failure (Option (DecisionRow Int)) → List (DecisionRow Int)
  | .ok row => row.toList
  | .error _ => []

def Progress.after : Progress → (effect : ComplianceEffect) → ComplianceAnswer effect → Progress
  | .blocking tradeId false, .loadBlockState _, answer =>
    match answer with
    | .ok block => if blockStateOf block = .blocked then .settled else .blocking tradeId true
    | .error _ => .settled
  | .resuming tradeId none seen passed, .loadBlockState _, answer =>
    match answer with
    | .ok (some block) =>
      if block.blockState = .notBlocked then .settled else .resuming tradeId (some block.tradeId) seen passed
    | .ok none | .error _ => .settled
  | .resuming tradeId (some held) seen passed, .selectLatestDecision _, answer =>
    .resuming tradeId (some held) (rowsOf answer ++ seen) passed
  | .resuming tradeId (some held) seen passed, .now, now =>
    .resuming tradeId (some held) seen (seen.filter (DecisionRow.open now) ++ passed)
  | .blocking _ true, .saveBlockState _ _, _ => .settled
  | .resuming _ (some _) _ _, .saveBlockState _ _, _ => .settled
  | progress, _, _ => progress

def progression : Protocol ComplianceEffect ComplianceAnswer Progress where
  permits := Progress.permits
  after := Progress.after

section Starts

private theorem block_refused (blocked : blockStateOf row = .blocked) :
    (Progress.blocking tradeId false).after (.loadBlockState asked) (.ok row) = .settled :=
  if_pos blocked

private theorem block_started (free : ¬ blockStateOf row = .blocked) :
    (Progress.blocking tradeId false).after (.loadBlockState asked) (.ok row) = .blocking tradeId true :=
  if_neg free

private theorem resume_refused {block : ProgressionBlock} (free : block.blockState = .notBlocked) :
    (Progress.resuming tradeId none seen passed).after (.loadBlockState asked) (.ok (some block)) = .settled :=
  if_pos free

private theorem resume_started {block : ProgressionBlock} (blocked : ¬ block.blockState = .notBlocked) :
    (Progress.resuming tradeId none seen passed).after (.loadBlockState asked) (.ok (some block)) =
      .resuming tradeId (some block.tradeId) seen passed :=
  if_neg blocked

end Starts

section Reads

variable {progress : Progress}

/-- The call has read what it must read first. -/
def Progress.Begun : Progress → Prop
  | .blocking _ begun => begun = true
  | .resuming _ held _ _ => held.isSome
  | _ => True

/-- What calls do before and after they write. -/
def consulting : Protocol ComplianceEffect ComplianceAnswer Progress where
  permits progress effect := progress.Begun ∧ effect.Reads ∧ progress.permits effect
  after := Progress.after

/-- `Runs` for a task that reads and may fail anywhere. -/
abbrev Consults {α : Type} (returns : Progress → α → Prop) (progress : Progress) (task : ComplianceTask α) : Prop :=
  consulting.Runs returns (fun _ _ => True) progress task

private theorem begun_after (begun : progress.Begun) (reads : effect.Reads) (answer : ComplianceAnswer effect) :
    (progress.after effect answer).Begun := by
  unfold Progress.after
  split
  · cases begun
  · cases begun
  · exact rfl
  · exact rfl
  · exact trivial
  · exact trivial
  · exact begun

/-- A statement whose answer no call remembers. -/
def ComplianceEffect.Looks : ComplianceEffect → Prop
  | .selectDecision _ | .loadBlockState _ => True
  | _ => False

private theorem begun_looks (begun : progress.Begun) (looks : effect.Looks) :
    consulting.permits progress effect ∧ ∀ answer, progress.after effect answer = progress := by
  cases progress with
  | recording => cases effect <;> first | exact ⟨⟨trivial, trivial, trivial⟩, fun _ => rfl⟩ | cases looks
  | blocking asked started =>
    cases begun
    cases effect <;> first | exact ⟨⟨rfl, trivial, trivial⟩, fun _ => rfl⟩ | cases looks
  | resuming asked held seen passed =>
    obtain ⟨held, rfl⟩ := Option.isSome_iff_exists.mp begun
    cases effect <;> first | exact ⟨⟨rfl, trivial, trivial⟩, fun _ => rfl⟩ | cases looks
  | settled => cases effect <;> first | exact ⟨⟨trivial, trivial, trivial⟩, fun _ => rfl⟩ | cases looks

theorem consults_ask {effect : ComplianceEffect} {returns : Progress → ComplianceAnswer effect → Prop}
    (permitted : consulting.permits progress effect)
    (answered : ∀ answer, returns (progress.after effect answer) answer) :
    Consults returns progress (askCompliance effect) :=
  Protocol.Runs.perform permitted answered

theorem consults_ofExcept {α : Type} {returns : Progress → α → Prop} {result : Except Failure α}
    (returned : ∀ value, result = .ok value → returns progress value) :
    Consults returns progress (Task.ofExcept result) :=
  Protocol.Runs.ofExcept returned fun _ _ => trivial

theorem consults_block {returns : Progress → Option ProgressionBlock → Prop} (begun : progress.Begun)
    (returned : ∀ block, returns progress block) :
    Consults returns progress (getOracleProgressionBlock tradeId) := by
  apply Protocol.Runs.bind
  have looks := begun_looks begun (show ComplianceEffect.Looks (.loadBlockState tradeId) from trivial)
  apply consults_ask looks.1
  intro answer
  rw [looks.2]
  apply Protocol.Runs.bind
  apply consults_ofExcept
  intro row _
  exact .pure (returned _)

/-- The decision is the row, with some block state. -/
def Maps (found : Option (ComplianceDecision Int)) (row : Option (DecisionRow Int)) : Prop :=
  ∃ blockState, found = row.map fun row => mapDecisionRow row blockState

private theorem consults_found {returns : Progress → Option (ComplianceDecision Int) → Prop} (begun : progress.Begun)
    (returned : ∀ found, Maps found row → returns progress found) :
    Consults returns progress (mapFoundRow row) := by
  unfold mapFoundRow
  cases row with
  | none => exact .pure (returned none ⟨.notBlocked, rfl⟩)
  | some row =>
    apply Protocol.Runs.bind
    apply consults_block begun
    intro block
    exact .pure (returned _ ⟨_, rfl⟩)

private theorem consults_decision {returns : Progress → Option (ComplianceDecision Int) → Prop} (begun : progress.Begun)
    (returned : ∀ found, returns progress found) : Consults returns progress (getDecision decisionId) := by
  apply Protocol.Runs.bind
  have looks := begun_looks begun (show ComplianceEffect.Looks (.selectDecision decisionId) from trivial)
  apply consults_ask looks.1
  intro answer
  rw [looks.2]
  apply Protocol.Runs.bind
  apply consults_ofExcept
  intro row _
  exact consults_found begun fun found _ => returned found

theorem consults_latest {returns : Progress → Option (ComplianceDecision Int) → Prop}
    (permitted : consulting.permits progress (.selectLatestDecision tradeId))
    (returned : ∀ row found, Maps found row →
      returns (progress.after (.selectLatestDecision tradeId) (.ok row)) found) :
    Consults returns progress (getLatestDecision tradeId) := by
  apply Protocol.Runs.bind
  apply consults_ask permitted
  intro answer
  apply Protocol.Runs.bind
  apply consults_ofExcept
  intro row same
  subst same
  exact consults_found (begun_after permitted.1 permitted.2.1 _) fun found maps => returned row found maps

private theorem consults_resolve {returns : Progress → Option (ComplianceDecision Int) → Prop}
    (permitted : consulting.permits progress (.selectLatestDecision tradeId))
    (named : ∀ found, returns progress found)
    (latest : ∀ row found, returns (progress.after (.selectLatestDecision tradeId) (.ok row)) found) :
    Consults returns progress (resolveDecisionForTrade tradeId decisionId) := by
  unfold resolveDecisionForTrade
  cases decisionId.filter (· ≠ "") with
  | none => exact consults_latest permitted fun row found _ => latest row found
  | some decisionId =>
    apply Protocol.Runs.bind
    apply consults_decision permitted.1
    intro found
    cases found with
    | none => exact .throw trivial
    | some decision =>
      dsimp only
      split
      · exact .throw trivial
      · exact .pure (named _)

private theorem consults_timestamp (tradeId : String) :
    Consults (fun progress _ => progress = .recording) .recording (nextDecisionTimestamp tradeId) := by
  apply Protocol.Runs.bind
  refine consults_latest ⟨trivial, trivial, trivial⟩ ?_
  intro row found _
  apply Protocol.Runs.bind
  refine consults_ask ⟨trivial, trivial, trivial⟩ ?_
  intro now
  cases found with
  | none => exact .pure rfl
  | some latest => exact .pure rfl

private theorem consults_status (tradeId : String) :
    Consults (fun _ _ => True) .settled (requireTradeStatus tradeId) := by
  apply Protocol.Runs.bind
  apply Protocol.Runs.bind
  refine consults_latest ⟨trivial, trivial, trivial⟩ ?_
  intro row found _
  cases found with
  | none => exact .pure (.throw trivial)
  | some latest =>
    apply Protocol.Runs.bind
    refine consults_block trivial ?_
    intro block
    exact .pure (.pure trivial)

/-- A call that reads on knows more, and nothing else changes. -/
def Progress.Informs : Progress → Progress → Prop
  | .resuming tradeId (some held) seen passed, later =>
    ∃ more cleared, later = .resuming tradeId (some held) more cleared ∧ seen ⊆ more ∧ passed ⊆ cleared
  | progress, later => later = progress

private theorem Progress.informs_self (progress : Progress) : progress.Informs progress := by
  unfold Progress.Informs
  split
  · exact ⟨_, _, rfl, List.Subset.refl _, List.Subset.refl _⟩
  · rfl

private theorem recording_kept (informs : Progress.Informs progress later) (same : progress = .recording) :
    later = .recording := by
  subst same
  exact informs

private theorem consulting_grows : consulting.Grows Progress.Informs where
  permits := by
    intro progress later effect informs permitted
    unfold Progress.Informs at informs
    split at informs
    · obtain ⟨more, cleared, rfl, _, _⟩ := informs
      obtain ⟨_, reads, granted⟩ := permitted
      refine ⟨rfl, reads, ?_⟩
      cases effect with
      | saveBlockState => cases reads
      | _ => exact granted
    · exact informs ▸ permitted
  after := by
    intro progress later effect answer informs permitted
    unfold Progress.Informs at informs
    split at informs
    · obtain ⟨more, cleared, rfl, seen, passed⟩ := informs
      obtain ⟨_, reads, _⟩ := permitted
      cases effect with
      | saveDecision => cases reads
      | saveBlockState => cases reads
      | selectLatestDecision asked => exact ⟨_, _, rfl, by simpa using List.subset_append_of_subset_right _ seen, passed⟩
      | now =>
        refine ⟨_, _, rfl, seen, ?_⟩
        exact List.append_subset.mpr ⟨List.subset_append_of_subset_left _ (List.filter_subset _ seen),
          List.subset_append_of_subset_right _ passed⟩
      | _ => exact ⟨_, _, rfl, seen, passed⟩
    · rw [informs]
      exact Progress.informs_self _
  step := by
    intro progress effect answer permitted
    obtain ⟨begun, reads, _⟩ := permitted
    cases progress with
    | resuming asked held seen passed =>
      obtain ⟨held, rfl⟩ := Option.isSome_iff_exists.mp begun
      cases effect with
      | saveDecision => cases reads
      | saveBlockState => cases reads
      | selectLatestDecision asked => exact ⟨_, _, rfl, List.subset_append_right _ _, List.Subset.refl _⟩
      | now => exact ⟨_, _, rfl, List.Subset.refl _, List.subset_append_right _ _⟩
      | _ => exact ⟨_, _, rfl, List.Subset.refl _, List.Subset.refl _⟩
    | blocking asked started =>
      cases begun
      cases effect <;> first | rfl | cases reads
    | recording => rfl
    | settled => rfl

end Reads

section Follows

variable {progress : Progress}

/-- `Runs` for a task that may fail anywhere. -/
abbrev Proceeds {α : Type} (returns : Progress → α → Prop) (progress : Progress) (task : ComplianceTask α) : Prop :=
  progression.Runs returns (fun _ _ => True) progress task

theorem consulted {α : Type} {returns : Progress → α → Prop} {task : ComplianceTask α}
    (consults : Consults returns progress task) : Proceeds returns progress task := by
  apply Protocol.Follows.simulate ?_ ?_ ?_ (Eq.refl progress) consults
  · intro role part effect same permitted
    exact same ▸ permitted.2.2
  · intro role part effect answer same _
    exact same ▸ rfl
  · intro role part result same ends
    exact same ▸ ends

theorem proceeds_ask {effect : ComplianceEffect} {returns : Progress → ComplianceAnswer effect → Prop}
    (permitted : progress.permits effect) (answered : ∀ answer, returns (progress.after effect answer) answer) :
    Proceeds returns progress (askCompliance effect) :=
  Protocol.Runs.perform permitted answered

private theorem proceeds_ofExcept {α : Type} {returns : Progress → α → Prop} {result : Except Failure α}
    (returned : ∀ value, result = .ok value → returns progress value) :
    Proceeds returns progress (Task.ofExcept result) :=
  Protocol.Runs.ofExcept returned fun _ _ => trivial

/-- A creation reads before it records. -/
theorem consults_inputs (turns : List Bool) (tradeId : String) :
    Consults (fun progress _ => progress = .recording) .recording
      (Task.both turns (nextDecisionTimestamp tradeId) (getOracleProgressionBlock tradeId)) := by
  have block : Consults (fun progress _ => progress = .recording) .recording
      (getOracleProgressionBlock tradeId) := consults_block trivial fun _ => rfl
  have both := Protocol.Runs.both consulting_grows (fun _ _ _ => recording_kept) (fun _ _ _ => recording_kept)
    (fun _ _ _ _ _ => trivial) turns (consults_timestamp tradeId) block
  exact Protocol.Runs.mono both (fun _ _ same => same.1) fun _ _ _ => trivial

private theorem proceeds_decision (turns : List Bool) (input : DecisionCreateInput) :
    Proceeds (fun _ _ => True) .recording (createDecision turns input) := by
  apply Protocol.Runs.bind
  apply Protocol.Runs.mono (consulted (consults_inputs turns input.tradeId)) ?_ fun _ _ _ => trivial
  intro progress pair same
  subst same
  apply Protocol.Runs.bind
  refine proceeds_ask trivial ?_
  intro decisionId
  apply Protocol.Runs.bind
  refine proceeds_ask trivial ?_
  intro answer
  apply Protocol.Runs.bind
  apply proceeds_ofExcept
  intro _ _
  apply Protocol.Runs.bind
  refine consulted (consults_decision trivial ?_)
  intro found
  cases found with
  | none => exact .throw trivial
  | some stored => exact .pure trivial

/-- What both operational controls end with. -/
theorem proceeds_save {block : ProgressionBlock} {auditEntry : AuditLogEntry}
    (permitted : progress.permits (.saveBlockState block auditEntry))
    (last : ∀ answer, progress.after (.saveBlockState block auditEntry) answer = .settled) :
    Proceeds (fun progress _ => progress = .settled) progress (saveBlockStateWithAudit block auditEntry) := by
  apply Protocol.Runs.bind
  apply proceeds_ask permitted
  intro answer
  rw [last]
  apply Protocol.Runs.bind
  apply proceeds_ofExcept
  intro _ _
  apply Protocol.Runs.bind
  refine consulted (consults_block trivial ?_)
  intro found
  cases found with
  | none => exact .throw trivial
  | some stored => exact .pure rfl

theorem blockStateOf_map (row : Option ProgressionBlock) : blockStateOf (row.map mapBlockRow) = blockStateOf row := by
  cases row <;> rfl

theorem proceeds_blocking (input : OperationalControlInput) :
    Proceeds (fun _ _ => True) (.blocking input.tradeId false) (blockOracleProgression input) := by
  apply Protocol.Runs.bind
  apply Protocol.Runs.bind
  refine proceeds_ask rfl ?_
  intro answer
  apply Protocol.Runs.bind
  cases answer with
  | error failure => exact .throw trivial
  | ok row =>
    refine .pure (.pure ?_)
    rw [blockStateOf_map]
    by_cases blocked : blockStateOf row = .blocked
    · rw [if_pos blocked]
      exact .bind (.throw trivial)
    · rw [if_neg blocked]
      change Proceeds _ (Progress.after _ _ _) _
      rw [block_started blocked]
      apply Protocol.Runs.bind
      have resolved : Consults (fun progress _ => progress = .blocking input.tradeId true)
          (.blocking input.tradeId true) (resolveDecisionForTrade input.tradeId input.decisionId) :=
        consults_resolve ⟨rfl, trivial, trivial⟩ (fun _ => rfl) fun _ _ => rfl
      apply Protocol.Runs.mono (consulted resolved) ?_ fun _ _ _ => trivial
      intro progress found same
      subst same
      cases found with
      | none => exact .throw trivial
      | some decision =>
        apply Protocol.Runs.bind
        refine proceeds_ask trivial ?_
        intro updatedAt
        apply Protocol.Runs.bind
        have permitted : (Progress.blocking input.tradeId true).permits (.saveBlockState
            (input.block decision.decisionId updatedAt) (auditLogEntry "compliance.oracle_progression.blocked"
              "blocked" input.context (blockAuditMetadata (input.block decision.decisionId updatedAt)
                input.context.idempotencyKey))) := ⟨rfl, rfl⟩
        apply Protocol.Runs.mono (proceeds_save permitted fun _ => rfl) ?_ fun _ _ _ => trivial
        intro progress _ same
        subst same
        exact consulted (consults_status input.tradeId)

private theorem consults_window (member : row ∈ seen) (blockState : BlockState) :
    Consults (fun progress _ => ∃ cleared, progress = .resuming tradeId (some held) seen cleared ∧
      (row.reasonCode = "CMP_OVERRIDE_ACTIVE" → row ∈ cleared)) (.resuming tradeId (some held) seen passed)
      (checkOverrideWindow (mapDecisionRow row blockState)) := by
  unfold checkOverrideWindow
  by_cases override : row.reasonCode = "CMP_OVERRIDE_ACTIVE"
  · rw [if_pos (show (mapDecisionRow row blockState).reasonCode = "CMP_OVERRIDE_ACTIVE" from override)]
    rw [show (mapDecisionRow row blockState).overrideWindowEndsAt = row.overrideWindowEndsAt from rfl]
    cases window : row.overrideWindowEndsAt with
    | none => exact .throw trivial
    | some overrideWindowEndsAt =>
      apply Protocol.Runs.bind
      refine consults_ask ⟨rfl, trivial, trivial⟩ ?_
      intro now
      by_cases ended : overrideWindowEndsAt ≤ now
      · rw [if_pos ended]
        exact .throw trivial
      · rw [if_neg ended]
        refine .pure ⟨_, rfl, ?_⟩
        intro _
        have still : row.open now = true := by
          simpa [DecisionRow.open, window] using ended
        exact List.mem_append_left _ (List.mem_filter.mpr ⟨member, still⟩)
  · rw [if_neg (show ¬ (mapDecisionRow row blockState).reasonCode = "CMP_OVERRIDE_ACTIVE" from override)]
    exact .pure ⟨passed, rfl, fun active => absurd active override⟩

/-- The decision a resume goes by is one it has read and found good. -/
theorem consults_check {requested latest : Option (ComplianceDecision Int)}
    (read : ∀ decision, latest = some decision → ∃ row ∈ seen, ∃ blockState, decision = mapDecisionRow row blockState) :
    Consults (fun progress _ => ∃ more cleared row, progress = .resuming tradeId (some held) more cleared ∧
      Cleared more cleared row) (.resuming tradeId (some held) seen passed) (checkResume requested latest) := by
  unfold checkResume
  cases latest with
  | none => exact .throw trivial
  | some decision =>
    obtain ⟨row, member, blockState, rfl⟩ := read decision rfl
    dsimp only
    split
    · exact .bind (.throw trivial)
    · split
      · exact .bind (.throw trivial)
      · rename_i allowed
        apply Protocol.Runs.bind
        apply Protocol.Runs.mono (consults_window member blockState) ?_ fun _ _ _ => trivial
        intro progress _ cleared
        obtain ⟨cleared, rfl, active⟩ := cleared
        exact .pure ⟨seen, cleared, row, rfl, member, not_not.mp allowed, active⟩

/-- What a resume has of the latest decision. -/
def Known (tradeId held : String) (progress : Progress) (found : Option (ComplianceDecision Int)) : Prop :=
  ∃ seen passed, progress = .resuming tradeId (some held) seen passed ∧
    ∀ decision, found = some decision → ∃ row ∈ seen, ∃ blockState, decision = mapDecisionRow row blockState

private theorem known_maps (row : Option (DecisionRow Int)) (found : Option (ComplianceDecision Int))
    (maps : Maps found row) :
    Known tradeId held (Progress.after (.resuming tradeId (some held) seen passed) (.selectLatestDecision tradeId)
      (.ok row)) found := by
  refine ⟨_, _, rfl, ?_⟩
  intro decision same
  obtain ⟨blockState, rfl⟩ := maps
  obtain ⟨read, rfl, rfl⟩ := Option.map_eq_some_iff.mp same
  exact ⟨read, List.mem_append_left _ (by simp [rowsOf]), blockState, rfl⟩

private theorem known_kept (informs : Progress.Informs progress later) (known : Known tradeId held progress found) :
    Known tradeId held later found := by
  obtain ⟨seen, passed, rfl, read⟩ := known
  obtain ⟨more, cleared, rfl, wider, _⟩ := informs
  refine ⟨more, cleared, rfl, ?_⟩
  intro decision same
  obtain ⟨row, member, maps⟩ := read decision same
  exact ⟨row, wider member, maps⟩

theorem proceeds_resuming (turns : List Bool) (input : OperationalControlInput) :
    Proceeds (fun _ _ => True) (.resuming input.tradeId none [] []) (resumeOracleProgression turns input) := by
  apply Protocol.Runs.bind
  apply Protocol.Runs.bind
  refine proceeds_ask rfl ?_
  intro answer
  apply Protocol.Runs.bind
  cases answer with
  | error failure => exact .throw trivial
  | ok row =>
    refine .pure (.pure ?_)
    cases row with
    | none => exact .throw trivial
    | some existingBlock =>
      dsimp only [Option.map_some]
      by_cases free : existingBlock.blockState = .notBlocked
      · rw [if_pos (show (mapBlockRow existingBlock).blockState = .notBlocked from free)]
        exact .bind (.throw trivial)
      · rw [if_neg (show ¬ (mapBlockRow existingBlock).blockState = .notBlocked from free)]
        change Proceeds _ (Progress.after _ _ _) _
        rw [resume_started free]
        apply Protocol.Runs.bind
        have resolved : Consults (fun _ _ => True) (.resuming input.tradeId (some existingBlock.tradeId) [] [])
            (resolveDecisionForTrade input.tradeId input.decisionId) :=
          consults_resolve ⟨rfl, trivial, rfl⟩ (fun _ => trivial) fun _ _ => trivial
        have latest : Consults (Known input.tradeId existingBlock.tradeId)
            (.resuming input.tradeId (some existingBlock.tradeId) [] []) (getLatestDecision input.tradeId) := consults_latest ⟨rfl, trivial, rfl⟩ known_maps
        have kept : ∀ progress later found, Progress.Informs progress later →
            Known input.tradeId existingBlock.tradeId progress found →
              Known input.tradeId existingBlock.tradeId later found := fun _ _ _ => known_kept
        have both := Protocol.Runs.both consulting_grows (fun _ _ _ _ _ => trivial) kept
          (fun _ _ _ _ _ => trivial) turns resolved latest
        apply Protocol.Runs.mono (consulted both) ?_ fun _ _ _ => trivial
        intro progress pair known
        obtain ⟨_, seen, passed, rfl, read⟩ := known
        apply Protocol.Runs.bind
        apply Protocol.Runs.mono (consulted (consults_check read)) ?_ fun _ _ _ => trivial
        intro progress decision cleared
        obtain ⟨more, cleared, row, rfl, clear⟩ := cleared
        apply Protocol.Runs.bind
        refine proceeds_ask trivial ?_
        intro updatedAt
        apply Protocol.Runs.bind
        have permitted : ((Progress.resuming input.tradeId (some existingBlock.tradeId) more cleared).after .now
            updatedAt).permits (.saveBlockState (input.resumed (mapBlockRow existingBlock) decision.decisionId updatedAt)
              (auditLogEntry "compliance.oracle_progression.resumed" "not_blocked" input.context
                (blockAuditMetadata (input.resumed (mapBlockRow existingBlock) decision.decisionId updatedAt)
                  input.context.idempotencyKey))) :=
          ⟨rfl, rfl, row, clear.later (List.subset_append_right _ _)⟩
        apply Protocol.Runs.mono (proceeds_save permitted fun _ => rfl) ?_ fun _ _ _ => trivial
        intro progress _ same
        subst same
        exact consulted (consults_status input.tradeId)

theorem compliance_follows (timestampOf : String → Option Int) (call : ComplianceCall) :
    progression.Follows (fun _ _ => True) call.enter ((complianceServer timestampOf).program call) := by
  apply Protocol.Runs.follows
  cases call with
  | createDecision turns input =>
    apply Protocol.Runs.bind
    apply Protocol.Runs.mono (proceeds_decision turns input) ?_ fun _ _ _ => trivial
    intro progress decision _
    exact .pure trivial
  | blockOracleProgression input =>
    apply Protocol.Runs.bind
    apply Protocol.Runs.mono (proceeds_blocking input) ?_ fun _ _ _ => trivial
    intro progress status _
    exact .pure trivial
  | resumeOracleProgression turns input =>
    apply Protocol.Runs.bind
    apply Protocol.Runs.mono (proceeds_resuming turns input) ?_ fun _ _ _ => trivial
    intro progress status _
    exact .pure trivial

end Follows

section Advances

variable {progress reached : Progress} {event : Event ComplianceEffect ComplianceAnswer}

/-- What a permitted statement is and where it leads. -/
inductive Advances : Progress → Event ComplianceEffect ComplianceAnswer → Progress → Prop where
  | record (effect : ComplianceEffect) (answer : ComplianceAnswer effect)
      (other : ∀ block auditEntry, effect ≠ .saveBlockState block auditEntry) :
      Advances .recording ⟨effect, answer⟩ .recording
  | startBlock (tradeId : String) (row : Option ProgressionBlock) (free : blockStateOf row ≠ .blocked) :
      Advances (.blocking tradeId false) ⟨.loadBlockState tradeId, .ok row⟩ (.blocking tradeId true)
  | startResume (tradeId : String) (block : ProgressionBlock) (seen passed : List (DecisionRow Int))
      (taken : block.blockState ≠ .notBlocked) : Advances (.resuming tradeId none seen passed)
        ⟨.loadBlockState tradeId, .ok (some block)⟩ (.resuming tradeId (some block.tradeId) seen passed)
  | refuse (progress : Progress) (tradeId : String) (answer : Except Failure (Option ProgressionBlock)) :
      Advances progress ⟨.loadBlockState tradeId, answer⟩ .settled
  | look (progress : Progress) (effect : ComplianceEffect) (answer : ComplianceAnswer effect)
      (begun : progress.Begun) (reads : effect.Reads) : Advances progress ⟨effect, answer⟩ progress
  | latest (tradeId held : String) (seen passed : List (DecisionRow Int))
      (answer : Except Failure (Option (DecisionRow Int))) :
      Advances (.resuming tradeId (some held) seen passed) ⟨.selectLatestDecision tradeId, answer⟩
        (.resuming tradeId (some held) (rowsOf answer ++ seen) passed)
  | clock (tradeId held : String) (seen passed : List (DecisionRow Int)) (now : Int) :
      Advances (.resuming tradeId (some held) seen passed) ⟨.now, now⟩
        (.resuming tradeId (some held) seen (seen.filter (DecisionRow.open now) ++ passed))
  | block (block : ProgressionBlock) (auditEntry : AuditLogEntry) (answer : Except Failure Unit)
      (state : block.blockState = .blocked) :
      Advances (.blocking block.tradeId true) ⟨.saveBlockState block auditEntry, answer⟩ .settled
  | resume (tradeId : String) (seen passed : List (DecisionRow Int)) (block : ProgressionBlock)
      (auditEntry : AuditLogEntry) (answer : Except Failure Unit) (state : block.blockState = .notBlocked)
      (cleared : Cleared seen passed decision) : Advances (.resuming tradeId (some block.tradeId) seen passed)
        ⟨.saveBlockState block auditEntry, answer⟩ .settled

theorem advances_of_permits (permitted : progress.permits event.effect) :
    Advances progress event (progress.after event.effect event.answer) := by
  obtain ⟨effect, answer⟩ := event
  cases progress with
  | recording =>
    cases effect with
    | saveBlockState => cases permitted
    | _ => exact .record _ _ (by simp)
  | blocking tradeId begun =>
    cases begun with
    | false =>
      cases permitted
      cases answer with
      | error failure => exact .refuse _ _ _
      | ok row =>
        dsimp only
        by_cases blocked : blockStateOf row = .blocked
        · rw [block_refused blocked]
          exact .refuse _ _ _
        · rw [block_started blocked]
          exact .startBlock _ _ blocked
    | true =>
      cases effect with
      | saveBlockState block auditEntry =>
        obtain ⟨rfl, state⟩ := permitted
        exact .block _ _ _ state
      | saveDecision => cases permitted
      | _ => exact .look _ _ _ rfl trivial
  | resuming tradeId held seen passed =>
    cases held with
    | none =>
      cases permitted
      cases answer with
      | error failure => exact .refuse _ _ _
      | ok row =>
        cases row with
        | none => exact .refuse _ _ _
        | some block =>
          dsimp only
          by_cases free : block.blockState = .notBlocked
          · rw [resume_refused free]
            exact .refuse _ _ _
          · rw [resume_started free]
            exact .startResume _ _ _ _ free
    | some held =>
      cases effect with
      | selectLatestDecision asked =>
        cases permitted
        exact .latest _ _ _ _ _
      | now => exact .clock _ _ _ _ _
      | saveBlockState block auditEntry =>
        obtain ⟨rfl, state, decision, cleared⟩ := permitted
        exact .resume _ _ _ _ _ _ state cleared
      | saveDecision => cases permitted
      | _ => exact .look _ _ _ rfl trivial
  | settled =>
    have reads : effect.Reads := permitted
    exact .look _ _ _ trivial reads

/-- None of these events writes a block row. -/
def Unsaved (events : List (Event ComplianceEffect ComplianceAnswer)) : Prop :=
  ∀ block auditEntry answer, ⟨.saveBlockState block auditEntry, answer⟩ ∉ events

/-- What the events of a call say about where it stands. -/
def Progress.Told (call : ComplianceCall) (events : List (Event ComplianceEffect ComplianceAnswer)) :
    Progress → Prop
  | .blocking tradeId begun => ∃ input, call = .blockOracleProgression input ∧ input.tradeId = tradeId ∧
      Unsaved events ∧ (begun = false ↔ events = [])
  | .resuming tradeId held seen passed => ∃ turns input, call = .resumeOracleProgression turns input ∧
      input.tradeId = tradeId ∧ Unsaved events ∧ (held = none ↔ events = []) ∧ passed ⊆ seen ∧
        (seen ≠ [] → ∃ answer, ⟨.selectLatestDecision tradeId, answer⟩ ∈ events)
  | _ => True

private theorem told_enter (call : ComplianceCall) : call.enter.Told call [] := by
  cases call with
  | createDecision turns input => trivial
  | blockOracleProgression input => exact ⟨input, rfl, rfl, fun _ _ _ => List.not_mem_nil, by simp⟩
  | resumeOracleProgression turns input =>
    exact ⟨turns, input, rfl, rfl, fun _ _ _ => List.not_mem_nil, by simp, List.Subset.refl _, by simp⟩

private theorem Unsaved.cons {events : List (Event ComplianceEffect ComplianceAnswer)} (unsaved : Unsaved events)
    (other : ∀ block auditEntry answer, event ≠ ⟨.saveBlockState block auditEntry, answer⟩) :
    Unsaved (event :: events) := by
  intro block auditEntry answer member
  rcases List.mem_cons.mp member with same | sooner
  · exact other block auditEntry answer same.symm
  · exact unsaved block auditEntry answer sooner

private theorem told_advances {events : List (Event ComplianceEffect ComplianceAnswer)}
    (told : progress.Told call events) (advances : Advances progress event reached) :
    reached.Told call (event :: events) := by
  cases advances with
  | record => trivial
  | startBlock tradeId row free =>
    obtain ⟨input, same, here, unsaved, _⟩ := told
    exact ⟨input, same, here, unsaved.cons (by simp), by simp⟩
  | startResume tradeId block seen passed taken =>
    obtain ⟨turns, input, same, here, unsaved, _, subset, read⟩ := told
    refine ⟨turns, input, same, here, unsaved.cons (by simp), by simp, subset, ?_⟩
    intro some
    obtain ⟨answer, member⟩ := read some
    exact ⟨answer, List.mem_cons_of_mem _ member⟩
  | refuse => trivial
  | look progress effect answer begun reads =>
    have other : ∀ block auditEntry answer', (⟨effect, answer⟩ : Event ComplianceEffect ComplianceAnswer) ≠
        ⟨.saveBlockState block auditEntry, answer'⟩ := by
      intro block auditEntry answer' same
      cases same
      cases reads
    cases progress with
    | recording => trivial
    | blocking tradeId started =>
      cases begun
      obtain ⟨input, same, here, unsaved, _⟩ := told
      exact ⟨input, same, here, unsaved.cons other, by simp⟩
    | resuming tradeId held seen passed =>
      obtain ⟨held, rfl⟩ := Option.isSome_iff_exists.mp begun
      obtain ⟨turns, input, same, here, unsaved, _, subset, read⟩ := told
      refine ⟨turns, input, same, here, unsaved.cons other, by simp, subset, ?_⟩
      intro some
      obtain ⟨answer', member⟩ := read some
      exact ⟨answer', List.mem_cons_of_mem _ member⟩
    | settled => trivial
  | latest tradeId held seen passed answer =>
    obtain ⟨turns, input, same, here, unsaved, _, subset, _⟩ := told
    exact ⟨turns, input, same, here, unsaved.cons (by simp), by simp, List.subset_append_of_subset_right _ subset,
      fun _ => ⟨answer, List.mem_cons_self⟩⟩
  | clock tradeId held seen passed now =>
    obtain ⟨turns, input, same, here, unsaved, _, subset, read⟩ := told
    refine ⟨turns, input, same, here, unsaved.cons (by simp), by simp, ?_, ?_⟩
    · exact List.append_subset.mpr ⟨List.filter_subset_self seen, subset⟩
    · intro some
      obtain ⟨answer, member⟩ := read some
      exact ⟨answer, List.mem_cons_of_mem _ member⟩
  | block => trivial
  | resume => trivial

theorem traced_progress {events : List (Event ComplianceEffect ComplianceAnswer)}
    (traced : progression.Traced call.enter events progress) : progress.Told call events := by
  induction traced with
  | start => exact told_enter call
  | next earlier permitted ih => exact told_advances ih (advances_of_permits permitted)

end Advances

end Agroasys.Gateway
