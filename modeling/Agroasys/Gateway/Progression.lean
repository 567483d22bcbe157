import Agroasys.Gateway.Consultations

namespace Agroasys.Gateway

open Function Agroasys.Foundation

/-- The decision is an ALLOW that has not expired. -/
def DecisionRow.Allows (now : Int) (decision : DecisionRow Int) : Prop :=
  decision.result = .allow ∧ (decision.reasonCode = "CMP_OVERRIDE_ACTIVE" → decision.open now = true)

/-- The latest decision of the trade is an ALLOW that has not expired. -/
def ComplianceWorld.Allowed (world : ComplianceWorld) (tradeId : String) : Prop :=
  ∃ latest, latestDecision tradeId world.decisions = some latest ∧ latest.Allows world.now

/-- The step is a call's write of this block row, and the row is there after it. -/
def Commits (entry : ComplianceEntry) (pid : Nat) (block : ProgressionBlock) : Prop :=
  ∃ auditEntry answer, entry.label = .perform pid ⟨.saveBlockState block auditEntry, answer⟩ ∧
    entry.after.world.blocks block.tradeId = some block

/-- The call goes on, has read something and has not written the block row. -/
def Deciding (history : ComplianceHistory) (pool : CompliancePool) (pid : Nat) : Prop :=
  pool.Live pid ∧ (∃ event, Made history pid event) ∧
    ∀ block auditEntry answer, ¬ Made history pid ⟨.saveBlockState block auditEntry, answer⟩

/-- The call goes on and relies on the latest decision of the trade as it has read it. -/
def Relies (history : ComplianceHistory) (pool : CompliancePool) (pid : Nat) (tradeId : String) : Prop :=
  Deciding history pool pid ∧ ∃ answer, Made history pid ⟨.selectLatestDecision tradeId, answer⟩

/-- Two blocks of one trade do not overlap from read to write, nor do two resumes, and
while a resume relies on the latest decision of its trade none but an unexpired ALLOW
takes its place and the clock does not pass the end of its override window. -/
structure Undisturbed (earlier : ComplianceHistory) (entry : ComplianceEntry) : Prop where
  blocks : ∀ pid other input again block, Began earlier pid (.blockOracleProgression input) →
    Began earlier other (.blockOracleProgression again) → again.tradeId = input.tradeId →
    Commits entry pid block → Deciding earlier entry.before other → other = pid
  resumes : ∀ pid other turns rounds input again block, Began earlier pid (.resumeOracleProgression turns input) →
    Began earlier other (.resumeOracleProgression rounds again) → again.tradeId = input.tradeId →
    Commits entry pid block → Deciding earlier entry.before other → other = pid
  decisions : ∀ pid turns input latest, Began earlier pid (.resumeOracleProgression turns input) →
    Relies earlier entry.before pid input.tradeId →
    latestDecision input.tradeId entry.after.world.decisions = some latest →
    latestDecision input.tradeId entry.before.world.decisions ≠ some latest → latest.Allows entry.after.world.now
  clock : ∀ pid turns input latest, Began earlier pid (.resumeOracleProgression turns input) →
    Relies earlier entry.before pid input.tradeId →
    latestDecision input.tradeId entry.before.world.decisions = some latest →
    latest.Allows entry.before.world.now → latest.Allows entry.after.world.now

/-- No block of the trade was committed after the call's first read. -/
def Unblocked (history : ComplianceHistory) (pid : Nat) (tradeId : String) : Prop :=
  ∀ later entry earlier, history = later ++ entry :: earlier → ∀ other block, Commits entry other block →
    block.tradeId = tradeId → block.blockState = .blocked → ∀ event, ¬ Made earlier pid event

/-- A write of `not_blocked` finds an unexpired ALLOW and overwrites no block that its
call has not seen. -/
def ResumesSafely (earlier : ComplianceHistory) (entry : ComplianceEntry) : Prop :=
  ∀ pid block, Commits entry pid block → block.blockState = .notBlocked →
    entry.before.world.Allowed block.tradeId ∧ Unblocked earlier pid block.tradeId

section Invariants

variable {timestampOf : String → Option Int} {history : ComplianceHistory} {pool next : CompliancePool}
  {entry : ComplianceEntry}

/-- Where the calls of a history stand. -/
abbrev progresses (history : ComplianceHistory) : Nat → Option Progress :=
  casting progression ComplianceCall.enter history

/-- What a resume can count on while it decides. -/
structure Awaits (history : ComplianceHistory) (world : ComplianceWorld) (pid : Nat) (tradeId : String)
    (seen passed : List (DecisionRow Int)) : Prop where
  blocked : blockStateOf (world.blocks tradeId) = .blocked
  unblocked : Unblocked history pid tradeId
  known : ∀ decision ∈ seen, latestDecision tradeId world.decisions = some decision ∨ world.Allowed tradeId
  granted : ∀ decision ∈ passed, decision.result = .allow → world.Allowed tradeId

/-- While a block decides its trade is free, and while a resume does it is blocked. -/
structure Guarded (history : ComplianceHistory) (pool : CompliancePool) : Prop where
  rows : ∀ tradeId block, pool.world.blocks tradeId = some block →
    block.tradeId = tradeId ∧ block.blockState ≠ .resumePending
  free : ∀ pid tradeId, progresses history pid = some (.blocking tradeId true) → pool.Live pid →
    blockStateOf (pool.world.blocks tradeId) = .notBlocked
  awaits : ∀ pid tradeId held seen passed, progresses history pid = some (.resuming tradeId (some held) seen passed) →
    pool.Live pid → held = tradeId ∧ Awaits history pool.world pid tradeId seen passed

theorem began_told (run : (complianceServer timestampOf).system.Run history pool)
    (stands : progresses history pid = some progress) :
    ∃ call, Began history pid call ∧ progress.Told call (eventsOf pid history) := by
  obtain ⟨call, began, traced⟩ := Server.casting_traced (compliance_follows timestampOf) run stands
  exact ⟨call, began, traced_progress traced⟩

private theorem deciding_of (unsaved : Unsaved (eventsOf pid history)) (events : eventsOf pid history ≠ [])
    (live : pool.Live pid) : Deciding history pool pid := by
  obtain ⟨event, member⟩ := List.exists_mem_of_ne_nil _ events
  exact ⟨live, ⟨event, made_iff.mpr member⟩, fun block auditEntry answer made =>
    unsaved block auditEntry answer (made_iff.mp made)⟩

/-- A block between its read and its write. -/
theorem block_deciding (run : (complianceServer timestampOf).system.Run history pool)
    (stands : progresses history pid = some (.blocking tradeId true)) (live : pool.Live pid) :
    ∃ input, Began history pid (.blockOracleProgression input) ∧ input.tradeId = tradeId ∧
      Deciding history pool pid := by
  obtain ⟨call, began, input, rfl, same, unsaved, events⟩ := began_told run stands
  exact ⟨input, began, same, deciding_of unsaved (mt events.mpr (by simp)) live⟩

/-- A resume between its read and its write. -/
theorem resume_deciding (run : (complianceServer timestampOf).system.Run history pool)
    (stands : progresses history pid = some (.resuming tradeId (some held) seen passed)) (live : pool.Live pid) :
    ∃ turns input, Began history pid (.resumeOracleProgression turns input) ∧ input.tradeId = tradeId ∧
      Deciding history pool pid ∧ passed ⊆ seen ∧ (seen ≠ [] → Relies history pool pid tradeId) := by
  obtain ⟨call, began, turns, input, rfl, same, unsaved, events, subset, read⟩ := began_told run stands
  have deciding := deciding_of unsaved (mt events.mpr (by simp)) live
  refine ⟨turns, input, began, same, deciding, subset, ?_⟩
  intro some
  obtain ⟨answer, member⟩ := read some
  exact ⟨deciding, answer, made_iff.mpr member⟩

private theorem Unblocked.cons (unblocked : Unblocked history pid tradeId)
    (other : ∀ pid block, Commits entry pid block → block.tradeId = tradeId → block.blockState ≠ .blocked) :
    Unblocked (entry :: history) pid tradeId := by
  intro later blocking earlier same pid' block commits named blocked
  cases later with
  | nil =>
    obtain ⟨rfl, rfl⟩ := List.cons.inj same
    exact absurd blocked (other pid' block commits named)
  | cons _ later =>
    obtain ⟨rfl, rfl⟩ := List.cons.inj same
    exact unblocked later blocking earlier rfl pid' block commits named blocked

/-- An unexpired ALLOW stays one while a resume relies on it. -/
theorem allowed_kept (undisturbed : Undisturbed history entry)
    (began : Began history pid (.resumeOracleProgression turns input)) (relies : Relies history entry.before pid input.tradeId)
    (decided : ∀ tradeId, latestDecision tradeId entry.before.world.decisions ≠ none →
      latestDecision tradeId entry.after.world.decisions ≠ none)
    (allowed : entry.before.world.Allowed input.tradeId) : entry.after.world.Allowed input.tradeId := by
  obtain ⟨latest, present, allows⟩ := allowed
  obtain ⟨now, after⟩ := Option.ne_none_iff_exists'.mp (decided input.tradeId (by simp [present]))
  by_cases same : latestDecision input.tradeId entry.before.world.decisions = some now
  · cases present.symm.trans same
    exact ⟨latest, after, undisturbed.clock _ _ _ _ began relies present allows⟩
  · exact ⟨now, after, undisturbed.decisions _ _ _ _ began relies after same⟩

/-- What a resume counts on is kept by every step that writes no block of its trade. -/
theorem Awaits.kept (undisturbed : Undisturbed history entry)
    (run : (complianceServer timestampOf).system.Run history entry.before)
    (stands : progresses history pid = some (.resuming tradeId (some held) seen passed)) (live : entry.before.Live pid)
    (awaits : Awaits history entry.before.world pid tradeId seen passed)
    (decided : ∀ tradeId, latestDecision tradeId entry.before.world.decisions ≠ none →
      latestDecision tradeId entry.after.world.decisions ≠ none)
    (blocks : entry.after.world.blocks tradeId = entry.before.world.blocks tradeId)
    (other : ∀ pid block, Commits entry pid block → block.tradeId = tradeId → block.blockState ≠ .blocked) :
    Awaits (entry :: history) entry.after.world pid tradeId seen passed := by
  obtain ⟨turns, input, began, rfl, _, subset, relying⟩ := resume_deciding run stands live
  refine ⟨blocks ▸ awaits.blocked, awaits.unblocked.cons other, ?_, ?_⟩
  · intro decision member
    have relies := relying (List.ne_nil_of_mem member)
    rcases awaits.known decision member with same | allowed
    · obtain ⟨latest, after⟩ := Option.ne_none_iff_exists'.mp (decided input.tradeId (by simp [same]))
      by_cases still : latest = decision
      · exact .inl (still ▸ after)
      · refine .inr ⟨latest, after, undisturbed.decisions _ _ _ _ began relies after ?_⟩
        rw [same, ne_eq, Option.some.injEq]
        exact Ne.symm still
    · exact .inr (allowed_kept undisturbed began relies decided allowed)
  · intro decision member allow
    have relies := relying (List.ne_nil_of_mem (subset member))
    exact allowed_kept undisturbed began relies decided (awaits.granted decision member allow)

section Acts

variable {event : Event ComplianceEffect ComplianceAnswer} {progress : Progress}

/-- A write of a block row is a block's, whose trade is free, or a resume's, whose trade
is blocked. -/
theorem Guarded.writer (guarded : Guarded history pool)
    (acts : (complianceServer timestampOf).Acts progression ComplianceCall.enter history pool pid
      ⟨.saveBlockState block auditEntry, answer⟩ progress next) :
    (progress = .blocking block.tradeId true ∧ block.blockState = .blocked ∧
        blockStateOf (pool.world.blocks block.tradeId) = .notBlocked) ∨
      ∃ seen passed decision, progress = .resuming block.tradeId (some block.tradeId) seen passed ∧
        block.blockState = .notBlocked ∧ Cleared seen passed decision ∧
          Awaits history pool.world pid block.tradeId seen passed := by
  have stands := acts.assigned
  have advances := advances_of_permits acts.permitted
  cases progress with
  | recording => cases acts.permitted
  | blocking tradeId begun =>
    cases begun with
    | false => cases acts.permitted
    | true =>
      obtain ⟨rfl, state⟩ := acts.permitted
      exact .inl ⟨rfl, state, guarded.free pid _ stands acts.live⟩
  | resuming tradeId held seen passed =>
    cases held with
    | none => cases acts.permitted
    | some held =>
      obtain ⟨rfl, state, decision, cleared⟩ := acts.permitted
      obtain ⟨rfl, awaits⟩ := guarded.awaits pid tradeId _ seen passed stands acts.live
      exact .inr ⟨seen, passed, decision, rfl, state, cleared, awaits⟩
  | settled => cases acts.permitted

private theorem commits_label (commits : Commits ⟨pool, .perform pid event, next⟩ other block) :
    ∃ auditEntry answer, event = ⟨.saveBlockState block auditEntry, answer⟩ ∧ other = pid := by
  obtain ⟨auditEntry, answer, label, _⟩ := commits
  cases label
  exact ⟨auditEntry, answer, rfl, rfl⟩

/-- The trade of a block between its read and its write stays free. -/
theorem Guarded.free_kept (guarded : Guarded history pool)
    (undisturbed : Undisturbed history ⟨pool, .perform pid event, next⟩)
    (acts : (complianceServer timestampOf).Acts progression ComplianceCall.enter history pool pid event progress next)
    (stands : progresses history other = some (.blocking tradeId true)) (live : pool.Live other)
    (different : other ≠ pid) : blockStateOf (next.world.blocks tradeId) = .notBlocked := by
  have free := guarded.free other tradeId stands live
  obtain ⟨_, ⟨same, _⟩ | ⟨block, auditEntry, answer, rfl, same | changed⟩⟩ := served_blocks acts.served
  · rw [same]
    exact free
  · rw [same]
    exact free
  · by_cases here : block.tradeId = tradeId
    · subst here
      rcases guarded.writer acts with ⟨rfl, _, _⟩ | ⟨seen, passed, decision, rfl, state, _, _⟩
      · obtain ⟨input, began, same, _⟩ := block_deciding acts.run acts.assigned acts.live
        obtain ⟨again, begun, named, deciding⟩ := block_deciding acts.run stands live
        have commits : Commits ⟨pool, .perform pid ⟨.saveBlockState block auditEntry, answer⟩, next⟩ pid block :=
          ⟨auditEntry, answer, rfl, by rw [changed, update_self]⟩
        exact absurd (undisturbed.blocks _ _ _ _ _ began begun (named.trans same.symm) commits deciding) different
      · rw [changed, update_self]
        exact state
    · rw [changed, update_of_ne (Ne.symm here)]
      exact free

/-- What another resume counts on is kept. -/
theorem Guarded.awaits_kept (guarded : Guarded history pool)
    (undisturbed : Undisturbed history ⟨pool, .perform pid event, next⟩)
    (acts : (complianceServer timestampOf).Acts progression ComplianceCall.enter history pool pid event progress next)
    (stands : progresses history other = some (.resuming tradeId (some held) seen passed)) (live : pool.Live other)
    (different : other ≠ pid) : held = tradeId ∧
      Awaits (⟨pool, .perform pid event, next⟩ :: history) next.world other tradeId seen passed := by
  obtain ⟨named, awaits⟩ := guarded.awaits other tradeId held seen passed stands live
  refine ⟨named, ?_⟩
  obtain ⟨moderate, ⟨same, quiet⟩ | ⟨block, auditEntry, answer, rfl, changed⟩⟩ := served_blocks acts.served
  · apply Awaits.kept undisturbed acts.run stands live awaits moderate.decided (congrFun same tradeId)
    intro pid' block commits
    obtain ⟨auditEntry, answer, label, _⟩ := commits_label commits
    exact absurd label (quiet block auditEntry answer)
  · by_cases here : block.tradeId = tradeId
    · subst here
      rcases guarded.writer acts with ⟨_, _, free⟩ | ⟨more, cleared, decision, rfl, state, _, _⟩
      · rw [awaits.blocked] at free
        cases free
      · rcases changed with same | changed
        · apply Awaits.kept undisturbed acts.run stands live awaits moderate.decided (congrFun same _)
          intro pid' block' commits _ blocked
          obtain ⟨_, _, label, _⟩ := commits_label commits
          cases label
          rw [state] at blocked
          cases blocked
        · obtain ⟨turns, input, began, same, _⟩ := resume_deciding acts.run acts.assigned acts.live
          obtain ⟨rounds, again, begun, named, deciding, _⟩ := resume_deciding acts.run stands live
          have commits : Commits ⟨pool, .perform pid ⟨.saveBlockState block auditEntry, answer⟩, next⟩ pid block :=
            ⟨auditEntry, answer, rfl, by rw [changed, update_self]⟩
          exact absurd (undisturbed.resumes _ _ _ _ _ _ _ began begun (named.trans same.symm) commits deciding)
            different
    · apply Awaits.kept undisturbed acts.run stands live awaits moderate.decided
      · rcases changed with same | changed
        · exact congrFun same tradeId
        · rw [changed, update_of_ne (Ne.symm here)]
      · intro pid' block' commits same
        obtain ⟨_, _, label, _⟩ := commits_label commits
        cases label
        exact absurd same here

/-- No call commits a block by a statement that is none. -/
theorem uncommitted (quiet : ∀ block auditEntry answer, event ≠ ⟨.saveBlockState block auditEntry, answer⟩) :
    ∀ other block, Commits ⟨pool, .perform pid event, next⟩ other block → block.tradeId = tradeId →
      block.blockState ≠ .blocked := by
  intro other block commits
  obtain ⟨auditEntry, answer, label, _⟩ := commits_label commits
  exact absurd label (quiet block auditEntry answer)

/-- A block that has just read is between its read and its write, and its trade is free. -/
theorem Guarded.own_free (guarded : Guarded history pool)
    (acts : (complianceServer timestampOf).Acts progression ComplianceCall.enter history pool pid event progress next)
    (advances : Advances progress event (.blocking tradeId true)) :
    blockStateOf (next.world.blocks tradeId) = .notBlocked := by
  have stands := acts.assigned
  have served := acts.served
  cases advances with
  | startBlock _ row free =>
    have same := served_block served
    rw [served_read (by trivial) served]
    subst same
    cases present : pool.world.blocks tradeId with
    | none => rfl
    | some block =>
      rw [present] at free
      have legal := (guarded.rows tradeId block present).2
      unfold blockStateOf at free ⊢
      dsimp only [Option.map_some, Option.getD_some] at free ⊢
      cases state : block.blockState with
      | notBlocked => rfl
      | blocked => exact absurd state free
      | resumePending => exact absurd state legal
  | look _ effect answer begun reads =>
    rw [served_read reads served]
    exact guarded.free pid tradeId stands acts.live

/-- What a resume has just read it can count on. -/
theorem Guarded.own_awaits (guarded : Guarded history pool)
    (undisturbed : Undisturbed history ⟨pool, .perform pid event, next⟩)
    (acts : (complianceServer timestampOf).Acts progression ComplianceCall.enter history pool pid event progress next)
    (advances : Advances progress event (.resuming tradeId (some held) seen passed)) : held = tradeId ∧
      Awaits (⟨pool, .perform pid event, next⟩ :: history) next.world pid tradeId seen passed := by
  have stands := acts.assigned
  have served := acts.served
  cases advances with
  | startResume _ block _ _ taken =>
    have same := served_block served
    rw [served_read (by trivial) served]
    obtain ⟨named, legal⟩ := guarded.rows tradeId block same.symm
    obtain ⟨call, began, turns, input, _, _, _, events, subset, read⟩ := began_told acts.run stands
    have none := events.mp rfl
    have unread : seen = [] := by
      by_contra some
      obtain ⟨answer, member⟩ := read some
      rw [none] at member
      cases member
    subst unread
    cases List.eq_nil_of_subset_nil subset
    refine ⟨named, ?_, ?_, by simp, by simp⟩
    · rw [← same]
      cases state : block.blockState with
      | notBlocked => exact absurd state taken
      | blocked => exact state
      | resumePending => exact absurd state legal
    · apply Unblocked.cons ?_ (uncommitted (by simp))
      intro later entry earlier split other block' _ _ _ event' made
      have member := made_iff.mp (split ▸ made.append later entry)
      rw [none] at member
      cases member
  | look _ effect answer begun reads =>
    obtain ⟨named, awaits⟩ := guarded.awaits pid tradeId held seen passed stands acts.live
    refine ⟨named, ?_⟩
    have same := served_read reads served
    apply Awaits.kept undisturbed acts.run stands acts.live awaits
    · intro tradeId
      rw [same]
      exact id
    · rw [same]
    · apply uncommitted
      intro block auditEntry answer' written
      cases written
      cases reads
  | latest _ _ seen _ answer =>
    obtain ⟨named, awaits⟩ := guarded.awaits pid tradeId held seen passed stands acts.live
    rw [served_read (by trivial) served]
    refine ⟨named, awaits.blocked, awaits.unblocked.cons (uncommitted (by simp)), ?_, awaits.granted⟩
    intro decision member
    rcases List.mem_append.mp member with fresh | sooner
    · cases answer with
      | error failure => cases fresh
      | ok row =>
        have same := served_latest served
        subst same
        exact .inl (Option.mem_toList.mp fresh)
    · exact awaits.known decision sooner
  | clock _ _ _ passed now =>
    obtain ⟨named, awaits⟩ := guarded.awaits pid tradeId held seen passed stands acts.live
    have time := served_now served
    rw [served_read (by trivial) served]
    refine ⟨named, awaits.blocked, awaits.unblocked.cons (uncommitted (by simp)), awaits.known, ?_⟩
    intro decision member allow
    rcases List.mem_append.mp member with fresh | sooner
    · obtain ⟨seen', still⟩ := List.mem_filter.mp fresh
      rcases awaits.known decision seen' with same | allowed
      · exact ⟨decision, same, allow, fun _ => time ▸ still⟩
      · exact allowed
    · exact awaits.granted decision sooner allow

end Acts

private theorem guarded_perform (guarded : Guarded history pool)
    (undisturbed : Undisturbed history ⟨pool, .perform pid event, next⟩)
    (acts : (complianceServer timestampOf).Acts progression ComplianceCall.enter history pool pid event progress next) :
    Guarded (⟨pool, .perform pid event, next⟩ :: history) next := by
  have stands : progresses (⟨pool, .perform pid event, next⟩ :: history) =
      update (progresses history) pid (some (progress.after event.effect event.answer)) :=
    casting_perform acts.assigned
  have advances := advances_of_permits acts.permitted
  generalize progress.after event.effect event.answer = reached at stands advances
  refine ⟨?_, ?_, ?_⟩
  · intro tradeId block present
    obtain ⟨_, ⟨same, _⟩ | ⟨written, auditEntry, answer, rfl, same | changed⟩⟩ := served_blocks acts.served
    · exact guarded.rows tradeId block (same ▸ present)
    · exact guarded.rows tradeId block (same ▸ present)
    · rw [changed] at present
      by_cases here : tradeId = written.tradeId
      · subst here
        rw [update_self, Option.some.injEq] at present
        subst present
        refine ⟨rfl, ?_⟩
        rcases guarded.writer acts with ⟨_, state, _⟩ | ⟨_, _, _, _, state, _⟩
        · simp [state]
        · simp [state]
      · rw [update_of_ne here] at present
        exact guarded.rows tradeId block present
  · intro other tradeId assigned live
    rw [stands] at assigned
    rcases update_assigned assigned with ⟨rfl, rfl⟩ | ⟨different, assigned⟩
    · exact guarded.own_free acts advances
    · exact guarded.free_kept undisturbed acts assigned (acts.before live) different
  · intro other tradeId held seen passed assigned live
    rw [stands] at assigned
    rcases update_assigned assigned with ⟨rfl, rfl⟩ | ⟨different, assigned⟩
    · exact guarded.own_awaits undisturbed acts advances
    · exact guarded.awaits_kept undisturbed acts assigned (acts.before live) different

/-- A step that is no statement leaves the calls' trades as they are. -/
theorem Guarded.aside (guarded : Guarded history entry.before) (undisturbed : Undisturbed history entry)
    (run : (complianceServer timestampOf).system.Run history entry.before)
    (aside : ∀ pid event, entry.label ≠ .perform pid event)
    (decisions : entry.after.world.decisions = entry.before.world.decisions)
    (blocks : entry.after.world.blocks = entry.before.world.blocks)
    (stood : ∀ pid progress, progresses (entry :: history) pid = some progress → progress.Begun →
      entry.after.Live pid → progress ≠ .recording → progress ≠ .settled →
      progresses history pid = some progress ∧ entry.before.Live pid) :
    Guarded (entry :: history) entry.after := by
  refine ⟨?_, ?_, ?_⟩
  · rw [blocks]
    exact guarded.rows
  · intro pid tradeId assigned live
    obtain ⟨assigned, live⟩ := stood pid _ assigned rfl live (by simp) (by simp)
    rw [blocks]
    exact guarded.free pid tradeId assigned live
  · intro pid tradeId held seen passed assigned live
    obtain ⟨assigned, live⟩ := stood pid _ assigned rfl live (by simp) (by simp)
    obtain ⟨named, awaits⟩ := guarded.awaits pid tradeId held seen passed assigned live
    refine ⟨named, awaits.kept undisturbed run assigned live ?_ (by rw [blocks]) ?_⟩
    · intro tradeId
      rw [decisions]
      exact id
    · intro other block commits
      obtain ⟨_, _, label, _⟩ := commits
      exact absurd label (aside other _)

private theorem run_guarded (run : (complianceServer timestampOf).system.Run history pool)
    (undisturbed : Throughout Undisturbed history) : Guarded history pool := by
  apply Server.run_kept (compliance_follows timestampOf) ?_ ?_ ?_ ?_ run undisturbed
  · intro pool initial
    refine ⟨?_, ?_, ?_⟩
    · intro tradeId block present
      rw [initial.1.2 tradeId] at present
      cases present
    · intro pid tradeId assigned
      cases assigned
    · intro pid tradeId held seen passed assigned
      cases assigned
  · intro history pool pid call next run undisturbed absent taken guarded
    obtain ⟨world, running⟩ := Server.started taken
    apply guarded.aside undisturbed run (by simp) (by rw [world]) (by rw [world])
    intro other progress assigned begun live notRecording notSettled
    have casted : update (progresses history) pid (some call.enter) other = some progress := assigned
    rcases update_assigned casted with ⟨rfl, rfl⟩ | ⟨different, assigned⟩
    · cases call with
      | createDecision => exact absurd rfl notRecording
      | blockOracleProgression => cases begun
      | resumeOracleProgression => cases begun
    · obtain ⟨effect, rest, present⟩ := live
      rw [running, update_of_ne different] at present
      exact ⟨assigned, effect, rest, present⟩
  · intro history pool pid event progress next acts undisturbed guarded
    exact guarded_perform guarded undisturbed acts
  · intro history pool next run undisturbed taken guarded
    obtain ⟨moved, running⟩ := taken
    apply guarded.aside undisturbed run (by simp) (by rw [moved]) (by rw [moved])
    intro pid progress assigned _ live _ _
    obtain ⟨effect, rest, present⟩ := live
    exact ⟨assigned, effect, rest, running ▸ present⟩

/-- A decision that a call has read and found good is the latest, or the latest is as good. -/
theorem Cleared.allowed {world : ComplianceWorld} (cleared : Cleared seen passed decision)
    (awaits : Awaits history world pid tradeId seen passed) : world.Allowed tradeId := by
  obtain ⟨member, allow, active⟩ := cleared
  by_cases override : decision.reasonCode = "CMP_OVERRIDE_ACTIVE"
  · exact awaits.granted decision (active override) allow
  · rcases awaits.known decision member with same | allowed
    · exact ⟨decision, same, allow, fun impossible => absurd impossible override⟩
    · exact allowed

section Runs

/-! One trade: an ALLOW, a block and a resume, with or without a DENY in between. -/

def complianceContext (requestId : String) : MutationContext where
  principal := ⟨⟨"admin-1", "0x00000000000000000000000000000000000000aa", .admin, 0, 3600⟩,
    [.operatorRead, .operatorWrite], true⟩
  sessionReference := "sess:1"
  requestContext := ⟨requestId, requestId⟩
  routePath := "/api/dashboard-gateway/v1/compliance"
  idempotencyKey := requestId

def complianceAudit : MutationAuditInput where
  reason := "Provider decision recorded"
  evidenceLinks := [⟨.ticket, "https://tickets/1", none⟩]
  ticketRef := "CMP-1"

def decisionInput (result : DecisionResult) (reasonCode : String) : DecisionCreateInput where
  tradeId := "TRD-1"
  decisionType := .kyt
  result := result
  reasonCode := reasonCode
  provider := "provider"
  providerRef := "ref-1"
  subjectId := "subject-1"
  subjectType := "counterparty"
  riskLevel := none
  overrideWindowEndsAt := none
  correlationId := "corr-1"
  audit := complianceAudit
  context := complianceContext "idem-decision"

def controlInput (reasonCode : String) : OperationalControlInput where
  tradeId := "TRD-1"
  reasonCode := reasonCode
  decisionId := none
  audit := complianceAudit
  context := complianceContext "idem-control"

def allowCall : ComplianceCall := .createDecision [] (decisionInput .allow "CMP_CLEARED")
def denyCall : ComplianceCall := .createDecision [] (decisionInput .deny "CMP_SANCTIONS_MATCH")
def blockCall : ComplianceCall := .blockOracleProgression (controlInput "CMP_REVIEW")
def resumeCall : ComplianceCall := .resumeOracleProgression [] (controlInput "CMP_REVIEWED")

def emptyCompliance : ComplianceWorld := ⟨[], fun _ => none, [], 1000⟩

/-- Statements succeed; the ids are drawn in order. -/
def healthy (time : Nat) : Fate × String :=
  (.acknowledged, if time < 20 then "decision-1" else "decision-2")

/-- The row a step writes, and for whom. -/
def blockWrite (entry : ComplianceEntry) : Option (Nat × ProgressionBlock) :=
  match entry.label with
  | .perform pid ⟨.saveBlockState block _, _⟩ => some (pid, block)
  | _ => none

private theorem commits_of_blockWrite {entry : ComplianceEntry} (written : blockWrite entry = some (pid, block))
    (there : entry.after.world.blocks block.tradeId = some block) : Commits entry pid block := by
  unfold blockWrite at written
  split at written
  · rename_i answer label
    cases written
    exact ⟨_, answer, label, there⟩
  · cases written

/-- A resume commits while its trade's latest decision has the result. -/
def resumesUnder (result : DecisionResult) (entry : ComplianceEntry) : Bool :=
  match blockWrite entry with
  | some (pid, block) => decide (pid = 2) && decide (block.blockState = .notBlocked) &&
      decide (entry.after.world.blocks block.tradeId = some block) &&
      decide ((latestDecision block.tradeId entry.before.world.decisions).map DecisionRow.result = some result)
  | none => false

private theorem resumesUnder_commits {entry : ComplianceEntry} (resumes : resumesUnder result entry = true) :
    ∃ block, Commits entry 2 block ∧ block.blockState = .notBlocked ∧
      (latestDecision block.tradeId entry.before.world.decisions).map DecisionRow.result = some result := by
  unfold resumesUnder at resumes
  split at resumes
  · rename_i pid block written
    simp only [Bool.and_eq_true, decide_eq_true_eq] at resumes
    obtain ⟨⟨⟨rfl, state⟩, there⟩, latest⟩ := resumes
    exact ⟨block, commits_of_blockWrite written there, state, latest⟩
  · cases resumes

/-- Only these calls have begun, the clock stands, and no decision changes once the resume
has begun. -/
def quiet (earlier : ComplianceHistory) (entry : ComplianceEntry) : Bool :=
  decide (∀ began ∈ earlier.filterMap begins, began = (0, allowCall) ∨ began = (1, blockCall) ∨
      began = (2, resumeCall)) &&
    decide (entry.after.world.now = entry.before.world.now) &&
    (decide (entry.after.world.decisions = entry.before.world.decisions) || (eventsOf 2 earlier).isEmpty)

private theorem undisturbed_of_quiet {earlier : ComplianceHistory} {entry : ComplianceEntry}
    (passed : quiet earlier entry = true) : Undisturbed earlier entry := by
  unfold quiet at passed
  simp only [Bool.and_eq_true, Bool.or_eq_true, decide_eq_true_eq, List.isEmpty_iff] at passed
  obtain ⟨⟨known, clock⟩, steady⟩ := passed
  have block {pid : Nat} {input : OperationalControlInput}
      (began : Began earlier pid (.blockOracleProgression input)) : pid = 1 := by
    have listed := known _ (began_iff.mp began)
    simp [allowCall, blockCall, resumeCall] at listed
    exact listed.1
  have resume {pid : Nat} {turns : List Bool} {input : OperationalControlInput}
      (began : Began earlier pid (.resumeOracleProgression turns input)) : pid = 2 := by
    have listed := known _ (began_iff.mp began)
    simp [allowCall, blockCall, resumeCall] at listed
    exact listed.1
  refine ⟨?_, ?_, ?_, ?_⟩
  · intro pid other input again written began begun _ _ _
    rw [block began, block begun]
  · intro pid other turns rounds input again written began begun _ _ _
    rw [resume began, resume begun]
  · intro pid turns input latest began relies after before
    cases resume began
    rcases steady with same | none
    · rw [same] at after
      exact absurd after before
    · obtain ⟨_, answer, made⟩ := relies
      have member := made_iff.mp made
      rw [none] at member
      cases member
  · intro pid turns input latest _ _ _ allows
    rw [clock]
    exact allows

end Runs

/-- Where calls of one kind do not overlap on a trade, and no worse decision comes between,
a resume commits under an unexpired ALLOW and overwrites no block it has not seen. -/
theorem resume_safe (run : (complianceServer timestampOf).system.Run history pool)
    (undisturbed : Throughout Undisturbed history) : Throughout ResumesSafely history := by
  intro later entry earlier same pid block commits state
  subst same
  obtain ⟨before, taken, _⟩ := run.split
  obtain ⟨auditEntry, answer, label, _⟩ := commits
  rw [label] at taken
  obtain ⟨progress, acts⟩ := Server.acts (compliance_follows timestampOf) before taken
  have guarded := run_guarded before undisturbed.before.cons.2
  rcases guarded.writer acts with ⟨_, blocked, _⟩ | ⟨seen, passed, decision, _, _, cleared, awaits⟩
  · rw [state] at blocked
    cases blocked
  · exact ⟨cleared.allowed awaits, awaits.unblocked⟩

/-- A resume under an ALLOW. -/
theorem allowed_resumes :
    ∃ (history : ComplianceHistory) (entry : ComplianceEntry) (earlier : ComplianceHistory) (block : ProgressionBlock),
      entry ∈ history ∧ Commits entry 2 block ∧ block.blockState = .notBlocked ∧
        entry.before.world.Allowed block.tradeId ∧ Unblocked earlier 2 block.tradeId := by
  obtain ⟨recording, run, checked⟩ :=
    (complianceServer fun _ => none).record_run (complianceServing fun _ => none) healthy emptyCompliance
      [.start 0 allowCall, .go 0 7, .start 1 blockCall, .go 1 9, .start 2 resumeCall, .go 2 11]
      (fun recording => checkEach quiet recording.history &&
        checkSome (fun _ entry => resumesUnder .allow entry) recording.history)
      rfl ⟨rfl, fun _ => rfl⟩ (by decide +kernel)
  simp only [Bool.and_eq_true] at checked
  obtain ⟨calm, resumed⟩ := checked
  obtain ⟨later, entry, earlier, same, resumes⟩ := sometime_of_checkSome (fun _ _ met => met) resumed
  obtain ⟨block, commits, state, _⟩ := resumesUnder_commits resumes
  have undisturbed := throughout_of_checkEach (fun _ _ passed => undisturbed_of_quiet passed) calm
  obtain ⟨allowed, unblocked⟩ := resume_safe run undisturbed later entry earlier same 2 block commits state
  exact ⟨recording.history, entry, earlier, block, by simp [same], commits, state, allowed, unblocked⟩

/-- A DENY recorded between a resume's check and its write. -/
theorem denied_resumes :
    ∃ (history : ComplianceHistory) (pool : CompliancePool),
      (complianceServer fun _ => none).system.Run history pool ∧ ¬ Throughout ResumesSafely history := by
  obtain ⟨recording, run, resumed⟩ :=
    (complianceServer fun _ => none).record_run (complianceServing fun _ => none) healthy emptyCompliance
      [.start 0 allowCall, .go 0 7, .start 1 blockCall, .go 1 9, .start 2 resumeCall, .go 2 6, .start 3 denyCall,
        .go 3 8, .go 2 1]
      (fun recording => checkSome (fun _ entry => resumesUnder .deny entry) recording.history)
      rfl ⟨rfl, fun _ => rfl⟩ (by decide +kernel)
  refine ⟨recording.history, recording.pool, run, ?_⟩
  intro safely
  obtain ⟨later, entry, earlier, same, resumes⟩ := sometime_of_checkSome (fun _ _ met => met) resumed
  obtain ⟨block, commits, state, denied⟩ := resumesUnder_commits resumes
  obtain ⟨⟨latest, present, allow, _⟩, _⟩ := safely later entry earlier same 2 block commits state
  rw [present, Option.map_some, Option.some.injEq, allow] at denied
  cases denied

end Invariants

end Agroasys.Gateway
