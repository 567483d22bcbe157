import Agroasys.Escrow.Activity

namespace Agroasys.Escrow

open Function Agroasys.Foundation

variable {σ Op : Type} {chain : Chain σ Op}

/-- What a transaction that does not revert does to the whole state. -/
inductive Transacted (chain : Chain σ Op) (s : World σ) : Action Op → World σ → Prop where
  | called (msg : Message) (call : Call) (clock : s.now ≤ msg.timestamp)
      (now : next.now = msg.timestamp) (activity : Activity chain msg s next)
      (parameters : next.toParameters = s.toParameters)
      (ruling : Ruling s.toParameters msg s.toGovernance call next.toGovernance) :
      Transacted chain s (.escrow msg call) next
  | foreign (msg : Message) (op : Op) (usdc : σ) (clock : s.now ≤ msg.timestamp)
      (sender : msg.sender ≠ chain.self) (called : chain.token.call s.usdc msg.sender op = .ok usdc) :
      Transacted chain s (.token msg op) { s with usdc := usdc, now := msg.timestamp }

theorem Transacted.parameters {s next : World σ} (transacted : Transacted chain s action next) :
    next.toParameters = s.toParameters := by
  cases transacted with
  | called _ _ _ _ _ parameters => exact parameters
  | foreign => rfl

/-- Nothing that a call does depends on the recorded block time. -/
theorem Activity.timed {s result : World σ} (activity : Activity chain msg s result) (now : Nat) :
    Activity chain msg s { result with now := now } := by
  cases activity with
  | quiet custody usdc => exact .quiet custody usdc
  | created order c =>
    exact .created order ⟨c.unpaused, c.opened, c.nonce, c.deadline, c.signed, c.paid, c.custody, c.nonces⟩
  | advanced tradeId move a entitled =>
    refine .advanced tradeId move
      ⟨a.unpaused, a.known, a.source, a.custody, a.usdc, a.nonces, a.unruled.parameters,
        a.unruled.governance⟩ ?_
    cases move with
    | executeDispute decision =>
      obtain ⟨admin, proposalId, d⟩ := entitled
      exact ⟨admin, proposalId, d.known, d.matter, d.executed, d.quorum, d.unexpired⟩
    | _ => exact entitled
  | withdrawn account receiver w =>
    exact .withdrawn account receiver ⟨w.unpaused, w.positive, w.paid, w.custody, w.nonces⟩

private theorem execute_transacted {s result : World σ} {call : Call} (unopened : s.Unopened)
    (clock : s.now ≤ msg.timestamp) (success : execute chain msg call s = .ok result) :
    Transacted chain s (.escrow msg call) { result with now := msg.timestamp } := by
  cases settles : call.settles with
  | true =>
    obtain ⟨activity, unruled⟩ := execute_settles unopened settles success
    have ruling : Ruling s.toParameters msg s.toGovernance call result.toGovernance := by
      rw [unruled.governance]
      exact .kept settles
    exact .called msg call clock rfl (activity.timed _) unruled.parameters ruling
  | false =>
    have governed := execute_governed settles success
    exact .called msg call clock rfl ((Activity.quiet governed.custody governed.usdc).timed _)
      governed.parameters governed.ruling

theorem step_transacted (unopened : s.Unopened) (step : (escrowSystem chain).step s action next) :
    Transacted chain s action next := by
  obtain ⟨clock, _, ⟨msg, call, result, rfl, success, rfl⟩ | ⟨msg, op, usdc, rfl, sender, called, rfl⟩⟩ :=
    step_cases step
  · exact execute_transacted unopened clock success
  · exact .foreign msg op usdc clock sender called

/-- The trades and claims change as one step of the custodian. -/
theorem Activity.custody_step {s next : World σ} (activity : Activity chain msg s next) :
    ∃ flow, Custody.Step s.treasuryAddress msg.timestamp s.custody flow next.custody := by
  cases activity with
  | quiet custody =>
    rw [custody]
    exact ⟨_, .idle⟩
  | created order created =>
    rw [created.custody]
    exact ⟨_, .deposited _ created.opened⟩
  | advanced tradeId move advanced =>
    rw [advanced.custody]
    exact ⟨_, .moved tradeId move advanced.known advanced.source⟩
  | withdrawn account receiver withdrawn =>
    rw [withdrawn.custody]
    exact ⟨_, .withdrawn account⟩

private theorem Custody.Step.unopened {c next : Custody} (step : c.Step treasury now flow next)
    (unopened : ∀ tradeId, c.tradeCounter ≤ tradeId →
      c.trades tradeId = default ∧ c.inTransitSince tradeId = 0) (tradeId : Nat)
    (beyond : next.tradeCounter ≤ tradeId) :
    next.trades tradeId = default ∧ next.inTransitSince tradeId = 0 := by
  cases step with
  | idle => exact unopened tradeId beyond
  | deposited trade _ =>
    have later : c.tradeCounter < tradeId := beyond
    simpa [Custody.deposit, later.ne'] using unopened tradeId later.le
  | moved other move known _ =>
    rw [Custody.perform_tradeCounter] at beyond
    have different : tradeId ≠ other := (known.trans_le beyond).ne'
    simpa [different] using unopened tradeId beyond
  | withdrawn => exact unopened tradeId beyond

/-- What every reachable state has in common. -/
structure Established (s : World σ) : Prop where
  unopened : s.Unopened
  clock : 0 < s.now
  timelock : s.governanceTimelock = 24 * 3600
  required : 0 < s.requiredApprovals
  admins : ∀ account, s.isAdmin account = true ↔ account ∈ s.admins
  distinct : s.admins.Nodup
  staffed : s.requiredApprovals ≤ s.admins.length

theorem Ruling.admins {g next : Governance} (ruling : Ruling p msg g call next)
    (admins : ∀ account, g.isAdmin account = true ↔ account ∈ g.admins) (distinct : g.admins.Nodup) :
    (∀ account, next.isAdmin account = true ↔ account ∈ next.admins) ∧ next.admins.Nodup ∧
      g.admins ⊆ next.admins ∧ g.admins.length ≤ next.admins.length := by
  cases ruling with
  | adminAdded proposalId _ new =>
    have absent : (g.adminAdd.proposals proposalId).matter.newAdmin ∉ g.admins := by
      rw [← admins]
      simp [new]
    refine ⟨fun account => ?_, ?_, ?_, ?_⟩
    · by_cases same : account = (g.adminAdd.proposals proposalId).matter.newAdmin
      · simp [same]
      · simp [same, admins]
    · rw [List.nodup_append]
      refine ⟨distinct, List.nodup_singleton _, ?_⟩
      intro account member other singleton same
      rw [List.mem_singleton] at singleton
      subst same singleton
      exact absent member
    · exact List.subset_append_left _ _
    · simp
  | _ => exact ⟨admins, distinct, fun _ member => member, le_rfl⟩

theorem Transacted.established {s next : World σ} (transacted : Transacted chain s action next)
    (established : Established s) : Established next := by
  cases transacted with
  | called msg call clock now activity parameters ruling =>
    obtain ⟨flow, step⟩ := activity.custody_step
    obtain ⟨admins, distinct, _, grown⟩ := ruling.admins established.admins established.distinct
    refine ⟨step.unopened established.unopened, ?_, ?_, ?_, admins, distinct, ?_⟩
    · rw [now]
      exact established.clock.trans_le clock
    · rw [parameters]
      exact established.timelock
    · rw [parameters]
      exact established.required
    · rw [parameters]
      exact established.staffed.trans grown
  | foreign msg op usdc clock =>
    exact ⟨established.unopened, established.clock.trans_le clock, established.timelock,
      established.required, established.admins, established.distinct, established.staffed⟩

section Deployment

private theorem addAdmins_eq_ok {s next : World σ} (success : addAdmins accounts s = .ok next)
    (admins : ∀ account, s.isAdmin account = true ↔ account ∈ s.admins) (distinct : s.admins.Nodup) :
    (s.admins ++ accounts).Nodup ∧ next = { s with
      admins := s.admins ++ accounts
      isAdmin := fun account => decide (account ∈ s.admins ++ accounts) } := by
  induction accounts generalizing s with
  | nil =>
    have same : s.isAdmin = fun account => decide (account ∈ s.admins ++ []) := by
      funext account
      rw [Bool.eq_iff_iff]
      simp [admins]
    rw [← same, List.append_nil]
    exact ⟨distinct, (pure_eq_ok.mp success).symm⟩
  | cons account rest ih =>
    simp only [addAdmins, bind_eq_ok, require_eq_ok, exists_const] at success
    obtain ⟨_, new, success⟩ := success
    have absent : account ∉ s.admins := by
      rw [← admins]
      simp [new]
    have appended : (s.admins ++ [account]).Nodup := by
      rw [List.nodup_append]
      refine ⟨distinct, List.nodup_singleton _, ?_⟩
      intro first member other singleton same
      rw [List.mem_singleton] at singleton
      subst same singleton
      exact absent member
    obtain ⟨nodup, rfl⟩ := ih success (fun other => by
      by_cases same : other = account
      · simp [same]
      · simp [same, admins]) appended
    rw [List.append_assoc] at nodup
    exact ⟨nodup, by simp only [List.append_assoc, List.singleton_append]⟩

/-- The state a deployment leaves, and what the constructor checked. -/
theorem deploy_eq_ok {config : Config} {s : World σ} (success : config.deploy usdc timestamp = .ok s) :
    0 < config.requiredApprovals ∧ config.requiredApprovals ≤ config.admins.length ∧
      config.admins.Nodup ∧ s = { config.world usdc timestamp with
        admins := config.admins
        isAdmin := fun account => decide (account ∈ config.admins) } := by
  simp only [Config.deploy, bind_eq_ok, require_eq_ok, exists_const] at success
  obtain ⟨_, _, _, positive, staffed, success⟩ := success
  obtain ⟨distinct, rfl⟩ := addAdmins_eq_ok success (by simp [Config.world]) List.nodup_nil
  exact ⟨positive, staffed, distinct, rfl⟩

theorem Config.Deployed.world {config : Config} {s : World σ} (deployed : config.Deployed s) :
    ∃ usdc timestamp, s = { config.world usdc timestamp with
      admins := config.admins
      isAdmin := fun account => decide (account ∈ config.admins) } := by
  obtain ⟨usdc, timestamp, _, success⟩ := deployed
  obtain ⟨_, _, _, same⟩ := deploy_eq_ok success
  exact ⟨usdc, timestamp, same⟩

theorem Config.Deployed.established {config : Config} {s : World σ} (deployed : config.Deployed s) :
    Established s := by
  obtain ⟨usdc, timestamp, genesis, success⟩ := deployed
  obtain ⟨positive, staffed, distinct, rfl⟩ := deploy_eq_ok success
  exact ⟨fun _ _ => ⟨rfl, rfl⟩, genesis, rfl, positive, fun _ => by simp, distinct, staffed⟩

end Deployment

/-- Induction over a path that starts in an established state. -/
theorem path_invariant {holds : World σ → Prop} (established : Established origin)
    (path : Path (escrowSystem chain) origin history final) (initial : holds origin)
    (preserved : ∀ s action next, Established s → Transacted chain s action next → holds s → holds next) :
    Established final ∧ holds final := by
  induction path with
  | start => exact ⟨established, initial⟩
  | next _ taken ih =>
    obtain ⟨current, held⟩ := ih
    have transacted := step_transacted current.unopened taken
    exact ⟨transacted.established current, preserved _ _ _ current transacted held⟩

theorem run_invariant {holds : World σ → Prop} (run : (escrowSystem chain).Run history final)
    (initial : ∀ (config : Config) origin, config.Deployed origin → holds origin)
    (preserved : ∀ s action next, Established s → Transacted chain s action next → holds s → holds next) :
    holds final := by
  obtain ⟨origin, ⟨config, deployed⟩, path⟩ := run
  exact (path_invariant deployed.established path (initial config origin deployed) preserved).2

instance (s : World σ) (action : Action Op) : Decidable (action.Valid chain s) := by
  cases action with
  | escrow msg call => exact inferInstanceAs (Decidable (_ ∧ True))
  | token msg op => exact inferInstanceAs (Decidable (_ ∧ _ ≠ _))

/-- Runs valid transactions, oldest first, as long as none reverts. -/
def replay (chain : Chain σ Op) : List (Action Op) → World σ → Option (World σ)
  | [], s => some s
  | action :: rest, s =>
    if action.Valid chain s then
      match transact chain action s with
      | .ok next => replay chain rest next
      | .error _ => none
    else none

theorem replay_path (success : replay chain actions s = some final) :
    ∃ history, Path (escrowSystem chain) s history final := by
  induction actions generalizing s with
  | nil =>
    cases success
    exact ⟨[], .start⟩
  | cons action rest ih =>
    simp only [replay] at success
    split at success
    · rename_i valid
      split at success
      · rename_i next taken
        obtain ⟨later, path⟩ := ih success
        have first : (escrowSystem chain).step s action next := ⟨valid, taken⟩
        exact ⟨_, (Path.single first).append path⟩
      · cases success
    · cases success

theorem replay_single (success : replay chain [action] s = some next) :
    (escrowSystem chain).step s action next := by
  simp only [replay] at success
  split at success
  · rename_i valid
    split at success
    · rename_i taken
      cases success
      exact ⟨valid, taken⟩
    · cases success
  · cases success

theorem run_established (run : (escrowSystem chain).Run history final) : Established final :=
  run.invariant (fun _ ⟨_, deployed⟩ => deployed.established) fun _ _ _ step current =>
    (step_transacted current.unopened step).established current

end Agroasys.Escrow
