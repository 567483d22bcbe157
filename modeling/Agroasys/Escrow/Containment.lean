import Agroasys.Escrow.MockUSDC

/-! Emergency containment: while the oracle is disabled the protocol should stay
paused. It does, up to one gap: an approval that completes an unpause proposal
opened before the oracle was disabled. -/

namespace Agroasys.Escrow

open Agroasys.Foundation

variable {σ Op : Type} {chain : Chain σ Op}

def Governance.Contained (g : Governance) : Prop :=
  g.oracleActive = false → g.paused = true

/-- An unpause approval that reaches the quorum while the oracle is disabled. -/
def CompletesUncontained (p : Parameters) (g : Governance) (call : Call) : Prop :=
  call = .approveUnpause ∧ g.oracleActive = false ∧
    p.governanceApprovals ≤ g.unpauseProposal.approvalCount + 1

private theorem Ruling.contained_iff (ruling : Ruling p msg g call next) (contained : g.Contained) :
    next.Contained ↔ ¬ CompletesUncontained p g call := by
  cases ruling with
  | kept settles =>
    have other : call ≠ .approveUnpause := by
      rintro rfl
      simp [Call.settles] at settles
    simp [CompletesUncontained, other, contained]
  | unpaused _ _ quorum => simp [CompletesUncontained, Governance.Contained, quorum]
  | unpauseApproved _ _ short =>
    simpa [CompletesUncontained, Governance.Contained, Nat.not_le.mpr short] using contained
  | oracleUpdateMoved deliberates | adminAddMoved deliberates
  | treasuryPayoutAddressUpdateMoved deliberates =>
    have other : call ≠ .approveUnpause := by
      rintro rfl
      simp [Call.deliberates] at deliberates
    simpa [CompletesUncontained, Governance.Contained, other] using contained
  | unpauseProposed _ paused active => simp [CompletesUncontained, Governance.Contained, paused]
  | paused | oracleDisabled | oracleUpdated => simp [CompletesUncontained, Governance.Contained]
  | _ => simpa [CompletesUncontained, Governance.Contained] using contained

/-- The condition on a transaction under which containment survives it. -/
def Action.CompletesUncontained (s : World σ) : Action Op → Prop
  | .escrow _ call => Escrow.CompletesUncontained s.toParameters s.toGovernance call
  | .token _ _ => False

private theorem Transacted.contained_iff {s next : World σ} (transacted : Transacted chain s action next)
    (contained : s.Contained) : next.Contained ↔ ¬ action.CompletesUncontained s := by
  cases transacted with
  | called msg call _ _ _ _ ruling => exact ruling.contained_iff contained
  | foreign => exact iff_of_true contained not_false

private theorem Config.Deployed.contained {config : Config} {s : World σ} (deployed : config.Deployed s) :
    s.Contained := by
  obtain ⟨_, _, rfl⟩ := deployed.world
  intro disabled
  cases disabled

/-- A run keeps containment in every state exactly when none of its
transactions completes an unpause while the oracle is disabled. -/
theorem always_contained_iff (run : (escrowSystem chain).Run history final) :
    (∀ s, Visited history final s → s.Contained) ↔
      ∀ entry ∈ history, ¬ entry.label.CompletesUncontained entry.before := by
  induction history generalizing final with
  | nil =>
    obtain ⟨origin, ⟨config, deployed⟩, path⟩ := run
    cases path.origin_of_nil
    simp [visited_nil, deployed.contained]
  | cons entry earlier ih =>
    obtain ⟨origin, initial, path⟩ := run
    cases path with
    | next path taken =>
      have run : (escrowSystem chain).Run earlier _ := ⟨origin, initial, path⟩
      have transacted := step_transacted (run_established run).unopened taken
      simp only [visited_cons, forall_eq_or_imp, List.forall_mem_cons, ← ih run]
      constructor
      · rintro ⟨after, before⟩
        have contained := before _ (.inl rfl)
        exact ⟨(transacted.contained_iff contained).mp after, before⟩
      · rintro ⟨harmless, before⟩
        have contained := before _ (.inl rfl)
        exact ⟨(transacted.contained_iff contained).mpr harmless, before⟩

open Mock in
/-- An unpause opened before the oracle was disabled is completed after. -/
def staleUnpause : List (Action MockUSDC.Operation) :=
  [call admin1 1 .pause, call admin1 2 .proposeUnpause, call admin1 3 .disableOracleEmergency,
   call admin2 4 .approveUnpause]

private theorem staleUnpause_outcome : ∃ final,
    Mock.scenario (Mock.config [Mock.admin1, Mock.admin2] 1) staleUnpause = some final ∧
      final.oracleActive = false ∧ final.paused = false := by
  have outcome : (Mock.scenario (Mock.config [Mock.admin1, Mock.admin2] 1) staleUnpause).map
      (fun s => (s.oracleActive, s.paused)) = some (false, false) := by decide +kernel
  obtain ⟨final, success, switches⟩ := Option.map_eq_some_iff.mp outcome
  simp only [Prod.mk.injEq] at switches
  exact ⟨final, success, switches⟩

theorem staleUnpause_completes : ∃ history final, (escrowSystem mockChain).Run history final ∧
    ∃ entry ∈ history, entry.label.CompletesUncontained entry.before := by
  obtain ⟨final, success, disabled, unpaused⟩ := staleUnpause_outcome
  obtain ⟨history, run⟩ := Mock.scenario_run success
  have run : (escrowSystem mockChain).Run history final := run
  refine ⟨history, final, run, ?_⟩
  by_contra harmless
  have contained := (always_contained_iff run).mpr (by simpa using harmless)
  have paused := contained final (.inl rfl) disabled
  simp [unpaused] at paused

theorem staleUnpause_uncontained : ∃ final,
    Mock.scenario (Mock.config [Mock.admin1, Mock.admin2] 1) staleUnpause = some final ∧
      final.oracleActive = false ∧ final.paused = false ∧
      ¬ ∀ s, (escrowSystem mockChain).Reachable s → s.Contained := by
  obtain ⟨final, success, disabled, unpaused⟩ := staleUnpause_outcome
  obtain ⟨history, run⟩ := Mock.scenario_run success
  refine ⟨final, success, disabled, unpaused, fun always => ?_⟩
  have paused := always final ⟨history, run⟩ disabled
  simp [unpaused] at paused

end Agroasys.Escrow
