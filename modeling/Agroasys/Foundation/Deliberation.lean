import Agroasys.Foundation.Transition
import Agroasys.Foundation.Ballot

namespace Agroasys.Foundation

/-- A proposal book in the states of a system, changed by its steps under rules
that may depend on the state. -/
structure Deliberation (system : System State Label) (Voter Matter : Type) [DecidableEq Voter] where
  book : State → ProposalBook Voter Matter
  rules : State → Rules Voter Matter
  time : Label → Nat
  voter : Label → Voter
  opened : ∀ state, system.initial state → ∃ matter voter, book state = .empty matter voter
  steps : ∀ state label next, system.Reachable state → system.step state label next →
    ProposalBook.Steps (rules state) (time label) (voter label) (book state) (book next)

namespace Deliberation

variable {State Label Voter Matter : Type} [DecidableEq Voter] {system : System State Label}
  (d : Deliberation system Voter Matter) {id : Nat}

/-- The step on which a proposal was opened, and what was checked there. -/
structure Opens (entry : Transition State Label) (id : Nat) (proposal : Proposal Voter Matter)
    (expiry : Nat) : Prop where
  new : (d.book entry.before).counter ≤ id
  known : id < (d.book entry.after).counter
  eligible : (d.rules entry.before).eligible (d.voter entry.label)
  createdAt : proposal.createdAt = d.time entry.label
  proposer : proposal.proposer = d.voter entry.label
  expiry : expiry = d.time entry.label + (d.rules entry.before).ttl
  admissible : (d.rules entry.before).admissible proposal.matter (d.time entry.label)

/-- The step on which `voter` approved a proposal. -/
structure Approves (entry : Transition State Label) (id : Nat) (voter : Voter) : Prop where
  fresh : (d.book entry.before).hasApproved id voter = false
  recorded : (d.book entry.after).hasApproved id voter = true
  caller : d.voter entry.label = voter
  eligible : (d.rules entry.before).eligible voter

def executed (id : Nat) (state : State) : Bool :=
  decide (id < (d.book state).counter) && ((d.book state).proposals id).executed

/-- The step on which a proposal was executed, and what was checked there. -/
structure Enacts (entry : Transition State Label) (id : Nat) : Prop where
  raised : Raises (d.executed id) entry
  eligible : (d.rules entry.before).eligible (d.voter entry.label)
  standing : (d.book entry.before).cancelled id = false
  unexpired : d.time entry.label ≤ (d.book entry.after).expiresAt id
  quorum : (d.rules entry.before).quorum ≤ ((d.book entry.after).proposals id).approvalCount
  ready : (d.rules entry.before).ready ((d.book entry.after).proposals id).matter (d.time entry.label)

theorem progress (reachable : system.Reachable state) (step : system.step state label next) :
    ProposalBook.Progress (d.rules state) (d.time label) (d.voter label) (d.book state) (d.book next) :=
  (d.steps state label next reachable step).progress

theorem tallied [Fintype Voter] (reachable : system.Reachable state) : (d.book state).Tallied := by
  obtain ⟨history, origin, initial, path⟩ := reachable
  have start : (d.book origin).Tallied := by
    obtain ⟨matter, voter, empty⟩ := d.opened origin initial
    rw [empty]
    exact ProposalBook.tallied_empty matter voter
  have first : system.Reachable origin := ⟨[], origin, initial, .start⟩
  exact (first.invariant path start fun state label next reachable step valid =>
    (d.steps state label next reachable step).tallied valid).2

/-- Every proposal was opened somewhere in the run. -/
theorem opens (run : system.Run history final) (known : id < (d.book final).counter) :
    ∃ entry ∈ history, d.Opens entry id ((d.book final).proposals id) ((d.book final).expiresAt id) := by
  revert known
  apply run.history_invariant (P := fun history final => id < (d.book final).counter →
    ∃ entry ∈ history, d.Opens entry id ((d.book final).proposals id) ((d.book final).expiresAt id))
  · intro origin initial known
    obtain ⟨matter, voter, empty⟩ := d.opened origin initial
    simp [empty] at known
  · intro earlier state label next run step ih known
    have progress := d.progress ⟨earlier, run⟩ step
    rcases Nat.lt_or_ge id (d.book state).counter with old | new
    · obtain ⟨entry, member, opens⟩ := ih old
      obtain ⟨matter, createdAt, proposer, expiry⟩ := progress.settled id old
      refine ⟨entry, List.mem_cons_of_mem _ member, opens.new, opens.known, opens.eligible, ?_, ?_, ?_, ?_⟩
      · rw [createdAt, opens.createdAt]
      · rw [proposer, opens.proposer]
      · rw [expiry, opens.expiry]
      · rw [matter]
        exact opens.admissible
    · obtain ⟨eligible, createdAt, proposer, expiry, admissible⟩ := progress.created id new known
      exact ⟨⟨state, label, next⟩, List.mem_cons_self, new, known, eligible, createdAt, proposer,
        expiry, admissible⟩

/-- Every recorded approval was given somewhere in the run, by a voter who was
eligible then. -/
theorem approves {voter : Voter} (run : system.Run history final)
    (held : (d.book final).hasApproved id voter = true) :
    ∃ entry ∈ history, d.Approves entry id voter := by
  obtain ⟨origin, initial, path⟩ := run
  have down : (d.book origin).hasApproved id voter = false := by
    obtain ⟨matter, other, empty⟩ := d.opened origin initial
    simp [empty]
  have raises : ∃ entry ∈ history, Raises (fun state => (d.book state).hasApproved id voter) entry :=
    path.raised down held
  obtain ⟨entry, member, fresh, recorded⟩ := raises
  obtain ⟨_, _, _, before, step, _⟩ := path.cut member
  have progress := d.progress ⟨_, origin, initial, before⟩ step
  obtain ⟨caller, eligible, _⟩ := progress.approved id voter fresh recorded
  exact ⟨entry, member, fresh, recorded, caller.symm, caller ▸ eligible⟩

theorem executed_latched (reachable : system.Reachable state) (step : system.step state label next)
    (done : d.executed id state = true) : d.executed id next = true := by
  have progress := d.progress reachable step
  simp only [executed, Bool.and_eq_true, decide_eq_true_eq] at done ⊢
  exact ⟨done.1.trans_le progress.counter, progress.closed id done.1 done.2⟩

/-- An execution meets every rule. -/
theorem enacts (run : system.Run history final) (member : entry ∈ history)
    (raised : Raises (d.executed id) entry) : d.Enacts entry id := by
  obtain ⟨_, earlier, _, before, step, _⟩ := run.cut member
  have progress := d.progress ⟨earlier, before⟩ step
  have pending := raised.1
  have done := raised.2
  simp only [executed, Bool.and_eq_true, decide_eq_true_eq] at done
  rcases progress.executed id done.1 done.2 with ⟨known, already⟩ | ⟨eligible, standing, open_, quorum, ready⟩
  · simp [executed, known, already] at pending
  · exact ⟨raised, eligible, standing, open_, quorum, ready⟩

/-- Every executed proposal was executed exactly once in the run. -/
theorem executes_once (run : system.Run history final) (known : id < (d.book final).counter)
    (done : ((d.book final).proposals id).executed = true) :
    ∃ later entry earlier, history = later ++ entry :: earlier ∧ d.Enacts entry id ∧
      ∀ other, other ∈ later ∨ other ∈ earlier → ¬ Raises (d.executed id) other := by
  have up : d.executed id final = true := by simp [executed, known, done]
  obtain ⟨origin, initial, path⟩ := run
  have down : d.executed id origin = false := by
    obtain ⟨matter, other, empty⟩ := d.opened origin initial
    simp [executed, empty]
  obtain ⟨entry, member, raised⟩ := path.raised down up
  have run : system.Run history final := ⟨origin, initial, path⟩
  obtain ⟨later, earlier, same, _⟩ := run.cut member
  refine ⟨later, entry, earlier, same, d.enacts run member raised, fun other among => ?_⟩
  rw [same] at run
  exact run.raises_once (fun _ _ _ reachable step => d.executed_latched reachable step) raised among

/-- Every count, approval and execution recorded after a run is accounted for by
its steps. -/
structure Regular [Fintype Voter] (history : History State Label) (final : State) : Prop where
  tally : ∀ id, ((d.book final).proposals id).approvalCount = ((d.book final).approvers id).card
  approved : ∀ id, ∀ voter ∈ (d.book final).approvers id, ∃ entry ∈ history, d.Approves entry id voter
  executed : ∀ id, id < (d.book final).counter → ((d.book final).proposals id).executed = true →
    ∃ later entry earlier, history = later ++ entry :: earlier ∧ d.Enacts entry id ∧
      ∀ other, other ∈ later ∨ other ∈ earlier → ¬ Raises (d.executed id) other
  exclusive : ∀ id, ((d.book final).proposals id).executed = true → (d.book final).cancelled id = false

theorem regular [Fintype Voter] (run : system.Run history final) : d.Regular history final where
  tally := (d.tallied ⟨history, run⟩).tally
  approved _ _ held := d.approves run ((d.book final).mem_approvers.mp held)
  executed _ known done := d.executes_once run known done
  exclusive := (d.tallied ⟨history, run⟩).exclusive

/-- Nothing more happens to a cancelled proposal. -/
theorem cancelled_for_good (reachable : system.Reachable origin) (path : Path system origin history final)
    (known : id < (d.book origin).counter) (gone : (d.book origin).cancelled id = true) :
    (d.book final).cancelled id = true ∧
      ((d.book final).proposals id).executed = ((d.book origin).proposals id).executed ∧
      (d.book final).hasApproved id = (d.book origin).hasApproved id := by
  have kept := (reachable.invariant (P := fun state => id < (d.book state).counter ∧
    (d.book state).cancelled id = true ∧
    ((d.book state).proposals id).executed = ((d.book origin).proposals id).executed ∧
    (d.book state).hasApproved id = (d.book origin).hasApproved id) path ⟨known, gone, rfl, rfl⟩
    fun state label next reachable step ⟨known, gone, done, approved⟩ => ?_).2
  · exact kept.2
  · have progress := d.progress reachable step
    refine ⟨known.trans_le progress.counter, progress.withdrawn id gone, ?_, ?_⟩
    · rw [← done, Bool.eq_iff_iff]
      refine ⟨fun now => ?_, progress.closed id known⟩
      rcases progress.executed id (known.trans_le progress.counter) now with old | new
      · exact old.2
      · simp [gone] at new
    · rw [← approved]
      funext voter
      rw [Bool.eq_iff_iff]
      refine ⟨fun now => ?_, progress.retained id voter⟩
      by_contra lacked
      have live := (progress.approved id voter (by simpa using lacked) now).2.2.2.2 known
      simp [gone] at live

end Deliberation

end Agroasys.Foundation
