import Mathlib.Data.Fintype.Card
import Mathlib.Logic.Function.Basic
import Mathlib.Logic.Relation
import Mathlib.Tactic.Simps.Basic

/-! Books of proposals decided by a quorum of distinct voters. A proposal is
opened with its proposer's approval, collects further approvals while it is
live, and is either executed once by a quorum or cancelled after it expired.
Voters, matters and the rules of one decision are parameters. -/

namespace Agroasys.Foundation

open Function

structure Proposal (Voter Matter : Type) where
  matter : Matter
  approvalCount : Nat
  executed : Bool
  createdAt : Nat
  proposer : Voter
  deriving DecidableEq

structure ProposalBook (Voter Matter : Type) where
  proposals : Nat → Proposal Voter Matter
  hasApproved : Nat → Voter → Bool
  expiresAt : Nat → Nat
  cancelled : Nat → Bool
  counter : Nat

/-- What one decision asks of its voters: who may vote, what a new proposal may
ask for, how long it stays open, how many approvals it takes and when its matter
may be enacted. -/
structure Rules (Voter Matter : Type) where
  eligible : Voter → Prop
  admissible : Matter → Nat → Prop
  ttl : Nat
  quorum : Nat
  ready : Matter → Nat → Prop

namespace ProposalBook

variable {Voter Matter : Type} {rules : Rules Voter Matter} {id now : Nat}

@[simps]
def empty (matter : Matter) (voter : Voter) : ProposalBook Voter Matter where
  proposals _ := ⟨matter, 0, false, 0, voter⟩
  hasApproved _ _ := false
  expiresAt _ := 0
  cancelled _ := false
  counter := 0

/-- Known, neither executed nor cancelled, and not past its expiry. -/
structure Live (book : ProposalBook Voter Matter) (id now : Nat) : Prop where
  known : id < book.counter
  pending : (book.proposals id).executed = false
  standing : book.cancelled id = false
  unexpired : now ≤ book.expiresAt id

@[simps]
def execute (book : ProposalBook Voter Matter) (id : Nat) : ProposalBook Voter Matter :=
  { book with proposals := update book.proposals id { book.proposals id with executed := true } }

@[simps]
def cancel (book : ProposalBook Voter Matter) (id : Nat) : ProposalBook Voter Matter :=
  { book with cancelled := update book.cancelled id true }

variable [DecidableEq Voter]

@[simps]
def propose (book : ProposalBook Voter Matter) (matter : Matter) (now expiry : Nat) (voter : Voter) :
    ProposalBook Voter Matter where
  proposals := update book.proposals book.counter ⟨matter, 1, false, now, voter⟩
  hasApproved := update book.hasApproved book.counter (update (book.hasApproved book.counter) voter true)
  expiresAt := update book.expiresAt book.counter expiry
  cancelled := book.cancelled
  counter := book.counter + 1

@[simps]
def approve (book : ProposalBook Voter Matter) (id : Nat) (voter : Voter) : ProposalBook Voter Matter :=
  { book with
    proposals := update book.proposals id
      { book.proposals id with approvalCount := (book.proposals id).approvalCount + 1 }
    hasApproved := update book.hasApproved id (update (book.hasApproved id) voter true) }

theorem Live.approve {book : ProposalBook Voter Matter} (live : book.Live id now) (voter : Voter) :
    (book.approve id voter).Live id now :=
  ⟨live.known, by simpa using live.pending, live.standing, live.unexpired⟩

/-- A change of a book by `voter` at time `now` that enacts nothing. -/
inductive Motion (rules : Rules Voter Matter) (now : Nat) (voter : Voter)
    (book : ProposalBook Voter Matter) : ProposalBook Voter Matter → Prop where
  | proposed (matter : Matter) (eligible : rules.eligible voter)
      (admissible : rules.admissible matter now) :
      Motion rules now voter book (book.propose matter now (now + rules.ttl) voter)
  | approved (id : Nat) (eligible : rules.eligible voter) (live : book.Live id now)
      (fresh : book.hasApproved id voter = false) :
      Motion rules now voter book (book.approve id voter)
  | cancelled (id : Nat) (eligible : rules.eligible voter) (known : id < book.counter)
      (pending : (book.proposals id).executed = false) (standing : book.cancelled id = false)
      (expired : book.expiresAt id < now) :
      Motion rules now voter book (book.cancel id)

/-- What it takes for `voter` to enact a proposal at `now`. -/
structure Enactable (rules : Rules Voter Matter) (now : Nat) (voter : Voter)
    (book : ProposalBook Voter Matter) (id : Nat) : Prop where
  eligible : rules.eligible voter
  live : book.Live id now
  quorum : rules.quorum ≤ (book.proposals id).approvalCount
  ready : rules.ready (book.proposals id).matter now

/-- One change of a book by `voter` at time `now`. -/
inductive Step (rules : Rules Voter Matter) (now : Nat) (voter : Voter)
    (book : ProposalBook Voter Matter) : ProposalBook Voter Matter → Prop where
  | moved (motion : Motion rules now voter book next) : Step rules now voter book next
  | executed (id : Nat) (enactable : Enactable rules now voter book id) :
      Step rules now voter book (book.execute id)

/-- What one transaction may do to a book: several changes by one voter. -/
abbrev Steps (rules : Rules Voter Matter) (now : Nat) (voter : Voter) :
    ProposalBook Voter Matter → ProposalBook Voter Matter → Prop :=
  Relation.ReflTransGen (Step rules now voter)

section Tally

variable [Fintype Voter]

/-- The distinct voters recorded as having approved. -/
def approvers (book : ProposalBook Voter Matter) (id : Nat) : Finset Voter :=
  Finset.univ.filter fun voter => book.hasApproved id voter = true

omit [DecidableEq Voter] in
@[simp] theorem mem_approvers (book : ProposalBook Voter Matter) :
    voter ∈ book.approvers id ↔ book.hasApproved id voter = true := by
  simp [approvers]

/-- Counts are the numbers of distinct approvers, identifiers not handed out
are untouched, and nothing is both executed and cancelled. -/
structure Tallied (book : ProposalBook Voter Matter) : Prop where
  tally : ∀ id, (book.proposals id).approvalCount = (book.approvers id).card
  untouched : ∀ id, book.counter ≤ id → book.approvers id = ∅ ∧ book.cancelled id = false
  exclusive : ∀ id, (book.proposals id).executed = true → book.cancelled id = false

omit [DecidableEq Voter] in
theorem tallied_empty (matter : Matter) (voter : Voter) : (empty matter voter).Tallied where
  tally id := by simp [approvers, empty]
  untouched id _ := by simp [approvers, empty]
  exclusive id := by simp [empty]

theorem approvers_propose (book : ProposalBook Voter Matter) (matter : Matter) (now expiry : Nat)
    (voter : Voter) (id : Nat) : (book.propose matter now expiry voter).approvers id =
      if id = book.counter then insert voter (book.approvers id) else book.approvers id := by
  ext other
  by_cases same : id = book.counter
  · subst same
    by_cases self : other = voter <;> simp [self]
  · simp [same]

theorem approvers_approve (book : ProposalBook Voter Matter) (id : Nat) (voter : Voter) (other : Nat) :
    (book.approve id voter).approvers other =
      if other = id then insert voter (book.approvers id) else book.approvers other := by
  ext member
  by_cases same : other = id
  · subst same
    by_cases self : member = voter <;> simp [self]
  · simp [same]

omit [DecidableEq Voter] in
@[simp] theorem approvers_execute (book : ProposalBook Voter Matter) (id other : Nat) :
    (book.execute id).approvers other = book.approvers other := rfl

omit [DecidableEq Voter] in
@[simp] theorem approvers_cancel (book : ProposalBook Voter Matter) (id other : Nat) :
    (book.cancel id).approvers other = book.approvers other := rfl

private theorem Tallied.propose {book : ProposalBook Voter Matter} (valid : book.Tallied)
    (matter : Matter) (now expiry : Nat) (voter : Voter) :
    (book.propose matter now expiry voter).Tallied where
  tally id := by
    rw [approvers_propose]
    by_cases same : id = book.counter
    · subst same
      simp [(valid.untouched _ le_rfl).1]
    · simp [same, valid.tally]
  untouched id later := by
    have beyond : book.counter < id := later
    rw [approvers_propose, if_neg beyond.ne']
    exact valid.untouched id beyond.le
  exclusive id done := by
    by_cases same : id = book.counter
    · subst same
      simp at done
    · exact valid.exclusive id (by simpa [same] using done)

private theorem Tallied.approve {book : ProposalBook Voter Matter} (valid : book.Tallied)
    (live : book.Live id now) (fresh : book.hasApproved id voter = false) :
    (book.approve id voter).Tallied where
  tally other := by
    rw [approvers_approve]
    by_cases same : other = id
    · subst same
      have absent : voter ∉ book.approvers other := by simp [fresh]
      simp [valid.tally, Finset.card_insert_of_notMem absent]
    · simp [same, valid.tally]
  untouched other later := by
    have different : other ≠ id := (live.known.trans_le later).ne'
    rw [approvers_approve, if_neg different]
    exact valid.untouched other later
  exclusive other done := by
    by_cases same : other = id
    · subst same
      exact live.standing
    · exact valid.exclusive other (by simpa [same] using done)

/-- Every change keeps the tally. -/
theorem Step.tallied {book next : ProposalBook Voter Matter} (step : Step rules now voter book next)
    (valid : book.Tallied) : next.Tallied := by
  cases step with
  | moved motion =>
    cases motion with
    | proposed => exact valid.propose ..
    | approved _ _ live fresh => exact valid.approve live fresh
    | cancelled id _ known pending _ _ =>
      refine ⟨valid.tally, fun other later => ?_, fun other done => ?_⟩
      · have different : other ≠ id := (known.trans_le later).ne'
        simpa [different] using valid.untouched other later
      · have different : other ≠ id := by
          intro same
          subst same
          simp [pending] at done
        simpa [different] using valid.exclusive other done
  | executed id enactable =>
    refine ⟨fun other => ?_, valid.untouched, fun other done => ?_⟩
    · by_cases same : other = id
      · subst same; simp [valid.tally]
      · simp [same, valid.tally]
    · by_cases same : other = id
      · subst same; exact enactable.live.standing
      · exact valid.exclusive other (by simpa [same] using done)

theorem Steps.tallied {book next : ProposalBook Voter Matter} (steps : Steps rules now voter book next)
    (valid : book.Tallied) : next.Tallied := by
  induction steps with
  | refl => exact valid
  | tail _ step ih => exact step.tallied ih

omit [DecidableEq Voter] in
/-- While a quorum is missing, some member of a large enough electorate has not
voted yet. -/
theorem Tallied.undecided {book : ProposalBook Voter Matter} (valid : book.Tallied)
    {electorate : Finset Voter} (short : (book.proposals id).approvalCount < quorum)
    (enough : quorum ≤ electorate.card) : ∃ voter ∈ electorate, book.hasApproved id voter = false := by
  rw [valid.tally] at short
  obtain ⟨voter, member, absent⟩ := Finset.exists_mem_notMem_of_card_lt_card (short.trans_le enough)
  exact ⟨voter, member, by simpa using absent⟩

end Tally

/-- What a transaction of `voter` at `now` can have changed in a book. -/
structure Progress (rules : Rules Voter Matter) (now : Nat) (voter : Voter)
    (before after : ProposalBook Voter Matter) : Prop where
  counter : before.counter ≤ after.counter
  settled : ∀ id, id < before.counter → (after.proposals id).matter = (before.proposals id).matter ∧
    (after.proposals id).createdAt = (before.proposals id).createdAt ∧
    (after.proposals id).proposer = (before.proposals id).proposer ∧
    after.expiresAt id = before.expiresAt id
  created : ∀ id, before.counter ≤ id → id < after.counter → rules.eligible voter ∧
    (after.proposals id).createdAt = now ∧ (after.proposals id).proposer = voter ∧
    after.expiresAt id = now + rules.ttl ∧ rules.admissible (after.proposals id).matter now
  counted : ∀ id, id < before.counter →
    (before.proposals id).approvalCount ≤ (after.proposals id).approvalCount
  retained : ∀ id other, before.hasApproved id other = true → after.hasApproved id other = true
  approved : ∀ id other, before.hasApproved id other = false → after.hasApproved id other = true →
    other = voter ∧ rules.eligible voter ∧ id < after.counter ∧ now ≤ after.expiresAt id ∧
      (id < before.counter → (before.proposals id).executed = false ∧ before.cancelled id = false)
  closed : ∀ id, id < before.counter → (before.proposals id).executed = true →
    (after.proposals id).executed = true
  executed : ∀ id, id < after.counter → (after.proposals id).executed = true →
    id < before.counter ∧ (before.proposals id).executed = true ∨
      rules.eligible voter ∧ before.cancelled id = false ∧ now ≤ after.expiresAt id ∧
        rules.quorum ≤ (after.proposals id).approvalCount ∧ rules.ready (after.proposals id).matter now
  withdrawn : ∀ id, before.cancelled id = true → after.cancelled id = true
  cancelled : ∀ id, before.cancelled id = false → after.cancelled id = true →
    rules.eligible voter ∧ id < after.counter ∧ after.expiresAt id < now

namespace Progress

omit [DecidableEq Voter] in
theorem refl (book : ProposalBook Voter Matter) : Progress rules now voter book book where
  counter := le_rfl
  settled _ _ := ⟨rfl, rfl, rfl, rfl⟩
  created _ later earlier := absurd earlier (Nat.not_lt.mpr later)
  counted _ _ := le_rfl
  retained _ _ held := held
  approved _ _ lacked held := by simp [lacked] at held
  closed _ _ done := done
  executed _ known done := .inl ⟨known, done⟩
  withdrawn _ gone := gone
  cancelled _ stood gone := by simp [stood] at gone

variable {before middle after book : ProposalBook Voter Matter}

omit [DecidableEq Voter] in
private theorem standing_before (progress : Progress rules now voter before after)
    (standing : after.cancelled id = false) : before.cancelled id = false := by
  by_contra gone
  have kept := progress.withdrawn id (by simpa using gone)
  simp [standing] at kept

omit [DecidableEq Voter] in
private theorem pending_before (progress : Progress rules now voter before after)
    (known : id < before.counter) (pending : (after.proposals id).executed = false) :
    (before.proposals id).executed = false := by
  by_contra done
  have kept := progress.closed id known (by simpa using done)
  simp [pending] at kept

omit [DecidableEq Voter] in
/-- What is live now was live before. -/
theorem live_before (progress : Progress rules now voter before after) (known : id < before.counter)
    (live : after.Live id later) (clock : earlier ≤ later) : before.Live id earlier := by
  refine ⟨known, progress.pending_before known live.pending, progress.standing_before live.standing, ?_⟩
  rw [← (progress.settled id known).2.2.2]
  exact clock.trans live.unexpired

omit [DecidableEq Voter] in
theorem trans (first : Progress rules now voter before middle)
    (second : Progress rules now voter middle after) : Progress rules now voter before after where
  counter := first.counter.trans second.counter
  settled id known := by
    obtain ⟨matter, createdAt, proposer, expiry⟩ := second.settled id (known.trans_le first.counter)
    obtain ⟨matter', createdAt', proposer', expiry'⟩ := first.settled id known
    exact ⟨matter.trans matter', createdAt.trans createdAt', proposer.trans proposer',
      expiry.trans expiry'⟩
  created id later known := by
    rcases Nat.lt_or_ge id middle.counter with early | late
    · obtain ⟨matter, createdAt, proposer, expiry⟩ := second.settled id early
      rw [matter, createdAt, proposer, expiry]
      exact first.created id later early
    · exact second.created id late known
  counted id known :=
    (first.counted id known).trans (second.counted id (known.trans_le first.counter))
  retained id other held := second.retained id other (first.retained id other held)
  approved id other lacked held := by
    by_cases between : middle.hasApproved id other = true
    · obtain ⟨same, eligible, known, open_, live⟩ := first.approved id other lacked between
      have expiry := (second.settled id known).2.2.2
      exact ⟨same, eligible, known.trans_le second.counter, by rwa [expiry], live⟩
    · obtain ⟨same, eligible, known, open_, live⟩ :=
        second.approved id other (by simpa using between) held
      refine ⟨same, eligible, known, open_, fun early => ?_⟩
      obtain ⟨pending, standing⟩ := live (early.trans_le first.counter)
      exact ⟨first.pending_before early pending, first.standing_before standing⟩
  closed id known done :=
    second.closed id (known.trans_le first.counter) (first.closed id known done)
  executed id known done := by
    rcases second.executed id known done with ⟨early, done⟩ | ⟨eligible, standing, open_, quorum, ready⟩
    · rcases first.executed id early done with old | ⟨eligible, standing, open_, quorum, ready⟩
      · exact .inl old
      · obtain ⟨matter, _, _, expiry⟩ := second.settled id early
        refine .inr ⟨eligible, standing, by rwa [expiry], ?_, by rwa [matter]⟩
        exact quorum.trans (second.counted id early)
    · exact .inr ⟨eligible, first.standing_before standing, open_, quorum, ready⟩
  withdrawn id gone := second.withdrawn id (first.withdrawn id gone)
  cancelled id stood gone := by
    by_cases between : middle.cancelled id = true
    · obtain ⟨eligible, known, expired⟩ := first.cancelled id stood between
      have expiry := (second.settled id known).2.2.2
      exact ⟨eligible, known.trans_le second.counter, by rwa [expiry]⟩
    · exact second.cancelled id (by simpa using between) gone

private theorem propose (eligible : rules.eligible voter) (admissible : rules.admissible matter now) :
    Progress rules now voter book (book.propose matter now (now + rules.ttl) voter) where
  counter := Nat.le_succ _
  settled id known := by simp [known.ne]
  created id later known := by
    have same : id = book.counter := by simp at known; omega
    subst same
    simpa [eligible] using admissible
  counted id known := by simp [known.ne]
  retained id other held := by
    by_cases same : id = book.counter
    · subst same
      by_cases self : other = voter <;> simp [self, held]
    · simpa [same] using held
  approved id other lacked held := by
    by_cases same : id = book.counter
    · subst same
      by_cases self : other = voter
      · simp [self, eligible]
      · simp [self, lacked] at held
    · simp [same, lacked] at held
  closed id known done := by simpa [known.ne] using done
  executed id known done := by
    by_cases same : id = book.counter
    · subst same; simp at done
    · simp only [propose_counter] at known
      exact .inl ⟨by omega, by simpa [same] using done⟩
  withdrawn id gone := gone
  cancelled id stood gone := by simp [stood] at gone

private theorem approve (eligible : rules.eligible voter) (live : book.Live id now) :
    Progress rules now voter book (book.approve id voter) where
  counter := le_rfl
  settled other _ := by
    by_cases same : other = id
    · subst same; simp
    · simp [same]
  created _ later earlier := absurd earlier (Nat.not_lt.mpr later)
  counted other _ := by
    by_cases same : other = id
    · subst same; simp
    · simp [same]
  retained other member held := by
    by_cases same : other = id
    · subst same
      by_cases self : member = voter <;> simp [self, held]
    · simpa [same] using held
  approved other member lacked held := by
    by_cases same : other = id
    · subst same
      by_cases self : member = voter
      · exact ⟨self, eligible, live.known, live.unexpired, fun _ => ⟨live.pending, live.standing⟩⟩
      · simp [self, lacked] at held
    · simp [same, lacked] at held
  closed other _ done := by
    by_cases same : other = id
    · subst same; simpa using done
    · simpa [same] using done
  executed other known done := by
    refine .inl ⟨known, ?_⟩
    by_cases same : other = id
    · subst same; simpa using done
    · simpa [same] using done
  withdrawn _ gone := gone
  cancelled _ stood gone := by simp [stood] at gone

omit [DecidableEq Voter] in
private theorem execute (enactable : Enactable rules now voter book id) :
    Progress rules now voter book (book.execute id) where
  counter := le_rfl
  settled other _ := by
    by_cases same : other = id
    · subst same; simp
    · simp [same]
  created _ later earlier := absurd earlier (Nat.not_lt.mpr later)
  counted other _ := by
    by_cases same : other = id
    · subst same; simp
    · simp [same]
  retained _ _ held := held
  approved _ _ lacked held := by simp [lacked] at held
  closed other _ done := by
    by_cases same : other = id
    · subst same; simp
    · simpa [same] using done
  executed other known done := by
    by_cases same : other = id
    · subst same
      exact .inr ⟨enactable.eligible, enactable.live.standing, enactable.live.unexpired,
        by simpa using enactable.quorum, by simpa using enactable.ready⟩
    · exact .inl ⟨known, by simpa [same] using done⟩
  withdrawn _ gone := gone
  cancelled _ stood gone := by simp [stood] at gone

omit [DecidableEq Voter] in
private theorem cancel (eligible : rules.eligible voter) (known : id < book.counter)
    (expired : book.expiresAt id < now) : Progress rules now voter book (book.cancel id) where
  counter := le_rfl
  settled _ _ := ⟨rfl, rfl, rfl, rfl⟩
  created _ later earlier := absurd earlier (Nat.not_lt.mpr later)
  counted _ _ := le_rfl
  retained _ _ held := held
  approved _ _ lacked held := by simp [lacked] at held
  closed _ _ done := done
  executed _ known done := .inl ⟨known, done⟩
  withdrawn other gone := by
    by_cases same : other = id
    · subst same; simp
    · simpa [same] using gone
  cancelled other stood gone := by
    by_cases same : other = id
    · subst same; exact ⟨eligible, known, expired⟩
    · simp [same, stood] at gone

end Progress

theorem Step.progress {book next : ProposalBook Voter Matter} (step : Step rules now voter book next) :
    Progress rules now voter book next := by
  cases step with
  | moved motion =>
    cases motion with
    | proposed _ eligible admissible => exact .propose eligible admissible
    | approved _ eligible live _ => exact .approve eligible live
    | cancelled _ eligible known _ _ expired => exact .cancel eligible known expired
  | executed _ enactable => exact .execute enactable

theorem Steps.progress {book next : ProposalBook Voter Matter} (steps : Steps rules now voter book next) :
    Progress rules now voter book next := by
  induction steps with
  | refl => exact .refl _
  | tail _ step ih => exact ih.trans step.progress

end ProposalBook

end Agroasys.Foundation
