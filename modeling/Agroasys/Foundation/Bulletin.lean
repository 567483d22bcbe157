import Agroasys.Foundation.Ballot

namespace Agroasys.Foundation

open Function

structure Standing (Matter : Type) where
  matter : Matter
  approvalCount : Nat
  executed : Bool
  cancelled : Bool
  deriving DecidableEq

variable {Voter Matter : Type}

abbrev Standings (Matter : Type) := Nat → Option (Standing Matter)

namespace ProposalBook

def standing (book : ProposalBook Voter Matter) (id : Nat) : Standing Matter :=
  ⟨(book.proposals id).matter, (book.proposals id).approvalCount, (book.proposals id).executed,
    book.cancelled id⟩

def standings (book : ProposalBook Voter Matter) : Standings Matter := fun id =>
  if id < book.counter then some (book.standing id) else none

/-- Known and executed. -/
def enacted (book : ProposalBook Voter Matter) (id : Nat) : Bool :=
  decide (id < book.counter) && (book.proposals id).executed

variable {book : ProposalBook Voter Matter} {id : Nat}

theorem standings_known (known : id < book.counter) : book.standings id = some (book.standing id) :=
  if_pos known

theorem standings_fresh (book : ProposalBook Voter Matter) : book.standings book.counter = none :=
  if_neg (Nat.lt_irrefl _)

/-- The standings after a change of one known proposal. -/
theorem standings_change {next : ProposalBook Voter Matter} (known : id < book.counter)
    (counter : next.counter = book.counter) (others : ∀ other, other ≠ id → next.standing other = book.standing other) :
    next.standings = update book.standings id (some (next.standing id)) := by
  funext other
  by_cases same : other = id
  · subst same
    rw [update_self, standings_known (counter ▸ known)]
  · rw [update_of_ne same, standings, standings, counter, others other same]

theorem enacted_execute (known : id < book.counter) :
    (book.execute id).enacted = update book.enacted id true := by
  funext other
  by_cases same : other = id
  · subst same
    simp [enacted, known]
  · simp [enacted, same]

theorem standings_execute (known : id < book.counter) :
    (book.execute id).standings = update book.standings id (some { book.standing id with executed := true }) := by
  have changed : (book.execute id).standing id = { book.standing id with executed := true } := by
    simp [standing]
  rw [← changed]
  refine standings_change known rfl ?_
  intro other different
  simp [standing, different]

theorem standings_cancel (known : id < book.counter) :
    (book.cancel id).standings = update book.standings id (some { book.standing id with cancelled := true }) := by
  have changed : (book.cancel id).standing id = { book.standing id with cancelled := true } := by
    simp [standing]
  rw [← changed]
  refine standings_change known rfl ?_
  intro other different
  simp [standing, different]

variable [DecidableEq Voter]

theorem standings_approve (voter : Voter) (known : id < book.counter) :
    (book.approve id voter).standings = update book.standings id
      (some { book.standing id with approvalCount := (book.proposals id).approvalCount + 1 }) := by
  have changed : (book.approve id voter).standing id =
      { book.standing id with approvalCount := (book.proposals id).approvalCount + 1 } := by
    simp [standing]
  rw [← changed]
  refine standings_change known rfl ?_
  intro other different
  simp [standing, different]

theorem standings_propose (matter : Matter) (now expiry : Nat) (voter : Voter)
    (standing : book.cancelled book.counter = false) :
    (book.propose matter now expiry voter).standings =
      update book.standings book.counter (some ⟨matter, 1, false, false⟩) := by
  funext other
  by_cases same : other = book.counter
  · subst same
    simp [standings, ProposalBook.standing, standing]
  · have order : other < book.counter + 1 ↔ other < book.counter := by omega
    simp [standings, ProposalBook.standing, same, order]

@[simp] theorem enacted_approve (book : ProposalBook Voter Matter) (id : Nat) (voter : Voter) :
    (book.approve id voter).enacted = book.enacted := by
  funext other
  by_cases same : other = id
  · subst same
    simp [enacted]
  · simp [enacted, same]

@[simp] theorem enacted_propose (book : ProposalBook Voter Matter) (matter : Matter) (now expiry : Nat)
    (voter : Voter) : (book.propose matter now expiry voter).enacted = book.enacted := by
  funext other
  by_cases same : other = book.counter
  · subst same
    simp [enacted]
  · have order : other < book.counter + 1 ↔ other < book.counter := by omega
    simp [enacted, same, order]

end ProposalBook

/-- What is announced about the proposals of one book. An execution need not say which
proposal it was. -/
inductive Notice (Matter : Type) where
  | proposed (id : Nat) (matter : Matter)
  | approved (id approvalCount : Nat)
  | cancelled (id : Nat)
  | executed

inductive Notice.Posts (before : Standings Matter) : Notice Matter → Standings Matter → Prop where
  | proposed {id : Nat} (absent : before id = none) :
      Posts before (.proposed id matter) (update before id (some ⟨matter, 1, false, false⟩))
  | approved {id : Nat} (found : before id = some standing) :
      Posts before (.approved id approvalCount)
        (update before id (some { standing with approvalCount := approvalCount }))
  | cancelled {id : Nat} (found : before id = some standing) :
      Posts before (.cancelled id) (update before id (some { standing with cancelled := true }))
  | executed {id : Nat} (found : before id = some standing) :
      Posts before .executed (update before id (some { standing with executed := true }))

/-- Some executed proposal is one of these. -/
def Standings.Enacts (standings : Standings Matter) (among : Nat → Matter → Prop) : Prop :=
  ∃ id standing, standings id = some standing ∧ standing.executed = true ∧ among id standing.matter

namespace Standings

variable {before : Standings Matter} {id : Nat} {new old : Standing Matter} {among : Nat → Matter → Prop}

theorem enacts_update (same : new.executed = true ∧ among id new.matter ↔
      ∃ old, before id = some old ∧ old.executed = true ∧ among id old.matter) :
    Standings.Enacts (update before id (some new)) among ↔ before.Enacts among := by
  constructor
  · rintro ⟨known, standing, present, executed⟩
    by_cases self : known = id
    · subst self
      rw [update_self] at present
      obtain rfl := Option.some.inj present
      obtain ⟨old, found, earlier⟩ := same.mp executed
      exact ⟨known, old, found, earlier⟩
    · rw [update_of_ne self] at present
      exact ⟨known, standing, present, executed⟩
  · rintro ⟨known, standing, present, executed⟩
    by_cases self : known = id
    · subst self
      exact ⟨known, new, update_self .., same.mpr ⟨standing, present, executed⟩⟩
    · exact ⟨known, standing, by rwa [update_of_ne self], executed⟩

theorem enacts_executed (found : before id = some old) :
    Standings.Enacts (update before id (some { old with executed := true })) among ↔
      before.Enacts among ∨ among id old.matter := by
  constructor
  · rintro ⟨known, standing, present, executed, member⟩
    by_cases self : known = id
    · subst self
      rw [update_self] at present
      obtain rfl := Option.some.inj present
      exact .inr member
    · rw [update_of_ne self] at present
      exact .inl ⟨known, standing, present, executed, member⟩
  · rintro (⟨known, standing, present, executed, member⟩ | member)
    · by_cases self : known = id
      · subst self
        obtain rfl := Option.some.inj (found.symm.trans present)
        exact ⟨known, _, update_self .., rfl, member⟩
      · exact ⟨known, standing, by rwa [update_of_ne self], executed, member⟩
    · exact ⟨id, _, update_self .., rfl, member⟩

end Standings

namespace Notice.Posts

variable {before : Standings Matter} {id : Nat}

/-- A count announced again changes nothing. -/
theorem recounted (found : before id = some standing) :
    Posts before (.approved id standing.approvalCount) before := by
  have posts : Posts before (.approved id standing.approvalCount) (update before id (some standing)) :=
    .approved found
  rwa [← found, update_eq_self] at posts

/-- Only an execution executes, and nothing undoes one. -/
theorem enacts_iff {notice : Notice Matter} {after : Standings Matter} (posts : notice.Posts before after)
    (other : notice ≠ .executed) (among : Nat → Matter → Prop) : after.Enacts among ↔ before.Enacts among := by
  cases posts with
  | proposed absent => exact Standings.enacts_update (by simp [absent])
  | approved found => exact Standings.enacts_update (by simp [found])
  | cancelled found => exact Standings.enacts_update (by simp [found])
  | executed => exact absurd rfl other

end Notice.Posts

namespace ProposalBook

variable {book : ProposalBook Voter Matter} {id : Nat}

theorem posts_execute (known : id < book.counter) :
    Notice.Posts book.standings .executed (book.execute id).standings := by
  rw [standings_execute known]
  exact .executed (standings_known known)

theorem posts_cancel (known : id < book.counter) :
    Notice.Posts book.standings (.cancelled id) (book.cancel id).standings := by
  rw [standings_cancel known]
  exact .cancelled (standings_known known)

variable [DecidableEq Voter]

theorem posts_approve (voter : Voter) (known : id < book.counter) :
    Notice.Posts book.standings (.approved id ((book.proposals id).approvalCount + 1))
      (book.approve id voter).standings := by
  rw [standings_approve voter known]
  exact .approved (standings_known known)

theorem posts_propose (matter : Matter) (now expiry : Nat) (voter : Voter)
    (standing : book.cancelled book.counter = false) :
    Notice.Posts book.standings (.proposed book.counter matter)
      (book.propose matter now expiry voter).standings := by
  rw [standings_propose matter now expiry voter standing]
  exact .proposed (standings_fresh book)

end ProposalBook

end Agroasys.Foundation
