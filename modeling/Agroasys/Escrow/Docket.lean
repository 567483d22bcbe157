import Agroasys.Foundation.Ballot
import Agroasys.Escrow.TradeMachine
import Agroasys.Escrow.Storage

namespace Agroasys.Escrow

open Function Agroasys.Foundation

structure Docket where
  status : Nat → TradeStatus
  book : DisputeBook
  active : Nat → Bool
  activeId : Nat → Nat

namespace Docket

/-- Empties the slot of a trade. -/
def release (d : Docket) (tradeId : Nat) : Docket :=
  { d with active := update d.active tradeId false, activeId := update d.activeId tradeId 0 }

def file (d : Docket) (matter : DisputeMatter) (now expiry : Nat) (voter : Address) : Docket :=
  { d with
    book := d.book.propose matter now expiry voter
    active := update d.active matter.tradeId true
    activeId := update d.activeId matter.tradeId d.book.counter }

def second (d : Docket) (id : Nat) (voter : Address) : Docket :=
  { d with book := d.book.approve id voter }

def strike (d : Docket) (id : Nat) : Docket :=
  { d with book := d.book.cancel id }

def settle (d : Docket) (id : Nat) : Docket :=
  let tradeId := (d.book.proposals id).matter.tradeId
  { d with book := d.book.execute id, status := update d.status tradeId .closed }.release tradeId

/-- A proposal holds the slot of its trade. -/
def Holds (d : Docket) (id : Nat) : Prop :=
  d.active (d.book.proposals id).matter.tradeId = true ∧
    d.activeId (d.book.proposals id).matter.tradeId = id

inductive Step (rules : Rules Address DisputeMatter) (now : Nat) (voter : Address) (d : Docket) :
    Docket → Prop where
  | filed (matter : DisputeMatter) (eligible : rules.eligible voter)
      (admissible : rules.admissible matter now) (frozen : d.status matter.tradeId = .frozen)
      (free : d.active matter.tradeId = false) :
      Step rules now voter d (d.file matter now (now + rules.ttl) voter)
  | seconded (id : Nat) (eligible : rules.eligible voter) (live : d.book.Live id now)
      (fresh : d.book.hasApproved id voter = false) : Step rules now voter d (d.second id voter)
  | vacated (tradeId : Nat) (eligible : rules.eligible voter) (active : d.active tradeId = true)
      (standing : d.book.cancelled (d.activeId tradeId) = false)
      (expired : d.book.expiresAt (d.activeId tradeId) < now) :
      Step rules now voter d ((d.strike (d.activeId tradeId)).release tradeId)
  | lapsed (id : Nat) (eligible : rules.eligible voter) (known : id < d.book.counter)
      (pending : (d.book.proposals id).executed = false) (standing : d.book.cancelled id = false)
      (expired : d.book.expiresAt id < now) (holds : d.Holds id) :
      Step rules now voter d ((d.strike id).release (d.book.proposals id).matter.tradeId)
  | abandoned (id : Nat) (eligible : rules.eligible voter) (known : id < d.book.counter)
      (pending : (d.book.proposals id).executed = false) (standing : d.book.cancelled id = false)
      (expired : d.book.expiresAt id < now) (displaced : ¬ d.Holds id) :
      Step rules now voter d (d.strike id)
  | settled (id : Nat) (enactable : d.book.Enactable rules now voter id)
      (frozen : d.status (d.book.proposals id).matter.tradeId = .frozen) :
      Step rules now voter d (d.settle id)
  | moved (tradeId : Nat) (status : TradeStatus) (thawed : d.status tradeId ≠ .frozen)
      (ongoing : d.status tradeId ≠ .closed) :
      Step rules now voter d { d with status := update d.status tradeId status }

abbrev Steps (rules : Rules Address DisputeMatter) (now : Nat) (voter : Address) :
    Docket → Docket → Prop :=
  Relation.ReflTransGen (Step rules now voter)

/-- Slots and proposals agree: a slot is taken exactly by the one open proposal
of its trade, which is frozen; a settled trade is closed; and of two proposals
for one trade the older one was struck off. -/
structure Orderly (d : Docket) : Prop where
  held : ∀ tradeId, d.active tradeId = true → d.activeId tradeId < d.book.counter ∧
    (d.book.proposals (d.activeId tradeId)).matter.tradeId = tradeId ∧
    (d.book.proposals (d.activeId tradeId)).executed = false ∧
    d.book.cancelled (d.activeId tradeId) = false ∧ d.status tradeId = .frozen
  listed : ∀ id, id < d.book.counter → (d.book.proposals id).executed = false →
    d.book.cancelled id = false → d.Holds id
  closed : ∀ id, id < d.book.counter → (d.book.proposals id).executed = true →
    d.status (d.book.proposals id).matter.tradeId = .closed
  superseded : ∀ older newer, older < newer → newer < d.book.counter →
    (d.book.proposals older).matter.tradeId = (d.book.proposals newer).matter.tradeId →
    d.book.cancelled older = true
  fresh : ∀ id, d.book.counter ≤ id → d.book.cancelled id = false

variable {d : Docket} {id : Nat}

/-- A proposal without the slot of its trade is no longer open. -/
theorem Orderly.struck (orderly : d.Orderly) (known : id < d.book.counter)
    (pending : (d.book.proposals id).executed = false) (displaced : ¬ d.Holds id) :
    d.book.cancelled id = true := by
  by_contra standing
  exact displaced (orderly.listed id known pending (by simpa using standing))

private theorem Orderly.file (orderly : d.Orderly) (frozen : d.status matter.tradeId = .frozen)
    (free : d.active matter.tradeId = false) : (d.file matter now expiry voter).Orderly where
  held tradeId active := by
    by_cases same : tradeId = matter.tradeId
    · subst same
      simpa [Docket.file, orderly.fresh] using frozen
    · simp only [Docket.file, update_of_ne same] at active
      obtain ⟨known, trade, pending, standing, status⟩ := orderly.held tradeId active
      have different : d.activeId tradeId ≠ d.book.counter := known.ne
      simp only [Docket.file, ProposalBook.propose_counter, ProposalBook.propose_proposals,
        ProposalBook.propose_cancelled, update_of_ne same, update_of_ne different]
      exact ⟨Nat.lt_succ_of_lt known, trade, pending, standing, status⟩
  listed other known pending standing := by
    by_cases same : other = d.book.counter
    · subst same
      simp [Holds, Docket.file]
    · have old : other < d.book.counter := by
        simp only [Docket.file, ProposalBook.propose_counter] at known
        omega
      simp only [Docket.file, ProposalBook.propose_proposals, ProposalBook.propose_cancelled,
        update_of_ne same] at pending standing
      have holds := orderly.listed other old pending standing
      have elsewhere : (d.book.proposals other).matter.tradeId ≠ matter.tradeId := by
        intro trade
        rw [← trade, holds.1] at free
        cases free
      simpa [Holds, Docket.file, same, elsewhere] using holds
  closed other known done := by
    by_cases same : other = d.book.counter
    · subst same
      simp [Docket.file] at done
    · have old : other < d.book.counter := by
        simp only [Docket.file, ProposalBook.propose_counter] at known
        omega
      simp only [Docket.file, ProposalBook.propose_proposals, update_of_ne same] at done ⊢
      exact orderly.closed other old done
  superseded older newer before known trade := by
    simp only [Docket.file, ProposalBook.propose_counter] at known
    have old : older ≠ d.book.counter := by omega
    by_cases same : newer = d.book.counter
    · subst same
      simp only [Docket.file, ProposalBook.propose_proposals, update_of_ne old, update_self] at trade
      cases done : (d.book.proposals older).executed with
      | true =>
        have closed := orderly.closed older before done
        rw [trade, frozen] at closed
        cases closed
      | false =>
        refine orderly.struck before done fun holds => ?_
        have active := holds.1
        rw [trade, free] at active
        cases active
    · simp only [Docket.file, ProposalBook.propose_proposals, update_of_ne old,
        update_of_ne same] at trade
      exact orderly.superseded older newer before (by omega) trade
  fresh other later := orderly.fresh other (Nat.le_of_succ_le later)

private theorem Orderly.second (orderly : d.Orderly) (voter : Address) : (d.second id voter).Orderly := by
  have matter : ∀ other, ((d.book.approve id voter).proposals other).matter =
      (d.book.proposals other).matter := by
    intro other
    by_cases same : other = id
    · subst same; simp
    · simp [same]
  have executed : ∀ other, ((d.book.approve id voter).proposals other).executed =
      (d.book.proposals other).executed := by
    intro other
    by_cases same : other = id
    · subst same; simp
    · simp [same]
  constructor
  · intro tradeId active
    simp only [Docket.second, matter, executed]
    exact orderly.held tradeId active
  · intro other known pending standing
    simp only [Docket.second, Holds, matter, executed] at pending ⊢
    exact orderly.listed other known pending standing
  · intro other known done
    simp only [Docket.second, matter, executed] at done ⊢
    exact orderly.closed other known done
  · intro older newer before known trade
    simp only [Docket.second, matter] at trade
    exact orderly.superseded older newer before known trade
  · exact orderly.fresh

/-- Striking the holder of a slot empties the slot. -/
theorem Orderly.lapse (orderly : d.Orderly) (known : id < d.book.counter) (holds : d.Holds id) :
    ((d.strike id).release (d.book.proposals id).matter.tradeId).Orderly where
  held tradeId active := by
    by_cases same : tradeId = (d.book.proposals id).matter.tradeId
    · subst same
      simp [release] at active
    · simp only [release, strike, update_of_ne same] at active ⊢
      obtain ⟨earlier, trade, pending, standing, status⟩ := orderly.held tradeId active
      have different : d.activeId tradeId ≠ id := by
        rintro rfl
        exact same trade.symm
      simp only [ProposalBook.cancel_cancelled, update_of_ne different]
      exact ⟨earlier, trade, pending, standing, status⟩
  listed other known pending standing := by
    by_cases same : other = id
    · subst same
      simp [release, strike] at standing
    · simp only [release, strike, ProposalBook.cancel_cancelled, update_of_ne same] at standing
      have listed := orderly.listed other known pending standing
      have elsewhere : (d.book.proposals other).matter.tradeId ≠ (d.book.proposals id).matter.tradeId := by
        intro trade
        have holder := listed.2
        rw [trade, holds.2] at holder
        exact same holder.symm
      simpa [Holds, release, strike, elsewhere] using listed
  closed := orderly.closed
  superseded older newer before known trade := by
    have struck := orderly.superseded older newer before known trade
    by_cases same : older = id
    · subst same
      simp [release, strike]
    · simpa [release, strike, same] using struck
  fresh other later := by
    have different : other ≠ id := (known.trans_le later).ne'
    simpa [release, strike, different] using orderly.fresh other later

private theorem Orderly.settle (orderly : d.Orderly) (known : id < d.book.counter) (holds : d.Holds id) :
    (d.settle id).Orderly where
  held tradeId active := by
    by_cases same : tradeId = (d.book.proposals id).matter.tradeId
    · subst same
      simp [Docket.settle, release] at active
    · simp only [Docket.settle, release, update_of_ne same] at active ⊢
      obtain ⟨earlier, trade, pending, standing, status⟩ := orderly.held tradeId active
      have different : d.activeId tradeId ≠ id := by
        rintro rfl
        exact same trade.symm
      simp only [ProposalBook.execute_proposals, update_of_ne different]
      exact ⟨earlier, trade, pending, standing, status⟩
  listed other known pending standing := by
    by_cases same : other = id
    · subst same
      simp [Docket.settle, release] at pending
    · simp only [Docket.settle, release, ProposalBook.execute_proposals, update_of_ne same] at pending
      have listed := orderly.listed other known pending standing
      have elsewhere : (d.book.proposals other).matter.tradeId ≠ (d.book.proposals id).matter.tradeId := by
        intro trade
        have holder := listed.2
        rw [trade, holds.2] at holder
        exact same holder.symm
      simpa [Holds, Docket.settle, release, same, elsewhere] using listed
  closed other known done := by
    by_cases same : other = id
    · subst same
      simp [Docket.settle, release]
    · simp only [Docket.settle, release, ProposalBook.execute_proposals, update_of_ne same] at done ⊢
      have closed := orderly.closed other known done
      by_cases trade : (d.book.proposals other).matter.tradeId = (d.book.proposals id).matter.tradeId
      · rw [trade, update_self]
      · rwa [update_of_ne trade]
  superseded older newer before known trade := by
    have matter : ∀ other, ((d.book.execute id).proposals other).matter =
        (d.book.proposals other).matter := by
      intro other
      by_cases same : other = id
      · subst same; simp
      · simp [same]
    simp only [Docket.settle, release, matter] at trade
    exact orderly.superseded older newer before known trade
  fresh := orderly.fresh

/-- Every step keeps the docket orderly. -/
theorem Step.orderly (step : Step rules now voter d next) (orderly : d.Orderly) : next.Orderly := by
  cases step with
  | filed matter _ _ frozen free => exact orderly.file frozen free
  | seconded id => exact orderly.second _
  | vacated tradeId _ active =>
    obtain ⟨known, trade, _⟩ := orderly.held tradeId active
    have holds : d.Holds (d.activeId tradeId) := by
      rw [Holds, trade]
      exact ⟨active, rfl⟩
    have lapsed := orderly.lapse known holds
    rwa [trade] at lapsed
  | lapsed id _ known _ _ _ holds => exact orderly.lapse known holds
  | abandoned id _ known pending standing _ displaced =>
    have struck := orderly.struck known pending displaced
    simp [standing] at struck
  | settled id enactable =>
    have live := enactable.live
    exact orderly.settle live.known (orderly.listed id live.known live.pending live.standing)
  | moved tradeId status thawed ongoing =>
    refine ⟨fun other active => ?_, orderly.listed, fun other known done => ?_, orderly.superseded,
      orderly.fresh⟩
    · obtain ⟨known, trade, pending, standing, frozen⟩ := orderly.held other active
      have different : other ≠ tradeId := by
        rintro rfl
        exact thawed frozen
      simp only [update_of_ne different]
      exact ⟨known, trade, pending, standing, frozen⟩
    · have closed := orderly.closed other known done
      have different : (d.book.proposals other).matter.tradeId ≠ tradeId := by
        intro same
        rw [same] at closed
        exact ongoing closed
      simpa [different] using closed

theorem Steps.orderly (steps : Steps rules now voter d next) (orderly : d.Orderly) : next.Orderly := by
  induction steps with
  | refl => exact orderly
  | tail _ step ih => exact step.orderly ih

/-- On an orderly docket every step changes the book of proposals by its rules. -/
theorem Step.book (step : Step rules now voter d next) (orderly : d.Orderly) :
    ProposalBook.Steps rules now voter d.book next.book := by
  cases step with
  | filed matter eligible admissible => exact .single (.moved (.proposed matter eligible admissible))
  | seconded id eligible live fresh => exact .single (.moved (.approved id eligible live fresh))
  | vacated tradeId eligible active standing expired =>
    obtain ⟨known, _, pending, _⟩ := orderly.held tradeId active
    exact .single (.moved (.cancelled _ eligible known pending standing expired))
  | lapsed id eligible known pending standing expired
  | abandoned id eligible known pending standing expired =>
    exact .single (.moved (.cancelled id eligible known pending standing expired))
  | settled id enactable => exact .single (.executed id enactable)
  | moved => exact .refl

theorem Steps.book (steps : Steps rules now voter d next) (orderly : d.Orderly) :
    ProposalBook.Steps rules now voter d.book next.book := by
  induction steps with
  | refl => exact .refl
  | tail earlier step ih => exact ih.trans (step.book (Steps.orderly earlier orderly))

end Docket

end Agroasys.Escrow
