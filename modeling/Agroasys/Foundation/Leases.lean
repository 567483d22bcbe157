import Mathlib.Data.List.Basic

/-! Keys that are taken until they expire. Taking one also removes the expired ones,
before or after it looks. -/

namespace Agroasys.Foundation

structure Lease (Key : Type) where
  key : Key
  expiresAt : Nat

variable {Key : Type} [DecidableEq Key]

/-- Take a key unless it is there, and prune. -/
def takeLease (pruneFirst : Bool) (now : Nat) (lease : Lease Key) (leases : List (Lease Key)) :
    Bool × List (Lease Key) :=
  let live := leases.filter fun other => now < other.expiresAt
  let seen := if pruneFirst then live else leases
  if seen.any fun other => other.key = lease.key then (false, live) else (true, lease :: live)

section Take

variable {leases : List (Lease Key)} {lease other : Lease Key}

/-- Taking a key leaves the leases that have not expired. -/
theorem takeLease_keeps (pruneFirst : Bool) (now : Nat) (lease : Lease Key) (member : other ∈ leases)
    (live : now < other.expiresAt) : other ∈ (takeLease pruneFirst now lease leases).2 := by
  have present : other ∈ leases.filter fun other => now < other.expiresAt := by
    simp [member, live]
  unfold takeLease
  dsimp only
  generalize (if pruneFirst then leases.filter fun other => now < other.expiresAt else leases).any
    (fun other => other.key = lease.key) = taken
  cases taken with
  | true => exact present
  | false => exact List.mem_cons_of_mem _ present

theorem takeLease_taken (taken : (takeLease pruneFirst now lease leases).1 = true) :
    lease ∈ (takeLease pruneFirst now lease leases).2 := by
  unfold takeLease at taken ⊢
  dsimp only at taken ⊢
  generalize (if pruneFirst then leases.filter fun other => now < other.expiresAt else leases).any
    (fun other => other.key = lease.key) = found at taken ⊢
  cases found with
  | true => cases taken
  | false => exact List.mem_cons_self

/-- A key is not taken again before it expires. -/
theorem takeLease_refuses (member : other ∈ leases) (same : other.key = lease.key)
    (live : now < other.expiresAt) : (takeLease pruneFirst now lease leases).1 = false := by
  have present : other ∈ leases.filter fun other => now < other.expiresAt := by
    simp [member, live]
  unfold takeLease
  dsimp only
  rw [if_pos]
  rw [List.any_eq_true]
  refine ⟨other, ?_, by simpa using same⟩
  cases pruneFirst with
  | true => exact present
  | false => exact member

/-- Pruned first, a key is refused if and only if it is there and has not expired. -/
theorem takeLease_held (member : other ∈ leases) (same : other.key = lease.key) (live : now < other.expiresAt) :
    takeLease true now lease leases = (false, leases.filter fun other => now < other.expiresAt) := by
  have refused : (leases.filter fun other => now < other.expiresAt).any
      (fun other => other.key = lease.key) = true := by
    rw [List.any_eq_true]
    exact ⟨other, by simp [member, live], by simpa using same⟩
  unfold takeLease
  simp only [if_true, refused]

theorem takeLease_free (free : ∀ other ∈ leases, other.key = lease.key → ¬ now < other.expiresAt) :
    takeLease true now lease leases = (true, lease :: leases.filter fun other => now < other.expiresAt) := by
  have accepted : (leases.filter fun other => now < other.expiresAt).any
      (fun other => other.key = lease.key) = false := by
    rw [List.any_eq_false]
    intro other member
    rw [List.mem_filter, decide_eq_true_eq] at member
    simpa using fun same => free other member.1 same member.2
  unfold takeLease
  simp only [if_true, accepted]
  rfl

end Take

end Agroasys.Foundation
