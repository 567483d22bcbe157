import Agroasys.Foundation.Pool

namespace Agroasys.Foundation

open Function

section Mortal

variable {Effect : Type} {Answer : Effect → Type} {α Part Role : Type}

/-- Before each of its calls the program asks whether it still lives. -/
def Program.mortal (survive : Effect) (survives : Answer survive → Bool) :
    Program Effect Answer α → Program Effect Answer (Option α)
  | .done value => .done (some value)
  | .call effect next => .call survive fun answer =>
      if survives answer then .call effect fun answer => (next answer).mortal survive survives
      else .done none

/-- A mortal program follows, within wider roles, what the program itself follows. -/
theorem Protocol.Follows.mortal {inner : Protocol Effect Answer Part} {outer : Protocol Effect Answer Role}
    (wrap : Part → Role) {survive : Effect} {survives : Answer survive → Bool} {post : Part → α → Prop}
    {result : Role → Option α → Prop} {program : Program Effect Answer α}
    (permitted : ∀ part effect, inner.permits part effect → outer.permits (wrap part) effect)
    (advanced : ∀ part effect answer, inner.permits part effect →
      outer.after (wrap part) effect answer = wrap (inner.after part effect answer))
    (asked : ∀ part, outer.permits (wrap part) survive)
    (survived : ∀ part answer, survives answer = true → outer.after (wrap part) survive answer = wrap part)
    (died : ∀ part answer, survives answer = false → result (outer.after (wrap part) survive answer) none)
    (ended : ∀ part value, post part value → result (wrap part) (some value))
    (follows : inner.Follows post part program) :
    outer.Follows result (wrap part) (program.mortal survive survives) := by
  induction program generalizing part with
  | done value => exact ended part value follows
  | call effect next ih =>
    refine ⟨asked part, fun answer => ?_⟩
    cases alive : survives answer with
    | true =>
      simp only [alive, survived part answer alive, if_true]
      refine ⟨permitted part effect follows.1, fun answer => ?_⟩
      rw [advanced part effect answer follows.1]
      exact ih answer (follows.2 answer)
    | false =>
      simp only [alive, Bool.false_eq_true, if_false]
      exact died part answer alive

end Mortal

section Exclusion

variable {Role Lock : Type}

/-- What a program holds is locked, and no two programs hold one lock. -/
structure Exclusive (holds : Role → Option Lock) (roles : Nat → Option Role) (locked : Lock → Bool) : Prop where
  locked : ∀ pid role lock, roles pid = some role → holds role = some lock → locked lock = true
  alone : ∀ pid other role role' lock, roles pid = some role → holds role = some lock →
    roles other = some role' → holds role' = some lock → pid = other

namespace Exclusive

variable {holds : Role → Option Lock} {roles : Nat → Option Role} {locked : Lock → Bool} {role next : Role} {lock : Lock}

theorem empty : Exclusive holds (fun _ => none) locked where
  locked _ _ _ assigned := by cases assigned
  alone _ _ _ _ _ assigned := by cases assigned

theorem keep (exclusive : Exclusive holds roles locked) (assigned : roles pid = some role)
    (same : holds next = holds role) : Exclusive holds (update roles pid (some next)) locked := by
  have before : ∀ other role', update roles pid (some next) other = some role' →
      ∃ earlier, roles other = some earlier ∧ holds role' = holds earlier := by
    intro other role' playing
    rcases update_assigned playing with ⟨rfl, rfl⟩ | ⟨_, playing⟩
    · exact ⟨role, assigned, same⟩
    · exact ⟨role', playing, rfl⟩
  constructor
  · intro other role' lock playing held
    obtain ⟨earlier, was, holding⟩ := before other role' playing
    exact exclusive.locked other earlier lock was (holding ▸ held)
  · intro first second role' role'' lock playing held playing' held'
    obtain ⟨earlier, was, holding⟩ := before first role' playing
    obtain ⟨earlier', was', holding'⟩ := before second role'' playing'
    exact exclusive.alone first second earlier earlier' lock was (holding ▸ held) was' (holding' ▸ held')

theorem drop (exclusive : Exclusive holds roles locked) (none : holds next = none) :
    Exclusive holds (update roles pid (some next)) locked := by
  have before : ∀ other role' lock, update roles pid (some next) other = some role' → holds role' = some lock →
      roles other = some role' := by
    intro other role' lock playing held
    rcases update_assigned playing with ⟨_, rfl⟩ | ⟨_, playing⟩
    · rw [none] at held
      cases held
    · exact playing
  constructor
  · intro other role' lock playing held
    exact exclusive.locked other role' lock (before other role' lock playing held) held
  · intro first second role' role'' lock playing held playing' held'
    exact exclusive.alone first second role' role'' lock (before first role' lock playing held) held
      (before second role'' lock playing' held') held'

variable [DecidableEq Lock]

theorem acquire (exclusive : Exclusive holds roles locked) (free : locked lock = false) (held : holds next = some lock) :
    Exclusive holds (update roles pid (some next)) (update locked lock true) := by
  have unheld : ∀ other role', roles other = some role' → holds role' ≠ some lock := by
    intro other role' playing holding
    rw [exclusive.locked other role' lock playing holding] at free
    cases free
  constructor
  · intro other role' lock' playing holding
    rcases update_assigned playing with ⟨_, rfl⟩ | ⟨_, playing⟩
    · cases held.symm.trans holding
      exact update_self ..
    · rw [update_of_ne]
      · exact exclusive.locked other role' lock' playing holding
      · rintro rfl
        exact unheld other role' playing holding
  · intro first second role' role'' lock' playing holding playing' holding'
    rcases update_assigned playing with ⟨rfl, rfl⟩ | ⟨_, _⟩
    · cases held.symm.trans holding
      rcases update_assigned playing' with ⟨rfl, _⟩ | ⟨_, playing'⟩
      · rfl
      · exact absurd holding' (unheld second role'' playing')
    · rename_i was
      rcases update_assigned playing' with ⟨rfl, rfl⟩ | ⟨_, playing'⟩
      · cases held.symm.trans holding'
        exact absurd holding (unheld first role' was)
      · exact exclusive.alone first second role' role'' lock' was holding playing' holding'

theorem release (exclusive : Exclusive holds roles locked) (assigned : roles pid = some role)
    (held : holds role = some lock) (none : holds next = none) :
    Exclusive holds (update roles pid (some next)) (update locked lock false) := by
  have dropped : Exclusive holds (update roles pid (some next)) locked := exclusive.drop none
  refine ⟨?_, dropped.alone⟩
  intro other role' lock' playing holding
  rw [update_of_ne]
  · exact dropped.locked other role' lock' playing holding
  · rintro rfl
    rcases update_assigned playing with ⟨_, rfl⟩ | ⟨different, playing⟩
    · rw [none] at holding
      cases holding
    · exact different (exclusive.alone other pid role' role lock' playing holding assigned held)

end Exclusive

end Exclusion

end Agroasys.Foundation
