namespace Agroasys

variable {Error : Type}

theorem bind_eq_ok {action : Except Error α} {next : α → Except Error β} :
    (action >>= next) = .ok result ↔ ∃ value, action = .ok value ∧ next value = .ok result := by
  cases action <;> simp [bind, Except.bind]

theorem bind_eq_error {action : Except Error α} {next : α → Except Error β} :
    (action >>= next) = .error error ↔
      action = .error error ∨ ∃ value, action = .ok value ∧ next value = .error error := by
  cases action <;> simp [bind, Except.bind]

theorem map_bind {action : Except Error α} {next : α → Except Error β} (f : β → γ) :
    (action >>= next).map f = action >>= fun value => (next value).map f := by
  cases action <;> rfl

theorem bind_map {action : Except Error α} {next : β → Except Error γ} (f : α → β) :
    action.map f >>= next = action >>= fun value => next (f value) := by
  cases action <;> rfl

end Agroasys
