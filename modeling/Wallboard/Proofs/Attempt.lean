namespace Wallboard

theorem bind_eq_ok_iff {ε α β : Type} {first : Except ε α} {next : α → Except ε β} {answer : β} :
    (first >>= next) = .ok answer ↔ ∃ value, first = .ok value ∧ next value = .ok answer := by
  cases first with
  | error fault => simp [bind, Except.bind]
  | ok value => simp [bind, Except.bind]

theorem map_eq_ok_iff {ε α β : Type} {attempt : Except ε α} {change : α → β} {answer : β} :
    attempt.map change = .ok answer ↔ ∃ value, attempt = .ok value ∧ change value = answer := by
  cases attempt <;> simp [Except.map]

theorem bind_eq_error_iff {ε α β : Type} {first : Except ε α} {next : α → Except ε β} {fault : ε} :
    (first >>= next) = .error fault ↔
      first = .error fault ∨ ∃ value, first = .ok value ∧ next value = .error fault := by
  cases first with
  | error fault => simp [bind, Except.bind]
  | ok value => simp [bind, Except.bind]

/-- Where the second attempt fails under the same condition after every first one. -/
theorem bind_fails_iff {ε α β : Type} {first : Except ε α} {next : α → Except ε β} {condition : Prop}
    (each : ∀ value, (∃ fault, next value = .error fault) ↔ condition) :
    (∃ fault, (first >>= next) = .error fault) ↔
      (∃ fault, first = .error fault) ∨ condition := by
  cases first with
  | error fault => simp [bind, Except.bind]
  | ok value => simpa [bind, Except.bind] using each value

end Wallboard
