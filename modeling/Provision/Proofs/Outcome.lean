namespace Provision.Outcome

/-!
# Outcomes of computations that may fail

A computation in several steps succeeds if every step does, and fails with the fault of its first
step that fails.  The lemmas open one step at a time.
-/

variable {ε δ α β : Type}

/-- A computation that ends with a value succeeds with it. -/
theorem pure_eq_ok_iff
    {value result : α} :
    (pure value : Except ε α) = .ok result ↔ result = value := by
  simp [pure, Except.pure, eq_comm]

/-- A computation that ends with a value does not fail. -/
theorem pure_ne_error
    {value : α}
    {fault : ε} :
    (pure value : Except ε α) ≠ .error fault := by
  simp [pure, Except.pure]

/-- Two steps succeed if both do. -/
theorem bind_eq_ok_iff
    {first : Except ε α}
    {second : α → Except ε β}
    {result : β} :
    (first >>= second) = .ok result ↔
      ∃ value, first = .ok value ∧ second value = .ok result := by
  cases first <;> simp [bind, Except.bind]

/-- Two steps fail if the first one does, or the second one after it. -/
theorem bind_eq_error_iff
    {first : Except ε α}
    {second : α → Except ε β}
    {fault : ε} :
    (first >>= second) = .error fault ↔
      first = .error fault ∨
        ∃ value, first = .ok value ∧ second value = .error fault := by
  cases first <;> simp [bind, Except.bind]

/-- A change of the value does not touch whether there is one. -/
theorem map_eq_ok_iff
    {outcome : Except ε α}
    {change : α → β}
    {result : β} :
    outcome.map change = .ok result ↔
      ∃ value, outcome = .ok value ∧ result = change value := by
  cases outcome <;> simp [Except.map, eq_comm]

/-- Another wording of the faults does not touch success. -/
theorem mapError_eq_ok_iff
    {outcome : Except ε α}
    {wording : ε → δ}
    {result : α} :
    outcome.mapError wording = .ok result ↔ outcome = .ok result := by
  cases outcome with
  | ok value =>
      change (Except.ok value : Except δ α) = .ok result ↔ _
      rw [Except.ok.injEq, Except.ok.injEq]
  | error fault =>
      change (Except.error (wording fault) : Except δ α) = .ok result ↔ _
      simp

/-- Another wording of the faults is given to the fault that there is. -/
theorem mapError_eq_error_iff
    {outcome : Except ε α}
    {wording : ε → δ}
    {fault : δ} :
    outcome.mapError wording = .error fault ↔
      ∃ original, outcome = .error original ∧ fault = wording original := by
  cases outcome with
  | ok value =>
      change (Except.ok value : Except δ α) = .error fault ↔ _
      simp
  | error original =>
      change (Except.error (wording original) : Except δ α) = .error fault ↔ _
      simp [eq_comm]

end Provision.Outcome
