namespace Provision.Keyed

/-!
# Lists with keys

A list of keys with values stands for what each key has: the value where the key comes first.
Putting a value at a key and dropping a key change nothing for all other keys.
-/

variable {α β : Type} [BEq α]

/-- Take a key away. -/
def drop (key : α) (items : List (α × β)) : List (α × β) :=
  items.filter fun item => item.1 != key

/-- Give a key a value, in place of the one that it has. -/
def put (key : α) (value : β) (items : List (α × β)) : List (α × β) :=
  (key, value) :: drop key items

/-- Give a key a value where it stands, or else at the end. -/
def update (key : α) (value : β) : List (α × β) → List (α × β)
  | [] => [(key, value)]
  | (other, old) :: rest =>
      if key == other then (key, value) :: rest else (other, old) :: update key value rest

variable [LawfulBEq α]

/-- Looking up in a filtered list finds what was there, if the filter keeps the key. -/
theorem lookup_filter
    (items : List (α × β))
    (keep : α → Bool)
    (key : α)
    (kept : keep key = true) :
    (items.filter fun item => keep item.1).lookup key = items.lookup key := by
  induction items with
  | nil => rfl
  | cons item rest inductionHypothesis =>
      obtain ⟨place, value⟩ := item
      by_cases same : key = place
      · subst same
        simp [List.filter, kept]
      · have different : (key == place) = false := by simp [same]
        by_cases keepPlace : keep place = true
        · simp [List.filter, keepPlace, List.lookup_cons, different, inductionHypothesis]
        · simp [List.filter, keepPlace, List.lookup_cons, different, inductionHypothesis]

/-- Looking up in a filtered list finds nothing where the filter drops the key. -/
theorem lookup_filter_dropped
    (items : List (α × β))
    (keep : α → Bool)
    (key : α)
    (dropped : keep key = false) :
    (items.filter fun item => keep item.1).lookup key = none := by
  induction items with
  | nil => rfl
  | cons item rest inductionHypothesis =>
      obtain ⟨place, value⟩ := item
      by_cases same : key = place
      · subst same
        simp [List.filter, dropped, inductionHypothesis]
      · have different : (key == place) = false := by simp [same]
        by_cases keepPlace : keep place = true
        · simp [List.filter, keepPlace, List.lookup_cons, different, inductionHypothesis]
        · simp [List.filter, keepPlace, inductionHypothesis]

/-- A key that was taken away has no value. -/
@[simp] theorem lookup_drop_self
    (key : α)
    (items : List (α × β)) :
    (drop key items).lookup key = none :=
  lookup_filter_dropped items (fun other => other != key) key (by simp)

/-- Taking a key away changes no other key. -/
theorem lookup_drop_of_ne
    {key other : α}
    (items : List (α × β))
    (different : other ≠ key) :
    (drop key items).lookup other = items.lookup other :=
  lookup_filter items (fun place => place != key) other (by simpa)

/-- A key has the value that it was given. -/
@[simp] theorem lookup_put_self
    (key : α)
    (value : β)
    (items : List (α × β)) :
    (put key value items).lookup key = some value := by
  simp [put]

/-- Giving a key a value changes no other key. -/
theorem lookup_put_of_ne
    {key other : α}
    (value : β)
    (items : List (α × β))
    (different : other ≠ key) :
    (put key value items).lookup other = items.lookup other := by
  have isDifferent : (other == key) = false := by simp [different]
  simp only [put, List.lookup_cons, isDifferent]
  exact lookup_drop_of_ne items different

/-- A key has the value that it was given where it stands. -/
@[simp] theorem lookup_update_self
    (key : α)
    (value : β)
    (items : List (α × β)) :
    (update key value items).lookup key = some value := by
  induction items with
  | nil => simp [update]
  | cons item rest inductionHypothesis =>
      obtain ⟨place, old⟩ := item
      by_cases same : (key == place) = true
      · simp [update, same]
      · simp only [Bool.not_eq_true] at same
        simp [update, same, List.lookup_cons, inductionHypothesis]

/-- Giving a key a value where it stands changes no other key. -/
theorem lookup_update_of_ne
    {key other : α}
    (value : β)
    (items : List (α × β))
    (different : other ≠ key) :
    (update key value items).lookup other = items.lookup other := by
  have isDifferent : (other == key) = false := by simp [different]
  induction items with
  | nil => simp [update, List.lookup_cons, isDifferent]
  | cons item rest inductionHypothesis =>
      obtain ⟨place, old⟩ := item
      by_cases same : (key == place) = true
      · have place_eq : key = place := by simpa using same
        subst place_eq
        simp [update, List.lookup_cons, isDifferent]
      · simp only [Bool.not_eq_true] at same
        simp [update, same, List.lookup_cons, inductionHypothesis]

end Provision.Keyed
