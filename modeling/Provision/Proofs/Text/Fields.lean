import Provision.Text.Fields

namespace Provision.Text

/-!
# Cutting joined texts

A text that was joined from parts without the separator is cut into the same parts, by `fields` at
every separator and by `cut?` at the first one.  Every text is joined from its fields, and put
together at the first separator that it has.
-/

/-- What is joined holds the characters of the texts and the separator only. -/
theorem mem_join
    {α : Type}
    {separator : α}
    {parts : List (List α)}
    {c : α}
    (member : c ∈ join separator parts) :
    c = separator ∨ ∃ part ∈ parts, c ∈ part := by
  induction parts with
  | nil =>
      simp [join] at member
  | cons first others inductionHypothesis =>
      cases others with
      | nil =>
          exact Or.inr ⟨first, by simp, member⟩
      | cons second later =>
          rw [join, List.mem_append, List.mem_cons] at member
          · rcases member with inFirst | isSeparator | inOthers
            · exact Or.inr ⟨first, by simp, inFirst⟩
            · exact Or.inl isSeparator
            · rcases inductionHypothesis inOthers with
                  isSeparator | ⟨part, isPart, inPart⟩
              · exact Or.inl isSeparator
              · exact Or.inr ⟨part, by simp [isPart], inPart⟩
          · simp

/-- Joined texts are changed part by part and at the separators. -/
theorem map_join
    {α β : Type}
    (change : α → β)
    (separator : α)
    (parts : List (List α)) :
    (join separator parts).map change =
      join (change separator) (parts.map (List.map change)) := by
  induction parts with
  | nil => rfl
  | cons first others inductionHypothesis =>
      cases others with
      | nil => rfl
      | cons second later =>
          rw [join, List.map_append, List.map_cons, inductionHypothesis]
          · rfl
          · simp

/-- Texts are joined as lists are put together with one more in between. -/
theorem intercalate_eq_join
    {α : Type}
    (separator : α)
    (parts : List (List α)) :
    [separator].intercalate parts = join separator parts := by
  induction parts with
  | nil => rfl
  | cons first others inductionHypothesis =>
      cases others with
      | nil => rw [List.intercalate_singleton, join]
      | cons second later =>
          rw [List.intercalate_cons_cons, inductionHypothesis,
            List.append_assoc]
          rfl

section Separator

variable {α : Type} [DecidableEq α] {separator : α}

/-- A text without the separator is its only field. -/
theorem fields_of_not_mem
    {text : List α}
    (absent : separator ∉ text) :
    fields separator text = [text] := by
  induction text with
  | nil =>
      rfl
  | cons c rest inductionHypothesis =>
      have firstNe : c ≠ separator :=
        fun same => absent (by simp [same])
      have restAbsent : separator ∉ rest :=
        fun member => absent (by simp [member])
      simp [fields, firstNe, inductionHypothesis restAbsent]

/-- The text before the first separator is the first field. -/
theorem fields_append_cons
    {first : List α}
    (rest : List α)
    (absent : separator ∉ first) :
    fields separator (first ++ separator :: rest) =
      first :: fields separator rest := by
  induction first with
  | nil =>
      simp [fields]
  | cons c others inductionHypothesis =>
      have firstNe : c ≠ separator :=
        fun same => absent (by simp [same])
      have othersAbsent : separator ∉ others :=
        fun member => absent (by simp [member])
      simp [fields, firstNe, inductionHypothesis othersAbsent]

/-- The fields of two texts with a separator between them. -/
theorem fields_append_separator (first rest : List α) :
    fields separator (first ++ separator :: rest) =
      fields separator first ++ fields separator rest := by
  induction first with
  | nil =>
      simp [fields]
  | cons c others inductionHypothesis =>
      rw [List.cons_append, fields, fields, inductionHypothesis]
      split
      · rfl
      · cases isFields : fields separator others with
        | nil => exact absurd isFields (fields_ne_nil separator others)
        | cons next later => rfl

/-- Joined texts without the separator are cut into the texts that were joined. -/
theorem fields_join
    {parts : List (List α)}
    (notEmpty : parts ≠ [])
    (absent : ∀ part ∈ parts, separator ∉ part) :
    fields separator (join separator parts) = parts := by
  induction parts with
  | nil =>
      exact absurd rfl notEmpty
  | cons first others inductionHypothesis =>
      have firstAbsent : separator ∉ first :=
        absent first (by simp)
      cases others with
      | nil =>
          exact fields_of_not_mem firstAbsent
      | cons second later =>
          have othersFields :=
            inductionHypothesis (by simp)
              (fun part member => absent part (by simp [member]))
          rw [join, fields_append_cons _ firstAbsent, othersFields]
          simp

/-- No field of a text has the separator. -/
theorem not_mem_of_mem_fields
    {field text : List α}
    (member : field ∈ fields separator text) :
    separator ∉ field := by
  induction text generalizing field with
  | nil =>
      have isNil : field = [] := by simpa [fields] using member
      simp [isNil]
  | cons c rest inductionHypothesis =>
      by_cases isSeparator : c = separator
      · rw [fields, if_pos isSeparator, List.mem_cons] at member
        rcases member with isNil | inRest
        · simp [isNil]
        · exact inductionHypothesis inRest
      · obtain ⟨first, others, isCons⟩ :=
          List.exists_cons_of_ne_nil (fields_ne_nil separator rest)
        simp only [isCons, List.mem_cons] at inductionHypothesis
        simp only [fields, if_neg isSeparator, isCons,
          List.mem_cons] at member
        rcases member with isFirst | inOthers
        · have firstAbsent : separator ∉ first :=
            inductionHypothesis (Or.inl rfl)
          simp [isFirst, firstAbsent, Ne.symm isSeparator]
        · exact inductionHypothesis (Or.inr inOthers)

/-- The fields of a text are the parts without the separator that it is joined from. -/
theorem fields_eq_iff
    {text : List α}
    {parts : List (List α)} :
    fields separator text = parts ↔
      parts ≠ [] ∧
        (∀ part ∈ parts, separator ∉ part) ∧
          text = join separator parts := by
  constructor
  · intro areFields
    rw [← areFields]
    exact ⟨fields_ne_nil separator text,
      fun part member => not_mem_of_mem_fields member,
      (join_fields separator text).symm⟩
  · rintro ⟨notEmpty, absent, isJoined⟩
    rw [isJoined]
    exact fields_join notEmpty absent

/-- A part without the separator is a field of the text that it is joined into. -/
theorem mem_fields_join
    {part : List α}
    {parts : List (List α)}
    (member : part ∈ parts)
    (absent : separator ∉ part) :
    part ∈ fields separator (join separator parts) := by
  induction parts with
  | nil => simp at member
  | cons first others inductionHypothesis =>
      cases others with
      | nil =>
          obtain rfl := List.mem_singleton.mp member
          rw [join, fields_of_not_mem absent]
          exact .head _
      | cons second later =>
          rw [join, fields_append_separator, List.mem_append]
          · rcases List.mem_cons.mp member with rfl | member
            · rw [fields_of_not_mem absent]
              exact Or.inl (.head _)
            · exact Or.inr (inductionHypothesis member)
          · simp

/-- A field is still one when characters change, if none of it becomes a separator. -/
theorem mem_fields_map
    {change : α → α}
    {part text : List α}
    (member : part ∈ fields separator text)
    (keeps : change separator = separator)
    (absent : separator ∉ part.map change) :
    part.map change ∈ fields separator (text.map change) := by
  have isMapped := map_join change separator (fields separator text)
  rw [join_fields, keeps] at isMapped
  rw [isMapped]
  exact mem_fields_join (List.mem_map_of_mem member) absent

/-- The first field of a text starts with the first character, if that is no separator. -/
theorem exists_fields_cons
    {c : α}
    (notSeparator : c ≠ separator)
    (text : List α) :
    ∃ first others, fields separator (c :: text) = (c :: first) :: others := by
  rw [fields, if_neg notSeparator]
  split
  · rename_i isNil
    exact absurd isNil (fields_ne_nil separator text)
  · exact ⟨_, _, rfl⟩

/-- What stands in front of a text, without a separator, belongs to the first field. -/
theorem exists_fields_append
    {before : List α}
    (absent : separator ∉ before)
    (rest : List α) :
    ∃ first others,
      fields separator rest = first :: others ∧
        fields separator (before ++ rest) = (before ++ first) :: others := by
  induction before with
  | nil =>
      obtain ⟨first, others, isCons⟩ :=
        List.exists_cons_of_ne_nil (fields_ne_nil separator rest)
      exact ⟨first, others, isCons, isCons⟩
  | cons c before inductionHypothesis =>
      rw [List.mem_cons, not_or] at absent
      obtain ⟨first, others, isCons, isFields⟩ :=
        inductionHypothesis absent.2
      refine ⟨first, others, isCons, ?_⟩
      rw [List.cons_append, fields, if_neg (Ne.symm absent.1), isFields]
      rfl

/-- The last field of a text ends with the last character, if that is no separator. -/
theorem exists_fields_concat
    {c : α}
    (notSeparator : c ≠ separator)
    (text : List α) :
    ∃ before last,
      fields separator (text ++ [c]) = before ++ [last ++ [c]] := by
  induction text with
  | nil => exact ⟨[], [], by simp [fields, notSeparator]⟩
  | cons first rest inductionHypothesis =>
      obtain ⟨before, last, isConcat⟩ := inductionHypothesis
      rw [List.cons_append, fields]
      split
      · exact ⟨[] :: before, last, by rw [isConcat]; rfl⟩
      · rw [isConcat]
        cases before with
        | nil => exact ⟨[], first :: last, rfl⟩
        | cons next others => exact ⟨(first :: next) :: others, last, rfl⟩

/-- A text without the separator cannot be cut at it. -/
theorem cut?_of_not_mem
    {text : List α}
    (absent : separator ∉ text) :
    cut? separator text = none := by
  induction text with
  | nil =>
      rfl
  | cons c rest inductionHypothesis =>
      have firstNe : c ≠ separator :=
        fun same => absent (by simp [same])
      have restAbsent : separator ∉ rest :=
        fun member => absent (by simp [member])
      simp [cut?, firstNe, inductionHypothesis restAbsent]

/-- A text is cut at its first separator. -/
theorem cut?_append_cons
    {before : List α}
    (after : List α)
    (absent : separator ∉ before) :
    cut? separator (before ++ separator :: after) =
      some (before, after) := by
  induction before with
  | nil =>
      simp [cut?]
  | cons c others inductionHypothesis =>
      have firstNe : c ≠ separator :=
        fun same => absent (by simp [same])
      have othersAbsent : separator ∉ others :=
        fun member => absent (by simp [member])
      simp [cut?, firstNe, inductionHypothesis othersAbsent]

/-- A text with another one behind a separator, if there is another one. -/
def extended (separator : α) (front : List α) : Option (List α) → List α
  | none => front
  | some back => front ++ separator :: back

/-- A text that was put together at its first separator is cut into the same two. -/
theorem cut?_extended
    {front : List α}
    (back? : Option (List α))
    (absent : separator ∉ front) :
    cut? separator (extended separator front back?) =
      back?.map fun back => (front, back) := by
  cases back? with
  | none =>
      exact cut?_of_not_mem absent
  | some back =>
      exact cut?_append_cons back absent

/-- Every text is put together at its first separator. -/
theorem exists_extended (separator : α) (text : List α) :
    ∃ front back?,
      separator ∉ front ∧ text = extended separator front back? := by
  by_cases member : separator ∈ text
  · obtain ⟨front, back, isSplit, absent⟩ :=
      List.eq_append_cons_of_mem member
    exact ⟨front, some back, absent, isSplit⟩
  · exact ⟨text, none, member, rfl⟩

end Separator

end Provision.Text
