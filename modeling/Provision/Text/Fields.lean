namespace Provision.Text

/-!
# Cutting a text at a separator

`fields` cuts at every occurrence of one character and keeps empty fields, so joining the fields
with the separator gives the text back.  `cut?` cuts once, at the first occurrence.
-/

/-- The parts of a text between the occurrences of a separator; there is always at least one. -/
def fields {α : Type} [DecidableEq α] (separator : α) : List α → List (List α)
  | [] => [[]]
  | c :: rest =>
      if c = separator then
        [] :: fields separator rest
      else
        match fields separator rest with
        | [] => [[c]]
        | first :: others => (c :: first) :: others

/-- The text before the first separator and the text after it. -/
def cut? {α : Type} [DecidableEq α] (separator : α) : List α → Option (List α × List α)
  | [] => none
  | c :: rest =>
      if c = separator then
        some ([], rest)
      else
        (cut? separator rest).map fun (before, after) => (c :: before, after)

/-- The text before the last separator and the text after it. -/
def cutLast? (separator : Char) (text : List Char) : Option (List Char × List Char) :=
  (cut? separator text.reverse).map fun (after, before) => (before.reverse, after.reverse)

/-- Whether two texts are equal up to the case of ASCII letters. -/
def sameUpToCase (a b : String) : Bool :=
  a.toList.map Char.toLower = b.toList.map Char.toLower

/-- Join texts with a separator between neighbours. -/
def join {α : Type} (separator : α) : List (List α) → List α
  | [] => []
  | [only] => only
  | first :: others => first ++ separator :: join separator others

/-- A text always has at least one field. -/
theorem fields_ne_nil
    {α : Type}
    [DecidableEq α]
    (separator : α)
    (text : List α) :
    fields separator text ≠ [] := by
  cases text with
  | nil => simp [fields]
  | cons c rest =>
      simp only [fields]
      split
      · simp
      · split <;> simp

/-- The fields of a text, joined again, are the text. -/
theorem join_fields
    {α : Type}
    [DecidableEq α]
    (separator : α)
    (text : List α) :
    join separator (fields separator text) = text := by
  induction text with
  | nil => rfl
  | cons c rest inductionHypothesis =>
      simp only [fields]
      split
      · rename_i isSeparator
        cases restFields : fields separator rest with
        | nil => exact absurd restFields (fields_ne_nil separator rest)
        | cons first others =>
            rw [restFields] at inductionHypothesis
            simp [join, inductionHypothesis, isSeparator]
      · split
        · rename_i restFields
          exact absurd restFields (fields_ne_nil separator rest)
        · rename_i first others restFields
          rw [restFields] at inductionHypothesis
          cases others with
          | nil => simpa [join] using inductionHypothesis
          | cons second others =>
              simpa [join] using inductionHypothesis

/-- Drop one leading character if it is the given one. -/
def dropOne (c : Char) : List Char → List Char
  | [] => []
  | first :: rest => if first = c then rest else first :: rest

/-- A string without any leading copies of a character. -/
def withoutLeading (c : Char) (text : String) : String :=
  String.ofList (text.toList.dropWhile (· = c))

/-- A string without any trailing copies of a character. -/
def withoutTrailing (c : Char) (text : String) : String :=
  String.ofList (text.toList.reverse.dropWhile (· = c)).reverse

/-- The address of something below a base address, which may end with slashes. -/
def addressBelow (base rest : String) : String :=
  withoutTrailing '/' base ++ "/" ++ rest

/-- A string without any copies of a character at its ends. -/
def withoutAround (c : Char) (text : String) : String :=
  withoutTrailing c (withoutLeading c text)

/-- The rest of a text after a given beginning. -/
def after? {α : Type} [DecidableEq α] : List α → List α → Option (List α)
  | [], text => some text
  | _ :: _, [] => none
  | expected :: more, c :: rest => if expected = c then after? more rest else none

/-- What follows a beginning is found. -/
theorem after?_append
    {α : Type}
    [DecidableEq α]
    (beginning rest : List α) :
    after? beginning (beginning ++ rest) = some rest := by
  induction beginning with
  | nil => rfl
  | cons expected more inductionHypothesis => simpa [after?] using inductionHypothesis

/-- A text is the beginning that was cut off and the rest after it. -/
theorem eq_append_of_after?
    {α : Type}
    [DecidableEq α]
    {beginning text rest : List α}
    (cut : after? beginning text = some rest) :
    text = beginning ++ rest := by
  induction beginning generalizing text with
  | nil => simpa [after?] using cut
  | cons expected more inductionHypothesis =>
      cases text with
      | nil => simp [after?] at cut
      | cons c others =>
          simp only [after?] at cut
          split at cut
          · rename_i same
            simp [inductionHypothesis cut, same]
          · simp at cut

/-- The rest of a string after a given beginning. -/
def afterString? (beginning text : String) : Option String :=
  (after? beginning.toList text.toList).map String.ofList

/-- Whether a string ends with the given text. -/
def endsWith (text ending : String) : Bool :=
  (after? ending.toList.reverse text.toList.reverse).isSome

/-!
# Blank characters and the words between them

The blank characters are those with the Unicode property `White_Space`.  Every place that trims a
text or cuts it into words uses this one class, so the rules for version ranges, settings and
process output agree on what a blank is.
-/

/-- The characters with the Unicode property `White_Space`. -/
def isBlank (c : Char) : Bool :=
  let code := c.toNat
  (0x09 ≤ code && code ≤ 0x0d) ||
    code = 0x20 ||
    code = 0x85 ||
    code = 0xa0 ||
    code = 0x1680 ||
    (0x2000 ≤ code && code ≤ 0x200a) ||
    code = 0x2028 ||
    code = 0x2029 ||
    code = 0x202f ||
    code = 0x205f ||
    code = 0x3000

/-- Every blank of the ASCII range that core knows is a blank here as well. -/
theorem isBlank_of_isWhitespace
    {c : Char}
    (whitespace : c.isWhitespace = true) :
    isBlank c = true := by
  simp only [Char.isWhitespace, Bool.or_eq_true, decide_eq_true_eq] at whitespace
  rcases whitespace with ((space | tab) | carriage) | line
  · subst space; decide
  · subst tab; decide
  · subst carriage; decide
  · subst line; decide

/-- Drop the blanks that open a text. -/
def trimStart (text : List Char) : List Char :=
  text.dropWhile isBlank

/-- Drop the blanks that close a text. -/
def trimEnd : List Char → List Char
  | [] => []
  | c :: rest =>
      match trimEnd rest with
      | [] => if isBlank c then [] else [c]
      | kept => c :: kept

/-- Drop the blanks at both ends of a text. -/
def trim (text : List Char) : List Char :=
  trimEnd (trimStart text)

/--
The maximal runs of characters that are not blank, from left to right.  The second argument is the
run that is being read.
-/
def wordsFrom : List Char → List Char → List (List Char)
  | [], [] => []
  | [], run => [run.reverse]
  | c :: rest, run =>
      if isBlank c then
        match run with
        | [] => wordsFrom rest []
        | run => run.reverse :: wordsFrom rest []
      else
        wordsFrom rest (c :: run)

/-- The words of a text: its maximal runs of characters that are not blank. -/
def words (text : List Char) : List (List Char) :=
  wordsFrom text []

/-- Trim a string at both ends. -/
def trimmed (text : String) : String :=
  String.ofList (trim text.toList)

end Provision.Text
