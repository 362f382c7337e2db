import Provision.Proofs.Version.Grammar

namespace Provision

/-!
# Spellings of version patterns

One pattern can be written in many ways: with a leading `v`, with zeros in front of its numbers,
with any of three wildcards for the components that are left open, and with build metadata, which
says nothing.  A `PatternSpelling` is one of these ways.  The main statement is that every spelling
is read as the pattern that it spells.
-/

/-- A 64-bit number in decimal digits, with any number of zeros in front. -/
structure Numeral where
  leadingZeros : Nat := 0
  value : UInt64
  deriving Repr, DecidableEq

namespace Numeral

/-- The digits of a numeral. -/
def text (numeral : Numeral) : List Char :=
  List.replicate numeral.leadingZeros '0' ++
    Nat.toDigits 10 numeral.value.toNat

/-- Every numeral has a digit. -/
theorem text_ne_nil (numeral : Numeral) : numeral.text ≠ [] := by
  simp [text]

/-- Numerals consist of digits. -/
theorem isDigit_of_mem_text
    {numeral : Numeral}
    {c : Char}
    (member : c ∈ numeral.text) :
    c.isDigit = true := by
  rcases List.mem_append.mp member with inZeros | inDigits
  · rw [(List.mem_replicate.mp inZeros).2]
    decide
  · exact Nat.isDigit_of_mem_toDigits (by decide) (by decide) inDigits

/-- A numeral stands for its value, whatever zeros lead it. -/
theorem isNumeral_text (numeral : Numeral) :
    Text.IsNumeral numeral.text numeral.value := by
  refine ⟨numeral.text_ne_nil,
    fun c member => isDigit_of_mem_text member, ?_⟩
  rw [text, Nat.ofDigitChars_append, Nat.ofDigitChars_replicate_zero,
    Nat.mul_zero]
  exact Nat.ofDigitChars_ten_toDigits

end Numeral

/-- The characters that leave a component open. -/
inductive Wildcard where
  | small
  | capital
  | star
  deriving Repr, DecidableEq

/-- The written form of a wildcard. -/
def Wildcard.text : Wildcard → List Char
  | .small => ['x']
  | .capital => ['X']
  | .star => ['*']

/--
A pattern as it is written: numbers, then wildcards, and no number after a wildcard.  Only a full
triple has a tag, which may be empty.
-/
structure PatternSpelling where
  hasMark : Bool := false
  numbers : List Numeral
  wildcards : List Wildcard := []
  tag? : Option Prerelease := none
  build? : Option (List Char) := none
  notEmpty : 0 < numbers.length + wildcards.length := by decide
  atMostThree : numbers.length + wildcards.length ≤ 3 := by decide
  tagOnTriple : tag?.isSome = true → numbers.length = 3 := by decide
  buildAllowed :
    ∀ c ∈ build?.getD [], isIdentifierChar c = true ∨ c = '.' := by simp

namespace PatternSpelling

/-- The texts between the dots of the core. -/
def components (spelling : PatternSpelling) : List (List Char) :=
  spelling.numbers.map Numeral.text ++
    spelling.wildcards.map Wildcard.text

/-- The part in front of the tag. -/
def core (spelling : PatternSpelling) : List Char :=
  Text.join '.' spelling.components

/-- The tag with the hyphen in front of it. -/
def tagText (spelling : PatternSpelling) : List Char :=
  match spelling.tag? with
  | some tag => '-' :: tag.toText
  | none => []

/-- The build metadata with the plus sign in front of it. -/
def buildText (spelling : PatternSpelling) : List Char :=
  match spelling.build? with
  | some build => '+' :: build
  | none => []

/-- The mark in front of the core. -/
def markText (spelling : PatternSpelling) : List Char :=
  if spelling.hasMark then ['v'] else []

/-- The whole text. -/
def text (spelling : PatternSpelling) : List Char :=
  spelling.markText ++ (spelling.core ++ spelling.tagText) ++
    spelling.buildText

/-- The pattern that is spelled. -/
def pattern (spelling : PatternSpelling) : VersionPattern :=
  match spelling.numbers with
  | [] => .any
  | [major] => .ofMajor major.value
  | [major, minor] => .ofMinor major.value minor.value
  | major :: minor :: patch :: _ =>
      .full major.value minor.value patch.value (spelling.tag?.getD [])

/-- The characters of components: digits and wildcards. -/
def isComponentChar (c : Char) : Bool :=
  c.isDigit || c = 'x' || c = 'X' || c = '*'

/-- Components are written with digits or one wildcard. -/
theorem isComponentChar_of_mem
    {spelling : PatternSpelling}
    {component : List Char}
    {c : Char}
    (isComponent : component ∈ spelling.components)
    (member : c ∈ component) :
    isComponentChar c = true := by
  rcases List.mem_append.mp isComponent with isNumber | isWildcard
  · obtain ⟨numeral, -, rfl⟩ := List.mem_map.mp isNumber
    simp [isComponentChar, Numeral.isDigit_of_mem_text member]
  · obtain ⟨wildcard, -, rfl⟩ := List.mem_map.mp isWildcard
    cases wildcard <;>
      · rw [Wildcard.text, List.mem_singleton] at member
        subst member
        decide

/-- A core has at least one component. -/
theorem components_ne_nil (spelling : PatternSpelling) :
    spelling.components ≠ [] := by
  intro empty
  have lengths : spelling.components.length = 0 := by
    rw [empty]
    rfl
  rw [components, List.length_append, List.length_map,
    List.length_map] at lengths
  have := spelling.notEmpty
  omega

/-- The core holds component characters and dots. -/
theorem mem_core
    {spelling : PatternSpelling}
    {c : Char}
    (member : c ∈ spelling.core) :
    c = '.' ∨ isComponentChar c = true := by
  rcases Text.mem_join member with isDot | ⟨component, isComponent, inside⟩
  · exact Or.inl isDot
  · exact Or.inr (isComponentChar_of_mem isComponent inside)

/-- The core opens with a component character, so it opens with neither `v` nor a hyphen. -/
theorem core_opening (spelling : PatternSpelling) :
    ∃ c rest, spelling.core = c :: rest ∧ isComponentChar c = true := by
  obtain ⟨component, others, shape⟩ :=
    List.exists_cons_of_ne_nil spelling.components_ne_nil
  have isComponent : component ∈ spelling.components := by
    simp [shape]
  have notEmpty : component ≠ [] := by
    rcases List.mem_append.mp isComponent with isNumber | isWildcard
    · obtain ⟨numeral, -, rfl⟩ := List.mem_map.mp isNumber
      exact numeral.text_ne_nil
    · obtain ⟨wildcard, -, rfl⟩ := List.mem_map.mp isWildcard
      cases wildcard <;> simp [Wildcard.text]
  obtain ⟨c, rest, componentShape⟩ := List.exists_cons_of_ne_nil notEmpty
  have allowed : isComponentChar c = true :=
    isComponentChar_of_mem isComponent (by simp [componentShape])
  rw [core, shape, componentShape]
  cases others with
  | nil =>
      exact ⟨c, rest, rfl, allowed⟩
  | cons second later =>
      exact ⟨c, _, rfl, allowed⟩

/-- The characters of a core are characters of patterns, but no hyphen and no plus sign. -/
theorem core_allowed
    {spelling : PatternSpelling}
    {c : Char}
    (member : c ∈ spelling.core) :
    isPatternChar c = true ∧ c ≠ '-' ∧ c ≠ '+' := by
  rcases mem_core member with isDot | allowed
  · subst isDot
    decide
  · simp only [isComponentChar, Bool.or_eq_true, decide_eq_true_eq] at allowed
    rcases allowed with ((digit | small) | capital) | star
    · refine ⟨?_, ?_, ?_⟩
      · simp [isPatternChar, isIdentifierChar_of_isDigit digit]
      · intro isHyphen
        rw [isHyphen] at digit
        exact absurd digit (by decide)
      · intro isPlus
        rw [isPlus] at digit
        exact absurd digit (by decide)
    · subst small
      decide
    · subst capital
      decide
    · subst star
      decide

/-- In front of the build metadata there is no plus sign. -/
theorem body_allowed
    {spelling : PatternSpelling}
    {c : Char}
    (member : c ∈ spelling.core ++ spelling.tagText) :
    isPatternChar c = true ∧ c ≠ '+' := by
  rcases List.mem_append.mp member with inCore | inTag
  · exact ⟨(core_allowed inCore).1, (core_allowed inCore).2.2⟩
  · rw [tagText] at inTag
    cases tagShape : spelling.tag? with
    | none =>
        simp [tagShape] at inTag
    | some tag =>
        simp only [tagShape, List.mem_cons] at inTag
        rcases inTag with isHyphen | inside
        · subst isHyphen
          decide
        · exact Prerelease.isPatternChar_of_mem_toText inside

/-- Spellings consist of the characters of patterns. -/
theorem isPatternChar_of_mem_text
    {spelling : PatternSpelling}
    {c : Char}
    (member : c ∈ spelling.text) :
    isPatternChar c = true := by
  rcases List.mem_append.mp member with inFront | inBuild
  · rcases List.mem_append.mp inFront with inMark | inBody
    · rw [markText] at inMark
      split at inMark
      · rw [List.mem_singleton] at inMark
        subst inMark
        decide
      · simp at inMark
    · exact (body_allowed inBody).1
  · rw [buildText] at inBuild
    cases buildShape : spelling.build? with
    | none =>
        simp [buildShape] at inBuild
    | some build =>
        simp only [buildShape, List.mem_cons] at inBuild
        rcases inBuild with isPlus | inside
        · subst isPlus
          decide
        · have allowed := spelling.buildAllowed c (by simp [buildShape, inside])
          rcases allowed with identifier | isDot
          · simp [isPatternChar, identifier]
          · subst isDot
            decide

/-- A spelling is not empty and does not open with a hyphen. -/
theorem text_opening (spelling : PatternSpelling) :
    ∃ c rest, spelling.text = c :: rest ∧ c ≠ '-' := by
  obtain ⟨c, rest, coreShape, allowed⟩ := spelling.core_opening
  rw [text, markText, coreShape]
  split
  · exact ⟨'v', _, rfl, by decide⟩
  · refine ⟨c, _, rfl, ?_⟩
    intro isHyphen
    rw [isHyphen] at allowed
    exact absurd allowed (by decide)

/-- A spelling has no blanks that could be trimmed. -/
theorem trim_text (spelling : PatternSpelling) :
    Text.trim spelling.text = spelling.text :=
  Text.trim_of_visible fun _ member =>
    isBlank_of_isPatternChar (isPatternChar_of_mem_text member)

/-- The mark is all that is dropped from a spelling, for a core opens with no mark. -/
theorem dropOne_text (spelling : PatternSpelling) :
    Text.dropOne 'v' spelling.text =
      (spelling.core ++ spelling.tagText) ++ spelling.buildText := by
  obtain ⟨c, rest, coreShape, allowed⟩ := spelling.core_opening
  rw [text, markText, coreShape]
  split
  · rfl
  · have notMark : c ≠ 'v' := by
      intro isMark
      rw [isMark] at allowed
      exact absurd allowed (by decide)
    exact if_neg notMark

/-- The mark and the build metadata do not count. -/
theorem significant_text (spelling : PatternSpelling) :
    VersionPattern.significant spelling.text =
      spelling.core ++ spelling.tagText := by
  have noPlus :
      ∀ c ∈ spelling.core ++ spelling.tagText,
        decide (c ≠ '+') = true :=
    fun c member => decide_eq_true (body_allowed member).2
  rw [VersionPattern.significant, trim_text, dropOne_text,
    List.takeWhile_append_of_pos noPlus]
  rw [buildText]
  split <;> simp

/-- The numbers of a core are those that are spelled. -/
theorem isCore (spelling : PatternSpelling) :
    VersionPattern.IsCore spelling.core
      (spelling.numbers.map Numeral.value) := by
  have areNumerals :
      List.Forall₂ Text.IsNumeral
        (spelling.numbers.map Numeral.text)
        (spelling.numbers.map Numeral.value) := by
    rw [List.forall₂_map_left_iff, List.forall₂_map_right_iff,
      List.forall₂_same]
    exact fun numeral _ => numeral.isNumeral_text
  have areWildcards :
      ∀ wildcard ∈ spelling.wildcards.map Wildcard.text,
        wildcard ∈ [['x'], ['X'], ['*']] := by
    intro text member
    obtain ⟨wildcard, -, rfl⟩ := List.mem_map.mp member
    cases wildcard <;> decide
  have size :
      spelling.components.length =
        spelling.numbers.length + spelling.wildcards.length := by
    rw [components, List.length_append, List.length_map, List.length_map]
  refine ⟨spelling.components,
    ⟨_, _, areNumerals, areWildcards, rfl⟩, ?_, ?_, rfl⟩
  · rw [size]
    exact spelling.notEmpty
  · rw [size]
    exact spelling.atMostThree

/-- The numbers and the tag of a spelling give its pattern. -/
theorem attachTag_tag (input : List Char) (spelling : PatternSpelling) :
    VersionPattern.attachTag input (spelling.numbers.map Numeral.value)
        (spelling.tag?.map Prerelease.toText) =
      .ok spelling.pattern := by
  have size := spelling.atMostThree
  have triple := spelling.tagOnTriple
  rw [pattern]
  cases tagShape : spelling.tag? with
  | none =>
      match numbersShape : spelling.numbers with
      | [] =>
          rfl
      | [major] =>
          rfl
      | [major, minor] =>
          rfl
      | major :: minor :: patch :: others =>
          rfl
  | some tag =>
      have three : spelling.numbers.length = 3 :=
        triple (by simp [tagShape])
      match numbersShape : spelling.numbers with
      | [] =>
          simp [numbersShape] at three
      | [major] =>
          simp [numbersShape] at three
      | [major, minor] =>
          simp [numbersShape] at three
      | major :: minor :: patch :: others =>
          simp only [List.map_cons, Option.map_some,
            VersionPattern.attachTag, Prerelease.read_toText,
            Option.getD_some]

/-- Every spelling is read as the pattern that it spells. -/
theorem read_text (spelling : PatternSpelling) :
    VersionPattern.read spelling.text = .ok spelling.pattern := by
  have counts :
      VersionPattern.significant spelling.text =
        Text.extended '-' spelling.core
          (spelling.tag?.map Prerelease.toText) := by
    rw [significant_text, tagText]
    cases spelling.tag? with
    | none =>
        exact List.append_nil _
    | some tag =>
        rfl
  have coreRead :
      VersionPattern.readCore spelling.text spelling.core =
        .ok (spelling.numbers.map Numeral.value) :=
    VersionPattern.readCore_eq_ok_iff.mpr (Or.inr spelling.isCore)
  rw [VersionPattern.read_eq_bind spelling.isCore.visible.2 counts,
    Outcome.bind_eq_ok_iff]
  exact ⟨_, coreRead, attachTag_tag spelling.text spelling⟩

end PatternSpelling

end Provision
