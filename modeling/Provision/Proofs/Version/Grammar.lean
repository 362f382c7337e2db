import Mathlib.Data.List.Forall2
import Provision.Proofs.Version.Identifiers
import Provision.Version.Pattern

namespace Provision

/-!
# The grammar of version patterns

A pattern is written as one to three components with dots between them: digits first, then
wildcards.  Three numbers may have a prerelease tag behind a hyphen, and the empty text is a pattern
too.  `VersionPattern.Grammar` says so, beside the numbers and the tag that a text gives.  The main
statement is that the reader accepts exactly this grammar, for any text whatsoever, and that the
pattern it answers holds what the text gives.
-/

/-! ## Texts of tags -/

/-- A part of a tag: identifier characters and, if they are digits, no zero in front of others. -/
structure IsTagPart (part : List Char) : Prop where
  notEmpty : part ≠ []
  allowed : ∀ c ∈ part, isIdentifierChar c = true
  noLeadingZero :
    (∀ c ∈ part, c.isDigit = true) →
      ∀ second others, part ≠ '0' :: second :: others

/-- Parts with dots between them.  The empty text has no part. -/
def IsTagText (text : List Char) : Prop :=
  ∃ parts,
    (∀ part ∈ parts, IsTagPart part) ∧ text = Text.join '.' parts

/-- The parts of tags are the written forms of identifiers. -/
theorem isTagPart_iff {part : List Char} :
    IsTagPart part ↔
      ∃ identifier : Identifier, identifier.toText = part := by
  constructor
  · intro isPart
    by_cases isNumber : part.all Char.isDigit = true
    · have areDigits := List.all_eq_true.mp isNumber
      exact ⟨.numeric (Nat.ofDigitChars 10 part 0),
        Text.toDigits_ofDigitChars isPart.notEmpty areDigits
          (isPart.noLeadingZero areDigits)⟩
    · have isWord : isWord part = true := by
        rw [isWord, Bool.eq_false_iff.mpr isNumber,
          List.all_eq_true.mpr isPart.allowed]
        simp [isPart.notEmpty]
      exact ⟨.word part isWord, rfl⟩
  · rintro ⟨identifier, rfl⟩
    refine ⟨identifier.toText_ne_nil,
      fun c member => Identifier.isIdentifierChar_of_mem_toText member, ?_⟩
    intro areDigits
    cases identifier with
    | numeric value =>
        exact Text.toDigits_ne_zero_cons_cons value
    | word text isWord =>
        have isNumber : text.all Char.isDigit = true :=
          List.all_eq_true.mpr areDigits
        simp [Provision.isWord, isNumber] at isWord

/-- So a list of such parts is the written forms of a list of identifiers. -/
private theorem exists_map_toText
    {parts : List (List Char)}
    (areParts : ∀ part ∈ parts, IsTagPart part) :
    ∃ tag : Prerelease, tag.map Identifier.toText = parts := by
  induction parts with
  | nil =>
      exact ⟨[], rfl⟩
  | cons part others inductionHypothesis =>
      obtain ⟨identifier, isFirst⟩ :=
        isTagPart_iff.mp (areParts part (by simp))
      obtain ⟨later, areOthers⟩ :=
        inductionHypothesis fun other member =>
          areParts other (by simp [member])
      exact ⟨identifier :: later, by
        rw [List.map_cons, isFirst, areOthers]⟩

/-- The texts of tags are the written forms of tags. -/
theorem isTagText_iff {text : List Char} :
    IsTagText text ↔ ∃ tag : Prerelease, tag.toText = text := by
  constructor
  · rintro ⟨parts, areParts, rfl⟩
    obtain ⟨tag, isTag⟩ := exists_map_toText areParts
    exact ⟨tag, by rw [Prerelease.toText, isTag]⟩
  · rintro ⟨tag, rfl⟩
    refine ⟨tag.map Identifier.toText, ?_, rfl⟩
    intro part member
    obtain ⟨identifier, -, same⟩ := List.mem_map.mp member
    exact isTagPart_iff.mpr ⟨identifier, same⟩

namespace VersionPattern

/-! ## Numbers and wildcards -/

/-- The components that leave a number open. -/
theorem isWildcard_iff {component : List Char} :
    isWildcard component = true ↔
      component ∈ [['x'], ['X'], ['*']] := by
  simp [isWildcard, or_assoc]

/-- No numeral is a wildcard. -/
theorem isWildcard_of_isNumeral
    {digits : List Char}
    {value : UInt64}
    (numeral : Text.IsNumeral digits value) :
    isWildcard digits = false := by
  have areDigits := numeral.areDigits
  rw [Bool.eq_false_iff]
  intro wildcard
  simp only [isWildcard, Bool.or_eq_true, decide_eq_true_eq] at wildcard
  rcases wildcard with (isSmall | isCapital) | isStar
  · simp [isSmall] at areDigits
  · simp [isCapital] at areDigits
  · simp [isStar] at areDigits

/-- Components that consist of numerals for some numbers and then of wildcards. -/
def AreComponents
    (components : List (List Char))
    (numbers : List UInt64) : Prop :=
  ∃ digits wildcards,
    List.Forall₂ Text.IsNumeral digits numbers ∧
      (∀ wildcard ∈ wildcards, wildcard ∈ [['x'], ['X'], ['*']]) ∧
        components = digits ++ wildcards

/-- Without components there are no numbers. -/
theorem areComponents_nil_iff {numbers : List UInt64} :
    AreComponents [] numbers ↔ numbers = [] := by
  constructor
  · rintro ⟨digits, wildcards, areNumerals, -, shape⟩
    obtain ⟨noDigits, -⟩ := List.append_eq_nil_iff.mp shape.symm
    rw [noDigits] at areNumerals
    exact List.forall₂_nil_left_iff.mp areNumerals
  · intro noNumbers
    rw [noNumbers]
    exact ⟨[], [], .nil, by simp, rfl⟩

/-- Behind a wildcard there are wildcards only. -/
theorem areComponents_cons_of_wildcard
    {component : List Char}
    {rest : List (List Char)}
    {numbers : List UInt64}
    (wildcard : isWildcard component = true) :
    AreComponents (component :: rest) numbers ↔
      (∀ other ∈ rest, isWildcard other = true) ∧ numbers = [] := by
  constructor
  · rintro ⟨digits, wildcards, areNumerals, areWildcards, shape⟩
    cases areNumerals with
    | nil =>
        rw [List.nil_append] at shape
        rw [← shape] at areWildcards
        exact ⟨fun other member =>
          isWildcard_iff.mpr (areWildcards other (by simp [member])), rfl⟩
    | cons numeral others =>
        rw [List.cons_append, List.cons.injEq] at shape
        rw [shape.1, isWildcard_of_isNumeral numeral] at wildcard
        exact absurd wildcard Bool.false_ne_true
  · rintro ⟨areWildcards, rfl⟩
    refine ⟨[], component :: rest, .nil, ?_, rfl⟩
    intro other member
    rcases List.mem_cons.mp member with isFirst | inRest
    · rw [isFirst]
      exact isWildcard_iff.mp wildcard
    · exact isWildcard_iff.mp (areWildcards other inRest)

/-- A component that is no wildcard is a numeral, in front of other components. -/
theorem areComponents_cons_of_not_wildcard
    {component : List Char}
    {rest : List (List Char)}
    {numbers : List UInt64}
    (notWildcard : ¬isWildcard component = true) :
    AreComponents (component :: rest) numbers ↔
      ∃ value later,
        Text.IsNumeral component value ∧
          AreComponents rest later ∧ numbers = value :: later := by
  constructor
  · rintro ⟨digits, wildcards, areNumerals, areWildcards, shape⟩
    cases areNumerals with
    | nil =>
        rw [List.nil_append] at shape
        exact absurd
          (isWildcard_iff.mpr (areWildcards component (by simp [← shape])))
          notWildcard
    | cons numeral others =>
        rw [List.cons_append, List.cons.injEq] at shape
        rw [shape.1, shape.2]
        exact ⟨_, _, numeral, ⟨_, wildcards, others, areWildcards, rfl⟩, rfl⟩
  · rintro ⟨value, later, numeral,
      ⟨digits, wildcards, areNumerals, areWildcards, rfl⟩, rfl⟩
    exact ⟨component :: digits, wildcards, .cons numeral areNumerals,
      areWildcards, rfl⟩

/-- Once a wildcard has been seen, only wildcards are read, and they give no numbers. -/
theorem readComponents_seen_eq_ok_iff
    {input : List Char}
    {components : List (List Char)}
    {numbers : List UInt64} :
    readComponents input true components = .ok numbers ↔
      (∀ component ∈ components, isWildcard component = true) ∧
        numbers = [] := by
  induction components with
  | nil =>
      rw [readComponents, Except.ok.injEq]
      exact ⟨fun isNil => ⟨by simp, isNil.symm⟩, fun both => both.2.symm⟩
  | cons component rest inductionHypothesis =>
      by_cases wildcard : isWildcard component = true
      · simp [readComponents, wildcard, inductionHypothesis]
      · simp [readComponents, wildcard]

/-- Components are read exactly if they are numerals and then wildcards. -/
theorem readComponents_eq_ok_iff
    {input : List Char}
    {components : List (List Char)}
    {numbers : List UInt64} :
    readComponents input false components = .ok numbers ↔
      AreComponents components numbers := by
  induction components generalizing numbers with
  | nil =>
      rw [readComponents, Except.ok.injEq, areComponents_nil_iff, eq_comm]
  | cons component rest inductionHypothesis =>
      -- The reader looks for a wildcard first, and no numeral is one.
      by_cases wildcard : isWildcard component = true
      · rw [readComponents, if_pos wildcard,
          readComponents_seen_eq_ok_iff,
          areComponents_cons_of_wildcard wildcard]
      · rw [readComponents, if_neg wildcard, if_neg (by simp),
          areComponents_cons_of_not_wildcard wildcard]
        constructor
        · intro isRead
          cases word : Text.word64? component with
          | none =>
              simp [word] at isRead
          | some value =>
              simp only [word] at isRead
              obtain ⟨later, restRead, isNumbers⟩ :=
                Outcome.map_eq_ok_iff.mp isRead
              exact ⟨value, later, Text.word64?_eq_some_iff.mp word,
                inductionHypothesis.mp restRead, isNumbers⟩
        · rintro ⟨value, later, numeral, areOthers, rfl⟩
          rw [Text.word64?_eq_some_iff.mpr numeral]
          exact Outcome.map_eq_ok_iff.mpr
            ⟨later, inductionHypothesis.mpr areOthers, rfl⟩

/-- Components have characters, among them no dot and no hyphen. -/
theorem AreComponents.allowed
    {components : List (List Char)}
    {numbers : List UInt64}
    (areComponents : AreComponents components numbers) :
    ∀ component ∈ components,
      component ≠ [] ∧ '.' ∉ component ∧ '-' ∉ component := by
  obtain ⟨digits, wildcards, areNumerals, areWildcards, rfl⟩ :=
    areComponents
  intro component member
  rcases List.mem_append.mp member with inDigits | inWildcards
  · clear member
    induction areNumerals with
    | nil =>
        simp at inDigits
    | cons numeral others inductionHypothesis =>
        rcases List.mem_cons.mp inDigits with isFirst | inOthers
        · rw [isFirst]
          exact ⟨numeral.notEmpty,
            fun isDot => absurd (numeral.areDigits _ isDot) (by decide),
            fun isHyphen => absurd (numeral.areDigits _ isHyphen) (by decide)⟩
        · exact inductionHypothesis inOthers
  · have isWildcard := areWildcards component inWildcards
    simp only [List.mem_cons, List.not_mem_nil, or_false] at isWildcard
    rcases isWildcard with isSmall | isCapital | isStar
    · rw [isSmall]
      decide
    · rw [isCapital]
      decide
    · rw [isStar]
      decide

/-! ## Cores -/

/-- One to three components with dots between them, and the numbers that they give. -/
def IsCore (core : List Char) (numbers : List UInt64) : Prop :=
  ∃ components,
    AreComponents components numbers ∧
      1 ≤ components.length ∧
        components.length ≤ 3 ∧ core = Text.join '.' components

/-- A core has characters, among them no hyphen. -/
theorem IsCore.visible
    {core : List Char}
    {numbers : List UInt64}
    (isCore : IsCore core numbers) :
    core ≠ [] ∧ '-' ∉ core := by
  obtain ⟨components, areComponents, atLeastOne, -, rfl⟩ := isCore
  have allowed := areComponents.allowed
  constructor
  · match components with
    | [] =>
        simp at atLeastOne
    | [only] =>
        exact (allowed only (by simp)).1
    | first :: second :: others =>
        simp [Text.join]
  · intro member
    rcases Text.mem_join member with isDot | ⟨part, isPart, inPart⟩
    · exact absurd isDot (by decide)
    · exact (allowed part isPart).2.2 inPart

/-- A core gives three numbers at most. -/
theorem IsCore.length_le
    {core : List Char}
    {numbers : List UInt64}
    (isCore : IsCore core numbers) :
    numbers.length ≤ 3 := by
  obtain ⟨components, ⟨digits, wildcards, areNumerals, -, rfl⟩, -,
    atMostThree, -⟩ := isCore
  rw [List.length_append] at atMostThree
  rw [← areNumerals.length_eq]
  omega

/-- The text in front of a tag is read exactly if it is empty or a core. -/
theorem readCore_eq_ok_iff
    {input core : List Char}
    {numbers : List UInt64} :
    readCore input core = .ok numbers ↔
      core = [] ∧ numbers = [] ∨ IsCore core numbers := by
  cases core with
  | nil =>
      rw [readCore, Except.ok.injEq]
      constructor
      · intro isNil
        exact Or.inl ⟨rfl, isNil.symm⟩
      · rintro (⟨-, noNumbers⟩ | isCore)
        · exact noNumbers.symm
        · exact absurd rfl isCore.visible.1
  | cons c rest =>
      have isFilled : ¬c :: rest = [] := by
        simp
      simp only [isFilled, false_and, false_or, readCore]
      constructor
      · intro isRead
        split at isRead
        · simp at isRead
        · rename_i atMostThree
          exact ⟨Text.fields '.' (c :: rest),
            readComponents_eq_ok_iff.mp isRead,
            List.length_pos_of_ne_nil (Text.fields_ne_nil '.' _),
            Nat.not_lt.mp atMostThree, (Text.join_fields '.' _).symm⟩
      · rintro ⟨components, areComponents, atLeastOne, atMostThree,
          isJoined⟩
        have areFields : Text.fields '.' (c :: rest) = components :=
          Text.fields_eq_iff.mpr
            ⟨List.length_pos_iff.mp atLeastOne,
              fun part member => (areComponents.allowed part member).2.1,
              isJoined⟩
        rw [areFields, if_neg (Nat.not_lt.mpr atMostThree)]
        exact readComponents_eq_ok_iff.mpr areComponents

/-! ## Numbers and tags of patterns -/

/-- The major number, if a pattern gives it. -/
def major? : VersionPattern → Option UInt64
  | .any => none
  | .ofMajor major => some major
  | .ofMinor major _ => some major
  | .full major _ _ _ => some major

/-- The minor number, if a pattern gives it. -/
def minor? : VersionPattern → Option UInt64
  | .any => none
  | .ofMajor _ => none
  | .ofMinor _ minor => some minor
  | .full _ minor _ _ => some minor

/-- The patch number, if a pattern gives it. -/
def patch? : VersionPattern → Option UInt64
  | .any => none
  | .ofMajor _ => none
  | .ofMinor _ _ => none
  | .full _ _ patch _ => some patch

/-- The prerelease tag of a pattern, which only a full triple may have. -/
def tag : VersionPattern → Prerelease
  | .full _ _ _ tag => tag
  | _ => []

/-- A pattern gives some numbers from the major one on, and its tag is written like this. -/
structure Holds
    (pattern : VersionPattern)
    (numbers : List UInt64)
    (tagText : List Char) : Prop where
  major : pattern.major? = numbers[0]?
  minor : pattern.minor? = numbers[1]?
  patch : pattern.patch? = numbers[2]?
  tag : pattern.tag.toText = tagText

/-- Numbers and a tag make a pattern that holds them; only three numbers have a tag. -/
theorem holds_of_attachTag
    {input : List Char}
    {numbers : List UInt64}
    {tag? : Option (List Char)}
    {pattern : VersionPattern}
    (short : numbers.length ≤ 3)
    (attached : attachTag input numbers tag? = .ok pattern) :
    (tag?.isSome = true → numbers.length = 3) ∧
      pattern.Holds numbers (tag?.getD []) := by
  match numbers, tag? with
  | [], none | [_], none | [_, _], none | [_, _, _], none =>
      obtain rfl := Except.ok.inj attached
      exact ⟨by simp, rfl, rfl, rfl, rfl⟩
  | [], some tagText | [_], some tagText | [_, _], some tagText =>
      simp [attachTag] at attached
  | [major, minor, patch], some tagText =>
      rw [attachTag] at attached
      split at attached
      · rename_i tag isRead
        obtain rfl := Except.ok.inj attached
        exact ⟨fun _ => rfl, rfl, rfl, rfl,
          (Prerelease.read_eq_ok_iff.mp isRead).symm⟩
      · simp at attached
  | _ :: _ :: _ :: _ :: _, _ =>
      simp only [List.length_cons] at short
      omega

/-- Up to three numbers make a pattern, and three of them make one with any tag. -/
theorem exists_attachTag
    (input : List Char)
    {numbers : List UInt64}
    {tag? : Option Prerelease}
    (short : numbers.length ≤ 3)
    (tagOnTriple : tag?.isSome = true → numbers.length = 3) :
    ∃ pattern,
      attachTag input numbers (tag?.map Prerelease.toText) =
        .ok pattern := by
  match numbers, tag? with
  | [], none | [_], none | [_, _], none | [_, _, _], none =>
      exact ⟨_, rfl⟩
  | [], some _ | [_], some _ | [_, _], some _ =>
      simp at tagOnTriple
  | [major, minor, patch], some tag =>
      refine ⟨.full major minor patch tag, ?_⟩
      rw [Option.map_some, attachTag, Prerelease.read_toText]
  | _ :: _ :: _ :: _ :: _, _ =>
      simp only [List.length_cons] at short
      omega

/-! ## Patterns -/

/-- The texts of patterns, with the numbers that a text gives and the text of its tag. -/
inductive Grammar : List Char → List UInt64 → List Char → Prop where
  | empty : Grammar [] [] []
  | untagged
      {core : List Char}
      {numbers : List UInt64}
      (isCore : IsCore core numbers) :
      Grammar core numbers []
  | tagged
      {core tagText : List Char}
      {numbers : List UInt64}
      (isCore : IsCore core numbers)
      (isTriple : numbers.length = 3)
      (isTagText : IsTagText tagText) :
      Grammar (core ++ '-' :: tagText) numbers tagText

/-- A text is cut at its first hyphen, and both parts are read. -/
theorem read_eq_bind
    {input core : List Char}
    {tag? : Option (List Char)}
    (noHyphen : '-' ∉ core)
    (counts : significant input = Text.extended '-' core tag?) :
    read input =
      readCore input core >>= fun numbers =>
        attachTag input numbers tag? := by
  rw [read, counts, Text.cut?_extended tag? noHyphen]
  cases tag? with
  | none =>
      simp only [Option.map_none, Text.extended]
      cases readCore input core <;> rfl
  | some tagText =>
      simp only [Option.map_some]
      cases readCore input core <;> rfl

/-- What is read is in the grammar, and the pattern holds what the text gives. -/
theorem exists_grammar_of_read
    {input : List Char}
    {pattern : VersionPattern}
    (isRead : read input = .ok pattern) :
    ∃ numbers tagText,
      Grammar (significant input) numbers tagText ∧
        pattern.Holds numbers tagText := by
  obtain ⟨core, tag?, noHyphen, counts⟩ :=
    Text.exists_extended '-' (significant input)
  rw [read_eq_bind noHyphen counts, Outcome.bind_eq_ok_iff] at isRead
  obtain ⟨numbers, coreRead, attached⟩ := isRead
  rw [counts]
  rcases readCore_eq_ok_iff.mp coreRead with ⟨rfl, rfl⟩ | isCore
  · obtain ⟨tagOnTriple, holds⟩ := holds_of_attachTag (by simp) attached
    cases tag? with
    | none =>
        exact ⟨[], [], .empty, holds⟩
    | some tagText =>
        simp at tagOnTriple
  · obtain ⟨tagOnTriple, holds⟩ :=
      holds_of_attachTag isCore.length_le attached
    cases tag? with
    | none =>
        exact ⟨numbers, [], .untagged isCore, holds⟩
    | some tagText =>
        have isTagText : IsTagText tagText :=
          isTagText_iff.mpr ⟨pattern.tag, holds.tag⟩
        exact ⟨numbers, tagText,
          .tagged isCore (tagOnTriple rfl) isTagText, holds⟩

/-- A core with a tag or without one is read, as a pattern that holds both. -/
theorem exists_read_of_isCore
    {input core : List Char}
    {numbers : List UInt64}
    (tag? : Option Prerelease)
    (isCore : IsCore core numbers)
    (tagOnTriple : tag?.isSome = true → numbers.length = 3)
    (counts :
      significant input =
        Text.extended '-' core (tag?.map Prerelease.toText)) :
    ∃ pattern,
      read input = .ok pattern ∧
        pattern.Holds numbers ((tag?.map Prerelease.toText).getD []) := by
  obtain ⟨pattern, attached⟩ :=
    exists_attachTag input isCore.length_le tagOnTriple
  have coreRead : readCore input core = .ok numbers :=
    readCore_eq_ok_iff.mpr (Or.inr isCore)
  refine ⟨pattern, ?_,
    (holds_of_attachTag isCore.length_le attached).2⟩
  rw [read_eq_bind isCore.visible.2 counts, Outcome.bind_eq_ok_iff]
  exact ⟨numbers, coreRead, attached⟩

/-- What is in the grammar is read, as a pattern that holds what the text gives. -/
theorem exists_read_of_grammar
    {input text tagText : List Char}
    {numbers : List UInt64}
    (counts : significant input = text)
    (grammar : Grammar text numbers tagText) :
    ∃ pattern,
      read input = .ok pattern ∧ pattern.Holds numbers tagText := by
  cases grammar with
  | empty =>
      have untagged : significant input = Text.extended '-' [] none :=
        counts
      have isAny : read input = .ok .any := by
        rw [read_eq_bind List.not_mem_nil untagged]
        rfl
      exact ⟨.any, isAny, rfl, rfl, rfl, rfl⟩
  | untagged isCore =>
      exact exists_read_of_isCore none isCore (by simp) counts
  | tagged isCore isTriple isTag =>
      obtain ⟨tag, rfl⟩ := isTagText_iff.mp isTag
      exact exists_read_of_isCore (some tag) isCore
        (fun _ => isTriple) counts

/--
A text is read as a pattern exactly if what counts of it is in the grammar.  The pattern holds the
numbers and the tag of the text; a number never follows one that is left open, and only a full
triple has a tag.
-/
theorem read_accepts_grammar (input : List Char) :
    ((∃ pattern, read input = .ok pattern) ↔
        ∃ numbers tagText,
          Grammar (significant input) numbers tagText) ∧
    ∀ pattern,
      read input = .ok pattern →
      (∀ numbers tagText,
        Grammar (significant input) numbers tagText →
        pattern.Holds numbers tagText) ∧
      (pattern.major? = none → pattern.minor? = none) ∧
      (pattern.minor? = none → pattern.patch? = none) ∧
      (pattern.tag ≠ [] → pattern.patch?.isSome = true) := by
  refine ⟨⟨?_, ?_⟩, ?_⟩
  · rintro ⟨pattern, isRead⟩
    obtain ⟨numbers, tagText, grammar, -⟩ := exists_grammar_of_read isRead
    exact ⟨numbers, tagText, grammar⟩
  · rintro ⟨numbers, tagText, grammar⟩
    obtain ⟨pattern, isRead, -⟩ := exists_read_of_grammar rfl grammar
    exact ⟨pattern, isRead⟩
  · intro pattern isRead
    refine ⟨?_, ?_⟩
    · intro numbers tagText grammar
      obtain ⟨same, sameRead, holds⟩ := exists_read_of_grammar rfl grammar
      rw [isRead, Except.ok.injEq] at sameRead
      rw [sameRead]
      exact holds
    · cases pattern <;> simp [major?, minor?, patch?, tag]

end VersionPattern

end Provision
