import Provision.Proofs.Outcome
import Provision.Proofs.Text.Decimal
import Provision.Proofs.Text.Fields
import Provision.Proofs.Text.Words
import Provision.Version.Basic

namespace Provision

/-!
# Written prerelease tags and build metadata

The characters that versions and patterns are written with, and the written forms of prerelease tags
and of build metadata.  The main statements are that both are read from their written form, and from
no other text.
-/

/-- The characters that versions, and patterns of them, are written with. -/
def isPatternChar (c : Char) : Bool :=
  isIdentifierChar c || c = '.' || c = '+' || c = '*'

/-- Identifier characters are visible characters of the ASCII range. -/
theorem visible_of_isIdentifierChar
    {c : Char}
    (allowed : isIdentifierChar c = true) :
    0x21 ≤ c.toNat ∧ c.toNat ≤ 0x7e := by
  unfold isIdentifierChar Char.isAlphanum Char.isAlpha Char.isUpper
    Char.isLower Char.isDigit at allowed
  simp only [Bool.or_eq_true, Bool.and_eq_true, decide_eq_true_eq,
    UInt32.le_iff_toNat_le] at allowed
  rcases allowed with ((upper | lower) | digit) | hyphen
  · have bounds : 65 ≤ c.toNat ∧ c.toNat ≤ 90 := upper
    omega
  · have bounds : 97 ≤ c.toNat ∧ c.toNat ≤ 122 := lower
    omega
  · have bounds : 48 ≤ c.toNat ∧ c.toNat ≤ 57 := digit
    omega
  · subst hyphen
    decide

/-- These characters are visible, so none of them is a blank. -/
theorem isBlank_of_isPatternChar
    {c : Char}
    (allowed : isPatternChar c = true) :
    Text.isBlank c = false := by
  have visible : 0x21 ≤ c.toNat ∧ c.toNat ≤ 0x7e := by
    simp only [isPatternChar, Bool.or_eq_true, decide_eq_true_eq] at allowed
    rcases allowed with ((identifier | dot) | plus) | star
    · exact visible_of_isIdentifierChar identifier
    · subst dot
      decide
    · subst plus
      decide
    · subst star
      decide
  exact Text.isBlank_of_visible visible.1 visible.2

/-- Digits are identifier characters. -/
theorem isIdentifierChar_of_isDigit
    {c : Char}
    (digit : c.isDigit = true) :
    isIdentifierChar c = true := by
  simp [isIdentifierChar, Char.isAlphanum, digit]

namespace Identifier

/-- Every identifier is written with at least one character. -/
theorem toText_ne_nil (identifier : Identifier) : identifier.toText ≠ [] := by
  cases identifier with
  | numeric value =>
      exact Nat.toDigits_ne_nil
  | word text isWord =>
      simp only [Provision.isWord, Bool.and_eq_true, Bool.not_eq_true',
        List.isEmpty_eq_false_iff] at isWord
      exact isWord.1.1

/-- Identifiers are written with identifier characters. -/
theorem isIdentifierChar_of_mem_toText
    {identifier : Identifier}
    {c : Char}
    (member : c ∈ identifier.toText) :
    isIdentifierChar c = true := by
  cases identifier with
  | numeric value =>
      exact isIdentifierChar_of_isDigit
        (Nat.isDigit_of_mem_toDigits (by decide) (by decide) member)
  | word text isWord =>
      simp only [Provision.isWord, Bool.and_eq_true,
        List.all_eq_true] at isWord
      exact isWord.1.2 c member

/-- The written form of an identifier is read as the identifier. -/
theorem read_toText (identifier : Identifier) :
    read identifier.toText = .ok identifier := by
  cases identifier with
  | numeric value =>
      have areDigits : (Nat.toDigits 10 value).all Char.isDigit = true :=
        List.all_eq_true.mpr fun c member =>
          Nat.isDigit_of_mem_toDigits (by decide) (by decide) member
      have stands :
          (Nat.toDigits 10 value).foldl
              (fun sofar c => 10 * sofar + (c.toNat - '0'.toNat)) 0 =
            value :=
        Nat.ofDigitChars_ten_toDigits
      change read (Nat.toDigits 10 value) = .ok (.numeric value)
      rw [read.eq_def, if_pos areDigits]
      split
      · rename_i empty
        exact absurd empty Nat.toDigits_ne_nil
      · rename_i second others leads
        exact absurd leads
          (Text.toDigits_ne_zero_cons_cons value second others)
      · rw [stands]
  | word text isWord =>
      have notNumber : ¬text.all Char.isDigit = true := by
        simp only [Provision.isWord, Bool.and_eq_true,
          Bool.not_eq_true'] at isWord
        simp [isWord.2]
      change read text = .ok (.word text isWord)
      rw [read.eq_def, if_neg notNumber, dif_pos isWord]

/-- A part is read as an identifier exactly if it is the written form of the identifier. -/
theorem read_eq_ok_iff
    {part : List Char}
    {identifier : Identifier} :
    read part = .ok identifier ↔ part = identifier.toText := by
  constructor
  · intro isRead
    rw [read.eq_def] at isRead
    split at isRead
    · rename_i isNumber
      split at isRead
      · simp at isRead
      · simp at isRead
      · rename_i notEmpty noLeadingZero
        rw [Except.ok.injEq] at isRead
        rw [← isRead]
        exact (Text.toDigits_ofDigitChars notEmpty
          (List.all_eq_true.mp isNumber) noLeadingZero).symm
    · split at isRead
      · rw [Except.ok.injEq] at isRead
        rw [← isRead]
        rfl
      · simp at isRead
  · intro isWritten
    rw [isWritten]
    exact identifier.read_toText

end Identifier

namespace Prerelease

/-- The written form of a prerelease tag. -/
def toText (tag : Prerelease) : List Char :=
  Text.join '.' (tag.map Identifier.toText)

/-- The text behind the hyphen of a version, if it is a prerelease. -/
def text? (tag : Prerelease) : Option (List Char) :=
  if tag = [] then none else some tag.toText

/-- Tags are written with the characters of patterns, and without a plus sign. -/
theorem isPatternChar_of_mem_toText
    {tag : Prerelease}
    {c : Char}
    (member : c ∈ toText tag) :
    isPatternChar c = true ∧ c ≠ '+' := by
  rcases Text.mem_join member with isDot | ⟨part, isPart, inPart⟩
  · subst isDot
    decide
  · obtain ⟨identifier, -, rfl⟩ := List.mem_map.mp isPart
    have allowed := Identifier.isIdentifierChar_of_mem_toText inPart
    refine ⟨by simp [isPatternChar, allowed], ?_⟩
    intro isPlus
    rw [isPlus] at allowed
    exact absurd allowed (by decide)

/-- Parts that are the written forms of identifiers are read as these identifiers. -/
private theorem readParts_map_toText (tag : Prerelease) :
    readParts (tag.map Identifier.toText) = .ok tag := by
  induction tag with
  | nil =>
      rfl
  | cons identifier rest inductionHypothesis =>
      have wholePart :
          identifier.toText.takeWhile isIdentifierChar = identifier.toText := by
        have allowed : ∀ c ∈ identifier.toText, isIdentifierChar c = true :=
          fun c member => Identifier.isIdentifierChar_of_mem_toText member
        have whole :
            (identifier.toText ++ []).takeWhile isIdentifierChar =
              identifier.toText ++ [].takeWhile isIdentifierChar :=
          List.takeWhile_append_of_pos allowed
        simpa using whole
      simp only [List.map_cons, readParts, wholePart,
        Identifier.read_toText, inductionHypothesis, Nat.lt_irrefl]
      rfl

/-- The written form of a prerelease tag is read as the tag. -/
theorem read_toText (tag : Prerelease) : read (toText tag) = .ok tag := by
  cases tag with
  | nil =>
      rfl
  | cons first others =>
      have parts :
          Text.fields '.' (toText (first :: others)) =
            (first :: others).map Identifier.toText := by
        refine Text.fields_join (by simp) ?_
        intro part isPart dotMember
        obtain ⟨identifier, -, rfl⟩ := List.mem_map.mp isPart
        exact absurd
          (Identifier.isIdentifierChar_of_mem_toText dotMember) (by decide)
      obtain ⟨c, rest, firstText⟩ :=
        List.exists_cons_of_ne_nil first.toText_ne_nil
      have opens : c ∈ first.toText := by
        simp [firstText]
      have opening : isIdentifierChar c = true :=
        Identifier.isIdentifierChar_of_mem_toText opens
      obtain ⟨more, wholeText⟩ :
          ∃ more, toText (first :: others) = c :: more := by
        cases others with
        | nil =>
            exact ⟨rest, firstText⟩
        | cons second later =>
            exact ⟨_, by
              rw [toText, List.map_cons, List.map_cons, Text.join.eq_def,
                firstText]
              rfl⟩
      rw [wholeText] at parts ⊢
      rw [read, if_pos (by simp [opening]), parts]
      exact readParts_map_toText (first :: others)

/-- Parts that are read as a tag are the written forms of its identifiers. -/
private theorem eq_map_toText_of_readParts
    {parts : List (List Char)}
    {tag : Prerelease}
    (isRead : readParts parts = .ok tag) :
    parts = tag.map Identifier.toText := by
  induction parts generalizing tag with
  | nil =>
      rw [readParts, Except.ok.injEq] at isRead
      rw [← isRead]
      rfl
  | cons part others inductionHypothesis =>
      simp only [readParts, Outcome.bind_eq_ok_iff,
        Identifier.read_eq_ok_iff] at isRead
      obtain ⟨identifier, isWritten, isRead⟩ := isRead
      split at isRead
      · simp at isRead
      · rename_i noneLeft
        have whole : part.takeWhile isIdentifierChar = part :=
          (List.takeWhile_prefix _).eq_of_length_le
            (Nat.not_lt.mp noneLeft)
        obtain ⟨later, othersRead, isTag⟩ :=
          Outcome.bind_eq_ok_iff.mp isRead
        rw [Outcome.pure_eq_ok_iff.mp isTag, List.map_cons, ← isWritten,
          whole, ← inductionHypothesis othersRead]

/-- A text is read as a tag exactly if it is the written form of the tag. -/
theorem read_eq_ok_iff
    {text : List Char}
    {tag : Prerelease} :
    read text = .ok tag ↔ text = toText tag := by
  constructor
  · intro isRead
    cases text with
    | nil =>
        rw [read, Except.ok.injEq] at isRead
        rw [← isRead]
        rfl
    | cons c rest =>
        rw [read] at isRead
        split at isRead
        · rw [toText, ← eq_map_toText_of_readParts isRead,
            Text.join_fields]
        · simp at isRead
  · intro isWritten
    rw [isWritten]
    exact read_toText tag

end Prerelease

/-! ## Build metadata -/

namespace BuildIdentifier

/-- Build identifiers are written with identifier characters. -/
theorem isIdentifierChar_of_mem_text
    {identifier : BuildIdentifier}
    {c : Char}
    (member : c ∈ identifier.text) :
    isIdentifierChar c = true := by
  have isText := identifier.isText
  rw [isBuildText, Bool.and_eq_true, List.all_eq_true] at isText
  exact isText.2 c member

/-- A part is read as a build identifier exactly if it is the text of the identifier. -/
theorem read?_eq_some_iff
    {part : List Char}
    {identifier : BuildIdentifier} :
    read? part = some identifier ↔ part = identifier.text := by
  rw [read?]
  constructor
  · intro isRead
    split at isRead
    · rw [Option.some.injEq] at isRead
      rw [← isRead]
    · simp at isRead
  · intro isText
    rw [dif_pos (isText ▸ identifier.isText)]
    simp only [isText]

end BuildIdentifier

namespace Build

/-- The written form of build metadata. -/
def toText (build : Build) : List Char :=
  Text.join '.' (build.map BuildIdentifier.text)

/-- The text behind the plus sign of a version, if there is build metadata. -/
def text? (build : Build) : Option (List Char) :=
  if build = [] then none else some build.toText

/-- Build metadata is written with identifier characters and dots. -/
theorem mem_toText
    {build : Build}
    {c : Char}
    (member : c ∈ build.toText) :
    isIdentifierChar c = true ∨ c = '.' := by
  rcases Text.mem_join member with isDot | ⟨part, isPart, inPart⟩
  · exact Or.inr isDot
  · obtain ⟨identifier, -, rfl⟩ := List.mem_map.mp isPart
    exact Or.inl (BuildIdentifier.isIdentifierChar_of_mem_text inPart)

/-- Parts are read one by one, each as the identifier that it is the text of. -/
private theorem mapM_read?_eq_some_iff
    {parts : List (List Char)}
    {build : Build} :
    parts.mapM BuildIdentifier.read? = some build ↔
      parts = build.map BuildIdentifier.text := by
  induction parts generalizing build with
  | nil =>
      cases build <;> simp
  | cons part others inductionHypothesis =>
      cases build with
      | nil =>
          simp [List.mapM_cons, Option.bind_eq_some_iff]
      | cons first later =>
          simp [List.mapM_cons, Option.bind_eq_some_iff,
            BuildIdentifier.read?_eq_some_iff, inductionHypothesis]

/-- A text is read as build metadata exactly if it is the written form, and not of none. -/
theorem read?_eq_some_iff
    {text : List Char}
    {build : Build} :
    read? text = some build ↔ build ≠ [] ∧ text = build.toText := by
  rw [read?, mapM_read?_eq_some_iff, Text.fields_eq_iff]
  constructor
  · rintro ⟨notEmpty, -, isJoined⟩
    exact ⟨by simpa using notEmpty, isJoined⟩
  · rintro ⟨notEmpty, isWritten⟩
    refine ⟨by simpa using notEmpty, ?_, isWritten⟩
    intro part isPart dotMember
    obtain ⟨identifier, -, same⟩ := List.mem_map.mp isPart
    rw [← same] at dotMember
    exact absurd
      (BuildIdentifier.isIdentifierChar_of_mem_text dotMember) (by decide)

/-- Metadata behind a plus sign is read if there is some. -/
theorem optional_eq_some_iff
    {metadata? : Option (List Char)}
    {build : Build} :
    metadata?.elim (some []) read? = some build ↔
      metadata? = build.text? := by
  rw [text?]
  cases metadata? with
  | none =>
      by_cases isEmpty : build = [] <;> simp [isEmpty, eq_comm]
  | some metadata =>
      by_cases isEmpty : build = [] <;> simp [isEmpty, read?_eq_some_iff]

end Build

/-! ## Versions -/

/-- The characters of strings that are put together with dots between them. -/
theorem Text.toList_intercalate_dot
    {α : Type}
    (written : α → List Char)
    (parts : List α) :
    (".".intercalate
        (parts.map fun part => String.ofList (written part))).toList =
      join '.' (parts.map written) := by
  have isDot : ".".toList = ['.'] := rfl
  rw [String.toList_intercalate, isDot, intercalate_eq_join, List.map_map]
  simp [Function.comp_def]

/-- A text of visible characters of the ASCII range. -/
def Text.IsVisible (text : String) : Prop :=
  ∀ c ∈ text.toList, 0x21 ≤ c.toNat ∧ c.toNat ≤ 0x7e

instance (text : String) : Decidable (Text.IsVisible text) :=
  List.decidableBAll _ text.toList

namespace Text.IsVisible

/-- Visible texts that follow each other are visible. -/
theorem append
    {first rest : String}
    (isFirst : IsVisible first)
    (isRest : IsVisible rest) :
    IsVisible (first ++ rest) := by
  intro c member
  rw [String.toList_append, List.mem_append] at member
  exact member.elim (isFirst c) (isRest c)

/-- A visible text stays as it is when it is trimmed. -/
theorem trimmed_eq
    {text : String}
    (isVisible : IsVisible text) :
    trimmed text = text := by
  have notBlank (c : Char) (member : c ∈ text.toList) : isBlank c = false :=
    isBlank_of_visible (isVisible c member).1 (isVisible c member).2
  rw [trimmed, trim_of_visible notBlank, String.ofList_toList]

/-- A number is written visibly. -/
theorem ofNumber (value : Nat) : IsVisible (toString value) := by
  intro c member
  have isDigit : c ∈ Nat.toDigits 10 value := by simpa using member
  exact visible_of_isIdentifierChar
    (isIdentifierChar_of_isDigit
      (Nat.isDigit_of_mem_toDigits (by decide) (by decide) isDigit))

/-- Things that are written with identifier characters are written visibly with dots between them. -/
theorem ofParts
    {α : Type}
    (written : α → List Char)
    {parts : List α}
    (areAllowed :
      ∀ part ∈ parts, ∀ c ∈ written part, isIdentifierChar c = true) :
    IsVisible
      (".".intercalate (parts.map fun part => String.ofList (written part))) := by
  intro c member
  rw [toList_intercalate_dot] at member
  rcases mem_join member with rfl | ⟨_, isPart, inPart⟩
  · decide
  · obtain ⟨part, isOne, rfl⟩ := List.mem_map.mp isPart
    exact visible_of_isIdentifierChar (areAllowed part isOne c inPart)

end Text.IsVisible

namespace Version

/-- Versions are written visibly. -/
theorem toText_isVisible (version : Version) :
    Text.IsVisible version.toText := by
  have isDot : Text.IsVisible "." := by decide
  have isTriple :
      Text.IsVisible
        (tripleText version.major version.minor version.patch) :=
    ((((Text.IsVisible.ofNumber _).append isDot).append (.ofNumber _)).append
      isDot).append (.ofNumber _)
  have isTag : Text.IsVisible version.prereleaseText :=
    .ofParts Identifier.toText fun _ _ _ =>
      Identifier.isIdentifierChar_of_mem_toText
  have isMetadata : Text.IsVisible version.buildText :=
    .ofParts BuildIdentifier.text fun _ _ _ =>
      BuildIdentifier.isIdentifierChar_of_mem_text
  rw [toText]
  refine (isTriple.append ?_).append ?_ <;> split
  · decide
  · exact .append (by decide) isTag
  · decide
  · exact .append (by decide) isMetadata

end Version

end Provision
