import Provision.Proofs.Version.Spelling
import Provision.Version.Pattern

namespace Provision

/-!
# Reading versions

A version has one written form, and that is the only text that is read as the version strictly.  The
written form is also a spelling of a full pattern.  The main statement is that the lenient reader
therefore agrees with the strict one wherever that accepts a text, but for build metadata, and that
every version is read from its written form, with a mark and blanks around it or without them.
-/

namespace Version

/-! ## Strict parts -/

/-- A number is read strictly exactly if it is written without leading zeros. -/
theorem strictNumber?_eq_some_iff
    {digits : List Char}
    {value : UInt64} :
    strictNumber? digits = some value ↔
      digits = Nat.toDigits 10 value.toNat := by
  constructor
  · intro isRead
    rw [strictNumber?.eq_def] at isRead
    split at isRead
    · simp at isRead
    · rename_i noLeadingZero
      have numeral := Text.word64?_eq_some_iff.mp isRead
      rw [← numeral.stands]
      exact (Text.toDigits_ofDigitChars numeral.notEmpty
        numeral.areDigits noLeadingZero).symm
  · intro isWritten
    have numeral : Text.IsNumeral digits value := by
      rw [isWritten]
      exact Text.isNumeral_toDigits value
    rw [strictNumber?.eq_def]
    split
    · rename_i second others
      exact absurd isWritten.symm
        (Text.toDigits_ne_zero_cons_cons value.toNat second others)
    · exact Text.word64?_eq_some_iff.mpr numeral

/-- Numbers in decimal digits, with dots between them. -/
def dotted (numbers : List UInt64) : List Char :=
  Text.join '.' (numbers.map fun number => Nat.toDigits 10 number.toNat)

/-- Numbers are written with digits and dots. -/
theorem mem_dotted
    {numbers : List UInt64}
    {c : Char}
    (member : c ∈ dotted numbers) :
    c = '.' ∨ c.isDigit = true := by
  rcases Text.mem_join member with isDot | ⟨part, isPart, inPart⟩
  · exact Or.inl isDot
  · obtain ⟨number, -, rfl⟩ := List.mem_map.mp isPart
    exact Or.inr
      (Nat.isDigit_of_mem_toDigits (by decide) (by decide) inPart)

/-- Between the dots there are the numbers. -/
theorem fields_dotted
    {numbers : List UInt64}
    (notEmpty : numbers ≠ []) :
    Text.fields '.' (dotted numbers) =
      numbers.map fun number => Nat.toDigits 10 number.toNat := by
  refine Text.fields_join (by simpa using notEmpty) ?_
  intro part isPart isDot
  obtain ⟨number, -, rfl⟩ := List.mem_map.mp isPart
  exact absurd
    (Nat.isDigit_of_mem_toDigits (by decide) (by decide) isDot) (by decide)

/-- A triple is read strictly exactly if it is written out without leading zeros. -/
theorem strictTriple?_eq_some_iff
    {core : List Char}
    {major minor patch : UInt64} :
    strictTriple? core = some (major, minor, patch) ↔
      core = dotted [major, minor, patch] := by
  constructor
  · intro isRead
    rw [strictTriple?.eq_def] at isRead
    split at isRead
    · rename_i first second third areFields
      simp only [Option.bind_eq_bind, Option.pure_def,
        Option.bind_eq_some_iff, strictNumber?_eq_some_iff,
        Option.some.injEq, Prod.mk.injEq] at isRead
      obtain ⟨_, isMajor, _, isMinor, _, isPatch, rfl, rfl, rfl⟩ := isRead
      rw [← Text.join_fields '.' core, areFields, isMajor, isMinor, isPatch]
      rfl
    · simp at isRead
  · intro isWritten
    rw [strictTriple?.eq_def, isWritten, fields_dotted (by simp)]
    simp [strictNumber?_eq_some_iff.mpr rfl]

/-- A tag is read strictly exactly if it is the written form of a tag with parts. -/
theorem strictTag?_eq_some_iff
    {text : List Char}
    {tag : Prerelease} :
    strictTag? text = some tag ↔ tag ≠ [] ∧ text = tag.toText := by
  have optional :
      (Prerelease.read text).toOption = some tag ↔
        text = tag.toText := by
    rw [← Prerelease.read_eq_ok_iff]
    cases Prerelease.read text <;> simp [Except.toOption]
  cases text with
  | nil =>
      rw [strictTag?]
      constructor
      · intro isRead
        simp at isRead
      · rintro ⟨notEmpty, isWritten⟩
        have isRead := Prerelease.read_eq_ok_iff.mpr isWritten
        rw [Prerelease.read, Except.ok.injEq] at isRead
        exact absurd isRead.symm notEmpty
  | cons c rest =>
      rw [strictTag?.eq_2 _ (by simp), optional, iff_and_self]
      intro isWritten isEmpty
      rw [isEmpty] at isWritten
      simp [Prerelease.toText, Text.join] at isWritten

/-- A tag behind a hyphen is read if there is one. -/
theorem optionalTag_eq_some_iff
    {tag? : Option (List Char)}
    {tag : Prerelease} :
    tag?.elim (some []) strictTag? = some tag ↔ tag? = tag.text? := by
  rw [Prerelease.text?]
  cases tag? with
  | none =>
      by_cases isEmpty : tag = [] <;> simp [isEmpty, eq_comm]
  | some text =>
      by_cases isEmpty : tag = [] <;> simp [isEmpty, strictTag?_eq_some_iff]

/-- The metadata, the tag and the triple are read, as far as they are there. -/
theorem strict?_extended
    {core : List Char}
    {tag? metadata? : Option (List Char)}
    (noPlus : '+' ∉ Text.extended '-' core tag?)
    (noHyphen : '-' ∉ core) :
    strict? (Text.extended '+' (Text.extended '-' core tag?) metadata?) = do
      let build ← metadata?.elim (some []) Build.read?
      let prerelease ← tag?.elim (some []) strictTag?
      let (major, minor, patch) ← strictTriple? core
      return { major, minor, patch, prerelease, build } := by
  rw [strict?, Text.cut?_extended metadata? noPlus]
  -- What is left of the first cut is cut at its hyphen in the same way, with metadata or without.
  cases metadata? with
  | none =>
      have isBody :
          Text.extended '+' (Text.extended '-' core tag?) none =
            Text.extended '-' core tag? :=
        rfl
      simp only [isBody, Option.map_none, Option.elim_none,
        Option.bind_eq_bind, Option.bind_some,
        Text.cut?_extended tag? noHyphen]
      cases tag? with
      | none =>
          rfl
      | some tag =>
          simp only [Option.map_some, Option.elim_some]
          cases strictTag? tag <;> rfl
  | some metadata =>
      simp only [Option.map_some, Option.elim_some]
      cases Build.read? metadata with
      | none =>
          rfl
      | some build =>
          simp only [Option.map_some, Option.bind_eq_bind, Option.bind_some,
            Text.cut?_extended tag? noHyphen]
          cases tag? with
          | none =>
              rfl
          | some tag =>
              simp only [Option.map_some, Option.elim_some]
              cases strictTag? tag <;> rfl

/-! ## Written forms -/

/-- The numbers of a version with dots between them. -/
def tripleDigits (version : Version) : List Char :=
  dotted [version.major, version.minor, version.patch]

/-- The written form has the tag and the metadata behind the triple, as far as there are any. -/
theorem toList_toText (version : Version) :
    version.toText.toList =
      Text.extended '+'
        (Text.extended '-' version.tripleDigits version.prerelease.text?)
        version.build.text? := by
  have triple :
      (tripleText version.major version.minor version.patch).toList =
        version.tripleDigits := by
    have isDot : toString "." = "." := rfl
    simp [tripleText, tripleDigits, dotted, Text.join, isDot]
  have tag : version.prereleaseText.toList = version.prerelease.toText :=
    Text.toList_intercalate_dot Identifier.toText version.prerelease
  have metadata : version.buildText.toList = version.build.toText :=
    Text.toList_intercalate_dot BuildIdentifier.text version.build
  cases isTag : version.prerelease <;> cases isBuild : version.build <;>
    simp [toText, triple, tag, metadata, isTag, isBuild, Text.extended,
      Prerelease.text?, Build.text?]

/-- A triple holds no character but dots and digits. -/
theorem not_mem_tripleDigits
    {c : Char}
    (version : Version)
    (notDot : c ≠ '.')
    (notDigit : c.isDigit = false) :
    c ∉ version.tripleDigits := by
  intro member
  rcases mem_dotted member with isDot | isDigit
  · exact notDot isDot
  · rw [notDigit] at isDigit
    exact absurd isDigit (by decide)

/-- In front of the metadata there is no plus sign. -/
theorem plus_not_mem_extended (version : Version) :
    '+' ∉
      Text.extended '-' version.tripleDigits version.prerelease.text? := by
  have notInTriple : '+' ∉ version.tripleDigits :=
    version.not_mem_tripleDigits (by decide) (by decide)
  rw [Prerelease.text?]
  split
  · exact notInTriple
  · intro member
    rw [Text.extended, List.mem_append, List.mem_cons] at member
    rcases member with inTriple | isHyphen | inTag
    · exact notInTriple inTriple
    · exact absurd isHyphen (by decide)
    · exact (Prerelease.isPatternChar_of_mem_toText inTag).2 rfl

/-- A text is read as a version strictly exactly if it is the written form of the version. -/
theorem strict?_eq_some_iff
    {text : List Char}
    {version : Version} :
    strict? text = some version ↔ text = version.toText.toList := by
  constructor
  · intro isRead
    obtain ⟨body, metadata?, noPlus, isText⟩ :=
      Text.exists_extended '+' text
    obtain ⟨core, tag?, noHyphen, isBody⟩ :=
      Text.exists_extended '-' body
    rw [isBody] at isText noPlus
    rw [isText, strict?_extended noPlus noHyphen] at isRead
    simp only [Option.bind_eq_bind, Option.bind_eq_some_iff] at isRead
    obtain ⟨build, metadataRead, tag, tagRead, ⟨major, minor, patch⟩,
      coreRead, isVersion⟩ := isRead
    obtain rfl := Option.some.inj isVersion
    rw [toList_toText, isText,
      Build.optional_eq_some_iff.mp metadataRead,
      optionalTag_eq_some_iff.mp tagRead,
      strictTriple?_eq_some_iff.mp coreRead]
    rfl
  · intro isWritten
    have noHyphen : '-' ∉ version.tripleDigits :=
      version.not_mem_tripleDigits (by decide) (by decide)
    have tripleRead :
        strictTriple? version.tripleDigits =
          some (version.major, version.minor, version.patch) :=
      strictTriple?_eq_some_iff.mpr rfl
    rw [isWritten, toList_toText,
      strict?_extended version.plus_not_mem_extended noHyphen,
      Build.optional_eq_some_iff.mpr rfl,
      optionalTag_eq_some_iff.mpr rfl, tripleRead]
    rfl

/-! ## Spellings -/

/-- The written form of a version, with a mark in front of it or without one, as a spelling. -/
def spelling (version : Version) (hasMark : Bool) : PatternSpelling where
  hasMark
  numbers :=
    [{ value := version.major }, { value := version.minor },
      { value := version.patch }]
  tag? := if version.prerelease = [] then none else some version.prerelease
  build? := version.build.text?
  notEmpty := by simp
  atMostThree := by simp
  tagOnTriple := by simp
  buildAllowed := by
    rw [Build.text?]
    split
    · simp
    · exact fun _ member => Build.mem_toText member

/-- What is spelled is the version but for its metadata. -/
theorem pattern_spelling (version : Version) (hasMark : Bool) :
    (version.spelling hasMark).pattern =
      .full version.major version.minor version.patch
        version.prerelease := by
  rw [PatternSpelling.pattern, spelling]
  simp only
  split <;> simp_all

/-- Behind the mark the spelling is the written form. -/
theorem dropOne_spelling (version : Version) (hasMark : Bool) :
    Text.dropOne 'v' (version.spelling hasMark).text =
      version.toText.toList := by
  have core : (version.spelling hasMark).core = version.tripleDigits := by
    simp [PatternSpelling.core, PatternSpelling.components, spelling,
      Numeral.text, tripleDigits, dotted]
  rw [PatternSpelling.dropOne_text, toList_toText, core]
  cases isTag : version.prerelease <;> cases isBuild : version.build <;>
    simp [PatternSpelling.tagText, PatternSpelling.buildText, spelling,
      isTag, isBuild, Text.extended, Prerelease.text?, Build.text?]

/-- The spelling is the written form, behind the mark if there is one. -/
theorem text_spelling (version : Version) (hasMark : Bool) :
    (version.spelling hasMark).text =
      (if hasMark then "v" else "").toList ++ version.toText.toList := by
  rw [← version.dropOne_spelling hasMark, PatternSpelling.dropOne_text,
    PatternSpelling.text, List.append_assoc]
  cases hasMark <;> rfl

/-- The written form is read leniently as the version without its metadata. -/
theorem lenient_toText (version : Version) :
    lenient version.toText.toList = .ok { version with build := [] } := by
  have isSpelling : version.toText.toList = (version.spelling false).text := by
    rw [text_spelling]
    rfl
  rw [lenient, isSpelling, PatternSpelling.read_text, pattern_spelling]
  rfl

/-- Around the written form, blanks and one mark are passed over. -/
theorem read_surrounded
    (version : Version)
    (leading trailing : Text.Blanks)
    (hasMark : Bool) :
    read
        (leading.text ++
          ((version.spelling hasMark).text ++ trailing.text)) =
      .ok version := by
  rw [read, Text.trim_surrounded, PatternSpelling.trim_text,
    dropOne_spelling, strict?_eq_some_iff.mpr rfl]

/--
What is read strictly, behind a mark and without the blanks around it, is read leniently as the same
version without its metadata.  Every version is read from its written form, with a mark and blanks
or without them.
-/
theorem strict_agrees_with_lenient :
    (∀ input version,
      strict? (Text.dropOne 'v' (Text.trim input)) = some version →
        lenient (Text.dropOne 'v' (Text.trim input)) =
          .ok { version with build := [] }) ∧
    ∀ (version : Version) (leading trailing : Text.Blanks) (hasMark : Bool),
      ofString
          (String.ofList leading.text ++
            ((if hasMark then "v" else "") ++ version.toText) ++
              String.ofList trailing.text) =
        .ok version := by
  refine ⟨?_, ?_⟩
  · intro input version isRead
    rw [strict?_eq_some_iff.mp isRead]
    exact version.lenient_toText
  · intro version leading trailing hasMark
    rw [ofString, String.toList_append, String.toList_append,
      String.toList_append, String.toList_ofList, String.toList_ofList,
      ← text_spelling, List.append_assoc]
    exact version.read_surrounded leading trailing hasMark

end Version

end Provision
