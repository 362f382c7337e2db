import Provision.Proofs.Requirement.Reading
import Provision.Proofs.Version.Reading

namespace Provision.Requirement

open Outcome

/-!
# Joining version ranges

A text is cut into alternatives on both sides of any place where no two bars meet.  Blanks around a
text touch its first and its last alternative only, and these are read without them.  The main
statements are that two texts with two bars between them make a range that accepts what one of them
accepts, and that a requirement is read again from the text that it is written as.
-/

/-! ## Alternatives on both sides of a seam -/

/-- No two bars meet where a text ends and another one follows. -/
def IsSeam (front back : List Char) : Prop :=
  ∀ before after, front = before ++ ['|'] → back ≠ '|' :: after

/-- A seam stays one without the start of the text in front of it. -/
theorem IsSeam.of_cons
    {c : Char}
    {front back : List Char}
    (isSeam : IsSeam (c :: front) back) :
    IsSeam front back := by
  intro before after endsWithBar
  exact isSeam (c :: before) after (by rw [endsWithBar]; rfl)

/-- Every text has an alternative. -/
theorem alternativeTexts_ne_nil (text : List Char) :
    alternativeTexts text ≠ [] := by
  rw [alternativeTexts.eq_def]
  split
  · simp
  · simp
  · split <;> simp

/-- At a seam, the last alternative of one text and the first one of the other become one. -/
theorem exists_alternativeTexts_append
    {front back : List Char}
    (isSeam : IsSeam front back) :
    ∃ before last first after,
      alternativeTexts front = before ++ [last] ∧
        alternativeTexts back = first :: after ∧
          alternativeTexts (front ++ back) =
            before ++ (last ++ first) :: after := by
  induction front using alternativeTexts.induct with
  | case1 =>
      obtain ⟨first, after, isCons⟩ :=
        List.exists_cons_of_ne_nil (alternativeTexts_ne_nil back)
      exact ⟨[], [], first, after, rfl, isCons, isCons⟩
  | case2 rest inductionHypothesis =>
      obtain ⟨before, last, first, after, restTexts, backTexts, joined⟩ :=
        inductionHypothesis isSeam.of_cons.of_cons
      refine ⟨[] :: before, last, first, after, ?_, backTexts, ?_⟩
      · rw [alternativeTexts, restTexts]
        rfl
      · rw [List.cons_append, List.cons_append, alternativeTexts, joined]
        rfl
  | case3 c rest _ noTexts =>
      exact absurd noTexts (alternativeTexts_ne_nil rest)
  | case4 c rest noBars _ _ _ inductionHypothesis =>
      -- The seam matters here: a last bar must not find its second one behind it.
      have longerNoBars :
          ∀ after, c = '|' → rest ++ back = '|' :: after → False := by
        intro after isBar shape
        cases rest with
        | nil =>
            exact isSeam [] after (by rw [isBar]; rfl) shape
        | cons d others =>
            rw [List.cons_append, List.cons.injEq] at shape
            exact noBars others isBar (by rw [shape.1])
      obtain ⟨before, last, first, after, restTexts, backTexts, joined⟩ :=
        inductionHypothesis isSeam.of_cons
      rw [alternativeTexts.eq_3 c rest noBars, List.cons_append,
        alternativeTexts.eq_3 c (rest ++ back) longerNoBars, restTexts,
        joined]
      cases before with
      | nil =>
          exact ⟨[], c :: last, first, after, rfl, backTexts, rfl⟩
      | cons next others =>
          exact ⟨(c :: next) :: others, last, first, after, rfl, backTexts,
            rfl⟩

/-! ## Blanks around alternatives -/

/-- Blanks around an alternative do not count. -/
theorem readAlternative_surrounded
    (leading trailing : Text.Blanks)
    (text : List Char) :
    readAlternative (leading.text ++ (text ++ trailing.text)) =
      readAlternative text := by
  rw [readAlternative, readAlternative,
    Text.words_blanks_append leading.areBlank,
    Text.words_append_blanks trailing.areBlank, Text.trim_surrounded]

/-- Blanks in front of an alternative do not count. -/
theorem readAlternative_blanks_append
    (leading : Text.Blanks)
    (text : List Char) :
    readAlternative (leading.text ++ text) = readAlternative text := by
  simpa using readAlternative_surrounded leading {} text

/-- Blanks behind an alternative do not count. -/
theorem readAlternative_append_blanks
    (text : List Char)
    (trailing : Text.Blanks) :
    readAlternative (text ++ trailing.text) = readAlternative text := by
  simpa using readAlternative_surrounded {} trailing text

/-- The alternatives of two lists are read one list after the other. -/
theorem readAlternatives_append (front back : List (List Char)) :
    readAlternatives (front ++ back) = do
      let before ← readAlternatives front
      let after ← readAlternatives back
      return before ++ after := by
  induction front with
  | nil =>
      rw [List.nil_append, readAlternatives]
      cases readAlternatives back <;> rfl
  | cons text others inductionHypothesis =>
      rw [List.cons_append, readAlternatives, readAlternatives,
        inductionHypothesis]
      simp

/-- A text of blanks is its only alternative. -/
theorem alternativeTexts_blanks (blanks : Text.Blanks) :
    alternativeTexts blanks.text = [blanks.text] :=
  alternativeTexts_of_not_mem (blanks.not_mem (by decide))

/-- Blanks in front of a range do not count. -/
theorem readAlternatives_blanks_append
    (leading : Text.Blanks)
    (text : List Char) :
    readAlternatives (alternativeTexts (leading.text ++ text)) =
      readAlternatives (alternativeTexts text) := by
  have isSeam : IsSeam leading.text text := by
    intro before _ endsWithBar
    have isBar : '|' ∈ leading.text := by
      simp [endsWithBar]
    exact absurd isBar (leading.not_mem (by decide))
  obtain ⟨before, last, first, after, onlyBlanks, texts, joined⟩ :=
    exists_alternativeTexts_append isSeam
  obtain ⟨noneBefore, isLast⟩ : before = [] ∧ last = leading.text := by
    rw [alternativeTexts_blanks] at onlyBlanks
    simpa [List.singleton_eq_append_iff] using onlyBlanks
  rw [joined, texts, noneBefore, isLast, List.nil_append,
    readAlternatives, readAlternatives, readAlternative_blanks_append]

/-- Blanks behind a range do not count. -/
theorem readAlternatives_append_blanks
    (text : List Char)
    (trailing : Text.Blanks) :
    readAlternatives (alternativeTexts (text ++ trailing.text)) =
      readAlternatives (alternativeTexts text) := by
  have isSeam : IsSeam text trailing.text := by
    intro _ after _ startsWithBar
    have isBar : '|' ∈ trailing.text := by
      simp [startsWithBar]
    exact absurd isBar (trailing.not_mem (by decide))
  obtain ⟨before, last, first, after, texts, onlyBlanks, joined⟩ :=
    exists_alternativeTexts_append isSeam
  rw [alternativeTexts_blanks, List.cons.injEq] at onlyBlanks
  obtain ⟨rfl, rfl⟩ := onlyBlanks
  have sameLast :
      readAlternatives [last ++ trailing.text] = readAlternatives [last] := by
    simp only [readAlternatives, readAlternative_append_blanks]
  rw [joined, texts, readAlternatives_append, readAlternatives_append,
    sameLast]

/-! ## Texts that are read again -/

/-- A requirement is read again from its text, as one that accepts the same versions. -/
def ReadsBack (requirement : Requirement) : Prop :=
  ∃ again,
    ofString requirement.text = .ok again ∧
      again.text = requirement.text ∧
        ∀ version,
          again.acceptsText version = requirement.acceptsText version

/-- What is read again as itself reads back. -/
theorem readsBack_of_ofString
    {requirement : Requirement}
    (isRead : ofString requirement.text = .ok requirement) :
    ReadsBack requirement :=
  ⟨requirement, isRead, rfl, fun _ => rfl⟩

/-- A range that is read is read again from the text without the blanks around it. -/
theorem ofString_text
    {text : String}
    {requirement : Requirement}
    (isRead : ofString text = .ok requirement) :
    ofString requirement.text = .ok requirement := by
  obtain ⟨alternativesRead, isTrimmed⟩ := read_eq_ok_iff.mp isRead
  obtain ⟨leading, trailing, leadingBlank, trailingBlank, shape⟩ :=
    Text.exists_append_trim_append text.toList
  -- The text is kept without the blanks around it, but it was cut with them.
  have sameAlternatives :
      readAlternatives (alternativeTexts (Text.trim text.toList)) =
        readAlternatives (alternativeTexts text.toList) := by
    conv_rhs => rw [shape]
    rw [readAlternatives_append_blanks _ ⟨trailing, trailingBlank⟩,
      readAlternatives_blanks_append ⟨leading, leadingBlank⟩]
  rw [ofString, read_eq_ok_iff, isTrimmed, String.toList_ofList,
    Text.trim_trim, sameAlternatives]
  exact ⟨alternativesRead, rfl⟩

/-- The range of the releases from a version on, without any blanks. -/
def fromOn (version : Version) : RangeSpelling where
  first := .sideBySide {} (.signed .atLeast {} (version.spelling false)) [] {}

/-- The requirement of at least a release is written with the release behind a sign. -/
theorem text_atLeast (major minor patch : UInt64) :
    (atLeast major minor patch).text =
      ">=" ++ (Version.release major minor patch).toText := by
  simp [atLeast, Version.toText, Version.release]

/-- That is the range from the release on. -/
theorem toList_text_atLeast (major minor patch : UInt64) :
    (atLeast major minor patch).text.toList =
      (fromOn (Version.release major minor patch)).text := by
  simp [text_atLeast, fromOn, RangeSpelling.text, AlternativeSpelling.text,
    ComparatorSpelling.text, Sign.text, Version.text_spelling]

/-- The range from a release on is one comparator. -/
theorem readAlternatives_fromOn (major minor patch : UInt64) :
    readAlternatives
        (alternativeTexts (fromOn (Version.release major minor patch)).text) =
      .ok (atLeast major minor patch).alternatives := by
  rw [RangeSpelling.alternativeTexts_text, RangeSpelling.alternatives,
    fromOn, List.map_cons, List.map_nil, readAlternatives,
    AlternativeSpelling.readAlternative_text, AlternativeSpelling.meanings,
    ComparatorSpelling.meaning, Version.pattern_spelling]
  rfl

/-- The requirement of at least a release is read from its text. -/
theorem ofString_atLeast (major minor patch : UInt64) :
    ofString (atLeast major minor patch).text =
      .ok (atLeast major minor patch) := by
  have isVisible : Text.IsVisible (atLeast major minor patch).text := by
    rw [text_atLeast]
    exact .append (by decide) (Version.toText_isVisible _)
  rw [ofString, read_eq_ok_iff, toList_text_atLeast,
    readAlternatives_fromOn, ← toList_text_atLeast]
  exact ⟨rfl, isVisible.trimmed_eq.symm⟩

/--
Every requirement reads back, be it read from a text or the requirement of at least a release.
-/
theorem obtained_reads_back :
    (∀ text requirement,
      ofString text = .ok requirement → ReadsBack requirement) ∧
    ∀ major minor patch, ReadsBack (atLeast major minor patch) := by
  refine ⟨?_, ?_⟩
  · intro text requirement isRead
    exact readsBack_of_ofString (ofString_text isRead)
  · intro major minor patch
    exact readsBack_of_ofString (ofString_atLeast major minor patch)

/-! ## Unions -/

/-- Two bars with blanks around them put the alternatives of two texts side by side. -/
theorem alternativeTexts_bars (first second : List Char) :
    alternativeTexts (first ++ ' ' :: '|' :: '|' :: ' ' :: second) =
      alternativeTexts (first ++ [' ']) ++
        alternativeTexts (' ' :: second) := by
  have isSeam :
      IsSeam (first ++ [' ']) ('|' :: '|' :: ' ' :: second) := by
    intro before _ endsWithBar
    have sameEnd := (List.append_inj' endsWithBar rfl).2
    simp at sameEnd
  obtain ⟨before, last, opening, after, firstTexts, secondTexts, joined⟩ :=
    exists_alternativeTexts_append isSeam
  rw [alternativeTexts, List.cons.injEq] at secondTexts
  obtain ⟨rfl, rfl⟩ := secondTexts
  calc
    alternativeTexts (first ++ ' ' :: '|' :: '|' :: ' ' :: second) =
        alternativeTexts
          ((first ++ [' ']) ++ '|' :: '|' :: ' ' :: second) := by
      rw [List.append_assoc]
      rfl
    _ = before ++ (last ++ []) :: alternativeTexts (' ' :: second) := joined
    _ = alternativeTexts (first ++ [' ']) ++
          alternativeTexts (' ' :: second) := by
      rw [firstTexts]
      simp

/-- So the alternatives of the one text are read, and then those of the other. -/
theorem readAlternatives_bars (first second : List Char) :
    readAlternatives
        (alternativeTexts (first ++ ' ' :: '|' :: '|' :: ' ' :: second)) = do
      let before ← readAlternatives (alternativeTexts first)
      let after ← readAlternatives (alternativeTexts second)
      return before ++ after := by
  have isBlank : ∀ c ∈ [' '], Text.isBlank c = true := by
    intro c member
    rw [List.mem_singleton.mp member]
    decide
  have firstRead :
      readAlternatives (alternativeTexts (first ++ [' '])) =
        readAlternatives (alternativeTexts first) :=
    readAlternatives_append_blanks first ⟨[' '], isBlank⟩
  have secondRead :
      readAlternatives (alternativeTexts (' ' :: second)) =
        readAlternatives (alternativeTexts second) :=
    readAlternatives_blanks_append ⟨[' '], isBlank⟩ second
  rw [alternativeTexts_bars, readAlternatives_append, firstRead, secondRead]

/-- A text is read as a range if its alternatives are read. -/
theorem exists_read_iff {text : List Char} :
    (∃ requirement, read text = .ok requirement) ↔
      ∃ alternatives,
        readAlternatives (alternativeTexts text) = .ok alternatives := by
  constructor
  · rintro ⟨requirement, isRead⟩
    exact ⟨requirement.alternatives, (read_eq_ok_iff.mp isRead).1⟩
  · rintro ⟨alternatives, isRead⟩
    exact ⟨⟨alternatives, _⟩, read_eq_ok_iff.mpr ⟨isRead, rfl⟩⟩

/-- The alternatives of two requirements accept what one of the two accepts. -/
theorem acceptsText_of_alternatives
    {union first second : Requirement}
    (alternatives :
      union.alternatives = first.alternatives ++ second.alternatives)
    (version : String) :
    union.acceptsText version = true ↔
      first.acceptsText version = true ∨
        second.acceptsText version = true := by
  simp only [acceptsText]
  cases Version.ofString version with
  | error fault =>
      simp
  | ok version =>
      simp [accepts, alternatives]

/--
Two texts with two bars between them are read as a range exactly if both texts are, and the range
accepts what one of the two accepts.
-/
theorem bars_unite (a b : String) :
    ((∃ union, ofString (a ++ " || " ++ b) = .ok union) ↔
        (∃ first, ofString a = .ok first) ∧
          ∃ second, ofString b = .ok second) ∧
    ∀ union first second,
      ofString (a ++ " || " ++ b) = .ok union →
      ofString a = .ok first →
      ofString b = .ok second →
      ∀ version : String,
        union.acceptsText version = true ↔
          first.acceptsText version = true ∨
            second.acceptsText version = true := by
  have isJoined :
      (a ++ " || " ++ b).toList =
        a.toList ++ ' ' :: '|' :: '|' :: ' ' :: b.toList := by
    simp
  simp only [ofString, isJoined]
  refine ⟨?_, ?_⟩
  · rw [exists_read_iff, exists_read_iff, exists_read_iff,
      readAlternatives_bars]
    simp only [bind_eq_ok_iff, pure_eq_ok_iff]
    constructor
    · rintro ⟨_, before, firstRead, after, secondRead, -⟩
      exact ⟨⟨before, firstRead⟩, ⟨after, secondRead⟩⟩
    · rintro ⟨⟨before, firstRead⟩, ⟨after, secondRead⟩⟩
      exact ⟨_, before, firstRead, after, secondRead, rfl⟩
  · intro union first second unionRead firstRead secondRead
    have alternativesRead := (read_eq_ok_iff.mp unionRead).1
    rw [readAlternatives_bars, (read_eq_ok_iff.mp firstRead).1,
      (read_eq_ok_iff.mp secondRead).1] at alternativesRead
    exact acceptsText_of_alternatives (Except.ok.inj alternativesRead).symm

end Provision.Requirement
