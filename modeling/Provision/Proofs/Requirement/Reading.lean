import Provision.Proofs.Requirement.Spelling
import Provision.Proofs.Requirement.Written

namespace Provision

/-!
# Reading version ranges

A range is cut at its bars, a hyphen range is told from a list of comparators by its words, blanks
behind signs are dropped, and every token is cut into a sign and a pattern.  The lemmas follow these
steps for a text that was put together from a `RangeSpelling`.  The main statement is that the range
then means exactly the operators and patterns that are spelled.
-/

/-- A class of characters that holds none of the signs is apart from them. -/
private theorem isOperatorChar_of_apart
    {belongs : Char → Bool}
    (apart : ['>', '<', '=', '~', '^'].any belongs = false)
    {c : Char}
    (member : belongs c = true) :
    Operator.isOperatorChar c = false := by
  cases isSign : Operator.isOperatorChar c with
  | false =>
      rfl
  | true =>
      have listed : c ∈ ['>', '<', '=', '~', '^'] := by
        simpa [Operator.isOperatorChar, or_assoc] using isSign
      exact absurd member (List.any_eq_false.mp apart c listed)

/-- No character of a pattern belongs to a sign. -/
theorem isOperatorChar_of_isPatternChar
    {c : Char}
    (allowed : isPatternChar c = true) :
    Operator.isOperatorChar c = false :=
  isOperatorChar_of_apart (by decide) allowed

/-- No blank belongs to a sign. -/
theorem isOperatorChar_of_isBlank
    {c : Char}
    (blank : Text.isBlank c = true) :
    Operator.isOperatorChar c = false :=
  isOperatorChar_of_apart (by decide) blank

namespace PatternSpelling

/-- A spelled pattern is one word. -/
theorem isWord_text (spelling : PatternSpelling) :
    Text.IsWord spelling.text := by
  obtain ⟨c, rest, shape, -⟩ := spelling.text_opening
  refine ⟨by simp [shape], ?_⟩
  intro d member
  exact isBlank_of_isPatternChar (isPatternChar_of_mem_text member)

/-- A spelled pattern is not taken for the hyphen of a hyphen range. -/
theorem text_ne_hyphen (spelling : PatternSpelling) :
    spelling.text ≠ ['-'] := by
  obtain ⟨c, rest, shape, notHyphen⟩ := spelling.text_opening
  rw [shape]
  intro same
  exact notHyphen (List.cons.inj same).1

/-- The bars between alternatives do not occur in patterns. -/
theorem bar_not_mem_text (spelling : PatternSpelling) :
    '|' ∉ spelling.text :=
  fun member => absurd (isPatternChar_of_mem_text member) (by decide)

/-- A spelled pattern is read as a pattern of a range. -/
theorem readPattern_text (spelling : PatternSpelling) :
    Requirement.readPattern spelling.text = .ok spelling.pattern := by
  rw [Requirement.readPattern, spelling.read_text]
  rfl

/-- A token that is a spelled pattern alone has no sign. -/
theorem operator_read_text (spelling : PatternSpelling) :
    Operator.read spelling.text = (.equal, spelling.text) := by
  obtain ⟨c, rest, shape, -⟩ := spelling.text_opening
  have opens : c ∈ spelling.text := by
    simp [shape]
  have quiet : Operator.isOperatorChar c = false :=
    isOperatorChar_of_isPatternChar (isPatternChar_of_mem_text opens)
  simp only [Operator.isOperatorChar, Bool.or_eq_false_iff,
    decide_eq_false_iff_not] at quiet
  obtain ⟨⟨⟨⟨notAbove, notBelow⟩, notEqual⟩, notTilde⟩, notCaret⟩ := quiet
  rw [shape, Operator.read.eq_def]
  split <;> simp_all

/-- The longest sign is taken off a token, and the pattern is left. -/
theorem operator_read_sign_text (sign : Sign) (spelling : PatternSpelling) :
    Operator.read (sign.text ++ spelling.text) =
      (sign.operator, spelling.text) := by
  obtain ⟨c, rest, shape, -⟩ := spelling.text_opening
  have opens : c ∈ spelling.text := by
    simp [shape]
  have quiet : Operator.isOperatorChar c = false :=
    isOperatorChar_of_isPatternChar (isPatternChar_of_mem_text opens)
  simp only [Operator.isOperatorChar, Bool.or_eq_false_iff,
    decide_eq_false_iff_not] at quiet
  obtain ⟨⟨⟨⟨notAbove, notBelow⟩, notEqual⟩, notTilde⟩, notCaret⟩ := quiet
  rw [shape, Operator.read.eq_def]
  cases sign <;>
    simp only [Sign.text, Sign.operator, List.cons_append, List.nil_append] <;>
    split <;> simp_all

end PatternSpelling

namespace Requirement

/-- Characters that belong to no sign are kept, and the blanks behind them too. -/
theorem glue_quiet_append
    {quiet : List Char}
    (rest : List Char)
    (noSign : ∀ c ∈ quiet, Operator.isOperatorChar c = false) :
    glue false (quiet ++ rest) = quiet ++ glue false rest := by
  induction quiet with
  | nil =>
      rfl
  | cons c others inductionHypothesis =>
      have othersQuiet :=
        inductionHypothesis fun d member => noSign d (by simp [member])
      rw [List.cons_append, glue, if_neg (by simp), noSign c (by simp),
        othersQuiet, List.cons_append]

/-- Blanks behind a sign are dropped. -/
theorem glue_blanks_append
    {blanks : List Char}
    (rest : List Char)
    (areBlank : ∀ c ∈ blanks, Text.isBlank c = true) :
    glue true (blanks ++ rest) = glue true rest := by
  induction blanks with
  | nil =>
      rfl
  | cons c others inductionHypothesis =>
      have firstBlank : Text.isBlank c = true :=
        areBlank c (by simp)
      rw [List.cons_append, glue, if_pos (by simp [firstBlank])]
      exact inductionHypothesis fun d member => areBlank d (by simp [member])

/-- Blanks that stand behind no sign are kept. -/
theorem glue_gap_append (blanks : Text.Blanks) (rest : List Char) :
    glue false (blanks.text ++ rest) = blanks.text ++ glue false rest :=
  glue_quiet_append rest fun c member =>
    isOperatorChar_of_isBlank (blanks.areBlank c member)

/-- A pattern is kept, be it behind a sign or not. -/
theorem glue_pattern_append
    (afterOperator : Bool)
    (spelling : PatternSpelling)
    (rest : List Char) :
    glue afterOperator (spelling.text ++ rest) =
      spelling.text ++ glue false rest := by
  obtain ⟨c, others, shape, -⟩ := spelling.text_opening
  have allowed : ∀ d ∈ spelling.text, isPatternChar d = true :=
    fun d member => PatternSpelling.isPatternChar_of_mem_text member
  rw [shape] at allowed ⊢
  have visible : Text.isBlank c = false :=
    isBlank_of_isPatternChar (allowed c (by simp))
  have quiet : Operator.isOperatorChar c = false :=
    isOperatorChar_of_isPatternChar (allowed c (by simp))
  have othersQuiet : ∀ d ∈ others, Operator.isOperatorChar d = false :=
    fun d member => isOperatorChar_of_isPatternChar (allowed d (by simp [member]))
  rw [List.cons_append, glue, if_neg (by simp [visible]), quiet,
    glue_quiet_append rest othersQuiet, List.cons_append]

/-- The text of an alternative without the word that makes a hyphen range is cut into tokens. -/
theorem readAlternative_of_no_hyphen
    {text : List Char}
    (noHyphen : ['-'] ∉ Text.words text) :
    readAlternative text =
      readTokens (Text.words (glue false (Text.trim text))) := by
  refine readAlternative_of_words_ne ?_
  intro lower upper shape
  rw [shape] at noHyphen
  simp at noHyphen

/-- A sign is kept. -/
theorem glue_sign_append (sign : Sign) (rest : List Char) :
    glue false (sign.text ++ rest) = sign.text ++ glue true rest := by
  cases sign <;> rfl

/-- Of the blanks that end a text, only blanks are left. -/
theorem exists_glue_append_blanks
    (afterOperator : Bool)
    (text : List Char)
    (trailing : Text.Blanks) :
    ∃ left : Text.Blanks,
      glue afterOperator (text ++ trailing.text) =
        glue afterOperator text ++ left.text := by
  induction text generalizing afterOperator with
  | nil =>
      cases afterOperator with
      | true =>
          have dropped := glue_blanks_append [] trailing.areBlank
          rw [List.append_nil] at dropped
          exact ⟨{}, dropped⟩
      | false =>
          have kept := glue_gap_append trailing []
          rw [List.append_nil] at kept
          exact ⟨trailing, by simpa [glue] using kept⟩
  | cons c rest inductionHypothesis =>
      rw [List.cons_append, glue, glue]
      split
      · exact inductionHypothesis true
      · obtain ⟨left, shape⟩ :=
          inductionHypothesis (Operator.isOperatorChar c)
        exact ⟨left, by rw [shape, List.cons_append]⟩

/-- Blanks around a text do not change the tokens that are read from it. -/
theorem words_glue_surrounded
    (leading trailing : Text.Blanks)
    (text : List Char) :
    Text.words
        (glue false (leading.text ++ (text ++ trailing.text))) =
      Text.words (glue false text) := by
  obtain ⟨left, leftShape⟩ :=
    exists_glue_append_blanks false text trailing
  rw [glue_gap_append, Text.words_blanks_append leading.areBlank,
    leftShape, Text.words_append_blanks left.areBlank]

/-- So trimming a text does not change its tokens. -/
theorem words_glue_trim (text : List Char) :
    Text.words (glue false (Text.trim text)) =
      Text.words (glue false text) := by
  obtain ⟨leading, trailing, leadingBlank, trailingBlank, shape⟩ :=
    Text.exists_append_trim_append text
  have surrounded :=
    words_glue_surrounded ⟨leading, leadingBlank⟩ ⟨trailing, trailingBlank⟩
      (Text.trim text)
  rw [← List.append_assoc, ← shape] at surrounded
  exact surrounded.symm

end Requirement

namespace ComparatorSpelling

/-- The text without the blanks behind the sign. -/
def token : ComparatorSpelling → List Char
  | .bare pattern => pattern.text
  | .signed sign _ pattern => sign.text ++ pattern.text

/-- What stands before the first gap within the text. -/
def firstWord : ComparatorSpelling → List Char
  | .bare pattern => pattern.text
  | .signed sign blanks pattern =>
      if blanks.text = [] then sign.text ++ pattern.text else sign.text

/-- The gap behind the sign, if there is one, and the pattern behind the gap. -/
def furtherWords : ComparatorSpelling → List (Text.Gap × List Char)
  | .bare _ => []
  | .signed _ blanks pattern =>
      if isGap : blanks.text ≠ [] then
        [(⟨blanks, isGap⟩, pattern.text)]
      else
        []

/-- The text of a comparator is made of its words. -/
theorem text_eq_words (spelling : ComparatorSpelling) :
    spelling.text =
      spelling.firstWord ++
        spelling.furtherWords.flatMap fun spaced =>
          spaced.1.text ++ spaced.2 := by
  cases spelling with
  | bare pattern =>
      simp [text, firstWord, furtherWords]
  | signed sign blanks pattern =>
      by_cases none : blanks.text = []
      · simp [text, firstWord, furtherWords, none]
      · simp [text, firstWord, furtherWords, none]

/-- What may stand in a comparator between gaps: words, but not the hyphen of a hyphen range. -/
def IsPart (word : List Char) : Prop :=
  Text.IsWord word ∧ word ≠ ['-']

/-- A spelled pattern is a part of a comparator. -/
theorem isPart_pattern (pattern : PatternSpelling) : IsPart pattern.text :=
  ⟨pattern.isWord_text, pattern.text_ne_hyphen⟩

/-- A sign is a part of a comparator. -/
theorem isPart_sign (sign : Sign) : IsPart sign.text := by
  cases sign <;>
    exact ⟨Text.isWord_of_all (by decide) (by decide), by decide⟩

/-- A sign and a spelled pattern together are a part of a comparator. -/
theorem isPart_sign_append (sign : Sign) (pattern : PatternSpelling) :
    IsPart (sign.text ++ pattern.text) := by
  have signPart := isPart_sign sign
  have patternPart := isPart_pattern pattern
  refine ⟨⟨by simp [signPart.1.1], ?_⟩, ?_⟩
  · intro c member
    rcases List.mem_append.mp member with inSign | inPattern
    · exact signPart.1.2 c inSign
    · exact patternPart.1.2 c inPattern
  · cases sign <;> simp [Sign.text]

/-- The first word of a comparator is a part of it. -/
theorem isPart_firstWord (spelling : ComparatorSpelling) :
    IsPart spelling.firstWord := by
  cases spelling with
  | bare pattern =>
      exact isPart_pattern pattern
  | signed sign blanks pattern =>
      rw [firstWord]
      split
      · exact isPart_sign_append sign pattern
      · exact isPart_sign sign

/-- So is the word behind the gap. -/
theorem isPart_of_mem_furtherWords
    {spelling : ComparatorSpelling}
    {spaced : Text.Gap × List Char}
    (member : spaced ∈ spelling.furtherWords) :
    IsPart spaced.2 := by
  cases spelling with
  | bare pattern =>
      simp [furtherWords] at member
  | signed sign blanks pattern =>
      rw [furtherWords] at member
      split at member
      · rw [List.mem_singleton] at member
        rw [member]
        exact isPart_pattern pattern
      · simp at member

/-- The bars between alternatives do not occur in comparators. -/
theorem bar_not_mem_text (spelling : ComparatorSpelling) :
    '|' ∉ spelling.text := by
  cases spelling with
  | bare pattern =>
      exact pattern.bar_not_mem_text
  | signed sign blanks pattern =>
      simp only [text, List.mem_append, not_or]
      refine ⟨?_, blanks.not_mem (by decide), pattern.bar_not_mem_text⟩
      cases sign <;> decide

/-- A token is one word. -/
theorem isWord_token (spelling : ComparatorSpelling) :
    Text.IsWord spelling.token := by
  cases spelling with
  | bare pattern =>
      exact pattern.isWord_text
  | signed sign blanks pattern =>
      exact (isPart_sign_append sign pattern).1

/-- Glueing leaves the token of a comparator. -/
theorem glue_text_append (spelling : ComparatorSpelling) (rest : List Char) :
    Requirement.glue false (spelling.text ++ rest) =
      spelling.token ++ Requirement.glue false rest := by
  cases spelling with
  | bare pattern =>
      exact Requirement.glue_pattern_append false pattern rest
  | signed sign blanks pattern =>
      rw [text, token, List.append_assoc, List.append_assoc,
        Requirement.glue_sign_append,
        Requirement.glue_blanks_append _ blanks.areBlank,
        Requirement.glue_pattern_append, List.append_assoc]

/-- A token is read as the operator and the pattern that are meant. -/
theorem readToken_token (spelling : ComparatorSpelling) :
    Requirement.readToken spelling.token =
      Requirement.expand spelling.meaning.1 spelling.meaning.2 := by
  cases spelling with
  | bare pattern =>
      simp [Requirement.readToken, token, meaning,
        PatternSpelling.operator_read_text,
        PatternSpelling.readPattern_text, bind, Except.bind]
  | signed sign blanks pattern =>
      simp [Requirement.readToken, token, meaning,
        PatternSpelling.operator_read_sign_text,
        PatternSpelling.readPattern_text, bind, Except.bind]

/-- Tokens side by side are read as the operators and patterns that are meant. -/
theorem readTokens_tokens (spellings : List ComparatorSpelling) :
    Requirement.readTokens (spellings.map token) =
      Requirement.expandAll (spellings.map meaning) := by
  induction spellings with
  | nil =>
      rfl
  | cons first others inductionHypothesis =>
      rw [List.map_cons, List.map_cons, Requirement.readTokens,
        Requirement.expandAll, readToken_token, inductionHypothesis]

end ComparatorSpelling

namespace AlternativeSpelling

open ComparatorSpelling (token firstWord furtherWords)

/-- The gaps and words behind the first word of comparators side by side. -/
def laterWords
    (first : ComparatorSpelling)
    (others : List (Text.Gap × ComparatorSpelling)) :
    List (Text.Gap × List Char) :=
  first.furtherWords ++
    others.flatMap fun spaced =>
      (spaced.1, spaced.2.firstWord) :: spaced.2.furtherWords

/-- Comparators side by side are made of their words. -/
theorem sideBySide_eq_words
    (first : ComparatorSpelling)
    (others : List (Text.Gap × ComparatorSpelling)) :
    (first.text ++ others.flatMap fun spaced =>
        spaced.1.text ++ spaced.2.text) =
      first.firstWord ++
        (laterWords first others).flatMap fun spaced =>
          spaced.1.text ++ spaced.2 := by
  have otherWords :
      (others.flatMap fun spaced => spaced.1.text ++ spaced.2.text) =
        (others.flatMap fun spaced =>
          (spaced.1, spaced.2.firstWord) :: spaced.2.furtherWords).flatMap
            fun spaced => spaced.1.text ++ spaced.2 := by
    induction others with
    | nil =>
        rfl
    | cons spaced later inductionHypothesis =>
        simp only [List.flatMap_cons, List.flatMap_append,
          inductionHypothesis, spaced.2.text_eq_words, List.append_assoc]
  rw [laterWords, List.flatMap_append, otherWords, first.text_eq_words,
    List.append_assoc]

/-- No word of comparators side by side makes them a hyphen range. -/
theorem hyphen_not_mem_words
    (first : ComparatorSpelling)
    (others : List (Text.Gap × ComparatorSpelling)) :
    ['-'] ∉ Text.words
      (first.text ++ others.flatMap fun spaced =>
        spaced.1.text ++ spaced.2.text) := by
  have parts :
      ∀ spaced ∈ laterWords first others,
        ComparatorSpelling.IsPart spaced.2 := by
    intro spaced member
    rcases List.mem_append.mp member with inFirst | inOthers
    · exact ComparatorSpelling.isPart_of_mem_furtherWords inFirst
    · obtain ⟨other, -, inOther⟩ := List.mem_flatMap.mp inOthers
      rcases List.mem_cons.mp inOther with isFirst | inFurther
      · rw [isFirst]
        exact other.2.isPart_firstWord
      · exact ComparatorSpelling.isPart_of_mem_furtherWords inFurther
  rw [sideBySide_eq_words,
    Text.words_spaced first.isPart_firstWord.1
      fun spaced member => (parts spaced member).1]
  intro member
  rcases List.mem_cons.mp member with isFirst | inLater
  · exact first.isPart_firstWord.2 isFirst.symm
  · obtain ⟨spaced, isLater, same⟩ := List.mem_map.mp inLater
    exact (parts spaced isLater).2 same

/-- The tokens of comparators side by side, with the gaps between them. -/
theorem glue_sideBySide
    (first : ComparatorSpelling)
    (others : List (Text.Gap × ComparatorSpelling))
    (rest : List Char) :
    Requirement.glue false
        ((first.text ++ others.flatMap fun spaced =>
            spaced.1.text ++ spaced.2.text) ++
          rest) =
      (first.token ++
          (others.map fun spaced => (spaced.1, spaced.2.token)).flatMap
            fun spaced => spaced.1.text ++ spaced.2) ++
        Requirement.glue false rest := by
  induction others generalizing first with
  | nil =>
      simp [ComparatorSpelling.glue_text_append]
  | cons spaced later inductionHypothesis =>
      have laterTokens := inductionHypothesis spaced.2
      simp only [List.flatMap_cons, List.map_cons, List.append_assoc]
        at laterTokens ⊢
      rw [ComparatorSpelling.glue_text_append, Requirement.glue_gap_append,
        laterTokens]

/-- The tokens of comparators side by side. -/
theorem words_glue_sideBySide
    (first : ComparatorSpelling)
    (others : List (Text.Gap × ComparatorSpelling)) :
    Text.words
        (Requirement.glue false
          (first.text ++ others.flatMap fun spaced =>
            spaced.1.text ++ spaced.2.text)) =
      (first :: others.map Prod.snd).map token := by
  have glued := glue_sideBySide first others []
  rw [List.append_nil] at glued
  rw [glued, Requirement.glue, List.append_nil,
    Text.words_spaced first.isWord_token]
  · simp [Function.comp_def]
  · intro spaced member
    obtain ⟨other, -, rfl⟩ := List.mem_map.mp member
    exact other.2.isWord_token

/-- A spelled alternative is read as the operators and patterns that are meant. -/
theorem readAlternative_text (alternative : AlternativeSpelling) :
    Requirement.readAlternative alternative.text =
      Requirement.expandAll alternative.meanings := by
  cases alternative with
  | blank blanks =>
      have noWords : Text.words blanks.text = [] :=
        Text.words_blanks blanks.areBlank
      have kept := Requirement.glue_gap_append blanks []
      rw [List.append_nil, Requirement.glue, List.append_nil] at kept
      rw [text, Requirement.readAlternative_of_no_hyphen (by simp [noWords]),
        Requirement.words_glue_trim, kept, noWords]
      rfl
  | sideBySide leading first others trailing =>
      have noHyphen := hyphen_not_mem_words first others
      rw [text, Requirement.readAlternative_of_no_hyphen,
        Requirement.words_glue_trim, Requirement.words_glue_surrounded,
        words_glue_sideBySide, ComparatorSpelling.readTokens_tokens]
      · simp [meanings, Function.comp_def]
      · rw [Text.words_blanks_append leading.areBlank,
          Text.words_append_blanks trailing.areBlank]
        exact noHyphen
  | hyphen leading lower before after upper trailing =>
      have hyphenWord : Text.IsWord ['-'] :=
        Text.isWord_of_all (by decide) (by decide)
      have areWords :
          ∀ spaced ∈ [(before, ['-']), (after, upper.text)],
            Text.IsWord spaced.2 := by
        intro spaced member
        simp only [List.mem_cons, List.not_mem_nil, or_false] at member
        rcases member with isHyphen | isUpper
        · rw [isHyphen]
          exact hyphenWord
        · rw [isUpper]
          exact upper.isWord_text
      have spaced := Text.words_spaced lower.isWord_text areWords
      simp only [List.flatMap_cons, List.flatMap_nil, List.append_nil,
        List.append_assoc, List.cons_append, List.nil_append,
        List.map_cons, List.map_nil] at spaced
      rw [text, Requirement.readAlternative,
        Text.words_blanks_append leading.areBlank,
        Text.words_append_blanks trailing.areBlank, spaced]
      simp only [Requirement.readHyphen, PatternSpelling.readPattern_text,
        meanings, Requirement.expandAll, bind, Except.bind, pure,
        Except.pure, List.append_nil]
      cases Requirement.expand .atLeast lower.pattern with
      | error fault =>
          rfl
      | ok first =>
          cases Requirement.expand .atMost upper.pattern <;> rfl

/-- The bars between alternatives do not occur within one. -/
theorem bar_not_mem_text (alternative : AlternativeSpelling) :
    '|' ∉ alternative.text := by
  have notBlank : Text.isBlank '|' = false := by
    decide
  cases alternative with
  | blank blanks =>
      exact blanks.not_mem notBlank
  | sideBySide leading first others trailing =>
      simp only [text, List.mem_append, List.mem_flatMap, not_or,
        not_exists, not_and]
      refine ⟨leading.not_mem notBlank,
        ⟨first.bar_not_mem_text, ?_⟩, trailing.not_mem notBlank⟩
      intro spaced member
      exact ⟨spaced.1.not_mem notBlank, spaced.2.bar_not_mem_text⟩
  | hyphen leading lower before after upper trailing =>
      simp only [text, List.mem_append, List.mem_cons, not_or]
      exact ⟨leading.not_mem notBlank,
        ⟨lower.bar_not_mem_text, before.not_mem notBlank, by decide,
          after.not_mem notBlank, upper.bar_not_mem_text⟩,
        trailing.not_mem notBlank⟩

end AlternativeSpelling

namespace RangeSpelling

/-- A spelled range is cut into its alternatives. -/
theorem alternativeTexts_text (range : RangeSpelling) :
    Requirement.alternativeTexts range.text =
      range.alternatives.map AlternativeSpelling.text := by
  obtain ⟨first, others⟩ := range
  rw [text, alternatives]
  induction others generalizing first with
  | nil =>
      simp only [List.flatMap_nil, List.append_nil, List.map_cons,
        List.map_nil]
      exact Requirement.alternativeTexts_of_not_mem first.bar_not_mem_text
  | cons second later inductionHypothesis =>
      rw [List.flatMap_cons, List.cons_append, List.cons_append,
        Requirement.alternativeTexts_append_bars _ first.bar_not_mem_text,
        inductionHypothesis second]
      rfl

/-- The comparators that are read from a spelled range. -/
theorem mem_alternatives_iff
    {range : RangeSpelling}
    {requirement : Requirement}
    (read : Requirement.read range.text = .ok requirement)
    {comparators : ComparatorSet} :
    comparators ∈ requirement.alternatives ↔
      ∃ alternative ∈ range.alternatives,
        Requirement.expandAll alternative.meanings = .ok comparators := by
  have alternativesRead := (Requirement.read_eq_ok_iff.mp read).1
  rw [Requirement.mem_readAlternatives_iff alternativesRead,
    alternativeTexts_text]
  constructor
  · rintro ⟨text, isText, alternativeRead⟩
    obtain ⟨alternative, member, rfl⟩ := List.mem_map.mp isText
    rw [AlternativeSpelling.readAlternative_text] at alternativeRead
    exact ⟨alternative, member, alternativeRead⟩
  · rintro ⟨alternative, member, expanded⟩
    rw [← AlternativeSpelling.readAlternative_text] at expanded
    exact ⟨alternative.text, List.mem_map_of_mem member, expanded⟩

/-- Without overflow a spelled range is read. -/
theorem exists_requirement
    {range : RangeSpelling}
    (noOverflow :
      ∀ alternative ∈ range.alternatives,
        ∀ component, ¬alternative.Overflows component) :
    ∃ requirement, Requirement.read range.text = .ok requirement := by
  cases outcome : Requirement.read range.text with
  | ok requirement =>
      exact ⟨requirement, rfl⟩
  | error fault =>
      obtain ⟨text, isText, failed⟩ :=
        Requirement.exists_fault_of_readAlternatives
          (Requirement.read_eq_error_iff.mp outcome)
      rw [alternativeTexts_text] at isText
      obtain ⟨alternative, member, rfl⟩ := List.mem_map.mp isText
      rw [AlternativeSpelling.readAlternative_text] at failed
      obtain ⟨meaning, isMeaning, component, overflow, -⟩ :=
        Requirement.exists_overflow_of_expandAll failed
      exact absurd ⟨meaning, isMeaning, overflow⟩
        (noOverflow alternative member component)

/-- With an overflow the range fails with that of one of its alternatives. -/
theorem exists_overflow_fault
    {range : RangeSpelling}
    (overflow :
      ∃ alternative ∈ range.alternatives,
        ∃ component, alternative.Overflows component) :
    ∃ alternative ∈ range.alternatives, ∃ component,
      alternative.Overflows component ∧
        Requirement.read range.text = .error (.tooLarge component) := by
  cases outcome : Requirement.read range.text with
  | ok requirement =>
      obtain ⟨alternative, member, component, meaning, isMeaning,
        overflows⟩ := overflow
      have isText :
          alternative.text ∈ Requirement.alternativeTexts range.text := by
        rw [alternativeTexts_text]
        exact List.mem_map_of_mem member
      obtain ⟨comparators, read⟩ :=
        Requirement.readAlternative_of_mem
          (Requirement.read_eq_ok_iff.mp outcome).1 isText
      rw [AlternativeSpelling.readAlternative_text] at read
      obtain ⟨produced, expanded⟩ :=
        Requirement.expand_of_expandAll read isMeaning
      rw [expanded] at overflows
      simp at overflows
  | error fault =>
      obtain ⟨text, isText, failed⟩ :=
        Requirement.exists_fault_of_readAlternatives
          (Requirement.read_eq_error_iff.mp outcome)
      rw [alternativeTexts_text] at isText
      obtain ⟨alternative, member, rfl⟩ := List.mem_map.mp isText
      rw [AlternativeSpelling.readAlternative_text] at failed
      obtain ⟨meaning, isMeaning, component, overflows, rfl⟩ :=
        Requirement.exists_overflow_of_expandAll failed
      exact ⟨alternative, member, component,
        ⟨meaning, isMeaning, overflows⟩, rfl⟩

end RangeSpelling

namespace AlternativeSpelling

/-- The comparators of an alternative accept what the alternative admits. -/
theorem accepts_iff_admits
    {alternative : AlternativeSpelling}
    {comparators : ComparatorSet}
    (expanded :
      Requirement.expandAll alternative.meanings = .ok comparators)
    (version : Version) :
    comparators.accepts version = true ↔ alternative.Admits version := by
  have produced :
      ∀ comparator,
        comparator ∈ comparators ↔ alternative.Produces comparator :=
    fun comparator => Requirement.mem_expandAll_iff expanded
  rw [ComparatorSet.accepts_iff, Admits]
  simp only [produced, ComparatorSet.optsInto_iff]

end AlternativeSpelling

/--
A spelled range means its comparators: it fails exactly where one of the operators that are spelled
needs a component that does not fit, and otherwise accepts exactly the versions that one of its
alternatives admits.
-/
theorem Requirement.ofString_spelling (range : RangeSpelling) :
    ((∃ alternative ∈ range.alternatives,
        ∃ component, alternative.Overflows component) →
      ∃ alternative ∈ range.alternatives, ∃ component,
        alternative.Overflows component ∧
          Requirement.ofString (String.ofList range.text) =
            .error (.tooLarge component)) ∧
    ((∀ alternative ∈ range.alternatives,
        ∀ component, ¬alternative.Overflows component) →
      ∃ requirement,
        Requirement.ofString (String.ofList range.text) = .ok requirement ∧
          ∀ version,
            requirement.accepts version = true ↔
              ∃ alternative ∈ range.alternatives,
                alternative.Admits version) := by
  rw [Requirement.ofString, String.toList_ofList]
  refine ⟨RangeSpelling.exists_overflow_fault, ?_⟩
  intro noOverflow
  obtain ⟨requirement, read⟩ := RangeSpelling.exists_requirement noOverflow
  refine ⟨requirement, read, ?_⟩
  intro version
  rw [Requirement.accepts_iff]
  constructor
  · rintro ⟨comparators, member, accepted⟩
    obtain ⟨alternative, isAlternative, expanded⟩ :=
      (RangeSpelling.mem_alternatives_iff read).mp member
    exact ⟨alternative, isAlternative,
      (AlternativeSpelling.accepts_iff_admits expanded version).mp accepted⟩
  · rintro ⟨alternative, isAlternative, admits⟩
    cases expanded : Requirement.expandAll alternative.meanings with
    | ok comparators =>
        exact ⟨comparators,
          (RangeSpelling.mem_alternatives_iff read).mpr
            ⟨alternative, isAlternative, expanded⟩,
          (AlternativeSpelling.accepts_iff_admits expanded version).mpr
            admits⟩
    | error fault =>
        obtain ⟨meaning, isMeaning, component, overflow, -⟩ :=
          Requirement.exists_overflow_of_expandAll expanded
        exact absurd ⟨meaning, isMeaning, overflow⟩
          (noOverflow alternative isAlternative component)

end Provision
