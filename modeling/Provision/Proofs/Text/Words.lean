import Provision.Text.Fields

namespace Provision.Text

/-!
# Words and blanks

How `words` and `trim` take a text apart that is put together from blanks and from runs without
blanks.  The lemmas are stated for a run with an arbitrary rest behind it, so a text is read from
left to right, one run after the other.
-/

/-- No visible character of the ASCII range is a blank. -/
theorem isBlank_of_visible
    {c : Char}
    (first : 0x21 ≤ c.toNat)
    (last : c.toNat ≤ 0x7e) :
    isBlank c = false := by
  simp only [isBlank, Bool.or_eq_false_iff, Bool.and_eq_false_iff,
    decide_eq_false_iff_not]
  omega

/-- A text that has characters, none of them a blank. -/
def IsWord (text : List Char) : Prop :=
  text ≠ [] ∧ ∀ c ∈ text, isBlank c = false

/-- A closed text is a word if a look at its characters says so. -/
theorem isWord_of_all
    {text : List Char}
    (notEmpty : text ≠ [])
    (visible : (text.all fun c => !isBlank c) = true) :
    IsWord text := by
  refine ⟨notEmpty, ?_⟩
  intro c member
  have notBlank := List.all_eq_true.mp visible c member
  rw [Bool.not_eq_true'] at notBlank
  exact notBlank

/-- A text of blanks, possibly of none. -/
structure Blanks where
  text : List Char := []
  areBlank : ∀ c ∈ text, isBlank c = true := by simp

/-- A character that is not blank is not among blanks. -/
theorem Blanks.not_mem
    {c : Char}
    (blanks : Blanks)
    (visible : isBlank c = false) :
    c ∉ blanks.text := by
  intro member
  rw [blanks.areBlank c member] at visible
  exact absurd visible (by decide)

/-- At least one blank. -/
structure Gap extends Blanks where
  notEmpty : text ≠ [] := by decide

/-- At the end of a text the run that is being read is the last word. -/
private theorem wordsFrom_nil_cons
    (c : Char)
    (run : List Char) :
    wordsFrom [] (c :: run) = [(c :: run).reverse] :=
  rfl

/-- A blank ends the run that is being read. -/
private theorem wordsFrom_blank_cons
    {c last : Char}
    (rest run : List Char)
    (blank : isBlank c = true) :
    wordsFrom (c :: rest) (last :: run) =
      (last :: run).reverse :: words rest :=
  if_pos blank

/-- A blank where no run is being read is passed over. -/
private theorem words_blank_cons
    {c : Char}
    (rest : List Char)
    (blank : isBlank c = true) :
    words (c :: rest) = words rest :=
  if_pos blank

/-- A character that is not blank is added to the run that is being read. -/
private theorem wordsFrom_visible_cons
    {c : Char}
    (rest run : List Char)
    (visible : ¬isBlank c = true) :
    wordsFrom (c :: rest) run = wordsFrom rest (c :: run) :=
  if_neg visible

/-- Blanks in front of a text hold none of its words. -/
theorem words_blanks_append
    {blanks rest : List Char}
    (blank : ∀ c ∈ blanks, isBlank c = true) :
    words (blanks ++ rest) = words rest := by
  induction blanks with
  | nil =>
      rfl
  | cons c others inductionHypothesis =>
      have othersBlank : ∀ d ∈ others, isBlank d = true :=
        fun d member => blank d (by simp [member])
      rw [List.cons_append, words_blank_cons _ (blank c (by simp))]
      exact inductionHypothesis othersBlank

/-- A text of blanks has no words. -/
theorem words_blanks
    {blanks : List Char}
    (blank : ∀ c ∈ blanks, isBlank c = true) :
    words blanks = [] := by
  have whole : words (blanks ++ []) = words [] :=
    words_blanks_append blank
  rw [List.append_nil] at whole
  exact whole

/-- Characters that are not blank are added to the run that is being read. -/
private theorem wordsFrom_visible_append
    {visible rest run : List Char}
    (notBlank : ∀ c ∈ visible, isBlank c = false) :
    wordsFrom (visible ++ rest) run =
      wordsFrom rest (visible.reverse ++ run) := by
  induction visible generalizing run with
  | nil =>
      rfl
  | cons c others inductionHypothesis =>
      have firstVisible : ¬isBlank c = true := by
        simp [notBlank c]
      have othersVisible : ∀ d ∈ others, isBlank d = false :=
        fun d member => notBlank d (by simp [member])
      rw [List.cons_append, wordsFrom_visible_cons _ _ firstVisible,
        inductionHypothesis othersVisible]
      simp

/-- A word that a blank ends is the first one. -/
theorem words_word_append
    {word rest : List Char}
    {blank : Char}
    (isWord : IsWord word)
    (endsWord : isBlank blank = true) :
    words (word ++ blank :: rest) = word :: words rest := by
  rw [words, wordsFrom_visible_append isWord.2, List.append_nil]
  cases run : word.reverse with
  | nil =>
      exact absurd (List.reverse_eq_nil_iff.mp run) isWord.1
  | cons last others =>
      rw [wordsFrom_blank_cons _ _ endsWord, ← run, List.reverse_reverse]

/-- A word is its only word. -/
theorem words_word
    {word : List Char}
    (isWord : IsWord word) :
    words word = [word] := by
  have read :
      wordsFrom (word ++ []) [] = wordsFrom [] (word.reverse ++ []) :=
    wordsFrom_visible_append isWord.2
  rw [List.append_nil, List.append_nil] at read
  rw [words, read]
  cases run : word.reverse with
  | nil =>
      exact absurd (List.reverse_eq_nil_iff.mp run) isWord.1
  | cons last others =>
      rw [wordsFrom_nil_cons, ← run, List.reverse_reverse]

/-- Words with gaps between them are the words of the whole. -/
theorem words_spaced
    {first : List Char}
    {others : List (Gap × List Char)}
    (firstWord : IsWord first)
    (otherWords : ∀ spaced ∈ others, IsWord spaced.2) :
    words (first ++ others.flatMap fun spaced => spaced.1.text ++ spaced.2) =
      first :: others.map Prod.snd := by
  induction others generalizing first with
  | nil =>
      rw [List.flatMap_nil, List.append_nil]
      exact words_word firstWord
  | cons spaced later inductionHypothesis =>
      obtain ⟨gap, second⟩ := spaced
      obtain ⟨blank, blanks, gapShape⟩ :=
        List.exists_cons_of_ne_nil gap.notEmpty
      have areBlank := gap.areBlank
      rw [gapShape] at areBlank
      have laterWords :=
        inductionHypothesis (otherWords (gap, second) (by simp))
          (fun word member => otherWords word (by simp [member]))
      rw [List.flatMap_cons, gapShape, List.append_assoc,
        List.cons_append,
        words_word_append firstWord (areBlank blank (by simp)),
        words_blanks_append fun c member => areBlank c (by simp [member]),
        laterWords]
      rfl

/-- A run of blanks only ends the word before it. -/
private theorem wordsFrom_blanks
    {blanks run : List Char}
    (blank : ∀ c ∈ blanks, isBlank c = true) :
    wordsFrom blanks run = wordsFrom [] run := by
  cases blanks with
  | nil =>
      rfl
  | cons c others =>
      have othersBlank : ∀ d ∈ others, isBlank d = true :=
        fun d member => blank d (by simp [member])
      cases run with
      | nil =>
          exact words_blanks blank
      | cons last earlier =>
          rw [wordsFrom_blank_cons _ _ (blank c (by simp)),
            words_blanks othersBlank, wordsFrom_nil_cons]

/-- Blanks behind a text hold none of its words. -/
theorem words_append_blanks
    {text blanks : List Char}
    (blank : ∀ c ∈ blanks, isBlank c = true) :
    words (text ++ blanks) = words text := by
  have read : ∀ run, wordsFrom (text ++ blanks) run = wordsFrom text run := by
    induction text with
    | nil =>
        intro run
        exact wordsFrom_blanks blank
    | cons c rest inductionHypothesis =>
        intro run
        rw [List.cons_append]
        by_cases firstBlank : isBlank c = true
        · cases run with
          | nil =>
              exact (words_blank_cons _ firstBlank).trans
                ((inductionHypothesis []).trans
                  (words_blank_cons _ firstBlank).symm)
          | cons last earlier =>
              rw [wordsFrom_blank_cons _ _ firstBlank,
                wordsFrom_blank_cons _ _ firstBlank, words, words,
                inductionHypothesis []]
        · rw [wordsFrom_visible_cons _ _ firstBlank,
            wordsFrom_visible_cons _ _ firstBlank]
          exact inductionHypothesis (c :: run)
  exact read []

/-- Only blanks are dropped from the end of a text. -/
theorem exists_trimEnd_append (text : List Char) :
    ∃ blanks,
      (∀ c ∈ blanks, isBlank c = true) ∧
        text = trimEnd text ++ blanks := by
  induction text with
  | nil =>
      exact ⟨[], by simp, rfl⟩
  | cons c rest inductionHypothesis =>
      obtain ⟨blanks, blank, restShape⟩ := inductionHypothesis
      cases kept : trimEnd rest with
      | nil =>
          rw [kept, List.nil_append] at restShape
          subst restShape
          by_cases isBlank : Text.isBlank c = true
          · refine ⟨c :: rest, ?_, by simp [trimEnd, kept, isBlank]⟩
            intro d member
            rcases List.mem_cons.mp member with isFirst | inRest
            · rw [isFirst]
              exact isBlank
            · exact blank d inRest
          · exact ⟨rest, blank, by simp [trimEnd, kept, isBlank]⟩
      | cons first others =>
          refine ⟨blanks, blank, ?_⟩
          simp only [trimEnd, kept, List.cons_append]
          rw [← List.cons_append, ← kept, ← restShape]

/-- Only blanks are dropped from the start of a text. -/
theorem exists_append_trimStart (text : List Char) :
    ∃ blanks,
      (∀ c ∈ blanks, isBlank c = true) ∧
        text = blanks ++ trimStart text := by
  refine ⟨text.takeWhile isBlank, ?_, ?_⟩
  · intro c member
    have allBlank := List.all_takeWhile (p := isBlank) (l := text)
    exact List.all_eq_true.mp allBlank c member
  · exact List.takeWhile_append_dropWhile.symm

/-- Trimming drops blanks from both ends and nothing else. -/
theorem exists_append_trim_append (text : List Char) :
    ∃ leading trailing,
      (∀ c ∈ leading, isBlank c = true) ∧
        (∀ c ∈ trailing, isBlank c = true) ∧
          text = leading ++ trim text ++ trailing := by
  obtain ⟨leading, leadingBlank, leadingShape⟩ :=
    exists_append_trimStart text
  obtain ⟨trailing, trailingBlank, trailingShape⟩ :=
    exists_trimEnd_append (trimStart text)
  refine ⟨leading, trailing, leadingBlank, trailingBlank, ?_⟩
  rw [trim, List.append_assoc, ← trailingShape]
  exact leadingShape

/-- A text whose first character is no blank keeps that one when its end is trimmed. -/
theorem trimEnd_cons_of_visible
    {c : Char}
    (notBlank : isBlank c = false)
    (rest : List Char) :
    trimEnd (c :: rest) = c :: trimEnd rest := by
  rw [trimEnd]
  split
  · rename_i isNil
    simp [notBlank, isNil]
  · rfl

/-- What has been trimmed at its end is not trimmed further there. -/
theorem trimEnd_trimEnd (text : List Char) :
    trimEnd (trimEnd text) = trimEnd text := by
  induction text with
  | nil => rfl
  | cons c rest inductionHypothesis =>
      cases kept : trimEnd rest with
      | nil =>
          by_cases blank : isBlank c = true <;>
            simp [trimEnd, kept, blank]
      | cons first others =>
          rw [kept] at inductionHypothesis
          have isKept : trimEnd (c :: rest) = c :: first :: others := by
            simp only [trimEnd, kept]
          rw [isKept]
          simp only [trimEnd] at inductionHypothesis ⊢
          rw [inductionHypothesis]

/-- What has been trimmed is not trimmed further. -/
theorem trim_trim (text : List Char) :
    trim (trim text) = trim text := by
  have startsVisible :
      trimStart (trimEnd (trimStart text)) = trimEnd (trimStart text) := by
    induction text with
    | nil => rfl
    | cons c rest inductionHypothesis =>
        by_cases blank : isBlank c = true
        · simpa [trimStart, blank] using inductionHypothesis
        · have notBlank := Bool.eq_false_iff.mpr blank
          have isStart : trimStart (c :: rest) = c :: rest := by
            simp [trimStart, notBlank]
          rw [isStart, trimEnd_cons_of_visible notBlank]
          simp [trimStart, notBlank]
  rw [trim, trim, startsVisible, trimEnd_trimEnd]

/-- Blanks at the end of a text are dropped first. -/
theorem trimEnd_append_blanks
    {blanks : List Char}
    (text : List Char)
    (blank : ∀ c ∈ blanks, isBlank c = true) :
    trimEnd (text ++ blanks) = trimEnd text := by
  induction text with
  | nil =>
      induction blanks with
      | nil =>
          rfl
      | cons c rest inductionHypothesis =>
          have firstBlank : isBlank c = true :=
            blank c (by simp)
          have restBlank : ∀ d ∈ rest, isBlank d = true :=
            fun d member => blank d (by simp [member])
          have nothing : trimEnd rest = [] :=
            inductionHypothesis restBlank
          simp only [List.nil_append, trimEnd, nothing, if_pos firstBlank]
  | cons c rest inductionHypothesis =>
      rw [List.cons_append, trimEnd, trimEnd, inductionHypothesis]

/-- Blanks around a text are dropped first. -/
theorem trim_surrounded
    (leading trailing : Blanks)
    (text : List Char) :
    trim (leading.text ++ (text ++ trailing.text)) = trim text := by
  rw [trim, trim, trimStart,
    List.dropWhile_append_of_pos leading.areBlank]
  induction text with
  | nil =>
      have nothing :
          (trailing.text ++ []).dropWhile isBlank = [].dropWhile isBlank :=
        List.dropWhile_append_of_pos trailing.areBlank
      rw [List.append_nil] at nothing
      rw [List.nil_append, nothing]
      rfl
  | cons c rest inductionHypothesis =>
      by_cases blank : isBlank c = true
      · simpa [trimStart, blank] using inductionHypothesis
      · have opens (others : List Char) :
            (c :: others).dropWhile isBlank = c :: others :=
          List.dropWhile_cons_of_neg blank
        rw [List.cons_append, opens, trimStart, opens,
          ← List.cons_append, trimEnd_append_blanks _ trailing.areBlank]

/-- A text without blanks is not changed at its end. -/
theorem trimEnd_of_visible
    {text : List Char}
    (notBlank : ∀ c ∈ text, isBlank c = false) :
    trimEnd text = text := by
  induction text with
  | nil =>
      rfl
  | cons c rest inductionHypothesis =>
      have restVisible : ∀ d ∈ rest, isBlank d = false :=
        fun d member => notBlank d (by simp [member])
      have firstVisible : isBlank c = false :=
        notBlank c (by simp)
      rw [trimEnd, inductionHypothesis restVisible]
      cases rest with
      | nil =>
          simp [firstVisible]
      | cons second others =>
          rfl

/-- A text without blanks is not changed by trimming. -/
theorem trim_of_visible
    {text : List Char}
    (notBlank : ∀ c ∈ text, isBlank c = false) :
    trim text = text := by
  have start : trimStart text = text := by
    cases text with
    | nil =>
        rfl
    | cons c rest =>
        have firstVisible : isBlank c = false :=
          notBlank c (by simp)
        simp [trimStart, firstVisible]
  rw [trim, start]
  exact trimEnd_of_visible notBlank

end Provision.Text
