import Provision.Proofs.Outcome
import Provision.Requirement.Basic

namespace Provision

open Outcome

/-!
# Alternatives of a range

A range is read alternative by alternative: it is read where all of them are, and it fails with the
fault of one of them.  A version is accepted where the comparators of one alternative accept it.
-/

namespace ComparatorSet

/-- A version is opted into by a comparator that names a prerelease of its triple. -/
theorem optsInto_iff
    {version : Version}
    {comparator : Comparator} :
    optsInto version comparator = true ↔
      comparator.bound.prerelease ≠ [] ∧
        comparator.bound.major = version.major ∧
          comparator.bound.minor = version.minor ∧
            comparator.bound.patch = version.patch := by
  simp [optsInto, Version.sameTriple, and_assoc]

/-- Comparators accept a version together if each does and a prerelease is opted into. -/
theorem accepts_iff
    {comparators : ComparatorSet}
    {version : Version} :
    comparators.accepts version = true ↔
      (∀ comparator ∈ comparators, comparator.accepts version = true) ∧
        (version.prerelease = [] ∨
          ∃ comparator ∈ comparators,
            optsInto version comparator = true) := by
  simp [accepts]

end ComparatorSet

namespace Requirement

/-- A requirement accepts what one of its alternatives accepts. -/
theorem accepts_iff
    {requirement : Requirement}
    {version : Version} :
    requirement.accepts version = true ↔
      ∃ comparators ∈ requirement.alternatives,
        ComparatorSet.accepts comparators version = true := by
  simp [accepts]

/-- A text without bars is its only alternative. -/
theorem alternativeTexts_of_not_mem
    {text : List Char}
    (noBar : '|' ∉ text) :
    alternativeTexts text = [text] := by
  induction text with
  | nil =>
      rfl
  | cons c rest inductionHypothesis =>
      have notBar : c ≠ '|' :=
        fun same => noBar (by simp [same])
      have restTexts :=
        inductionHypothesis fun member => noBar (by simp [member])
      rw [alternativeTexts.eq_def]
      split <;> simp_all

/-- Two bars end an alternative. -/
theorem alternativeTexts_append_bars
    {text : List Char}
    (rest : List Char)
    (noBar : '|' ∉ text) :
    alternativeTexts (text ++ '|' :: '|' :: rest) =
      text :: alternativeTexts rest := by
  induction text with
  | nil =>
      rfl
  | cons c others inductionHypothesis =>
      have notBar : c ≠ '|' :=
        fun same => noBar (by simp [same])
      have othersTexts :=
        inductionHypothesis fun member => noBar (by simp [member])
      rw [List.cons_append, alternativeTexts.eq_def]
      split <;> simp_all

/-- An alternative whose words are no hyphen range is read token by token. -/
theorem readAlternative_of_words_ne
    {alternative : List Char}
    (notHyphen :
      ∀ lower upper, Text.words alternative ≠ [lower, ['-'], upper]) :
    readAlternative alternative =
      readTokens (Text.words (glue false (Text.trim alternative))) := by
  rw [readAlternative.eq_def]
  split
  · rename_i isHyphen
    exact absurd isHyphen (notHyphen _ _)
  · rfl

/-- All alternatives are read exactly if the first one and the others are. -/
theorem readAlternatives_cons_eq_ok_iff
    {text : List Char}
    {others : List (List Char)}
    {alternatives : List ComparatorSet} :
    readAlternatives (text :: others) = .ok alternatives ↔
      ∃ first,
        readAlternative text = .ok first ∧
          ∃ later,
            readAlternatives others = .ok later ∧
              alternatives = first :: later := by
  simp only [readAlternatives, bind_eq_ok_iff, pure_eq_ok_iff]

/-- What is read are exactly the comparators of the single alternatives. -/
theorem mem_readAlternatives_iff
    {texts : List (List Char)}
    {alternatives : List ComparatorSet}
    (read : readAlternatives texts = .ok alternatives)
    {comparators : ComparatorSet} :
    comparators ∈ alternatives ↔
      ∃ text ∈ texts, readAlternative text = .ok comparators := by
  induction texts generalizing alternatives with
  | nil =>
      simp only [readAlternatives, Except.ok.injEq] at read
      simp [← read]
  | cons text others inductionHypothesis =>
      obtain ⟨first, firstRead, later, othersRead, rfl⟩ :=
        readAlternatives_cons_eq_ok_iff.mp read
      rw [List.mem_cons, inductionHypothesis othersRead]
      simp [firstRead, eq_comm]

/-- Where the range is read, each alternative is. -/
theorem readAlternative_of_mem
    {texts : List (List Char)}
    {alternatives : List ComparatorSet}
    (read : readAlternatives texts = .ok alternatives)
    {text : List Char}
    (member : text ∈ texts) :
    ∃ comparators, readAlternative text = .ok comparators := by
  induction texts generalizing alternatives with
  | nil =>
      simp at member
  | cons first others inductionHypothesis =>
      obtain ⟨comparators, firstRead, later, othersRead, -⟩ :=
        readAlternatives_cons_eq_ok_iff.mp read
      rcases List.mem_cons.mp member with isFirst | inOthers
      · rw [isFirst]
        exact ⟨comparators, firstRead⟩
      · exact inductionHypothesis othersRead inOthers

/-- Where the range is not read, one alternative fails with the same fault. -/
theorem exists_fault_of_readAlternatives
    {texts : List (List Char)}
    {fault : Fault}
    (failed : readAlternatives texts = .error fault) :
    ∃ text ∈ texts, readAlternative text = .error fault := by
  induction texts with
  | nil =>
      simp [readAlternatives] at failed
  | cons text others inductionHypothesis =>
      simp only [readAlternatives, bind_eq_error_iff, pure_ne_error,
        and_false, exists_false, or_false] at failed
      rcases failed with firstFails | ⟨comparators, -, laterFails⟩
      · exact ⟨text, by simp, firstFails⟩
      · obtain ⟨later, member, fails⟩ := inductionHypothesis laterFails
        exact ⟨later, by simp [member], fails⟩

/-- A range is read where its alternatives are. -/
theorem read_eq_ok_iff
    {text : List Char}
    {requirement : Requirement} :
    read text = .ok requirement ↔
      readAlternatives (alternativeTexts text) =
          .ok requirement.alternatives ∧
        requirement.text = String.ofList (Text.trim text) := by
  obtain ⟨expected, original⟩ := requirement
  simp only [read, bind_eq_ok_iff, pure_eq_ok_iff, Requirement.mk.injEq]
  constructor
  · rintro ⟨alternatives, alternativesRead, rfl, same⟩
    exact ⟨alternativesRead, same⟩
  · rintro ⟨alternativesRead, same⟩
    exact ⟨expected, alternativesRead, rfl, same⟩

/-- A range fails where its alternatives do. -/
theorem read_eq_error_iff
    {text : List Char}
    {fault : Fault} :
    read text = .error fault ↔
      readAlternatives (alternativeTexts text) = .error fault := by
  simp only [read, bind_eq_error_iff, pure_ne_error, and_false,
    exists_false, or_false]

end Requirement

end Provision

namespace Provision.Requirement

open Outcome

/-!
# Expanding several patterns

The comparators of an alternative are those of its operators and patterns, one pair after the other.
`expandAll` says so without the text that the pairs were read from; the lemmas say which comparators
come out and when there are none.
-/

/-- The comparators of operators and patterns, one pair after the other. -/
def expandAll :
    List (Operator × VersionPattern) → Except Fault ComparatorSet
  | [] => .ok []
  | (operator, pattern) :: others => do
      let comparators ← expand operator pattern
      return comparators ++ (← expandAll others)

/-- A pair expands to comparators as its operator does. -/
theorem expand_eq_ok_iff
    {operator : Operator}
    {pattern : VersionPattern}
    {comparators : ComparatorSet} :
    expand operator pattern = .ok comparators ↔
      operator.expand pattern = .ok comparators :=
  mapError_eq_ok_iff

/-- All pairs expand exactly if the first one and the others do. -/
theorem expandAll_cons_eq_ok_iff
    {operator : Operator}
    {pattern : VersionPattern}
    {others : List (Operator × VersionPattern)}
    {comparators : ComparatorSet} :
    expandAll ((operator, pattern) :: others) = .ok comparators ↔
      ∃ produced,
        operator.expand pattern = .ok produced ∧
          ∃ later,
            expandAll others = .ok later ∧
              comparators = produced ++ later := by
  simp only [expandAll, bind_eq_ok_iff, expand_eq_ok_iff, pure_eq_ok_iff]

/-- The comparators are exactly those of the single pairs. -/
theorem mem_expandAll_iff
    {pairs : List (Operator × VersionPattern)}
    {comparators : ComparatorSet}
    (expanded : expandAll pairs = .ok comparators)
    {comparator : Comparator} :
    comparator ∈ comparators ↔
      ∃ pair ∈ pairs, ∃ produced,
        pair.1.expand pair.2 = .ok produced ∧
          comparator ∈ produced := by
  induction pairs generalizing comparators with
  | nil =>
      simp only [expandAll, Except.ok.injEq] at expanded
      simp [← expanded]
  | cons pair others inductionHypothesis =>
      obtain ⟨operator, pattern⟩ := pair
      obtain ⟨produced, first, later, rest, rfl⟩ :=
        expandAll_cons_eq_ok_iff.mp expanded
      rw [List.mem_append, inductionHypothesis rest]
      simp [first]

/-- Where all pairs expand, each of them does. -/
theorem expand_of_expandAll
    {pairs : List (Operator × VersionPattern)}
    {comparators : ComparatorSet}
    (expanded : expandAll pairs = .ok comparators)
    {pair : Operator × VersionPattern}
    (member : pair ∈ pairs) :
    ∃ produced, pair.1.expand pair.2 = .ok produced := by
  induction pairs generalizing comparators with
  | nil =>
      simp at member
  | cons first others inductionHypothesis =>
      obtain ⟨produced, firstExpands, later, othersExpand, -⟩ :=
        expandAll_cons_eq_ok_iff.mp expanded
      rcases List.mem_cons.mp member with isFirst | inOthers
      · rw [isFirst]
        exact ⟨produced, firstExpands⟩
      · exact inductionHypothesis othersExpand inOthers

/-- Where not all pairs expand, one of them has a component without successor. -/
theorem exists_overflow_of_expandAll
    {pairs : List (Operator × VersionPattern)}
    {fault : Fault}
    (failed : expandAll pairs = .error fault) :
    ∃ pair ∈ pairs, ∃ component,
      pair.1.expand pair.2 = .error component ∧
        fault = .tooLarge component := by
  induction pairs with
  | nil =>
      simp [expandAll] at failed
  | cons pair others inductionHypothesis =>
      obtain ⟨operator, pattern⟩ := pair
      simp only [expandAll, bind_eq_error_iff, pure_ne_error, and_false,
        exists_false, or_false] at failed
      rcases failed with firstFails | ⟨produced, -, laterFails⟩
      · obtain ⟨component, overflow, rfl⟩ :=
          mapError_eq_error_iff.mp firstFails
        exact ⟨(operator, pattern), by simp, component, overflow, rfl⟩
      · obtain ⟨later, member, overflow⟩ := inductionHypothesis laterFails
        exact ⟨later, by simp [member], overflow⟩

end Provision.Requirement

namespace Provision.Requirement

open Outcome

/-!
# What is written in an alternative

The operators of an alternative and the texts of their patterns, for any text whatsoever.  An
alternative is read exactly if all these texts are patterns and all the pairs expand, and then its
comparators are those of the pairs.
-/

/-- The operators that are written in an alternative, with the texts of their patterns. -/
def written (alternative : List Char) : List (Operator × List Char) :=
  match Text.words alternative with
  | [lower, ['-'], upper] => [(.atLeast, lower), (.atMost, upper)]
  | _ =>
      (Text.words (glue false (Text.trim alternative))).map Operator.read

/-- Read the patterns behind operators. -/
def readPairs :
    List (Operator × List Char) →
      Except Fault (List (Operator × VersionPattern))
  | [] => .ok []
  | (operator, part) :: others => do
      let pattern ← readPattern part
      return (operator, pattern) :: (← readPairs others)

/-- A text is read as a pattern of a range if it is one. -/
theorem readPattern_eq_ok_iff
    {part : List Char}
    {pattern : VersionPattern} :
    readPattern part = .ok pattern ↔
      VersionPattern.read part = .ok pattern :=
  mapError_eq_ok_iff

/-- Pairs are read exactly if the first one and the others are. -/
theorem readPairs_cons_eq_ok_iff
    {operator : Operator}
    {part : List Char}
    {others : List (Operator × List Char)}
    {pairs : List (Operator × VersionPattern)} :
    readPairs ((operator, part) :: others) = .ok pairs ↔
      ∃ pattern,
        VersionPattern.read part = .ok pattern ∧
          ∃ later,
            readPairs others = .ok later ∧
              pairs = (operator, pattern) :: later := by
  simp only [readPairs, bind_eq_ok_iff, readPattern_eq_ok_iff,
    pure_eq_ok_iff]

/-- The pairs that are read are those that are written. -/
theorem mem_readPairs_iff
    {parts : List (Operator × List Char)}
    {pairs : List (Operator × VersionPattern)}
    (read : readPairs parts = .ok pairs)
    {operator : Operator}
    {pattern : VersionPattern} :
    (operator, pattern) ∈ pairs ↔
      ∃ part,
        (operator, part) ∈ parts ∧
          VersionPattern.read part = .ok pattern := by
  induction parts generalizing pairs with
  | nil =>
      simp only [readPairs, Except.ok.injEq] at read
      simp [← read]
  | cons first others inductionHypothesis =>
      obtain ⟨firstOperator, firstPart⟩ := first
      obtain ⟨firstPattern, firstRead, later, othersRead, rfl⟩ :=
        readPairs_cons_eq_ok_iff.mp read
      rw [List.mem_cons, inductionHypothesis othersRead]
      constructor
      · rintro (isFirst | ⟨part, member, partRead⟩)
        · rw [Prod.mk.injEq] at isFirst
          rw [isFirst.1, isFirst.2]
          exact ⟨firstPart, by simp, firstRead⟩
        · exact ⟨part, by simp [member], partRead⟩
      · rintro ⟨part, member, partRead⟩
        rcases List.mem_cons.mp member with isFirst | inOthers
        · rw [Prod.mk.injEq] at isFirst
          rw [isFirst.2, firstRead, Except.ok.injEq] at partRead
          rw [isFirst.1, partRead]
          exact Or.inl rfl
        · exact Or.inr ⟨part, inOthers, partRead⟩

/-- A token is read exactly if its pattern is and expands with the operator. -/
theorem readToken_eq_ok_iff
    {token : List Char}
    {produced : ComparatorSet} :
    readToken token = .ok produced ↔
      ∃ pattern,
        VersionPattern.read (Operator.read token).2 = .ok pattern ∧
          (Operator.read token).1.expand pattern = .ok produced := by
  simp only [readToken, bind_eq_ok_iff, readPattern_eq_ok_iff,
    expand_eq_ok_iff]

/-- Tokens are read exactly if their patterns are and the pairs expand. -/
theorem readTokens_eq_ok_iff
    {tokens : List (List Char)}
    {comparators : ComparatorSet} :
    readTokens tokens = .ok comparators ↔
      ∃ pairs,
        readPairs (tokens.map Operator.read) = .ok pairs ∧
          expandAll pairs = .ok comparators := by
  induction tokens generalizing comparators with
  | nil =>
      simp [readTokens, readPairs, expandAll]
  | cons token others inductionHypothesis =>
      simp only [readTokens, List.map_cons, bind_eq_ok_iff,
        pure_eq_ok_iff, readToken_eq_ok_iff, inductionHypothesis]
      constructor
      · rintro ⟨produced, ⟨pattern, patternRead, first⟩,
          later, ⟨pairs, pairsRead, rest⟩, rfl⟩
        exact ⟨_,
          readPairs_cons_eq_ok_iff.mpr
            ⟨pattern, patternRead, pairs, pairsRead, rfl⟩,
          expandAll_cons_eq_ok_iff.mpr
            ⟨produced, first, later, rest, rfl⟩⟩
      · rintro ⟨pairs, pairsRead, expanded⟩
        obtain ⟨pattern, patternRead, laterPairs, laterRead, rfl⟩ :=
          readPairs_cons_eq_ok_iff.mp pairsRead
        obtain ⟨produced, first, later, rest, rfl⟩ :=
          expandAll_cons_eq_ok_iff.mp expanded
        exact ⟨produced, ⟨pattern, patternRead, first⟩,
          later, ⟨laterPairs, laterRead, rest⟩, rfl⟩

/-- A hyphen range is read exactly if both patterns are and the pairs expand. -/
theorem readHyphen_eq_ok_iff
    {lower upper : List Char}
    {comparators : ComparatorSet} :
    readHyphen lower upper = .ok comparators ↔
      ∃ pairs,
        readPairs [(.atLeast, lower), (.atMost, upper)] = .ok pairs ∧
          expandAll pairs = .ok comparators := by
  simp only [readHyphen, bind_eq_ok_iff, pure_eq_ok_iff,
    readPattern_eq_ok_iff, expand_eq_ok_iff]
  constructor
  · rintro ⟨first, firstRead, second, secondRead,
      produced, firstExpands, later, secondExpands, rfl⟩
    refine ⟨[(.atLeast, first), (.atMost, second)], ?_, ?_⟩
    · simp only [readPairs, bind_eq_ok_iff, pure_eq_ok_iff,
        readPattern_eq_ok_iff]
      exact ⟨first, firstRead, _, ⟨second, secondRead, _, rfl, rfl⟩, rfl⟩
    · simp only [expandAll, bind_eq_ok_iff, pure_eq_ok_iff,
        expand_eq_ok_iff]
      exact ⟨produced, firstExpands, later,
        ⟨later, secondExpands, [], rfl, (List.append_nil later).symm⟩, rfl⟩
  · rintro ⟨pairs, pairsRead, expanded⟩
    obtain ⟨first, firstRead, laterPairs, laterRead, rfl⟩ :=
      readPairs_cons_eq_ok_iff.mp pairsRead
    obtain ⟨second, secondRead, none, noneRead, rfl⟩ :=
      readPairs_cons_eq_ok_iff.mp laterRead
    simp only [readPairs, Except.ok.injEq] at noneRead
    subst noneRead
    obtain ⟨produced, firstExpands, later, laterExpands, rfl⟩ :=
      expandAll_cons_eq_ok_iff.mp expanded
    obtain ⟨second', secondExpands, rest, restExpands, rfl⟩ :=
      expandAll_cons_eq_ok_iff.mp laterExpands
    simp only [expandAll, Except.ok.injEq] at restExpands
    subst restExpands
    exact ⟨first, firstRead, second, secondRead, produced, firstExpands,
      second', secondExpands, by rw [List.append_nil]⟩

/-- In an alternative whose words are no hyphen range the tokens are written. -/
theorem written_of_words_ne
    {alternative : List Char}
    (notHyphen :
      ∀ lower upper, Text.words alternative ≠ [lower, ['-'], upper]) :
    written alternative =
      (Text.words (glue false (Text.trim alternative))).map
        Operator.read := by
  rw [written.eq_def]
  split
  · rename_i isHyphen
    exact absurd isHyphen (notHyphen _ _)
  · rfl

/-- An alternative is read exactly if what is written in it is, and expands. -/
theorem readAlternative_eq_ok_iff
    {alternative : List Char}
    {comparators : ComparatorSet} :
    readAlternative alternative = .ok comparators ↔
      ∃ pairs,
        readPairs (written alternative) = .ok pairs ∧
          expandAll pairs = .ok comparators := by
  by_cases isHyphen :
      ∃ lower upper, Text.words alternative = [lower, ['-'], upper]
  · obtain ⟨lower, upper, shape⟩ := isHyphen
    rw [readAlternative.eq_def, written.eq_def, shape]
    exact readHyphen_eq_ok_iff
  · have notHyphen :
        ∀ lower upper, Text.words alternative ≠ [lower, ['-'], upper] :=
      fun lower upper same => isHyphen ⟨lower, upper, same⟩
    rw [readAlternative_of_words_ne notHyphen,
      written_of_words_ne notHyphen]
    exact readTokens_eq_ok_iff

/-- The comparators of an alternative are those of the pairs that are written. -/
theorem mem_readAlternative_iff
    {alternative : List Char}
    {comparators : ComparatorSet}
    (read : readAlternative alternative = .ok comparators)
    {comparator : Comparator} :
    comparator ∈ comparators ↔
      ∃ operator part pattern produced,
        (operator, part) ∈ written alternative ∧
          VersionPattern.read part = .ok pattern ∧
            operator.expand pattern = .ok produced ∧
              comparator ∈ produced := by
  obtain ⟨pairs, pairsRead, expanded⟩ := readAlternative_eq_ok_iff.mp read
  rw [mem_expandAll_iff expanded]
  constructor
  · rintro ⟨⟨operator, pattern⟩, member, produced, expands, produces⟩
    obtain ⟨part, isWritten, partRead⟩ :=
      (mem_readPairs_iff pairsRead).mp member
    exact ⟨operator, part, pattern, produced, isWritten, partRead,
      expands, produces⟩
  · rintro ⟨operator, part, pattern, produced, isWritten, partRead,
      expands, produces⟩
    exact ⟨(operator, pattern),
      (mem_readPairs_iff pairsRead).mpr ⟨part, isWritten, partRead⟩,
      produced, expands, produces⟩

end Provision.Requirement
