import Provision.Proofs.Version.Spelling
import Provision.Requirement.Basic

namespace Provision

/-!
# Spellings of version ranges

A range is written as alternatives with two bars between them.  An alternative is a hyphen range or
a list of comparators, and a comparator is a pattern behind a sign or without one.  Blanks may stand
at both ends of an alternative and behind a sign; they have to stand between comparators and on both
sides of the hyphen.  A `RangeSpelling` holds all of that, blanks included, beside the operators and
patterns that are meant.
-/

/-- The signs in front of a pattern.  The tilde has two of them. -/
inductive Sign where
  | atLeast
  | atMost
  | tildeAbove
  | above
  | below
  | equal
  | tilde
  | caret
  deriving Repr, DecidableEq

namespace Sign

/-- The characters of a sign. -/
def text : Sign → List Char
  | .atLeast => ['>', '=']
  | .atMost => ['<', '=']
  | .tildeAbove => ['~', '>']
  | .above => ['>']
  | .below => ['<']
  | .equal => ['=']
  | .tilde => ['~']
  | .caret => ['^']

/-- The operator that a sign stands for. -/
def operator : Sign → Operator
  | .atLeast => .atLeast
  | .atMost => .atMost
  | .tildeAbove => .tilde
  | .above => .above
  | .below => .below
  | .equal => .equal
  | .tilde => .tilde
  | .caret => .caret

end Sign

/-- A comparator as it is written: a pattern alone, or behind a sign. -/
inductive ComparatorSpelling where
  | bare (pattern : PatternSpelling)
  | signed (sign : Sign) (blanks : Text.Blanks) (pattern : PatternSpelling)

namespace ComparatorSpelling

/-- The whole text. -/
def text : ComparatorSpelling → List Char
  | .bare pattern => pattern.text
  | .signed sign blanks pattern => sign.text ++ (blanks.text ++ pattern.text)

/-- The operator and the pattern that are meant. -/
def meaning : ComparatorSpelling → Operator × VersionPattern
  | .bare pattern => (.equal, pattern.pattern)
  | .signed sign _ pattern => (sign.operator, pattern.pattern)

end ComparatorSpelling

/-- An alternative as it is written, with the blanks around it. -/
inductive AlternativeSpelling where
  | blank (blanks : Text.Blanks)
  | sideBySide
      (leading : Text.Blanks)
      (first : ComparatorSpelling)
      (others : List (Text.Gap × ComparatorSpelling))
      (trailing : Text.Blanks)
  | hyphen
      (leading : Text.Blanks)
      (lower : PatternSpelling)
      (before after : Text.Gap)
      (upper : PatternSpelling)
      (trailing : Text.Blanks)

namespace AlternativeSpelling

/-- The whole text. -/
def text : AlternativeSpelling → List Char
  | .blank blanks => blanks.text
  | .sideBySide leading first others trailing =>
      leading.text ++
        ((first.text ++ others.flatMap fun spaced =>
            spaced.1.text ++ spaced.2.text) ++
          trailing.text)
  | .hyphen leading lower before after upper trailing =>
      leading.text ++
        ((lower.text ++ (before.text ++ ('-' :: (after.text ++ upper.text)))) ++
          trailing.text)

/-- The operators and patterns that are meant. -/
def meanings : AlternativeSpelling → List (Operator × VersionPattern)
  | .blank _ => []
  | .sideBySide _ first others _ =>
      first.meaning :: others.map fun spaced => spaced.2.meaning
  | .hyphen _ lower _ _ upper _ =>
      [(.atLeast, lower.pattern), (.atMost, upper.pattern)]

/-- The comparators that the operators and patterns stand for. -/
def Produces (alternative : AlternativeSpelling) (comparator : Comparator) : Prop :=
  ∃ meaning ∈ alternative.meanings, ∃ comparators,
    meaning.1.expand meaning.2 = .ok comparators ∧
      comparator ∈ comparators

/-- One of the operators needs the number after a component, which does not fit. -/
def Overflows (alternative : AlternativeSpelling) (component : UInt64) : Prop :=
  ∃ meaning ∈ alternative.meanings,
    meaning.1.expand meaning.2 = .error component

/--
All comparators accept a version, and one of them names a prerelease of the same triple if the
version is a prerelease.
-/
def Admits (alternative : AlternativeSpelling) (version : Version) : Prop :=
  (∀ comparator,
      alternative.Produces comparator →
      comparator.accepts version = true) ∧
    (version.prerelease = [] ∨
      ∃ comparator,
        alternative.Produces comparator ∧
          comparator.bound.prerelease ≠ [] ∧
            comparator.bound.major = version.major ∧
              comparator.bound.minor = version.minor ∧
                comparator.bound.patch = version.patch)

end AlternativeSpelling

/-- A range as it is written. -/
structure RangeSpelling where
  first : AlternativeSpelling
  others : List AlternativeSpelling := []

namespace RangeSpelling

/-- The alternatives of a range. -/
def alternatives (range : RangeSpelling) : List AlternativeSpelling :=
  range.first :: range.others

/-- The whole text. -/
def text (range : RangeSpelling) : List Char :=
  range.first.text ++
    range.others.flatMap fun alternative => '|' :: '|' :: alternative.text

end RangeSpelling

end Provision
