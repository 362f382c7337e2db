import Provision.Version.Pattern

namespace Provision

/-!
# Comparators

A comparator holds a version against a bound.  `Operator.expand` gives the comparators that an
operator and a version pattern stand for; it fails only where the next release number would not fit
in 64 bits.
-/

/-- How a version is held against a bound. -/
inductive Relation where
  | atLeast
  | above
  | atMost
  | below
  | equal
  deriving Repr, DecidableEq

/-- A bound and the relation that versions have to it. -/
structure Comparator where
  relation : Relation
  bound : Version
  deriving DecidableEq

namespace Comparator

/-- Whether a version stands in the relation to the bound. -/
def accepts (comparator : Comparator) (version : Version) : Bool :=
  let order := version.compare comparator.bound
  match comparator.relation with
  | .atLeast => order.isGE
  | .above => order.isGT
  | .atMost => order.isLE
  | .below => order.isLT
  | .equal => order.isEq

/-- The comparator that no version meets. -/
def nothing : Comparator :=
  ⟨.below, Version.lowest 0 0 0⟩

end Comparator

/-- The operators of a range; `~>` is another spelling of `~`, and none at all of `=`. -/
inductive Operator where
  | equal
  | atLeast
  | above
  | atMost
  | below
  | tilde
  | caret
  deriving Repr, DecidableEq

namespace Operator

/-- The characters that operators consist of. -/
def isOperatorChar (c : Char) : Bool :=
  c = '>' || c = '<' || c = '=' || c = '~' || c = '^'

/-- Take the longest operator off the front of a token. -/
def read : List Char → Operator × List Char
  | '>' :: '=' :: rest => (.atLeast, rest)
  | '<' :: '=' :: rest => (.atMost, rest)
  | '~' :: '>' :: rest => (.tilde, rest)
  | '>' :: rest => (.above, rest)
  | '<' :: rest => (.below, rest)
  | '=' :: rest => (.equal, rest)
  | '~' :: rest => (.tilde, rest)
  | '^' :: rest => (.caret, rest)
  | token => (.equal, token)

/-- The number of the following release; the argument of the error is the number that has none. -/
def next (component : UInt64) : Except UInt64 UInt64 :=
  if component.toNat + 1 < UInt64.size then .ok (component + 1) else .error component

/-- From a version, inclusive, up to the prereleases of another release line, exclusive. -/
def between (floor ceiling : Version) : List Comparator :=
  [⟨.atLeast, floor⟩, ⟨.below, ceiling⟩]

/-- The versions of one release line of a major number, from a floor. -/
def withinMajor (floor : Version) (major : UInt64) : Except UInt64 (List Comparator) := do
  return between floor (Version.lowest (← next major) 0 0)

/-- The versions of one release line of a minor number, from a floor. -/
def withinMinor (floor : Version) (major minor : UInt64) : Except UInt64 (List Comparator) := do
  return between floor (Version.lowest major (← next minor) 0)

/-- The prereleases and the release of one triple, from a floor. -/
def withinPatch
    (floor : Version)
    (major minor patch : UInt64) :
    Except UInt64 (List Comparator) := do
  return between floor (Version.lowest major minor (← next patch))

/--
The comparators that an operator and a pattern stand for.  The argument of the error is the number
that has no successor.
-/
def expand (operator : Operator) (pattern : VersionPattern) : Except UInt64 (List Comparator) :=
  let floor := pattern.floor
  match operator, pattern with
  | .above, .any => .ok [Comparator.nothing]
  | .below, .any => .ok [Comparator.nothing]
  | _, .any => .ok []
  | .equal, .full .. => .ok [⟨.equal, floor⟩]
  | .equal, .ofMajor major => withinMajor floor major
  | .equal, .ofMinor major minor => withinMinor floor major minor
  | .atLeast, _ => .ok [⟨.atLeast, floor⟩]
  | .above, .ofMajor major => do return [⟨.atLeast, Version.release (← next major) 0 0⟩]
  | .above, .ofMinor major minor => do return [⟨.atLeast, Version.release major (← next minor) 0⟩]
  | .above, .full .. => .ok [⟨.above, floor⟩]
  | .below, .ofMajor major => .ok [⟨.below, Version.lowest major 0 0⟩]
  | .below, .ofMinor major minor => .ok [⟨.below, Version.lowest major minor 0⟩]
  | .below, .full .. => .ok [⟨.below, floor⟩]
  | .atMost, .ofMajor major => do return [⟨.below, Version.lowest (← next major) 0 0⟩]
  | .atMost, .ofMinor major minor => do return [⟨.below, Version.lowest major (← next minor) 0⟩]
  | .atMost, .full .. => .ok [⟨.atMost, floor⟩]
  | .tilde, .ofMajor major => withinMajor floor major
  | .tilde, .ofMinor major minor => withinMinor floor major minor
  | .tilde, .full major minor _ _ => withinMinor floor major minor
  | .caret, .ofMajor major => withinMajor floor major
  | .caret, .ofMinor major minor =>
      if major = 0 then withinMinor floor major minor else withinMajor floor major
  | .caret, .full major minor patch _ =>
      if major = 0 then
        if minor = 0 then
          withinPatch floor major minor patch
        else
          withinMinor floor major minor
      else
        withinMajor floor major

end Operator

/-!
# Version requirements

A requirement is a list of alternatives, each a list of comparators that must all accept a version.
A prerelease is accepted only by an alternative that names a prerelease of the same triple.
-/

/-- Comparators that must all accept a version. -/
abbrev ComparatorSet := List Comparator

namespace ComparatorSet

/-- Whether a comparator names a prerelease of the version's triple. -/
def optsInto (version : Version) (comparator : Comparator) : Bool :=
  !comparator.bound.prerelease.isEmpty && comparator.bound.sameTriple version

/-- Whether all comparators accept a version and, for a prerelease, one of them opts into it. -/
def accepts (comparators : ComparatorSet) (version : Version) : Bool :=
  comparators.all (·.accepts version) &&
    (version.prerelease.isEmpty || comparators.any (optsInto version))

end ComparatorSet

/-- A version range, with the text that it was written as. -/
structure Requirement where
  alternatives : List ComparatorSet
  text : String
  deriving DecidableEq

namespace Requirement

/-- Why a text is no requirement. -/
inductive Fault where
  | pattern (fault : VersionPattern.Fault)
  | tooLarge (component : UInt64)
  deriving Repr, DecidableEq

namespace Fault

/-- The wording of a fault. -/
def message : Fault → String
  | .pattern fault => fault.message
  | .tooLarge component => s!"version component {component.toNat} is too large"

end Fault

/-- The alternatives of a range are separated by two bars. -/
def alternativeTexts : List Char → List (List Char)
  | [] => [[]]
  | '|' :: '|' :: rest => [] :: alternativeTexts rest
  | c :: rest =>
      match alternativeTexts rest with
      | [] => [[c]]
      | first :: others => (c :: first) :: others

/-- Drop the blanks that follow an operator character. -/
def glue : Bool → List Char → List Char
  | _, [] => []
  | afterOperator, c :: rest =>
      if afterOperator && Text.isBlank c then
        glue true rest
      else
        c :: glue (Operator.isOperatorChar c) rest

/-- Read a pattern of a range. -/
def readPattern (text : List Char) : Except Fault VersionPattern :=
  (VersionPattern.read text).mapError .pattern

/-- The comparators of an operator and a pattern of a range. -/
def expand (operator : Operator) (pattern : VersionPattern) : Except Fault ComparatorSet :=
  (operator.expand pattern).mapError .tooLarge

/-- The comparators of one token, an operator directly followed by a pattern. -/
def readToken (token : List Char) : Except Fault ComparatorSet := do
  let (operator, rest) := Operator.read token
  expand operator (← readPattern rest)

/-- The comparators of the range from one pattern to another, both inclusive. -/
def readHyphen (lower upper : List Char) : Except Fault ComparatorSet := do
  let lower ← readPattern lower
  let upper ← readPattern upper
  return (← expand .atLeast lower) ++ (← expand .atMost upper)

/-- The comparators of tokens that stand side by side. -/
def readTokens : List (List Char) → Except Fault ComparatorSet
  | [] => .ok []
  | token :: rest => do
      let comparators ← readToken token
      return comparators ++ (← readTokens rest)

/-- The comparators of one alternative: a hyphen range, or tokens side by side. -/
def readAlternative (text : List Char) : Except Fault ComparatorSet :=
  match Text.words text with
  | [lower, ['-'], upper] => readHyphen lower upper
  | _ => readTokens (Text.words (glue false (Text.trim text)))

/-- The comparators of every alternative. -/
def readAlternatives : List (List Char) → Except Fault (List ComparatorSet)
  | [] => .ok []
  | text :: rest => do
      let comparators ← readAlternative text
      return comparators :: (← readAlternatives rest)

/-- Read a range such as `>=16.1 <18 || 20.x`. -/
def read (text : List Char) : Except Fault Requirement := do
  let alternatives ← readAlternatives (alternativeTexts text)
  return { alternatives, text := String.ofList (Text.trim text) }

/-- Read a range from a string. -/
def ofString (text : String) : Except Fault Requirement :=
  read text.toList

/-- The requirement of at least a given release. -/
def atLeast (major minor patch : UInt64) : Requirement where
  alternatives := [[⟨.atLeast, Version.release major minor patch⟩]]
  text := ">=" ++ Version.tripleText major minor patch

/-- Whether some alternative accepts a version. -/
def accepts (requirement : Requirement) (version : Version) : Bool :=
  requirement.alternatives.any (·.accepts version)

/-- Whether a text names a version that the requirement accepts. -/
def acceptsText (requirement : Requirement) (text : String) : Bool :=
  match Version.ofString text with
  | .ok version => requirement.accepts version
  | .error _ => false

end Requirement

end Provision
