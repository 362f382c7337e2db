import Provision.Proofs.Requirement.Written
import Provision.Version.Basic

namespace Provision

/-!
# The lowest version of a triple

`Version.lowest` is the prerelease `0` of a triple.  No prerelease tag stands below that one, so a
version stands below `Version.lowest` exactly if its triple does, whatever its tag and its build
metadata are.
-/

/-- No tag stands below the tag that is the number zero. -/
theorem Prerelease.compare_zero_ne_lt (tag : Prerelease) :
    tag.compare [.numeric 0] ≠ .lt := by
  cases tag with
  | nil =>
      decide
  | cons first others =>
      have headIsGE :
          (Identifier.compare first (.numeric 0)).isGE = true := by
        cases first with
        | numeric value =>
            rw [Identifier.compare, Ordering.isGE_iff_ne_lt,
              Nat.compare_eq_lt]
            omega
        | word text isWord =>
            rfl
      have restIsGE :
          (List.compareLex Identifier.compare others []).isGE = true :=
        List.isGE_compareLex_nil_right
      rw [Ordering.isGE_iff_ne_lt] at headIsGE restIsGE
      intro below
      rw [Prerelease.compare, List.compareLex_cons_cons,
        Ordering.then_eq_lt] at below
      · rcases below with headBelow | ⟨-, restBelow⟩
        · exact headIsGE headBelow
        · exact restIsGE restBelow
      all_goals simp

/-- No build metadata stands below none. -/
theorem Build.compare_nil_ne_lt (build : Build) :
    build.compare [] ≠ .lt :=
  Ordering.isGE_iff_ne_lt.mp List.isGE_compareLex_nil_right

namespace Version

/-- The triple of a version stands below another triple. -/
def HasTripleBelow (version : Version) (major minor patch : UInt64) : Prop :=
  version.major < major ∨
    version.major = major ∧
      (version.minor < minor ∨
        version.minor = minor ∧ version.patch < patch)

/-- A version stands below the lowest one of a triple exactly if its own triple stands below. -/
theorem compare_lowest_eq_lt_iff
    {version : Version}
    {major minor patch : UInt64} :
    version.compare (lowest major minor patch) = .lt ↔
      version.HasTripleBelow major minor patch := by
  have tagNotBelow := Prerelease.compare_zero_ne_lt version.prerelease
  have buildNotBelow := Build.compare_nil_ne_lt version.build
  have restNotBelow :
      ¬((version.prerelease.compare [.numeric 0]).then
          (version.build.compare [])) = .lt := by
    rw [Ordering.then_eq_lt]
    rintro (below | ⟨-, below⟩)
    · exact tagNotBelow below
    · exact buildNotBelow below
  simp only [compare, lowest]
  generalize
    (version.prerelease.compare [.numeric 0]).then
        (version.build.compare []) = rest at restNotBelow ⊢
  simp only [Ordering.then_eq_lt, Nat.compare_eq_lt, Nat.compare_eq_eq,
    restNotBelow, and_false, or_false, HasTripleBelow,
    UInt64.lt_iff_toNat_lt, UInt64.toNat_inj]

end Version

end Provision

namespace Provision

/-!
# Accepted prereleases

A comparator of a range has its bound from a pattern that is written in the range, or it names a
release, or it is a ceiling, strictly below the lowest version of a triple.  A ceiling names a
prerelease too, but it refuses the prereleases of its own triple.  So only a prerelease that is
written opts into the accepted prereleases of its triple.
-/

namespace Comparator

/-- A comparator stands strictly below the lowest version of a triple. -/
def IsCeiling (comparator : Comparator) : Prop :=
  ∃ major minor patch,
    comparator = ⟨.below, Version.lowest major minor patch⟩

/-- A ceiling accepts the versions whose triple is below that of the ceiling. -/
theorem accepts_below_lowest_iff
    {version : Version}
    {major minor patch : UInt64} :
    accepts ⟨.below, Version.lowest major minor patch⟩ version = true ↔
      version.HasTripleBelow major minor patch := by
  rw [← Version.compare_lowest_eq_lt_iff]
  exact Ordering.isLT_iff_eq_lt

/-- There is no triple below the triple of zeros. -/
theorem accepts_nothing (version : Version) :
    nothing.accepts version = false := by
  rw [Bool.eq_false_iff]
  intro accepted
  rw [nothing, accepts_below_lowest_iff, Version.HasTripleBelow] at accepted
  simp only [UInt64.lt_iff_toNat_lt, UInt64.toNat_zero, Nat.not_lt_zero,
    and_false, or_self] at accepted

/-- A ceiling does not opt into a version that it accepts. -/
theorem IsCeiling.not_optsInto
    {comparator : Comparator}
    (isCeiling : comparator.IsCeiling)
    {version : Version}
    (accepted : comparator.accepts version = true) :
    ComparatorSet.optsInto version comparator ≠ true := by
  obtain ⟨major, minor, patch, rfl⟩ := isCeiling
  intro optsIn
  obtain ⟨-, sameMajor, sameMinor, samePatch⟩ :=
    ComparatorSet.optsInto_iff.mp optsIn
  rw [accepts_below_lowest_iff] at accepted
  rcases accepted with majorBelow | ⟨-, minorBelow | ⟨-, patchBelow⟩⟩
  · exact UInt64.ne_of_lt majorBelow sameMajor.symm
  · exact UInt64.ne_of_lt minorBelow sameMinor.symm
  · exact UInt64.ne_of_lt patchBelow samePatch.symm

/-- Comparators that no version can meet together accept none. -/
theorem not_accepts_of_nothing_mem
    {comparators : ComparatorSet}
    (member : nothing ∈ comparators)
    (version : Version) :
    comparators.accepts version = false := by
  rw [Bool.eq_false_iff]
  intro accepted
  have nothingAccepts :=
    (ComparatorSet.accepts_iff.mp accepted).1 nothing member
  rw [accepts_nothing] at nothingAccepts
  exact Bool.false_ne_true nothingAccepts

end Comparator

namespace Operator

/-- A comparator has the floor of a pattern as its bound, or a release, or it is a ceiling. -/
def IsBoundBy (pattern : VersionPattern) (comparator : Comparator) : Prop :=
  comparator.bound = pattern.floor ∨
    comparator.bound.prerelease = [] ∨
      comparator.IsCeiling

/-- Between a floor and a ceiling all is bound by the pattern of the floor. -/
private theorem isBoundBy_of_mem_between
    {pattern : VersionPattern}
    {major minor patch : UInt64}
    {comparator : Comparator}
    (member :
      comparator ∈
        between pattern.floor (Version.lowest major minor patch)) :
    IsBoundBy pattern comparator := by
  rw [between, List.mem_cons, List.mem_singleton] at member
  rcases member with rfl | rfl
  · exact Or.inl rfl
  · exact Or.inr (Or.inr ⟨major, minor, patch, rfl⟩)

/-- A comparator with the floor of a pattern is bound by it. -/
private theorem isBoundBy_of_mem_floor
    {pattern : VersionPattern}
    {relation : Relation}
    {comparator : Comparator}
    (member : comparator ∈ [⟨relation, pattern.floor⟩]) :
    IsBoundBy pattern comparator := by
  rw [List.mem_singleton] at member
  rw [member]
  exact Or.inl rfl

/-- A comparator with a release is bound by any pattern. -/
private theorem isBoundBy_of_mem_release
    {pattern : VersionPattern}
    {relation : Relation}
    {major minor patch : UInt64}
    {comparator : Comparator}
    (member :
      comparator ∈ [⟨relation, Version.release major minor patch⟩]) :
    IsBoundBy pattern comparator := by
  rw [List.mem_singleton] at member
  rw [member]
  exact Or.inr (Or.inl rfl)

/-- A ceiling is bound by any pattern. -/
private theorem isBoundBy_of_mem_ceiling
    {pattern : VersionPattern}
    {major minor patch : UInt64}
    {comparator : Comparator}
    (member :
      comparator ∈ [⟨.below, Version.lowest major minor patch⟩]) :
    IsBoundBy pattern comparator := by
  rw [List.mem_singleton] at member
  exact Or.inr (Or.inr ⟨major, minor, patch, member⟩)

/-- What is produced from the following number is produced from some number. -/
private theorem eq_of_following
    {component : UInt64}
    {produce : UInt64 → List Comparator}
    {comparators : List Comparator}
    (expanded :
      (do return produce (← next component)) = Except.ok comparators) :
    ∃ following, comparators = produce following := by
  obtain ⟨following, -, produced⟩ := Outcome.bind_eq_ok_iff.mp expanded
  exact ⟨following, Outcome.pure_eq_ok_iff.mp produced⟩

/-- A release line of a major number is bound by the pattern of its floor. -/
private theorem isBoundBy_of_withinMajor
    {pattern : VersionPattern}
    {major : UInt64}
    {comparators : List Comparator}
    (expanded : withinMajor pattern.floor major = .ok comparators)
    {comparator : Comparator}
    (member : comparator ∈ comparators) :
    IsBoundBy pattern comparator := by
  obtain ⟨following, rfl⟩ := eq_of_following expanded
  exact isBoundBy_of_mem_between member

/-- A release line of a minor number is bound by the pattern of its floor. -/
private theorem isBoundBy_of_withinMinor
    {pattern : VersionPattern}
    {major minor : UInt64}
    {comparators : List Comparator}
    (expanded : withinMinor pattern.floor major minor = .ok comparators)
    {comparator : Comparator}
    (member : comparator ∈ comparators) :
    IsBoundBy pattern comparator := by
  obtain ⟨following, rfl⟩ := eq_of_following expanded
  exact isBoundBy_of_mem_between member

/-- A triple with its prereleases is bound by the pattern of its floor. -/
private theorem isBoundBy_of_withinPatch
    {pattern : VersionPattern}
    {major minor patch : UInt64}
    {comparators : List Comparator}
    (expanded :
      withinPatch pattern.floor major minor patch = .ok comparators)
    {comparator : Comparator}
    (member : comparator ∈ comparators) :
    IsBoundBy pattern comparator := by
  obtain ⟨following, rfl⟩ := eq_of_following expanded
  exact isBoundBy_of_mem_between member

/-- All that stands for a pattern with an open patch number is bound by it. -/
private theorem isBoundBy_of_expand_ofMinor
    {operator : Operator}
    {major minor : UInt64}
    {comparators : List Comparator}
    (expanded :
      operator.expand (.ofMinor major minor) = .ok comparators)
    {comparator : Comparator}
    (member : comparator ∈ comparators) :
    IsBoundBy (.ofMinor major minor) comparator := by
  cases operator with
  | equal | tilde =>
      exact isBoundBy_of_withinMinor expanded member
  | caret =>
      simp only [expand] at expanded
      split at expanded
      · exact isBoundBy_of_withinMinor expanded member
      · exact isBoundBy_of_withinMajor expanded member
  | atLeast =>
      obtain rfl := Except.ok.inj expanded
      exact isBoundBy_of_mem_floor member
  | above =>
      obtain ⟨following, rfl⟩ := eq_of_following expanded
      exact isBoundBy_of_mem_release member
  | below =>
      obtain rfl := Except.ok.inj expanded
      exact isBoundBy_of_mem_ceiling member
  | atMost =>
      obtain ⟨following, rfl⟩ := eq_of_following expanded
      exact isBoundBy_of_mem_ceiling member

/-- All that stands for a full pattern is bound by it. -/
private theorem isBoundBy_of_expand_full
    {operator : Operator}
    {major minor patch : UInt64}
    {tag : Prerelease}
    {comparators : List Comparator}
    (expanded :
      operator.expand (.full major minor patch tag) = .ok comparators)
    {comparator : Comparator}
    (member : comparator ∈ comparators) :
    IsBoundBy (.full major minor patch tag) comparator := by
  cases operator with
  | equal | atLeast | above | atMost | below =>
      obtain rfl := Except.ok.inj expanded
      exact isBoundBy_of_mem_floor member
  | tilde =>
      exact isBoundBy_of_withinMinor expanded member
  | caret =>
      -- The caret keeps the first number that is not zero.
      simp only [expand] at expanded
      split at expanded
      · split at expanded
        · exact isBoundBy_of_withinPatch expanded member
        · exact isBoundBy_of_withinMinor expanded member
      · exact isBoundBy_of_withinMajor expanded member

/-- All that an operator and a pattern stand for is bound by the pattern. -/
theorem isBoundBy_of_expand
    {operator : Operator}
    {pattern : VersionPattern}
    {comparators : List Comparator}
    (expanded : operator.expand pattern = .ok comparators)
    {comparator : Comparator}
    (member : comparator ∈ comparators) :
    IsBoundBy pattern comparator := by
  cases pattern with
  | any =>
      cases operator with
      | above | below =>
          obtain rfl := Except.ok.inj expanded
          exact isBoundBy_of_mem_ceiling member
      | equal | atLeast | atMost | tilde | caret =>
          obtain rfl := Except.ok.inj expanded
          exact absurd member List.not_mem_nil
  | ofMajor major =>
      cases operator with
      | equal | tilde | caret =>
          exact isBoundBy_of_withinMajor expanded member
      | atLeast =>
          obtain rfl := Except.ok.inj expanded
          exact isBoundBy_of_mem_floor member
      | above =>
          obtain ⟨following, rfl⟩ := eq_of_following expanded
          exact isBoundBy_of_mem_release member
      | below =>
          obtain rfl := Except.ok.inj expanded
          exact isBoundBy_of_mem_ceiling member
      | atMost =>
          obtain ⟨following, rfl⟩ := eq_of_following expanded
          exact isBoundBy_of_mem_ceiling member
  | ofMinor major minor =>
      exact isBoundBy_of_expand_ofMinor expanded member
  | full major minor patch tag =>
      exact isBoundBy_of_expand_full expanded member

end Operator

/-- Only a full triple has a prerelease in its floor, its own. -/
theorem VersionPattern.eq_full_of_floor
    {pattern : VersionPattern}
    (isPrerelease : pattern.floor.prerelease ≠ []) :
    ∃ tag,
      tag ≠ [] ∧
        pattern.floor =
            { major := pattern.floor.major
              minor := pattern.floor.minor
              patch := pattern.floor.patch
              prerelease := tag } ∧
          pattern =
            .full pattern.floor.major pattern.floor.minor
              pattern.floor.patch tag := by
  cases pattern with
  | full major minor patch tag =>
      exact ⟨tag, isPrerelease, rfl, rfl⟩
  | any | ofMajor | ofMinor =>
      exact absurd rfl isPrerelease

namespace Requirement

/-- A pattern that is written in an alternative is a prerelease of a version's triple. -/
def Names
    (alternative : List Char)
    (version : Version)
    (tag : Prerelease) : Prop :=
  tag ≠ [] ∧
    ∃ operator part,
      (operator, part) ∈ written alternative ∧
        VersionPattern.read part =
          .ok (.full version.major version.minor version.patch tag)

/-- What opts into an accepted version is a written prerelease of its triple, and no ceiling. -/
theorem names_of_optsInto
    {alternative : List Char}
    {comparators : ComparatorSet}
    (read : readAlternative alternative = .ok comparators)
    {version : Version}
    (accepted : comparators.accepts version = true)
    {comparator : Comparator}
    (member : comparator ∈ comparators)
    (optsIn : ComparatorSet.optsInto version comparator = true) :
    ¬comparator.IsCeiling ∧
      ∃ tag,
        Names alternative version tag ∧
          comparator.bound =
            { major := version.major
              minor := version.minor
              patch := version.patch
              prerelease := tag } := by
  have comparatorAccepts :=
    (ComparatorSet.accepts_iff.mp accepted).1 comparator member
  have notCeiling : ¬comparator.IsCeiling :=
    fun isCeiling => isCeiling.not_optsInto comparatorAccepts optsIn
  obtain ⟨isPrerelease, sameMajor, sameMinor, samePatch⟩ :=
    ComparatorSet.optsInto_iff.mp optsIn
  obtain ⟨operator, part, pattern, produced, isWritten, partRead, expanded,
    isProduced⟩ := (mem_readAlternative_iff read).mp member
  refine ⟨notCeiling, ?_⟩
  rcases Operator.isBoundBy_of_expand expanded isProduced with
    isFloor | isRelease | isCeiling
  · rw [isFloor] at isPrerelease sameMajor sameMinor samePatch
    obtain ⟨tag, notEmpty, floorShape, patternShape⟩ :=
      VersionPattern.eq_full_of_floor isPrerelease
    rw [sameMajor, sameMinor, samePatch] at floorShape patternShape
    rw [patternShape] at partRead
    exact ⟨tag, ⟨notEmpty, operator, part, isWritten, partRead⟩,
      isFloor.trans floorShape⟩
  · exact absurd isRelease isPrerelease
  · exact absurd isCeiling notCeiling

/--
An accepted prerelease is asked for: each alternative that accepts it has a prerelease of its triple
written in it.  Only such a prerelease opts into the version, never a ceiling, and alternatives with
the comparator that no version meets accept nothing at all.
-/
theorem names_of_accepts
    {text : String}
    {requirement : Requirement}
    (read : ofString text = .ok requirement)
    {version : Version}
    (isPrerelease : version.prerelease ≠ [])
    (accepted : requirement.accepts version = true) :
    (∃ alternative ∈ alternativeTexts text.toList,
      ∃ comparators,
        readAlternative alternative = .ok comparators ∧
          comparators.accepts version = true) ∧
    (∀ alternative ∈ alternativeTexts text.toList,
      ∀ comparators,
        readAlternative alternative = .ok comparators →
        comparators.accepts version = true →
        (∃ tag, Names alternative version tag) ∧
          ∀ comparator ∈ comparators,
            ComparatorSet.optsInto version comparator = true →
            ¬comparator.IsCeiling ∧
              ∃ tag,
                Names alternative version tag ∧
                  comparator.bound =
                    { major := version.major
                      minor := version.minor
                      patch := version.patch
                      prerelease := tag }) ∧
    (∀ comparators : ComparatorSet,
      Comparator.nothing ∈ comparators →
      ∀ other, comparators.accepts other = false) := by
  have alternativesRead := (read_eq_ok_iff.mp read).1
  refine ⟨?_, ?_, ?_⟩
  · obtain ⟨comparators, member, admits⟩ := accepts_iff.mp accepted
    obtain ⟨alternative, isAlternative, alternativeRead⟩ :=
      (mem_readAlternatives_iff alternativesRead).mp member
    exact ⟨alternative, isAlternative, comparators, alternativeRead, admits⟩
  · intro alternative isAlternative comparators alternativeRead admits
    refine ⟨?_, fun comparator => names_of_optsInto alternativeRead admits⟩
    rcases (ComparatorSet.accepts_iff.mp admits).2 with
      isRelease | ⟨comparator, member, optsIn⟩
    · exact absurd isRelease isPrerelease
    · obtain ⟨-, tag, names, -⟩ :=
        names_of_optsInto alternativeRead admits member optsIn
      exact ⟨tag, names⟩
  · exact fun comparators => Comparator.not_accepts_of_nothing_mem

/-- The second candidate of a release. -/
def candidate : Version where
  major := 23
  minor := 0
  patch := 0
  prerelease := [.word ['r', 'c'] rfl, .numeric 2]

/-- A later candidate is accepted where an earlier one is written. -/
theorem names_candidate :
    ∃ requirement,
      ofString ">=23.0.0-rc.1 || 18" = .ok requirement ∧
        candidate.prerelease ≠ [] ∧
          requirement.accepts candidate = true ∧
            ∃ alternative tag, Names alternative candidate tag := by
  have notRelease : candidate.prerelease ≠ [] := by
    decide
  have accepts :
      (ofString ">=23.0.0-rc.1 || 18").toOption.any
          (·.accepts candidate) =
        true := by
    decide +kernel
  cases read : ofString ">=23.0.0-rc.1 || 18" with
  | error fault =>
      rw [read] at accepts
      exact absurd accepts Bool.false_ne_true
  | ok requirement =>
      rw [read] at accepts
      obtain ⟨⟨alternative, isAlternative, comparators, alternativeRead,
        admits⟩, names, -⟩ := names_of_accepts read notRelease accepts
      obtain ⟨⟨tag, named⟩, -⟩ :=
        names alternative isAlternative comparators alternativeRead admits
      exact ⟨requirement, rfl, notRelease, accepts, alternative, tag, named⟩

end Requirement

end Provision
