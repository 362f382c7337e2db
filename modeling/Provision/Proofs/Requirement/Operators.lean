import Provision.Proofs.Requirement.Prerelease
import Provision.Proofs.Version.Grammar

namespace Provision

/-!
# What operators mean

The numbers that a pattern gives are compared with those of a release, the major number first.  With
this comparison each operator says which releases it means, and which number it needs the following
one of.  The comparators of an operator and a pattern accept just these releases, and there are none
only where that number is the greatest one.
-/

namespace Version

/-- The numbers of a version, the major one first. -/
def numbers (version : Version) : List Nat :=
  [version.major.toNat, version.minor.toNat, version.patch.toNat]

/-- A version does not stand below another one. -/
def IsAtLeast (version bound : Version) : Prop :=
  version.compare bound ≠ .lt

variable {a b c major minor patch : UInt64}

/-- Triples are compared number by number. -/
theorem hasTripleBelow_iff {version : Version} :
    version.HasTripleBelow major minor patch ↔
      version.major.toNat < major.toNat ∨
        version.major.toNat = major.toNat ∧
          (version.minor.toNat < minor.toNat ∨
            version.minor.toNat = minor.toNat ∧
              version.patch.toNat < patch.toNat) := by
  simp only [HasTripleBelow, UInt64.lt_iff_toNat_lt, UInt64.toNat_inj]

/-- A release stands below a version without build metadata exactly if its triple does. -/
theorem isAtLeast_iff
    {bound : Version}
    (noBuild : bound.build = []) :
    (release a b c).IsAtLeast bound ↔
      ¬(release a b c).HasTripleBelow bound.major bound.minor bound.patch := by
  have tagNotBelow : Prerelease.compare [] bound.prerelease ≠ .lt := by
    cases bound.prerelease <;> simp [Prerelease.compare]
  have buildNotBelow : Build.compare [] bound.build ≠ .lt := by
    simp [noBuild, Build.compare, List.compareLex_nil_nil]
  refine not_congr ?_
  rw [hasTripleBelow_iff]
  simp [compare, release, Ordering.then_eq_lt, Nat.compare_eq_lt, tagNotBelow,
    buildNotBelow]

end Version

namespace VersionPattern

/-- The numbers that a pattern gives, the major one first. -/
def numbers : VersionPattern → List Nat
  | .any => []
  | .ofMajor major => [major.toNat]
  | .ofMinor major minor => [major.toNat, minor.toNat]
  | .full major minor patch _ => [major.toNat, minor.toNat, patch.toNat]

/--
How a release stands to a pattern: by as many numbers as the pattern gives.  The release of a triple
stands above the prereleases of it.
-/
def order (pattern : VersionPattern) (release : Version) : Ordering :=
  let given := release.numbers.take pattern.numbers.length
  (List.compareLex Ord.compare given pattern.numbers).then
    (if pattern.tag.isEmpty then .eq else .gt)

variable {release : Version}
variable {a b c major minor patch : UInt64}

theorem order_any : order .any release = .eq := by
  simp [order, numbers, tag, List.compareLex_nil_nil]

theorem order_ofMajor :
    order (.ofMajor major) release =
      Ord.compare release.major.toNat major.toNat := by
  simp [order, numbers, Version.numbers, tag, List.compareLex_cons_cons,
    List.compareLex_nil_nil]

theorem order_ofMinor :
    order (.ofMinor major minor) release =
      (Ord.compare release.major.toNat major.toNat).then
        (Ord.compare release.minor.toNat minor.toNat) := by
  simp [order, numbers, Version.numbers, tag, List.compareLex_cons_cons,
    List.compareLex_nil_nil]

/-- A full triple is compared with releases as versions are. -/
theorem order_full {tag : Prerelease} :
    order (.full major minor patch tag) (.release a b c) =
      (Version.release a b c).compare (floor (.full major minor patch tag)) := by
  cases tag <;>
    simp [order, numbers, Version.numbers, VersionPattern.tag,
      List.compareLex_cons_cons, List.compareLex_nil_nil, Version.compare,
      floor, Version.release, Prerelease.compare, Build.compare,
      Ordering.then_assoc]

/-- A pattern has no build metadata in its floor. -/
theorem build_floor (pattern : VersionPattern) : pattern.floor.build = [] := by
  cases pattern <;> rfl

/-- A release does not stand below a pattern exactly if it does not stand below the floor of it. -/
theorem isAtLeast_floor_iff {pattern : VersionPattern} :
    (Version.release a b c).IsAtLeast pattern.floor ↔
      pattern.order (.release a b c) ≠ .lt := by
  cases pattern with
  | full major minor patch tag =>
      rw [order_full]
      rfl
  | any =>
      rw [Version.isAtLeast_iff (build_floor _), Version.hasTripleBelow_iff,
        order_any]
      simp [floor, Version.release]
  | ofMajor major =>
      rw [Version.isAtLeast_iff (build_floor _), Version.hasTripleBelow_iff,
        order_ofMajor]
      simp [floor, Version.release, Nat.compare_eq_lt]
  | ofMinor major minor =>
      rw [Version.isAtLeast_iff (build_floor _), Version.hasTripleBelow_iff,
        order_ofMinor]
      simp [floor, Version.release, Nat.compare_eq_lt, Ordering.then_eq_lt]

end VersionPattern

namespace Operator

/-! ## What is meant -/

/-- The numbers of a list up to the first one that is not zero. -/
def leading : List Nat → List Nat
  | [] => []
  | number :: others =>
      if number = 0 then number :: leading others else [number]

/-- Which releases an operator with a pattern means. -/
def Means
    (operator : Operator)
    (pattern : VersionPattern)
    (release : Version) :
    Prop :=
  match operator with
  | .equal => pattern.order release = .eq
  | .atLeast => pattern.order release ≠ .lt
  | .above => pattern.order release = .gt
  | .below => pattern.order release = .lt
  | .atMost => pattern.order release ≠ .gt
  | .tilde =>
      release.IsAtLeast pattern.floor ∧
        pattern.numbers.take 2 <+: release.numbers
  | .caret =>
      release.IsAtLeast pattern.floor ∧
        leading pattern.numbers <+: release.numbers

/-- The number that an operator with a pattern needs the following one of. -/
def raised? (operator : Operator) (pattern : VersionPattern) : Option Nat :=
  match operator with
  | .equal | .above | .atMost =>
      if pattern.numbers.length < 3 then pattern.numbers.getLast? else none
  | .tilde => (pattern.numbers.take 2).getLast?
  | .caret => (leading pattern.numbers).getLast?
  | .atLeast | .below => none

/-- The greatest number that there is in a version. -/
def greatest : Nat :=
  UInt64.size - 1

/--
An expansion is right for a number that has to be raised and for the releases that are meant: it fails
with this number if that is the greatest one, and otherwise its comparators accept just these releases.
-/
def IsRight
    (raised? : Option Nat)
    (means : Version → Prop) :
    Except UInt64 (List Comparator) → Prop
  | .error component =>
      raised? = some component.toNat ∧ component.toNat = greatest
  | .ok comparators =>
      raised? ≠ some greatest ∧
        ∀ major minor patch,
          (∀ comparator ∈ comparators,
              comparator.accepts (.release major minor patch) = true) ↔
            means (.release major minor patch)

/-! ## Comparators -/

variable {raised? : Option Nat}
variable {means other : Version → Prop}
variable {component a b c major minor patch : UInt64}

theorem IsRight.congr
    {expansion : Except UInt64 (List Comparator)}
    (isRight : IsRight raised? means expansion)
    (isSame :
      ∀ major minor patch,
        means (.release major minor patch) ↔
          other (.release major minor patch)) :
    IsRight raised? other expansion := by
  cases expansion with
  | error component => exact isRight
  | ok comparators =>
      exact ⟨isRight.1, fun major minor patch =>
        (isRight.2 major minor patch).trans (isSame major minor patch)⟩

/-- Comparators that need no following number are right if they accept what is meant. -/
theorem isRight_of_accepts
    {comparators : List Comparator}
    (accepts :
      ∀ major minor patch,
        (∀ comparator ∈ comparators,
            comparator.accepts (.release major minor patch) = true) ↔
          means (.release major minor patch)) :
    IsRight none means (.ok comparators) :=
  ⟨by simp, accepts⟩

/-- There is a following number unless a number is the greatest one. -/
theorem next_eq :
    next component =
      if component.toNat = greatest then
        .error component
      else
        .ok (component + 1) := by
  have isBelow : component.toNat < 2 ^ 64 := component.toNat_lt
  have isGreatest :
      component.toNat = greatest ↔ ¬component.toNat + 1 < UInt64.size := by
    simp only [greatest, UInt64.size]
    omega
  simp only [next, isGreatest, ite_not]

theorem toNat_add_one (notGreatest : component.toNat ≠ greatest) :
    (component + 1).toNat = component.toNat + 1 := by
  have isBelow : component.toNat < 2 ^ 64 := component.toNat_lt
  have isSmall : component.toNat + 1 < 2 ^ 64 := by
    simp only [greatest, UInt64.size] at notGreatest
    omega
  rw [UInt64.toNat_add, UInt64.toNat_one, Nat.mod_eq_of_lt isSmall]

/-- Comparators with a following number are right if they accept what is meant where there is one. -/
theorem isRight_following
    {produce : UInt64 → List Comparator}
    (accepts :
      ∀ following : UInt64,
        following.toNat = component.toNat + 1 →
        ∀ major minor patch,
          (∀ comparator ∈ produce following,
              comparator.accepts (.release major minor patch) = true) ↔
            means (.release major minor patch)) :
    IsRight (some component.toNat) means
      (do return produce (← next component)) := by
  rw [next_eq]
  split
  · rename_i isGreatest
    exact ⟨rfl, isGreatest⟩
  · rename_i notGreatest
    exact ⟨by simpa using notGreatest,
      accepts _ (toNat_add_one notGreatest)⟩

theorem accepts_atLeast_iff {version bound : Version} :
    Comparator.accepts ⟨.atLeast, bound⟩ version = true ↔
      version.IsAtLeast bound :=
  Ordering.isGE_iff_ne_lt

/-- A release stands above a pattern with open numbers from the following release on. -/
theorem accepts_atLeast_release_iff :
    (∀ comparator ∈ [⟨.atLeast, Version.release major minor patch⟩],
        Comparator.accepts comparator (.release a b c) = true) ↔
      ¬(Version.release a b c).HasTripleBelow major minor patch := by
  rw [List.forall_mem_singleton, accepts_atLeast_iff,
    Version.isAtLeast_iff rfl]
  rfl

theorem accepts_below_iff :
    (∀ comparator ∈ [⟨.below, Version.lowest major minor patch⟩],
        Comparator.accepts comparator (.release a b c) = true) ↔
      (Version.release a b c).HasTripleBelow major minor patch := by
  rw [List.forall_mem_singleton, Comparator.accepts_below_lowest_iff]

theorem accepts_between_iff {floor : Version} :
    (∀ comparator ∈ between floor (Version.lowest major minor patch),
        comparator.accepts (.release a b c) = true) ↔
      (Version.release a b c).IsAtLeast floor ∧
        (Version.release a b c).HasTripleBelow major minor patch := by
  rw [between, List.forall_mem_cons, accepts_below_iff, accepts_atLeast_iff]

/-! ## Release lines -/

section

variable {floor : Version}

/-- From a floor on, the release line of its major number is the releases with this number. -/
theorem isRight_withinMajor (noBuild : floor.build = []) :
    IsRight (some floor.major.toNat)
      (fun release =>
        release.IsAtLeast floor ∧ [floor.major.toNat] <+: release.numbers)
      (withinMajor floor floor.major) := by
  refine isRight_following fun following isNext a b c => ?_
  rw [accepts_between_iff, Version.isAtLeast_iff noBuild,
    Version.hasTripleBelow_iff, Version.hasTripleBelow_iff]
  simp [Version.numbers, Version.release]
  omega

/-- From a floor on, the release line of its minor number is the releases with these two numbers. -/
theorem isRight_withinMinor (noBuild : floor.build = []) :
    IsRight (some floor.minor.toNat)
      (fun release =>
        release.IsAtLeast floor ∧
          [floor.major.toNat, floor.minor.toNat] <+: release.numbers)
      (withinMinor floor floor.major floor.minor) := by
  refine isRight_following fun following isNext a b c => ?_
  rw [accepts_between_iff, Version.isAtLeast_iff noBuild,
    Version.hasTripleBelow_iff, Version.hasTripleBelow_iff]
  simp [Version.numbers, Version.release]
  omega

/-- From a floor on, there is one release of its triple. -/
theorem isRight_withinPatch (noBuild : floor.build = []) :
    IsRight (some floor.patch.toNat)
      (fun release =>
        release.IsAtLeast floor ∧
          [floor.major.toNat, floor.minor.toNat, floor.patch.toNat] <+:
            release.numbers)
      (withinPatch floor floor.major floor.minor floor.patch) := by
  refine isRight_following fun following isNext a b c => ?_
  rw [accepts_between_iff, Version.isAtLeast_iff noBuild,
    Version.hasTripleBelow_iff, Version.hasTripleBelow_iff]
  simp [Version.numbers, Version.release]
  omega

end

/-! ## Patterns -/

theorem leading_cons_of_zero {number : UInt64} {others : List Nat} (isZero : number = 0) :
    leading (number.toNat :: others) = number.toNat :: leading others := by
  simp [leading, isZero]

theorem leading_cons_of_ne {number : UInt64} {others : List Nat} (notZero : number ≠ 0) :
    leading (number.toNat :: others) = [number.toNat] := by
  have toNatNotZero : number.toNat ≠ 0 := fun isZero => notZero (UInt64.toNat_inj.mp isZero)
  simp [leading, toNatNotZero]

theorem leading_singleton {number : Nat} : leading [number] = [number] := by
  simp [leading]

/-- The caret reads the leading numbers of a pattern. -/
theorem isRight_caret_iff
    {pattern : VersionPattern}
    {expansion : Except UInt64 (List Comparator)} :
    IsRight (Operator.caret.raised? pattern) (Operator.caret.Means pattern) expansion ↔
      IsRight (leading pattern.numbers).getLast?
        (fun release =>
          release.IsAtLeast pattern.floor ∧ leading pattern.numbers <+: release.numbers)
        expansion :=
  Iff.rfl

/-- Without any number nothing stands above or below, and all else means every release. -/
theorem isRight_any (operator : Operator) :
    IsRight (operator.raised? .any) (operator.Means .any)
      (operator.expand .any) := by
  cases operator with
  | above | below =>
      refine isRight_of_accepts fun a b c => ?_
      simp [Means, VersionPattern.order_any, Comparator.accepts_nothing]
  | equal | atLeast | atMost =>
      refine isRight_of_accepts fun a b c => ?_
      simp [Means, VersionPattern.order_any]
  | tilde | caret =>
      refine isRight_of_accepts fun a b c => ?_
      simp [Means, VersionPattern.isAtLeast_floor_iff,
        VersionPattern.order_any, VersionPattern.numbers, leading]

/-- A release has the number of a pattern exactly if it is on the release line. -/
theorem order_ofMajor_eq_iff :
    VersionPattern.order (.ofMajor major) (.release a b c) = .eq ↔
      (Version.release a b c).IsAtLeast
          (VersionPattern.floor (.ofMajor major)) ∧
        [major.toNat] <+: (Version.release a b c).numbers := by
  rw [VersionPattern.isAtLeast_floor_iff, VersionPattern.order_ofMajor,
    Nat.compare_eq_eq, Ne, Nat.compare_eq_lt]
  simp [Version.numbers, Version.release]
  omega

theorem isRight_ofMajor (operator : Operator) (major : UInt64) :
    IsRight (operator.raised? (.ofMajor major))
      (operator.Means (.ofMajor major))
      (operator.expand (.ofMajor major)) := by
  have line := isRight_withinMajor (VersionPattern.build_floor (.ofMajor major))
  cases operator with
  | equal => exact line.congr fun a b c => order_ofMajor_eq_iff.symm
  | tilde => exact line
  | caret =>
      rw [isRight_caret_iff, VersionPattern.numbers, leading_singleton]
      exact line
  | atLeast =>
      refine isRight_of_accepts fun a b c => ?_
      rw [List.forall_mem_singleton, accepts_atLeast_iff]
      exact VersionPattern.isAtLeast_floor_iff
  | above =>
      refine isRight_following fun following isNext a b c => ?_
      rw [accepts_atLeast_release_iff, Version.hasTripleBelow_iff, Means,
        VersionPattern.order_ofMajor, Nat.compare_eq_gt]
      simp only [Version.release, UInt64.toNat_zero]
      omega
  | below =>
      refine isRight_of_accepts fun a b c => ?_
      rw [accepts_below_iff, Version.hasTripleBelow_iff, Means,
        VersionPattern.order_ofMajor, Nat.compare_eq_lt]
      simp only [Version.release, UInt64.toNat_zero]
      omega
  | atMost =>
      refine isRight_following fun following isNext a b c => ?_
      rw [accepts_below_iff, Version.hasTripleBelow_iff, Means,
        VersionPattern.order_ofMajor, Ne, Nat.compare_eq_gt]
      simp only [Version.release, UInt64.toNat_zero]
      omega

/-- A release has the numbers of a pattern exactly if it is on the release line. -/
theorem order_ofMinor_eq_iff :
    VersionPattern.order (.ofMinor major minor) (.release a b c) = .eq ↔
      (Version.release a b c).IsAtLeast
          (VersionPattern.floor (.ofMinor major minor)) ∧
        [major.toNat, minor.toNat] <+: (Version.release a b c).numbers := by
  rw [VersionPattern.isAtLeast_floor_iff, VersionPattern.order_ofMinor,
    Ordering.then_eq_eq, Ne, Ordering.then_eq_lt]
  simp [Version.numbers, Version.release, Nat.compare_eq_lt]
  omega

theorem isRight_ofMinor (operator : Operator) (major minor : UInt64) :
    IsRight (operator.raised? (.ofMinor major minor))
      (operator.Means (.ofMinor major minor))
      (operator.expand (.ofMinor major minor)) := by
  have noBuild := VersionPattern.build_floor (.ofMinor major minor)
  have line := isRight_withinMinor noBuild
  cases operator with
  | equal => exact line.congr fun a b c => order_ofMinor_eq_iff.symm
  | tilde => exact line
  | caret =>
      rw [isRight_caret_iff, VersionPattern.numbers]
      by_cases isZero : major = 0
      · rw [leading_cons_of_zero isZero, leading_singleton, expand, if_pos isZero]
        exact line
      · rw [leading_cons_of_ne isZero, expand, if_neg isZero]
        exact isRight_withinMajor noBuild
  | atLeast =>
      refine isRight_of_accepts fun a b c => ?_
      rw [List.forall_mem_singleton, accepts_atLeast_iff]
      exact VersionPattern.isAtLeast_floor_iff
  | above =>
      refine isRight_following fun following isNext a b c => ?_
      rw [accepts_atLeast_release_iff, Version.hasTripleBelow_iff, Means,
        VersionPattern.order_ofMinor, Ordering.then_eq_gt]
      simp only [Version.release, UInt64.toNat_zero, Nat.compare_eq_gt,
        Nat.compare_eq_eq]
      omega
  | below =>
      refine isRight_of_accepts fun a b c => ?_
      rw [accepts_below_iff, Version.hasTripleBelow_iff, Means,
        VersionPattern.order_ofMinor, Ordering.then_eq_lt]
      simp only [Version.release, UInt64.toNat_zero, Nat.compare_eq_lt,
        Nat.compare_eq_eq]
      omega
  | atMost =>
      refine isRight_following fun following isNext a b c => ?_
      rw [accepts_below_iff, Version.hasTripleBelow_iff, Means,
        VersionPattern.order_ofMinor, Ne, Ordering.then_eq_gt]
      simp only [Version.release, UInt64.toNat_zero, Nat.compare_eq_gt,
        Nat.compare_eq_eq]
      omega

theorem isRight_full
    (operator : Operator)
    (major minor patch : UInt64)
    (tag : Prerelease) :
    IsRight (operator.raised? (.full major minor patch tag))
      (operator.Means (.full major minor patch tag))
      (operator.expand (.full major minor patch tag)) := by
  have noBuild := VersionPattern.build_floor (.full major minor patch tag)
  cases operator with
  | equal | above | below | atLeast | atMost =>
      -- A full triple is a bound of its own.
      refine isRight_of_accepts fun a b c => ?_
      rw [List.forall_mem_singleton, Means, VersionPattern.order_full]
      simp [Comparator.accepts, Ordering.isEq_iff_eq_eq,
        Ordering.isGT_iff_eq_gt, Ordering.isLT_iff_eq_lt,
        Ordering.isGE_iff_ne_lt, Ordering.isLE_iff_ne_gt]
  | tilde => exact isRight_withinMinor noBuild
  | caret =>
      rw [isRight_caret_iff, VersionPattern.numbers]
      by_cases isZero : major = 0
      · rw [leading_cons_of_zero isZero, expand, if_pos isZero]
        by_cases minorIsZero : minor = 0
        · rw [leading_cons_of_zero minorIsZero, leading_singleton,
            if_pos minorIsZero]
          exact isRight_withinPatch noBuild
        · rw [leading_cons_of_ne minorIsZero, if_neg minorIsZero]
          exact isRight_withinMinor noBuild
      · rw [leading_cons_of_ne isZero, expand, if_neg isZero]
        exact isRight_withinMajor noBuild

/--
An operator with a pattern expands to comparators that accept just the releases that are meant.  It fails
exactly if it needs the number after the greatest one.
-/
theorem expand_isRight (operator : Operator) (pattern : VersionPattern) :
    IsRight (operator.raised? pattern) (operator.Means pattern)
      (operator.expand pattern) := by
  cases pattern with
  | any => exact isRight_any operator
  | ofMajor major => exact isRight_ofMajor operator major
  | ofMinor major minor => exact isRight_ofMinor operator major minor
  | full major minor patch tag =>
      exact isRight_full operator major minor patch tag

end Operator

end Provision
