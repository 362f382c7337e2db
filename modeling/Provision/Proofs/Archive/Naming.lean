import Provision.Archive.Extract

namespace Provision.Archive

/-!
# Where member names lead

A member name is followed from a base directory as a path that knows both kinds of slashes and drive letters.  A
name that starts with a slash or with a drive leaves the base at once, and one with a segment of two dots may climb
out of it.  The names that are flagged are exactly these, so any other name leads from place to place at or below
the base.
-/

/-! ## Following a name -/

/-- A slash of either kind. -/
def isSlash (c : Char) : Bool :=
  c = '/' || c = '\\'

/-- The segments of a name between slashes of either kind. -/
def segmentsOf (name : List Char) : List (List Char) :=
  name.splitOnP isSlash

/-- The letter of the drive that a name starts with. -/
def drive? : List Char → Option Char
  | letter :: second :: _ =>
      if letter.isAlpha = true ∧ second = ':' then some letter else none
  | _ => none

/-- The name behind its drive. -/
def withoutDrive (name : List Char) : List Char :=
  if (drive? name).isSome then name.drop 2 else name

/-- A directory: its drive, if it is on one that has a letter, and the names that lead down to it. -/
structure Place where
  drive : Option Char
  names : List (List Char)
  deriving DecidableEq

namespace Place

/-- Whether a place is a directory or lies below it. -/
def Encloses (base place : Place) : Prop :=
  place.drive = base.drive ∧ base.names <+: place.names

/-- The place that a segment leads to: where it is, one up, or one down. -/
def enter (place : Place) (segment : List Char) : Place :=
  if segment = [] ∨ segment = ['.'] then
    place
  else if segment = ['.', '.'] then
    { place with names := place.names.dropLast }
  else
    { place with names := place.names ++ [segment] }

/-- The place that a name is followed from: a drive or a slash in front replaces the base. -/
def start (base : Place) (name : List Char) : Place :=
  match drive? name with
  | some letter => ⟨some letter, []⟩
  | none => if name.head?.any isSlash then { base with names := [] } else base

/-- All places on the way along a name, from its start to its end. -/
def visits (base : Place) (name : List Char) : List Place :=
  (segmentsOf (withoutDrive name)).scanl enter (base.start name)

theorem Encloses.refl (base : Place) :
    base.Encloses base :=
  ⟨rfl, List.prefix_rfl⟩

/-- A segment that does not go up leads to a place below the same directories. -/
theorem Encloses.enter
    {base place : Place}
    {segment : List Char}
    (encloses : base.Encloses place)
    (notUp : segment ≠ ['.', '.']) :
    base.Encloses (place.enter segment) := by
  obtain ⟨sameDrive, isPrefix⟩ := encloses
  rw [Place.enter, if_neg notUp]
  split
  · exact ⟨sameDrive, isPrefix⟩
  · exact ⟨sameDrive, isPrefix.trans (List.prefix_append _ _)⟩

/-- Segments that do not go up lead through places below the same directories only. -/
theorem Encloses.scanl
    {base place : Place}
    {segments : List (List Char)}
    (encloses : base.Encloses place)
    (noUps : ['.', '.'] ∉ segments) :
    ∀ visited ∈ segments.scanl Place.enter place, base.Encloses visited := by
  induction segments generalizing place with
  | nil =>
      intro visited member
      rw [List.scanl_nil, List.mem_singleton] at member
      exact member ▸ encloses
  | cons segment rest inductionHypothesis =>
      rw [List.mem_cons, not_or] at noUps
      intro visited member
      rw [List.scanl_cons, List.mem_cons] at member
      rcases member with rfl | member
      · exact encloses
      · exact inductionHypothesis (encloses.enter (Ne.symm noUps.1)) noUps.2
          visited member

end Place

/-! ## Names that are flagged -/

/-- A slash of either kind is what becomes a forward slash. -/
theorem forwardSlash_eq_slash_iff (c : Char) :
    forwardSlash c = '/' ↔ isSlash c = true := by
  unfold forwardSlash isSlash
  split
  · rename_i isBackward
    simp [isBackward]
  · rename_i notBackward
    simp [notBackward]

/-- A character that is no slash stays as it is. -/
theorem forwardSlash_of_not_isSlash
    {c : Char}
    (notSlash : isSlash c = false) :
    forwardSlash c = c := by
  refine if_neg ?_
  rintro rfl
  simp [isSlash] at notSlash

/-- A name is cut at slashes of either kind by making them forward slashes first. -/
theorem fields_map_forwardSlash (name : List Char) :
    Text.fields '/' (name.map forwardSlash) = segmentsOf name := by
  unfold segmentsOf
  induction name with
  | nil => rfl
  | cons c rest inductionHypothesis =>
      rw [List.map_cons, Text.fields, inductionHypothesis,
        List.splitOnP_cons_eq_if_modifyHead]
      by_cases isCut : isSlash c = true
      · rw [if_pos ((forwardSlash_eq_slash_iff c).mpr isCut), if_pos isCut]
      · rw [if_neg (mt (forwardSlash_eq_slash_iff c).mp isCut), if_neg isCut,
          forwardSlash_of_not_isSlash (Bool.eq_false_iff.mpr isCut)]
        cases isRest : rest.splitOnP isSlash with
        | nil =>
            rw [isRest] at inductionHypothesis
            exact absurd inductionHypothesis (Text.fields_ne_nil _ _)
        | cons first others => rfl

/-- A letter stays a letter, and a colon a colon, when slashes become forward ones. -/
theorem isLetter_forwardSlash_iff (c : Char) :
    ((forwardSlash c).isAlpha = true ↔ c.isAlpha = true) ∧
      (forwardSlash c = ':' ↔ c = ':') := by
  unfold forwardSlash
  split
  · rename_i isBackward
    subst isBackward
    decide
  · exact ⟨Iff.rfl, Iff.rfl⟩

theorem hasDrive_cons_cons_iff (letter second : Char) (rest : List Char) :
    hasDrive (letter :: second :: rest) = true ↔
      letter.isAlpha = true ∧ second = ':' := by
  unfold hasDrive
  split
  · rename_i isCons
    obtain ⟨rfl, rfl, -⟩ := by simpa using isCons
    exact (and_iff_left rfl).symm
  · rename_i notColon
    refine iff_of_false Bool.false_ne_true ?_
    rintro ⟨-, rfl⟩
    exact notColon letter rest rfl

/-- A name is told to have a drive exactly if it starts with one, whatever becomes of its slashes. -/
theorem hasDrive_map_forwardSlash_iff (name : List Char) :
    hasDrive (name.map forwardSlash) = true ↔ (drive? name).isSome = true := by
  match name with
  | [] => simp [hasDrive, drive?]
  | [only] => simp [hasDrive, drive?]
  | letter :: second :: rest =>
      rw [List.map_cons, List.map_cons, hasDrive_cons_cons_iff,
        (isLetter_forwardSlash_iff letter).1,
        (isLetter_forwardSlash_iff second).2, drive?]
      split
      · exact iff_of_true ‹_› rfl
      · exact iff_of_false ‹_› Bool.false_ne_true

/-- A name starts with a slash of either kind. -/
theorem head?_map_forwardSlash_iff (name : List Char) :
    (name.map forwardSlash).head? = some '/' ↔
      ∃ c rest, name = c :: rest ∧ isSlash c = true := by
  cases name with
  | nil => simp
  | cons c rest => simp [forwardSlash_eq_slash_iff]

/-- A drive is a letter in front of a colon. -/
theorem isSome_drive?_iff (name : List Char) :
    (drive? name).isSome = true ↔
      ∃ letter rest,
        name = letter :: ':' :: rest ∧ letter.isAlpha = true := by
  match name with
  | [] => simp [drive?]
  | [only] => simp [drive?]
  | letter :: second :: rest =>
      rw [drive?]
      split
      · rename_i isDrive
        obtain ⟨isLetter, rfl⟩ := isDrive
        exact iff_of_true rfl ⟨letter, rest, rfl, isLetter⟩
      · rename_i notDrive
        refine iff_of_false Bool.false_ne_true ?_
        rintro ⟨_, _, isCons, isLetter⟩
        obtain ⟨rfl, rfl, -⟩ := by simpa using isCons
        exact notDrive ⟨isLetter, rfl⟩

/-- A name is flagged for a slash in front, for a drive, or for a segment that goes up. -/
theorem isUnsafe_eq_true_iff (name : List Char) :
    isUnsafe name = true ↔
      (∃ c rest, name = c :: rest ∧ isSlash c = true) ∨
        (drive? name).isSome = true ∨
        ['.', '.'] ∈ segmentsOf name := by
  unfold isUnsafe
  dsimp only
  rw [Bool.or_eq_true, Bool.or_eq_true, decide_eq_true_iff,
    head?_map_forwardSlash_iff, hasDrive_map_forwardSlash_iff,
    fields_map_forwardSlash, or_assoc]
  simp

/-- A name that has neither a slash in front nor a drive is followed from the base. -/
theorem Place.start_eq_base
    {name : List Char}
    (noSlash : ¬∃ c rest, name = c :: rest ∧ isSlash c = true)
    (noDrive : ¬(drive? name).isSome = true)
    (base : Place) :
    base.start name = base := by
  rw [start, Option.not_isSome_iff_eq_none.mp noDrive]
  cases name with
  | nil => rfl
  | cons c rest => exact if_neg fun isCut => noSlash ⟨c, rest, rfl, isCut⟩

/--
A name is flagged exactly if it starts with a slash of either kind or with the letter of a drive, or if one of its
segments between slashes of either kind goes up.  Any other name is followed from the base that it is resolved
against, and all places on its way lie at or below that base.
-/
theorem isUnsafe_guards_base (name : List Char) :
    (isUnsafe name = true ↔
        (∃ c rest, name = c :: rest ∧ isSlash c = true) ∨
          (∃ letter rest,
            name = letter :: ':' :: rest ∧ letter.isAlpha = true) ∨
          ['.', '.'] ∈ segmentsOf name) ∧
      (isUnsafe name = false →
        ∀ base : Place,
          base.start name = base ∧
            ∀ place ∈ base.visits name, base.Encloses place) := by
  refine ⟨?_, fun isSafe base => ?_⟩
  · rw [isUnsafe_eq_true_iff, isSome_drive?_iff]
  · have notFlagged := Bool.eq_false_iff.mp isSafe
    rw [Ne, isUnsafe_eq_true_iff, not_or, not_or] at notFlagged
    obtain ⟨noSlash, noDrive, noUps⟩ := notFlagged
    have isBase := Place.start_eq_base noSlash noDrive base
    refine ⟨isBase, ?_⟩
    rw [Place.visits, isBase, withoutDrive, if_neg noDrive]
    exact (Place.Encloses.refl base).scanl noUps

/-- A name with dots in it, and with slashes of both kinds, is followed down from a directory on a drive. -/
theorem dotted_name_leads_down :
    isUnsafe "a\\.\\..b//c".toList = false ∧
      (Place.mk (some 'D') [['x']]).visits "a\\.\\..b//c".toList =
        [⟨some 'D', [['x']]⟩,
          ⟨some 'D', [['x'], ['a']]⟩,
          ⟨some 'D', [['x'], ['a']]⟩,
          ⟨some 'D', [['x'], ['a'], ['.', '.', 'b']]⟩,
          ⟨some 'D', [['x'], ['a'], ['.', '.', 'b']]⟩,
          ⟨some 'D', [['x'], ['a'], ['.', '.', 'b'], ['c']]⟩] ∧
      ∀ place ∈ (Place.mk (some 'D') [['x']]).visits "a\\.\\..b//c".toList,
        (Place.mk (some 'D') [['x']]).Encloses place := by
  have isSafe : isUnsafe "a\\.\\..b//c".toList = false := by decide
  refine ⟨isSafe, by decide, ?_⟩
  exact ((isUnsafe_guards_base _).2 isSafe _).2

end Provision.Archive
