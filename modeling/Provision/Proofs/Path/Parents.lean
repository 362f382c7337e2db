import Mathlib.Data.List.TakeWhile
import Provision.Proofs.Disk.Locating
import Provision.Storage.Files

namespace Provision.Path

/-!
# Names and the path before them

The path that another one stands in is what comes before the last name that names something.  Around that
name there may be names that stand for the directory that they occur in.
-/

/-- What is dropped from the end of a list stands for the directory that it occurs in. -/
theorem exists_dropOpen_append (names : List Name) :
    ∃ heres,
      names = dropOpen names ++ heres ∧
        ∀ name ∈ heres, name.isHere = true := by
  refine ⟨(names.reverse.takeWhile Name.isHere).reverse, ?_, ?_⟩
  · have isSplit :=
      congrArg List.reverse
        (List.takeWhile_append_dropWhile (p := Name.isHere)
          (l := names.reverse))
    rw [List.reverse_append, List.reverse_reverse] at isSplit
    exact isSplit.symm
  · intro name member
    exact List.mem_takeWhile_imp (List.mem_reverse.mp member)

/-- What is not dropped ends with a name. -/
theorem notHere_of_getLast?_dropOpen
    {names : List Name}
    {name : Name}
    (isLast : (dropOpen names).getLast? = some name) :
    name.isHere = false := by
  rw [dropOpen, List.getLast?_reverse] at isLast
  have isFirst := List.head?_dropWhile_not Name.isHere names.reverse
  rw [isLast] at isFirst
  exact isFirst

/-- A list of names ends with a name of its own, or it stands for the directory that it occurs in. -/
theorem eq_append_of_getLast?_dropOpen
    {names : List Name}
    {name : Name}
    (isLast : (dropOpen names).getLast? = some name) :
    ∃ heres later,
      names = dropOpen (dropOpen names).dropLast ++ heres ++ name :: later ∧
        (∀ other ∈ heres, other.isHere = true) ∧
          ∀ other ∈ later, other.isHere = true := by
  obtain ⟨before, isNames⟩ := List.getLast?_eq_some_iff.mp isLast
  obtain ⟨later, isLater, areLater⟩ := exists_dropOpen_append names
  obtain ⟨heres, isBefore, areHeres⟩ := exists_dropOpen_append before
  refine ⟨heres, later, ?_, areHeres, areLater⟩
  rw [isNames, List.dropLast_concat, ← isBefore]
  rw [isNames, List.append_assoc] at isLater
  exact isLater

/-- How a path stands in another one: by a name of its own, or as the start of a relative path. -/
structure StandsIn (path parent : Path) (heres : List Name) (name : Name) (later : List Name) :
    Prop where
  names : path.names = parent.way ++ heres ++ name :: later
  heres : ∀ other ∈ heres, other.isHere = true
  later : ∀ other ∈ later, other.isHere = true
  isNamed : name.isHere = false ∨ parent = empty
  start : ∀ here, path.start here = parent.start here

/-- The way of a path whose last name is one of its own. -/
theorem way_of_notHere
    {first : Name}
    {before : List Name}
    {last : Name}
    (isLast : before.getLast? = some last)
    (notHere : last.isHere = false) :
    (⟨first, before⟩ : Path).way = (⟨first, before⟩ : Path).names := by
  have isNamed : last ≠ .text "" := by
    rintro rfl
    simp [Name.isHere] at notHere
  have notOpen : (⟨first, before⟩ : Path).endsOpen = false := by
    cases before with
    | nil => simp at isLast
    | cons next others =>
        simp [endsOpen, segments, List.getLast?_cons_cons, isLast, isNamed]
  rw [way, notOpen, if_neg Bool.false_ne_true]

/-- A path stands in what comes before its last name. -/
theorem exists_of_splitLast?
    {path parent : Path}
    {name : Name}
    (isSplit : path.splitLast? = some (parent, name)) :
    ∃ heres later, path.StandsIn parent heres name later := by
  obtain ⟨first, rest⟩ := path
  rw [splitLast?] at isSplit
  dsimp only at isSplit
  cases isLast : (dropOpen rest).getLast? with
  | none =>
      rw [isLast] at isSplit
      obtain ⟨later, isRest, areLater⟩ := exists_dropOpen_append rest
      rw [List.getLast?_eq_none_iff.mp isLast, List.nil_append] at isRest
      subst isRest
      by_cases isText : first = .text ""
      · simp [isText] at isSplit
      · obtain ⟨rfl, rfl⟩ : empty = parent ∧ first = name := by
          simpa [isText] using isSplit
        refine ⟨[], rest, ?_, by simp, areLater, Or.inr rfl, ?_⟩
        · simp [names, isAbsolute, segments, isText, way, endsOpen, empty]
        · simp [start, isAbsolute, isText, empty]
  | some last =>
      rw [isLast] at isSplit
      obtain ⟨heres, later, isRest, areHeres, areLater⟩ :=
        eq_append_of_getLast?_dropOpen isLast
      have isNamed := notHere_of_getLast?_dropOpen isLast
      refine ⟨heres, later, ?_⟩
      cases isBefore : dropOpen (dropOpen rest).dropLast with
      | nil =>
          rw [isBefore, List.nil_append] at isRest
          rw [isBefore] at isSplit
          by_cases isText : first = .text ""
          · obtain ⟨rfl, rfl⟩ : ⟨.text "", [.text ""]⟩ = parent ∧ last = name := by
              simpa [isText] using isSplit
            refine ⟨?_, areHeres, areLater, Or.inl isNamed, ?_⟩
            · simp [names, isAbsolute, segments, isText, way, endsOpen,
                isRest]
            · simp [start, isAbsolute, isText, isRest]
          · obtain ⟨rfl, rfl⟩ : ⟨first, []⟩ = parent ∧ last = name := by
              simpa [isText] using isSplit
            refine ⟨?_, areHeres, areLater, Or.inl isNamed, ?_⟩
            · simp [names, isAbsolute, segments, isText, way, endsOpen,
                isRest]
            · simp [start, isAbsolute, isText]
      | cons next others =>
          rw [isBefore] at isSplit
          obtain ⟨rfl, rfl⟩ : ⟨first, next :: others⟩ = parent ∧ last = name := by
            simpa using isSplit
          obtain ⟨_, isLastBefore⟩ :=
            Option.isSome_iff_exists.mp
              (List.getLast?_isSome.mpr (List.cons_ne_nil next others))
          have isWay :
              (⟨first, next :: others⟩ : Path).way =
                (⟨first, next :: others⟩ : Path).names :=
            way_of_notHere isLastBefore
              (notHere_of_getLast?_dropOpen (isBefore ▸ isLastBefore))
          rw [isBefore] at isRest
          have notEmpty : rest.isEmpty = false := by
            rw [isRest]
            rfl
          refine ⟨?_, areHeres, areLater, Or.inl isNamed, ?_⟩
          · rw [isWay]
            simp only [names, isAbsolute, segments, notEmpty]
            by_cases isText : first = .text ""
            · simp [isText, isRest]
            · simp [isText, isRest]
          · simp [start, isAbsolute, notEmpty]

/-- A path stands in its parent. -/
theorem exists_of_parent?
    {path parent : Path}
    (isParent : path.parent? = some parent) :
    ∃ heres name later, path.StandsIn parent heres name later := by
  obtain ⟨⟨_, name⟩, isSplit, rfl⟩ := Option.map_eq_some_iff.mp isParent
  obtain ⟨heres, later, standsIn⟩ := exists_of_splitLast? isSplit
  exact ⟨heres, name, later, standsIn⟩

/-- A path with a name of its own at its end stands in its parent by that name. -/
theorem exists_of_fileName?
    {path : Path}
    {name : Name}
    (isName : path.fileName? = some name) :
    ∃ parent heres later,
      path.parent? = some parent ∧ path.StandsIn parent heres name later ∧
        name.isHere = false ∧ name.isUp = false := by
  rw [fileName?] at isName
  cases isSplit : path.splitLast? with
  | none => simp [isSplit] at isName
  | some split =>
      obtain ⟨parent, last⟩ := split
      simp only [isSplit] at isName
      split at isName
      · simp at isName
      · rename_i isNamed
        obtain rfl := Option.some.inj isName
        obtain ⟨heres, later, standsIn⟩ := exists_of_splitLast? isSplit
        rw [Bool.or_eq_true, not_or, Bool.not_eq_true, Bool.not_eq_true]
          at isNamed
        refine ⟨parent, heres, later, ?_, standsIn, isNamed⟩
        rw [parent?, isSplit]
        rfl

/-! ## Entries of a directory -/

/-- The last name of an entry of a directory is its own. -/
theorem exists_splitLast?_child
    (directory : Path)
    {name : Name}
    (notHere : name.isHere = false) :
    ∃ parent, (directory.child name).splitLast? = some (parent, name) := by
  have isRelative := isAbsolute_single name
  have isNamed : name ≠ .text "" := by
    rintro rfl
    simp [Name.isHere] at notHere
  rw [child, join_of_relative directory isRelative]
  have keeps (rest : List Name) :
      dropOpen (rest ++ [name]) = rest ++ [name] := by
    simp [dropOpen, notHere]
  rcases directory.closedSegments_cases with
    ⟨-, isNil⟩ | ⟨rest, isCons, -, -⟩
  · rw [isNil]
    simp [segments, ofSegments, splitLast?, dropOpen, isNamed]
  · rw [isCons]
    simp only [segments, List.cons_append, ofSegments, splitLast?]
    rw [keeps, List.getLast?_concat]
    dsimp only
    split
    · by_cases isText : directory.first = .text "" <;> simp [isText]
    · exact ⟨_, rfl⟩

/-- The parent of an entry of a directory is the directory, but for names that lead nowhere else. -/
theorem exists_parent?_child
    (directory : Path)
    {name : Name}
    (notHere : name.isHere = false) :
    ∃ parent heres,
      (directory.child name).parent? = some parent ∧
        directory.way = parent.way ++ heres ∧
          (∀ other ∈ heres, other.isHere = true) ∧
            ∀ here, parent.start here = directory.start here := by
  obtain ⟨parent, isSplit⟩ := directory.exists_splitLast?_child notHere
  have isParent : (directory.child name).parent? = some parent := by
    rw [parent?, isSplit]
    rfl
  obtain ⟨heres, last, later, standsIn⟩ := exists_of_parent? isParent
  have isNames := standsIn.names
  rw [names_child] at isNames
  have isEnd : later = [] := by
    cases isLater : later.getLast? with
    | none => exact List.getLast?_eq_none_iff.mp isLater
    | some other =>
        have isLast := congrArg List.getLast? isNames
        have isHere := standsIn.later other (List.mem_of_getLast? isLater)
        rw [List.getLast?_concat, List.getLast?_append, List.getLast?_cons,
          isLater] at isLast
        obtain rfl : name = other := by simpa using isLast
        simp [notHere] at isHere
  subst isEnd
  refine ⟨parent, heres, isParent, ?_, standsIn.heres, fun here => ?_⟩
  · exact (List.append_singleton_inj.mp isNames).1
  · rw [← standsIn.start, start_child]

/-- Another name in place of that of an entry of a directory. -/
theorem withFileName_child
    {directory parent : Path}
    {name : Name}
    (notHere : name.isHere = false)
    (notUp : name.isUp = false)
    (isParent : (directory.child name).parent? = some parent)
    (other : Name) :
    (directory.child name).withFileName other = parent.child other := by
  obtain ⟨_, isSplit⟩ := directory.exists_splitLast?_child notHere
  have isName : (directory.child name).fileName? = some name := by
    simp [fileName?, isSplit, notHere, notUp]
  rw [withFileName, isName, isParent]

/-- The way to what a path stands in is the start of the way of the path. -/
theorem way_prefix_of_mem_lineage
    {steps : Nat}
    {above path : Path}
    (member : above ∈ Files.lineage steps path) :
    above.way <+: path.way ∧
      ∀ here, above.start here = path.start here := by
  induction steps generalizing path with
  | zero => simp [Files.lineage] at member
  | succ steps inductionHypothesis =>
      rw [Files.lineage, List.mem_cons] at member
      rcases member with rfl | member
      · exact ⟨List.prefix_rfl, fun _ => rfl⟩
      · split at member
        · rename_i parent isParent
          obtain ⟨heres, name, later, standsIn⟩ := exists_of_parent? isParent
          obtain ⟨isPrefix, starts⟩ := inductionHypothesis member
          refine ⟨isPrefix.trans ?_, fun here => ?_⟩
          · have isFirst : parent.way <+: path.names := by
              rw [standsIn.names, List.append_assoc]
              exact List.prefix_append _ _
            have isLonger : parent.way.length < path.names.length := by
              rw [standsIn.names]
              simp only [List.length_append, List.length_cons]
              omega
            rcases path.names_eq_way with isWay | isWay
            · exact isWay ▸ isFirst
            · rw [isWay] at isFirst isLonger
              refine List.prefix_of_prefix_length_le isFirst
                (List.prefix_append _ _) ?_
              simp only [List.length_append, List.length_singleton] at isLonger
              omega
          · exact (starts here).trans (standsIn.start here).symm
        · simp at member

/-- What an entry of a directory stands in is the directory, or what that stands in. -/
theorem cases_of_mem_lineage_child
    {steps : Nat}
    {above directory : Path}
    {name : Name}
    (notHere : name.isHere = false)
    (member : above ∈ Files.lineage steps (directory.child name)) :
    above = directory.child name ∨
      above.way <+: directory.way ∧
        ∀ here, above.start here = directory.start here := by
  cases steps with
  | zero => simp [Files.lineage] at member
  | succ steps =>
      rw [Files.lineage, List.mem_cons] at member
      obtain ⟨parent, heres, isParent, isWay, -, starts⟩ :=
        directory.exists_parent?_child notHere
      rw [isParent] at member
      rcases member with isSame | member
      · exact Or.inl isSame
      · obtain ⟨isPrefix, startsAbove⟩ := way_prefix_of_mem_lineage member
        refine Or.inr ⟨?_, fun here => ?_⟩
        · rw [isWay]
          exact isPrefix.trans (List.prefix_append _ _)
        · exact (startsAbove here).trans (starts here)

end Provision.Path
