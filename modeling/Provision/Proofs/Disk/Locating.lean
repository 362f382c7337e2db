import Provision.Disk.Calls
import Provision.Proofs.Disk.Leading
import Provision.Proofs.Outcome
import Provision.Proofs.Text.Fields

namespace Provision

/-!
# Where paths lead

A path that is found is one that a call accepts, and its names have been walked.  The path of something
in a directory leads where the directory leads first.
-/

theorem Name.ne_empty
    {name : Name}
    (notHere : name.isHere = false) :
    name ≠ .text "" := by
  rintro rfl
  simp [Name.isHere] at notHere

namespace Path

/-- The names of a path, without the slash that it may end with. -/
def way (path : Path) : List Name :=
  if path.endsOpen then path.names.dropLast else path.names

/-- Whether a call looks a path up at all. -/
def isUsable (path : Path) : Bool :=
  !path.segments.any Name.hasZero && path ≠ empty &&
    Disk.pathBytes path ≤ Disk.maxPathBytes

/-- The segments of a path with some segments are these. -/
theorem segments_ofSegments
    {segments : List Name}
    (notNil : segments ≠ []) :
    (ofSegments segments).segments = segments := by
  cases segments with
  | nil => exact absurd rfl notNil
  | cons first rest => rfl

/-- The segments of a path, without the slash that it may end with. -/
def closedSegments (path : Path) : List Name :=
  if path.endsOpen then path.segments.dropLast else path.segments

/-- A directory is joined with a relative path by their segments. -/
theorem join_of_relative
    (directory : Path)
    {path : Path}
    (isRelative : path.isAbsolute = false) :
    directory.join path =
      ofSegments (directory.closedSegments ++ path.segments) := by
  rw [join, isRelative, if_neg Bool.false_ne_true, closedSegments]
  split <;> rfl

/-- The closed segments of a path: its first one, or none, and then others. -/
theorem closedSegments_cases (path : Path) :
    (path = empty ∧ path.closedSegments = []) ∨
      ∃ rest,
        path.closedSegments = path.first :: rest ∧
          (path.first = .text "" → path.rest ≠ []) ∧
            rest = if path.endsOpen then path.rest.dropLast else path.rest := by
  obtain ⟨first, rest⟩ := path
  cases rest with
  | nil =>
      by_cases isEmpty : first = .text ""
      · subst isEmpty
        exact Or.inl ⟨rfl, rfl⟩
      · have notOpen : (⟨first, []⟩ : Path).endsOpen = false := by
          simp [endsOpen, segments, isEmpty]
        refine Or.inr ⟨[], ?_, fun isText => absurd isText isEmpty, ?_⟩
        · rw [closedSegments, notOpen]
          rfl
        · rw [notOpen]
          rfl
  | cons next others =>
      refine Or.inr ⟨_, ?_, fun _ => List.cons_ne_nil next others, rfl⟩
      rw [closedSegments]
      split <;> rfl

/-- What a directory is joined with starts where the directory starts. -/
theorem isAbsolute_join
    (directory : Path)
    {path : Path}
    (isRelative : path.isAbsolute = false) :
    (directory.join path).isAbsolute = directory.isAbsolute := by
  rw [join_of_relative directory isRelative]
  rcases directory.closedSegments_cases with
    ⟨rfl, isNil⟩ | ⟨rest, isCons, hasRest, -⟩
  · rw [isNil]
    exact isRelative
  · rw [isCons]
    by_cases isText : directory.first = .text ""
    · have notEmpty : directory.rest.isEmpty = false := by
        simp [hasRest isText]
      have isMore : (rest ++ path.first :: path.rest).isEmpty = false := by
        simp
      simp [ofSegments, isAbsolute, segments, isText, notEmpty, isMore]
    · simp [ofSegments, isAbsolute, isText]

/-- A path in a directory is followed from where the directory is followed. -/
theorem start_join
    (directory : Path)
    {path : Path}
    (isRelative : path.isAbsolute = false)
    (here : Location) :
    (directory.join path).start here = directory.start here := by
  rw [start, start, isAbsolute_join directory isRelative]

/-- The names of a path in a directory are those of the directory and then its own. -/
theorem names_join
    (directory : Path)
    {path : Path}
    (isRelative : path.isAbsolute = false) :
    (directory.join path).names = directory.way ++ path.segments := by
  rw [names, isAbsolute_join directory isRelative,
    join_of_relative directory isRelative, way, names]
  rcases directory.closedSegments_cases with
    ⟨rfl, isNil⟩ | ⟨rest, isCons, -, isRest⟩
  · rw [isNil]
    rfl
  · rw [isCons, List.cons_append]
    cases directory.isAbsolute with
    | true =>
        simp only [if_true, ofSegments, isRest]
    | false =>
        simp only [Bool.false_eq_true, if_false]
        rw [segments, ofSegments, ← List.cons_append, ← isCons,
          closedSegments]

/-- A text that does not start with a slash is a relative path. -/
theorem isAbsolute_ofString
    {text : String}
    (notSlash : text.toList.head? ≠ some '/') :
    (ofString text).isAbsolute = false := by
  rw [ofString]
  cases isText : text.toList with
  | nil => rfl
  | cons c others =>
      have isOther : c ≠ '/' := by
        rintro rfl
        exact notSlash (by rw [isText]; rfl)
      obtain ⟨first, later, isFields⟩ :=
        Text.exists_fields_cons isOther others
      rw [isFields]
      simp [ofSegments, isAbsolute]

/-- A single name is a relative path. -/
theorem isAbsolute_single (name : Name) :
    (⟨name, []⟩ : Path).isAbsolute = false := by
  simp [isAbsolute]

/-- The names of a path are its way, and maybe an empty name. -/
theorem names_eq_way (path : Path) :
    path.names = path.way ∨ path.names = path.way ++ [.text ""] := by
  rw [way]
  split
  · rename_i isOpen
    right
    have isLastSegment : path.segments.getLast? = some (.text "") :=
      of_decide_eq_true isOpen
    have isLast : path.names.getLast? = some (.text "") := by
      rw [names]
      split
      · rename_i isAbsolute
        obtain ⟨first, rest⟩ := path
        cases rest with
        | nil => simp [isAbsolute_single] at isAbsolute
        | cons next others =>
            rwa [segments, List.getLast?_cons_cons] at isLastSegment
      · exact isLastSegment
    obtain ⟨before, isNames⟩ := List.getLast?_eq_some_iff.mp isLast
    rw [isNames, List.dropLast_concat]
  · exact Or.inl rfl

/-- An entry of a directory has the segments of the directory and the name. -/
theorem segments_child
    (directory : Path)
    (name : Name) :
    (directory.child name).segments = directory.closedSegments ++ [name] := by
  rw [child, join_of_relative directory (isAbsolute_single name)]
  exact segments_ofSegments (by simp [segments])

/-- The path of an entry does not end with a slash. -/
theorem endsOpen_child
    (directory : Path)
    {name : Name}
    (isNamed : name ≠ .text "") :
    (directory.child name).endsOpen = false := by
  rw [endsOpen, segments_child, List.getLast?_concat]
  simp [isNamed]

/-- The closed segments of an entry of a directory are those of the directory and the name. -/
theorem closedSegments_child
    (directory : Path)
    {name : Name}
    (isNamed : name ≠ .text "") :
    (directory.child name).closedSegments =
      directory.closedSegments ++ [name] := by
  rw [closedSegments, endsOpen_child directory isNamed,
    if_neg Bool.false_ne_true, segments_child]

/-- The way of an entry of a directory is that of the directory and the name. -/
theorem way_child
    (directory : Path)
    {name : Name}
    (isNamed : name ≠ .text "") :
    (directory.child name).way = directory.way ++ [name] := by
  rw [way, endsOpen_child directory isNamed, if_neg Bool.false_ne_true]
  exact names_join directory (isAbsolute_single name)

/-- An entry of a directory is followed from where the directory is followed. -/
theorem start_child
    (directory : Path)
    (name : Name)
    (here : Location) :
    (directory.child name).start here = directory.start here :=
  start_join directory (isAbsolute_single name) here

/-- The names of an entry of a directory. -/
theorem names_child
    (directory : Path)
    (name : Name) :
    (directory.child name).names = directory.way ++ [name] :=
  names_join directory (isAbsolute_single name)

end Path

namespace Disk

variable {disk : Disk}
variable {workingDirectory : Location}

/-- A path is found exactly if it is usable and its names have been walked. -/
theorem locate_eq_ok_iff
    {followLast : Bool}
    {path : Path}
    {found : Found} :
    locate disk workingDirectory followLast path = .ok found ↔
      path.isUsable = true ∧
        disk.Walks followLast maxLinks (path.start workingDirectory)
          path.names found := by
  rw [← walk_eq_ok_iff, locate, Path.isUsable]
  by_cases hasZero : path.segments.any Name.hasZero = true
  · rw [if_pos hasZero, hasZero]
    simp
  · rw [if_neg hasZero, Bool.eq_false_iff.mpr hasZero]
    by_cases isEmpty : path = Path.empty
    · rw [if_pos isEmpty]
      simp [isEmpty]
    · rw [if_neg isEmpty]
      by_cases isLong : pathBytes path > maxPathBytes
      · rw [if_pos isLong]
        simp [isEmpty, Nat.not_le.mpr isLong]
      · rw [if_neg isLong]
        have isWalk :
            (if path.isAbsolute then
                walk disk followLast maxLinks [] path.rest
              else
                walk disk followLast maxLinks workingDirectory
                  path.segments) =
              walk disk followLast maxLinks
                (path.start workingDirectory) path.names := by
          unfold Path.start Path.names
          split <;> rfl
        simp only [isWalk, Nat.not_lt.mp isLong]
        simp [Outcome.mapError_eq_ok_iff, isEmpty]

/-- An entry is found exactly if the path is found with an entry. -/
theorem entryAt_eq_ok_iff
    {followLast : Bool}
    {path : Path}
    {location : Location}
    {entry : Entry} :
    entryAt disk workingDirectory followLast path =
        .ok (location, entry) ↔
      locate disk workingDirectory followLast path =
        .ok ⟨location, some entry⟩ := by
  rw [entryAt]
  rcases locate disk workingDirectory followLast path with
    fault | ⟨place, found?⟩
  · simp
  · cases found? <;> simp

/-- A path, taken as a directory, leads to a location, with some links left. -/
def LeadsTo
    (disk : Disk)
    (workingDirectory : Location)
    (path : Path)
    (left : Nat)
    (there : Location) : Prop :=
  disk.Leads maxLinks (path.start workingDirectory) path.way left there

/-- The names of a path lead where the path leads, taken as a directory. -/
theorem leadsTo_of_leads
    {path : Path}
    {left : Nat}
    {there : Location}
    (leads :
      disk.Leads maxLinks (path.start workingDirectory) path.names left
        there) :
    ∃ left, disk.LeadsTo workingDirectory path left there := by
  rcases path.names_eq_way with isWay | isOpen
  · rw [isWay] at leads
    exact ⟨left, leads⟩
  · rw [isOpen] at leads
    obtain ⟨middle, between, leads, ends⟩ := leads_of_leads_append leads
    cases ends with
    | step steps later =>
        cases steps with
        | dot _ isSpecial | up _ isSpecial => simp at isSpecial
        | down _ isPlain | follow _ isPlain =>
            simp [Name.isPlain, Name.isHere] at isPlain
        | empty =>
            cases later with
            | arrived => exact ⟨_, leads⟩

/-- A path that finds an entry leads there. -/
theorem leadsTo_of_entryAt
    {path : Path}
    {there : Location}
    {entry : Entry}
    (finds :
      entryAt disk workingDirectory true path = .ok (there, entry)) :
    ∃ left, disk.LeadsTo workingDirectory path left there := by
  obtain ⟨-, walks⟩ := locate_eq_ok_iff.mp (entryAt_eq_ok_iff.mp finds)
  obtain ⟨⟨left, leads⟩, -⟩ := walks.leads
  exact leadsTo_of_leads leads

/-- What is found in a directory is found from where the directory leads. -/
theorem leadsTo_of_locate_child
    {followLast : Bool}
    {directory : Path}
    {name : Name}
    {found : Found}
    (isNamed : name ≠ .text "")
    (locates :
      locate disk workingDirectory followLast (directory.child name) =
        .ok found) :
    ∃ left there,
      disk.LeadsTo workingDirectory directory left there ∧
        disk.Walks followLast left there [name] found := by
  obtain ⟨-, walks⟩ := locate_eq_ok_iff.mp locates
  rw [Path.start_child, Path.names_child] at walks
  exact leads_of_walks_append walks (by simp [isNamed])

/-- A directory in another one leads where its name leads from there. -/
theorem leadsTo_child_iff
    {directory : Path}
    {name : Name}
    {left : Nat}
    {there : Location}
    (isNamed : name ≠ .text "") :
    disk.LeadsTo workingDirectory (directory.child name) left there ↔
      ∃ middle between,
        disk.LeadsTo workingDirectory directory middle between ∧
          disk.Leads middle between [name] left there := by
  rw [LeadsTo, Path.start_child, Path.way_child directory isNamed]
  constructor
  · exact leads_of_leads_append
  · rintro ⟨middle, between, leads, leadsOn⟩
    exact leads.append leadsOn

/-- What a walk along one plain name finds. -/
theorem Walks.cases_of_isPlain
    {followLast : Bool}
    {links : Nat}
    {here : Location}
    {name : Name}
    {found : Found}
    (walks : disk.Walks followLast links here [name] found)
    (isPlain : name.isPlain = true) :
    disk.IsOpen here ∧
      ((found = ⟨here ++ [name], disk.get? (here ++ [name])⟩ ∧
          (followLast = true →
            ∀ target, disk.get? (here ++ [name]) ≠ some (.link target))) ∨
        followLast = true ∧
          ∃ fewer target,
            links = fewer + 1 ∧
              disk.get? (here ++ [name]) = some (.link target) ∧
                disk.Walks followLast fewer (target.start here)
                  target.names found) := by
  cases walks with
  | missing isOpen _ isMissing =>
      exact ⟨isOpen, Or.inl ⟨by rw [isMissing], by simp [isMissing]⟩⟩
  | link isOpen _ stands stays =>
      exact ⟨isOpen, Or.inl ⟨by rw [stands], by simp [stays]⟩⟩
  | @step _ fewer _ next _ names _ _ steps goesOn later =>
      rw [List.append_nil] at later
      cases steps with
      | empty _ isEmpty => simp [isEmpty, Name.isPlain, Name.isHere] at isPlain
      | dot _ isDot => simp [isDot, Name.isPlain, Name.isHere] at isPlain
      | up _ isUp => simp [isUp, Name.isPlain, Name.isUp] at isPlain
      | down isOpen _ stands noLink =>
          cases later with
          | arrived =>
              refine ⟨isOpen, Or.inl ⟨rfl, fun _ target isLink => ?_⟩⟩
              rw [isLink] at stands
              obtain rfl := Option.some.inj stands
              simp [Entry.isLink] at noLink
      | @follow _ _ _ target isOpen _ stands =>
          have follows : followLast = true := by
            simpa [target.names_ne_nil] using goesOn
          exact ⟨isOpen, Or.inr ⟨follows, fewer, target, rfl, stands, later⟩⟩

/-- What an entry of a directory leads to is that entry, unless it is a link. -/
theorem LeadsTo.entry_of_child
    {directory : Path}
    {name : Name}
    {left left' : Nat}
    {there other : Location}
    (leads : disk.LeadsTo workingDirectory directory left there)
    (notHere : name.isHere = false)
    (notUp : name.isUp = false)
    (leads' :
      disk.LeadsTo workingDirectory (directory.child name) left' other) :
    ∃ entry,
      disk.get? (there ++ [name]) = some entry ∧
        (entry.isLink = false → other = there ++ [name]) := by
  have isNamed := Name.ne_empty notHere
  obtain ⟨middle, between, leadsTo, leadsOn⟩ :=
    (leadsTo_child_iff isNamed).mp leads'
  obtain ⟨-, rfl⟩ := leads.unique leadsTo
  cases leadsOn with
  | step steps later =>
      cases steps with
      | empty _ isEmpty => exact absurd isEmpty isNamed
      | dot _ isDot =>
          subst isDot
          simp [Name.isHere] at notHere
      | up _ isUp =>
          subst isUp
          simp [Name.isUp] at notUp
      | down _ _ stands noLink =>
          refine ⟨_, stands, fun _ => ?_⟩
          cases later
          rfl
      | follow _ _ stands =>
          refine ⟨_, stands, fun noLink => ?_⟩
          simp [Entry.isLink] at noLink

end Disk

end Provision
