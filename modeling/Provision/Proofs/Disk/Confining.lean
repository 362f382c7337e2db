import Provision.Proofs.Disk.Growing
import Provision.Proofs.Disk.Trees
import Provision.Proofs.Path.Parents
import Provision.Storage.Files

namespace Provision

/-!
# Changes that stay in a place

A place is a location together with all that is below it.  It is enclosed if no link stands in it
and if no file in it has another name elsewhere.  Names that lead down from an enclosed place stay in
it, and what is written, made or removed there by them changes nothing else.  A path that led to the
place goes on to do so, since directories stay directories.
-/

namespace Disk

/-- No link stands at or below a place, and no file there has another name elsewhere. -/
structure Encloses (disk : Disk) (place : Location) : Prop where
  noLinks :
    ∀ location target,
      place <+: location →
      disk.get? location ≠ some (.link target)
  noNames :
    ∀ inside outside file other group,
      place <+: inside →
      disk.get? inside = some (.file file) →
      disk.get? outside = some (.file other) →
      file.group = some group →
      other.group = some group →
      place <+: outside

/-- What stands at a location is no link, and no file outside of a place that has its other names. -/
structure IsOwn (disk : Disk) (place location : Location) : Prop where
  noLink : ∀ target, disk.get? location ≠ some (.link target)
  noNames :
    ∀ outside file other group,
      disk.get? location = some (.file file) →
      disk.get? outside = some (.file other) →
      file.group = some group →
      other.group = some group →
      place <+: outside

/-- A place is still enclosed, directories stay directories, and nothing changes elsewhere. -/
structure Confined (disk later : Disk) (place : Location) : Prop where
  wasEnclosed : disk.Encloses place
  isEnclosed : later.Encloses place
  directories :
    ∀ location, disk.HasDirectory location → later.HasDirectory location
  elsewhere :
    ∀ location,
      ¬place <+: location →
      later.get? location = disk.get? location

variable {disk later after : Disk}
variable {place : Location}

theorem Encloses.isOwn
    {location : Location}
    (encloses : disk.Encloses place)
    (isInside : place <+: location) :
    disk.IsOwn place location where
  noLink target := encloses.noLinks location target isInside
  noNames outside file other group :=
    encloses.noNames location outside file other group isInside

theorem Confined.refl (encloses : disk.Encloses place) :
    disk.Confined disk place :=
  ⟨encloses, encloses, fun _ => id, fun _ _ => rfl⟩

/-- Changes that stay in a place stay in any that it lies in. -/
theorem Confined.widen
    {inner : Location}
    (confined : disk.Confined later inner)
    (encloses : disk.Encloses place)
    (isInside : place <+: inner) :
    disk.Confined later place where
  wasEnclosed := encloses
  isEnclosed := by
    constructor
    · intro location target isBelow stands
      by_cases isInner : inner <+: location
      · exact confined.isEnclosed.noLinks location target isInner stands
      · rw [confined.elsewhere location isInner] at stands
        exact encloses.noLinks location target isBelow stands
    · intro inside outside file other group isBelow stands stands' isGroup isGroup'
      by_cases isInner : inner <+: outside
      · exact isInside.trans isInner
      · by_cases isAlso : inner <+: inside
        · exact absurd
            (confined.isEnclosed.noNames inside outside file other group isAlso
              stands stands' isGroup isGroup')
            isInner
        · rw [confined.elsewhere outside isInner] at stands'
          rw [confined.elsewhere inside isAlso] at stands
          exact encloses.noNames inside outside file other group isBelow stands
            stands' isGroup isGroup'
  directories := confined.directories
  elsewhere location isOutside :=
    confined.elsewhere location fun isInner =>
      isOutside (isInside.trans isInner)

/-! ## Names that are followed -/

/-- Names that never go up lead straight down from a location in an enclosed place. -/
theorem Walks.location_of_encloses
    {followLast : Bool}
    {links : Nat}
    {here : Location}
    {names : List Name}
    {found : Found}
    (walks : disk.Walks followLast links here names found)
    (encloses : disk.Encloses place)
    (isInside : place <+: here)
    (noUps : ∀ name ∈ names, name.isUp = false) :
    found.location = here ++ names.filter fun name => !name.isHere := by
  induction walks with
  | arrived => simp
  | missing _ isPlain _ isLast =>
      have notHere := (not_special_of_isPlain isPlain).2.2.2.1
      simp only [List.all_eq_true, decide_eq_true_eq] at isLast
      rw [List.filter_cons_of_pos (by simp [notHere]),
        List.filter_eq_nil_iff.mpr fun name isName => by
          simp [isLast name isName, Name.isHere]]
  | link _ isPlain =>
      have notHere := (not_special_of_isPlain isPlain).2.2.2.1
      simp [notHere]
  | @step _ _ here _ name _ rest _ steps _ _ inductionHypothesis =>
      have noUpsLater : ∀ other ∈ rest, other.isUp = false :=
        fun other member => noUps other (.tail _ member)
      cases steps with
      | empty _ isHere | dot _ isHere =>
          rw [List.filter_cons_of_neg (by simp [isHere, Name.isHere])]
          exact inductionHypothesis isInside noUpsLater
      | up _ isUp =>
          have notUp := noUps name (.head _)
          simp [isUp, Name.isUp] at notUp
      | down _ isPlain =>
          have notHere := (not_special_of_isPlain isPlain).2.2.2.1
          rw [List.filter_cons_of_pos (by simp [notHere]), List.append_cons]
          exact inductionHypothesis
            (isInside.trans (List.prefix_append _ _)) noUpsLater
      | @follow _ _ _ target _ _ stands =>
          have isBelow : place <+: here ++ [name] :=
            isInside.trans (List.prefix_append _ _)
          exact absurd stands (encloses.noLinks _ target isBelow)

/-- Names that never go up lead from a location in an enclosed place to one in it. -/
theorem Walks.prefix_of_encloses
    {followLast : Bool}
    {links : Nat}
    {here : Location}
    {names : List Name}
    {found : Found}
    (walks : disk.Walks followLast links here names found)
    (encloses : disk.Encloses place)
    (isInside : place <+: here)
    (noUps : ∀ name ∈ names, name.isUp = false) :
    place <+: found.location := by
  rw [walks.location_of_encloses encloses isInside noUps]
  exact isInside.trans (List.prefix_append _ _)

/-- Names that stand for the directory that they occur in find that directory. -/
theorem Walks.eq_of_heres
    {followLast : Bool}
    {links : Nat}
    {here : Location}
    {names : List Name}
    {found : Found}
    (walks : disk.Walks followLast links here names found)
    (areHeres : ∀ name ∈ names, name.isHere = true) :
    found = ⟨here, disk.get? here⟩ := by
  have notPlain (name : Name) (rest : List Name) :
      (∀ other ∈ name :: rest, other.isHere = true) →
      name.isPlain = true → False := by
    intro areHeres isPlain
    simp [Name.isPlain, areHeres name (.head _)] at isPlain
  induction walks with
  | arrived => rfl
  | missing _ isPlain | link _ isPlain =>
      exact (notPlain _ _ areHeres isPlain).elim
  | step steps _ _ inductionHypothesis =>
      cases steps with
      | empty | dot =>
          exact inductionHypothesis fun other member =>
            areHeres other (.tail _ member)
      | up _ isUp =>
          have isHere := areHeres _ (.head _)
          simp [isUp, Name.isHere] at isHere
      | down _ isPlain | follow _ isPlain =>
          exact (notPlain _ _ areHeres isPlain).elim

/-- On the way to what is there nothing is missing. -/
theorem LeadsTo.finds_above
    {above directory : Path}
    {left : Nat}
    {there : Location}
    {entry : Entry}
    (leads : disk.LeadsTo workingDirectory directory left there)
    (stands : disk.get? there = some entry)
    (isPrefix : above.way <+: directory.way)
    (starts : ∀ here, above.start here = directory.start here)
    (location : Location) :
    disk.locate workingDirectory false above ≠ .ok ⟨location, none⟩ := by
  intro locates
  obtain ⟨-, walks⟩ := locate_eq_ok_iff.mp locates
  obtain ⟨rest, isWay⟩ := isPrefix
  rw [LeadsTo, ← isWay] at leads
  obtain ⟨middle, between, leadsFirst, leadsOn⟩ := leads_of_leads_append leads
  obtain ⟨found, isFound⟩ : ∃ found, disk.get? between = some found := by
    cases leadsOn with
    | arrived => exact ⟨entry, stands⟩
    | step steps _ =>
        obtain ⟨mode, isDirectory⟩ := steps.hasDirectory
        exact ⟨_, isDirectory⟩
  rw [← starts] at leadsFirst
  rcases above.names_eq_way with isNames | isNames
  · rw [isNames] at walks
    have follows := leadsFirst.walks
    rw [isFound] at follows
    obtain ⟨other, itself, walks'⟩ := follows.exists_of_follow
    have isSame :=
      (walk_of_walks walks).symm.trans (walk_of_walks walks')
    simp at isSame
  · have isWalk := walk_of_walks walks
    rw [isNames, walk_of_leads leadsFirst (by simp), walk_eq_ok_iff] at isWalk
    have isHere := isWalk.eq_of_heres (by simp [Name.isHere])
    rw [isFound] at isHere
    simp at isHere

/-- While changes stay in a place, a name that is followed to a directory is followed as before. -/
theorem Steps.eq_of_confined
    {links fewer fewer' : Nat}
    {here next next' : Location}
    {name : Name}
    {names names' : List Name}
    (steps : disk.Steps links here name fewer next names)
    (isDirectory : disk.HasDirectory next)
    (confined : disk.Confined later place)
    (steps' : later.Steps links here name fewer' next' names') :
    fewer' = fewer ∧ next' = next ∧ names' = names := by
  cases isPlain : name.isPlain with
  | false => exact steps.eq_of_not_isPlain isPlain steps'
  | true =>
      rcases steps.cases_of_isPlain isPlain with
        ⟨rfl, rfl, rfl, -⟩ | ⟨target, rfl, isFewer, rfl, stands⟩
      · obtain ⟨mode, stands⟩ := confined.directories _ isDirectory
        rcases steps'.cases_of_isPlain isPlain with
          ⟨rfl, rfl, rfl, -⟩ | ⟨target, -, -, -, stands'⟩
        · exact ⟨rfl, rfl, rfl⟩
        · rw [stands] at stands'
          simp at stands'
      · -- The link stood outside of the place, so it is still there.
        have isOutside : ¬place <+: here ++ [name] := fun isInside =>
          confined.wasEnclosed.noLinks _ target isInside stands
        rw [← confined.elsewhere _ isOutside] at stands
        rcases steps'.cases_of_isPlain isPlain with
          ⟨-, -, -, entry, stands', noLink⟩ |
          ⟨target', rfl, isFewer', rfl, stands'⟩
        · obtain rfl := Option.some.inj (stands.symm.trans stands')
          simp [Entry.isLink] at noLink
        · obtain rfl :=
            Entry.link.inj (Option.some.inj (stands.symm.trans stands'))
          exact ⟨by omega, rfl, rfl⟩

/--
While changes stay in a place, names that led to a directory are walked to it first; only a link
that is not followed may end the walk before.
-/
theorem Leads.walks_of_confined
    {followLast : Bool}
    {links left : Nat}
    {here there : Location}
    {names rest : List Name}
    {found : Found}
    (leads : disk.Leads links here names left there)
    (isDirectory : disk.HasDirectory there)
    (confined : disk.Confined later place)
    (walks : later.Walks followLast links here (names ++ rest) found) :
    later.Walks followLast left there rest found ∨
      rest = [] ∧ found.entry? ≠ none := by
  induction leads with
  | arrived => exact Or.inl walks
  | @step _ _ _ here next _ name names others steps leadsOn
      inductionHypothesis =>
      have isNext := leadsOn.hasDirectory isDirectory
      rw [List.cons_append] at walks
      generalize isRest : others ++ rest = after at walks
      cases walks with
      | missing _ isPlain isMissing =>
          -- A directory or a link stood there, and it has not gone.
          rcases steps.cases_of_isPlain isPlain with
            ⟨rfl, rfl, rfl, -⟩ | ⟨target, -, -, -, stands⟩
          · obtain ⟨mode, stands⟩ := confined.directories _ isNext
            rw [isMissing] at stands
            simp at stands
          · have isOutside : ¬place <+: here ++ [name] := fun isInside =>
              confined.wasEnclosed.noLinks _ target isInside stands
            rw [← confined.elsewhere _ isOutside, isMissing] at stands
            simp at stands
      | link => exact Or.inr ⟨(List.append_eq_nil_iff.mp isRest).2, by simp⟩
      | step steps' _ later' =>
          obtain ⟨rfl, rfl, rfl⟩ := steps.eq_of_confined isNext confined steps'
          rw [← isRest, ← List.append_assoc] at later'
          exact inductionHypothesis isDirectory later'

/-- Names of directories are walked straight down. -/
theorem Walks.of_directories
    {followLast : Bool}
    {links : Nat}
    {here : Location}
    {names rest : List Name}
    {found : Found}
    (walks : disk.Walks followLast links here (names ++ rest) found)
    (arePlain : ∀ name ∈ names, name.isPlain = true)
    (areDirectories :
      ∀ first, first <+: names → disk.HasDirectory (here ++ first)) :
    disk.Walks followLast links (here ++ names) rest found := by
  induction names generalizing here with
  | nil => simpa using walks
  | cons name names inductionHypothesis =>
      have isPlain := arePlain name (.head _)
      obtain ⟨mode, stands⟩ :=
        areDirectories [name] (List.prefix_append [name] names)
      rw [List.cons_append] at walks
      generalize isRest : names ++ rest = after at walks
      cases walks with
      | missing _ _ isMissing =>
          rw [stands] at isMissing
          simp at isMissing
      | link _ _ stands' =>
          rw [stands] at stands'
          simp at stands'
      | step steps _ later =>
          rcases steps.cases_of_isPlain isPlain with
            ⟨rfl, rfl, rfl, -⟩ | ⟨target, -, -, -, stands'⟩
          · subst isRest
            rw [List.append_cons]
            refine inductionHypothesis later
              (fun other member => arePlain other (.tail _ member)) ?_
            intro first isPrefix
            rw [← List.append_cons]
            exact areDirectories (name :: first)
              ((List.prefix_cons_inj name).mpr isPrefix)
          · rw [stands] at stands'
            simp at stands'

/-! ## Changes in a place -/

theorem Confined.set
    {location : Location}
    {entry : Entry}
    (confined : disk.Confined later place)
    (isInside : place <+: location)
    (noLink : entry.isLink = false)
    (isAlone : ∀ file, entry = .file file → file.group = none)
    (isKept : later.HasDirectory location → entry.isDirectory = true) :
    disk.Confined (later.set location entry) place where
  wasEnclosed := confined.wasEnclosed
  isEnclosed := by
    constructor
    · intro other target isBelow isLink
      by_cases isHere : other = location
      · subst isHere
        rw [get?_set_self] at isLink
        obtain rfl := Option.some.inj isLink
        simp [Entry.isLink] at noLink
      · rw [get?_set_of_ne _ _ isHere] at isLink
        exact confined.isEnclosed.noLinks other target isBelow isLink
    · intro inside outside file other group isBelow stands stands' isGroup
        isGroup'
      by_cases isThere : outside = location
      · exact isThere ▸ isInside
      · rw [get?_set_of_ne _ _ isThere] at stands'
        by_cases isHere : inside = location
        · subst isHere
          rw [get?_set_self] at stands
          have noGroup := isAlone file (Option.some.inj stands)
          rw [isGroup] at noGroup
          simp at noGroup
        · rw [get?_set_of_ne _ _ isHere] at stands
          exact confined.isEnclosed.noNames inside outside file other group
            isBelow stands stands' isGroup isGroup'
  directories := by
    intro other isDirectory
    have wasDirectory := confined.directories other isDirectory
    by_cases isHere : other = location
    · subst isHere
      have isStill := isKept wasDirectory
      cases entry with
      | directory mode => exact ⟨mode, get?_set_self _ _ _⟩
      | file | link => simp [Entry.isDirectory] at isStill
    · obtain ⟨mode, stands⟩ := wasDirectory
      exact ⟨mode, (get?_set_of_ne _ _ isHere).trans stands⟩
  elsewhere := by
    intro other isOutside
    have isOther : other ≠ location := by
      rintro rfl
      exact isOutside isInside
    rw [get?_set_of_ne _ _ isOther, confined.elsewhere other isOutside]

/-- A file that a change leaves in its group was in that group before. -/
theorem exists_of_updateFile
    {location other : Location}
    {change : File → File}
    {file : File}
    (keepsGroup : ∀ file, (change file).group = file.group)
    (stands :
      (disk.updateFile location change).get? other = some (.file file)) :
    ∃ before,
      disk.get? other = some (.file before) ∧ before.group = file.group := by
  rcases disk.get?_updateFile location change other with
    isSame | ⟨before, stood, changed⟩
  · exact ⟨file, isSame.symm.trans stands, rfl⟩
  · rw [changed] at stands
    obtain rfl := Entry.file.inj (Option.some.inj stands)
    exact ⟨before, stood, (keepsGroup before).symm⟩

/-- Changing a file that has all its names in a place changes files in it only. -/
theorem IsOwn.get?_updateFile
    {location other : Location}
    {change : File → File}
    (isOwn : disk.IsOwn place location)
    (isInside : place <+: location)
    (isOutside : ¬place <+: other) :
    (disk.updateFile location change).get? other = disk.get? other := by
  have isOther : other ≠ location := by
    rintro rfl
    exact isOutside isInside
  rcases stands : disk.get? location with - | (mode | file | target)
  · simp [updateFile, stands]
  · simp [updateFile, stands]
  · rcases isGroup : file.group with - | group
    · exact get?_updateFile_of_ne stands isGroup change isOther
    · rw [get?_updateFile_of_group stands isGroup]
      rcases stands' : disk.get? other with - | (mode | content | target)
      · rfl
      · rfl
      · have notShared : content.group ≠ some group := fun isGroup' =>
          isOutside
            (isOwn.noNames other file content group stands stands' isGroup
              isGroup')
        simp [changedIn, notShared]
      · rfl
  · simp [updateFile, stands]

theorem Confined.updateFile
    {location : Location}
    {change : File → File}
    (confined : disk.Confined later place)
    (isInside : place <+: location)
    (keepsGroup : ∀ file, (change file).group = file.group) :
    disk.Confined (later.updateFile location change) place where
  wasEnclosed := confined.wasEnclosed
  isEnclosed := by
    constructor
    · intro other target isBelow isLink
      rcases later.get?_updateFile location change other with
        isSame | ⟨_, _, changed⟩
      · exact confined.isEnclosed.noLinks other target isBelow
          (isSame.symm.trans isLink)
      · rw [changed] at isLink
        simp at isLink
    · intro inside outside file other group isBelow stands stands' isGroup
        isGroup'
      obtain ⟨before, stood, isSame⟩ :=
        exists_of_updateFile keepsGroup stands
      obtain ⟨before', stood', isSame'⟩ :=
        exists_of_updateFile keepsGroup stands'
      exact confined.isEnclosed.noNames inside outside before before' group
        isBelow stood stood' (isSame.trans isGroup) (isSame'.trans isGroup')
  directories := by
    intro other isDirectory
    obtain ⟨mode, stands⟩ := confined.directories other isDirectory
    rcases later.get?_updateFile location change other with
      isSame | ⟨file, stood, -⟩
    · exact ⟨mode, isSame.trans stands⟩
    · rw [stands] at stood
      simp at stood
  elsewhere := by
    intro other isOutside
    have isOwn := confined.isEnclosed.isOwn isInside
    rw [isOwn.get?_updateFile isInside isOutside,
      confined.elsewhere other isOutside]

theorem Confined.erase
    {location : Location}
    {entry : Entry}
    (confined : disk.Confined later place)
    (isInside : place <+: location)
    (stands : later.get? location = some entry)
    (notDirectory : entry.isDirectory = false) :
    disk.Confined (later.erase location) place where
  wasEnclosed := confined.wasEnclosed
  isEnclosed := by
    constructor
    · intro other target isBelow isLink
      exact confined.isEnclosed.noLinks other target isBelow
        (get?_of_get?_erase isLink)
    · intro inside outside file other group isBelow stands stands'
      exact confined.isEnclosed.noNames inside outside file other group isBelow
        (get?_of_get?_erase stands) (get?_of_get?_erase stands')
  directories := by
    intro other isDirectory
    obtain ⟨mode, stands'⟩ := confined.directories other isDirectory
    have isOther : other ≠ location := by
      rintro rfl
      obtain rfl := Option.some.inj (stands.symm.trans stands')
      simp [Entry.isDirectory] at notDirectory
    exact ⟨mode, (get?_erase_of_ne _ isOther).trans stands'⟩
  elsewhere := by
    intro other isOutside
    have isOther : other ≠ location := by
      rintro rfl
      exact isOutside isInside
    rw [get?_erase_of_ne _ isOther, confined.elsewhere other isOutside]

/-! ## Paths into a place -/

variable {workingDirectory : Location}
variable {directory path : Path}

/--
Whatever changes in a place, the names of a directory are walked to it before other names are, and
each of the directories on the way is found.
-/
structure Enters
    (disk : Disk)
    (workingDirectory : Location)
    (directory : Path)
    (place : Location) :
    Prop where
  walks :
    ∀ later followLast names found,
      disk.Confined later place →
      later.Walks followLast maxLinks (directory.start workingDirectory)
        (directory.way ++ names) found →
      (∃ left, later.Walks followLast left place names found) ∨
        names = [] ∧ found.entry? ≠ none
  passes :
    ∀ later first heres found,
      disk.Confined later place →
      first <+: directory.way →
      (∀ name ∈ heres, name.isHere = true) →
      later.Walks false maxLinks (directory.start workingDirectory)
        (first ++ heres) found →
      found.entry? ≠ none

/-- A directory that names lead to is found by them and by names that lead nowhere else. -/
theorem Confined.exists_of_heres
    {links : Nat}
    {here : Location}
    {heres : List Name}
    {found : Found}
    (confined : disk.Confined later place)
    (isDirectory : disk.HasDirectory here)
    (areHeres : ∀ name ∈ heres, name.isHere = true)
    (walks : later.Walks false links here heres found) :
    found.entry? ≠ none := by
  obtain rfl := walks.eq_of_heres areHeres
  obtain ⟨mode, stands⟩ := confined.directories here isDirectory
  simp [stands]

/-- A path enters the directory that it leads to. -/
theorem enters_of_leadsTo
    {left : Nat}
    (leads : disk.LeadsTo workingDirectory directory left place)
    (isDirectory : disk.HasDirectory place) :
    disk.Enters workingDirectory directory place where
  walks := by
    intro later followLast names found confined walks
    rcases leads.walks_of_confined isDirectory confined walks with
      walksOn | isFound
    · exact Or.inl ⟨left, walksOn⟩
    · exact Or.inr isFound
  passes := by
    rintro later first heres found confined ⟨rest, isWay⟩ areHeres walks
    rw [LeadsTo, ← isWay] at leads
    obtain ⟨middle, between, leadsFirst, leadsOn⟩ :=
      leads_of_leads_append leads
    have isBetween := leadsOn.hasDirectory isDirectory
    rcases leadsFirst.walks_of_confined isBetween confined walks with
      walksOn | ⟨-, isFound⟩
    · exact confined.exists_of_heres isBetween areHeres walksOn
    · exact isFound

/-- The path of a directory that stands in directories enters it. -/
theorem enters_of_way
    (isWay : directory.way = place)
    (isStart : directory.start workingDirectory = [])
    (arePlain : ∀ name ∈ place, name.isPlain = true)
    (areDirectories : ∀ above, above <+: place → disk.HasDirectory above) :
    disk.Enters workingDirectory directory place where
  walks := by
    intro later followLast names found confined walks
    rw [isWay, isStart] at walks
    have walksOn :=
      walks.of_directories arePlain fun first isPrefix =>
        confined.directories first (areDirectories first isPrefix)
    exact Or.inl ⟨_, walksOn⟩
  passes := by
    intro later first heres found confined isPrefix areHeres walks
    rw [isWay] at isPrefix
    rw [isStart] at walks
    have walksOn :=
      walks.of_directories
        (fun name member => arePlain name (isPrefix.subset member))
        fun above isAbove =>
          confined.directories above
            (areDirectories above (isAbove.trans isPrefix))
    exact confined.exists_of_heres (areDirectories first isPrefix) areHeres
      walksOn

/-- What a path leads to lies in a place, whatever changes there. -/
def StaysIn
    (disk : Disk)
    (workingDirectory place : Location)
    (path : Path) :
    Prop :=
  ∀ later followLast found,
    disk.Confined later place →
    later.locate workingDirectory followLast path = .ok found →
    place <+: found.location

/-- What a path finds missing lies in a place, whatever changes there. -/
def MissesIn
    (disk : Disk)
    (workingDirectory place : Location)
    (path : Path) :
    Prop :=
  ∀ later location,
    disk.Confined later place →
    later.locate workingDirectory false path = .ok ⟨location, none⟩ →
    place <+: location

/-- Names that never go up, behind those of a directory, lead into it. -/
theorem Enters.staysIn
    {names : List Name}
    (enters : disk.Enters workingDirectory directory place)
    (isNames : path.names = directory.way ++ names)
    (isStart : path.start workingDirectory = directory.start workingDirectory)
    (notNil : names ≠ [])
    (noUps : ∀ name ∈ names, name.isUp = false) :
    disk.StaysIn workingDirectory place path := by
  intro later followLast found confined locates
  obtain ⟨-, walks⟩ := locate_eq_ok_iff.mp locates
  rw [isNames, isStart] at walks
  rcases enters.walks later followLast names found confined walks with
    ⟨left, walksOn⟩ | ⟨isNil, -⟩
  · exact walksOn.prefix_of_encloses confined.isEnclosed List.prefix_rfl noUps
  · exact absurd isNil notNil

theorem not_isUp_of_isHere
    {name : Name}
    (isHere : name.isHere = true) :
    name.isUp = false := by
  simp only [Name.isHere, Bool.or_eq_true, decide_eq_true_eq] at isHere
  rcases isHere with rfl | rfl <;> rfl

/-- What the first of the names that lead into a directory find missing, they find missing from there. -/
theorem Enters.exists_walks_of_missing
    {names first heres : List Name}
    {location : Location}
    (enters : disk.Enters workingDirectory directory place)
    (isPrefix : first <+: directory.way ++ names)
    (areHeres : ∀ name ∈ heres, name.isHere = true)
    (isNames : path.names = first ++ heres)
    (isStart :
      path.start workingDirectory = directory.start workingDirectory)
    (confined : disk.Confined later place)
    (locates :
      later.locate workingDirectory false path = .ok ⟨location, none⟩) :
    ∃ inner left,
      inner <+: names ∧
        later.Walks false left place (inner ++ heres) ⟨location, none⟩ := by
  obtain ⟨-, walks⟩ := locate_eq_ok_iff.mp locates
  rw [isNames, isStart] at walks
  rcases List.prefix_or_prefix_of_prefix isPrefix
      (List.prefix_append directory.way names) with
    isAbove | ⟨inner, rfl⟩
  · exact absurd rfl
      (enters.passes later first heres _ confined isAbove areHeres walks)
  · have isInner := (List.prefix_append_right_inj _).mp isPrefix
    rw [List.append_assoc] at walks
    rcases enters.walks later false (inner ++ heres) _ confined walks with
      ⟨left, walksOn⟩ | ⟨-, isFound⟩
    · exact ⟨inner, left, isInner, walksOn⟩
    · exact absurd rfl isFound

/-- Names that never go up still never do with names behind them that lead nowhere else. -/
theorem noUps_of_heres
    {names inner heres : List Name}
    (noUps : ∀ name ∈ names, name.isUp = false)
    (isInner : inner <+: names)
    (areHeres : ∀ name ∈ heres, name.isHere = true) :
    ∀ name ∈ inner ++ heres, name.isUp = false := by
  intro name member
  rcases List.mem_append.mp member with member | isHere
  · exact noUps name (isInner.subset member)
  · exact not_isUp_of_isHere (areHeres name isHere)

/-- The first of the names that lead into a directory find nothing missing outside of it. -/
theorem Enters.missesIn
    {names first heres : List Name}
    (enters : disk.Enters workingDirectory directory place)
    (noUps : ∀ name ∈ names, name.isUp = false)
    (isPrefix : first <+: directory.way ++ names)
    (areHeres : ∀ name ∈ heres, name.isHere = true)
    (isNames : path.names = first ++ heres)
    (isStart :
      path.start workingDirectory = directory.start workingDirectory) :
    disk.MissesIn workingDirectory place path := by
  intro later location confined locates
  obtain ⟨inner, left, isInner, walks⟩ :=
    enters.exists_walks_of_missing isPrefix areHeres isNames isStart confined
      locates
  exact walks.prefix_of_encloses confined.isEnclosed List.prefix_rfl
    (noUps_of_heres noUps isInner areHeres)

/--
Names behind those of a directory keep to a place, whatever changes there: by all of them, and by names that lead
nowhere else behind them, something in the place is found, and what the first of them find missing lies there.
-/
structure KeepsTo
    (disk : Disk)
    (workingDirectory : Location)
    (directory : Path)
    (place : Location)
    (names : List Name) :
    Prop where
  stays :
    ∀ path,
      names ≠ [] →
      path.names = directory.way ++ names →
      path.start workingDirectory = directory.start workingDirectory →
      disk.StaysIn workingDirectory place path
  misses :
    ∀ path first heres,
      first <+: directory.way ++ names →
      (∀ name ∈ heres, name.isHere = true) →
      path.names = first ++ heres →
      path.start workingDirectory = directory.start workingDirectory →
      disk.MissesIn workingDirectory place path

/-- Names that never go up keep to the directory that they are followed from. -/
theorem Enters.keepsTo
    {names : List Name}
    (enters : disk.Enters workingDirectory directory place)
    (noUps : ∀ name ∈ names, name.isUp = false) :
    disk.KeepsTo workingDirectory directory place names where
  stays _ notNil isNames isStart :=
    enters.staysIn isNames isStart notNil noUps
  misses _ _ _ isPrefix areHeres isNames isStart :=
    enters.missesIn noUps isPrefix areHeres isNames isStart

/-- Names that start with that of a root, or with any if there is none, keep to the root. -/
theorem Enters.keepsTo_root
    {names rootNames : List Name}
    (enters : disk.Enters workingDirectory directory place)
    (isDirectory : disk.HasDirectory place)
    (encloses : disk.Encloses place)
    (noUps : ∀ name ∈ names, name.isUp = false)
    (isRoot : rootNames <+: names.filter fun name => !name.isHere)
    (isShort : rootNames.length ≤ 1) :
    disk.KeepsTo workingDirectory directory (place ++ rootNames) names where
  stays path notNil isNames isStart := by
    intro later followLast found confined locates
    have isWithin := confined.widen encloses (List.prefix_append _ _)
    obtain ⟨-, walks⟩ := locate_eq_ok_iff.mp locates
    rw [isNames, isStart] at walks
    rcases enters.walks later followLast names found isWithin walks with
      ⟨left, walksOn⟩ | ⟨isNil, -⟩
    · rw [walksOn.location_of_encloses isWithin.isEnclosed List.prefix_rfl noUps]
      exact (List.prefix_append_right_inj _).mpr isRoot
    · exact absurd isNil notNil
  misses path first heres isPrefix areHeres isNames isStart := by
    intro later location confined locates
    have isWithin := confined.widen encloses (List.prefix_append _ _)
    obtain ⟨inner, left, isInner, walks⟩ :=
      enters.exists_walks_of_missing isPrefix areHeres isNames isStart isWithin
        locates
    have isLocation :=
      walks.location_of_encloses isWithin.isEnclosed List.prefix_rfl
        (noUps_of_heres noUps isInner areHeres)
    have noHeres : heres.filter (fun name => !name.isHere) = [] :=
      List.filter_eq_nil_iff.mpr fun name member => by
        simp [areHeres name member]
    rw [List.filter_append, noHeres, List.append_nil] at isLocation
    dsimp only at isLocation
    subst isLocation
    refine (List.prefix_append_right_inj _).mpr
      (List.prefix_of_prefix_length_le isRoot (isInner.filter _) ?_)
    -- The directory itself is there, so some name leads on from it.
    refine isShort.trans (List.length_pos_iff.mpr fun isNil => ?_)
    obtain ⟨mode, stands⟩ := isWithin.directories place isDirectory
    have isMissing := walks.get?_eq
    rw [isNil, List.append_nil, stands] at isMissing
    simp at isMissing

/-- What a path stands in that keeps to a place is missing in that place only. -/
theorem KeepsTo.missesIn_of_mem_lineage
    {steps : Nat}
    {above : Path}
    {names first heres : List Name}
    (keepsTo : disk.KeepsTo workingDirectory directory place names)
    (member : above ∈ Files.lineage steps path)
    (isPrefix : first <+: directory.way ++ names)
    (areHeres : ∀ name ∈ heres, name.isHere = true)
    (isNames : path.names = first ++ heres)
    (isStart :
      path.start workingDirectory = directory.start workingDirectory) :
    disk.MissesIn workingDirectory place above := by
  induction steps generalizing path first heres with
  | zero => simp [Files.lineage] at member
  | succ steps inductionHypothesis =>
      rw [Files.lineage, List.mem_cons] at member
      rcases member with rfl | member
      · exact keepsTo.misses _ _ _ isPrefix areHeres isNames isStart
      · split at member
        · rename_i parent isParent
          obtain ⟨between, name, later, standsIn⟩ :=
            Path.exists_of_parent? isParent
          have parentStart :
              parent.start workingDirectory =
                directory.start workingDirectory :=
            (standsIn.start _).symm.trans isStart
          have isAbove : parent.way <+: first ++ heres := by
            rw [← isNames, standsIn.names, List.append_assoc]
            exact List.prefix_append _ _
          obtain ⟨open', isParentNames, areOpen⟩ :
              ∃ open', parent.names = parent.way ++ open' ∧
                ∀ name ∈ open', name.isHere = true := by
            rcases parent.names_eq_way with isWay | isWay
            · exact ⟨[], by simpa using isWay, by simp⟩
            · exact ⟨[.text ""], isWay, by simp [Name.isHere]⟩
          rcases List.prefix_or_prefix_of_prefix isAbove
              (List.prefix_append first heres) with
            isBelow | ⟨inner, isInner⟩
          · exact inductionHypothesis member (isBelow.trans isPrefix) areOpen
              isParentNames parentStart
          · have isHeres : inner <+: heres := by
              rw [← isInner] at isAbove
              exact (List.prefix_append_right_inj first).mp isAbove
            have isJoined : parent.names = first ++ (inner ++ open') := by
              rw [isParentNames, ← isInner, List.append_assoc]
            refine inductionHypothesis member isPrefix (fun name member => ?_)
              isJoined parentStart
            rcases List.mem_append.mp member with member | member
            · exact areHeres name (isHeres.subset member)
            · exact areOpen name member
        · simp at member

/-- What a path into a directory stands in is missing in that directory only. -/
theorem Enters.missesIn_of_mem_lineage
    {steps : Nat}
    {above : Path}
    {names first heres : List Name}
    (enters : disk.Enters workingDirectory directory place)
    (noUps : ∀ name ∈ names, name.isUp = false)
    (member : above ∈ Files.lineage steps path)
    (isPrefix : first <+: directory.way ++ names)
    (areHeres : ∀ name ∈ heres, name.isHere = true)
    (isNames : path.names = first ++ heres)
    (isStart :
      path.start workingDirectory = directory.start workingDirectory) :
    disk.MissesIn workingDirectory place above :=
  (enters.keepsTo noUps).missesIn_of_mem_lineage member isPrefix areHeres isNames
    isStart

end Disk

/-! ## Actions -/

/-- What an action changes or makes lies in a place, whatever changes there. -/
def Action.StaysIn
    (disk : Disk)
    (workingDirectory place : Location) :
    Action → Prop
  | .makeDirectory path => disk.MissesIn workingDirectory place path
  | .writeFile path _ | .appendFile path _ | .copyFile _ path
  | .changeMode path _ | .setTimes path _ | .removeFile path =>
      disk.StaysIn workingDirectory place path
  | action => action.looks = true

theorem Action.staysIn_of_looks
    {disk : Disk}
    {workingDirectory place : Location}
    {action : Action}
    (looks : action.looks = true) :
    action.StaysIn disk workingDirectory place := by
  cases action <;> first | exact looks | simp [Action.looks] at looks

namespace Disk

variable {disk later after : Disk}
variable {workingDirectory place : Location}
variable {path : Path}

/-- A file that is opened by a path that stays in a place changes nothing else. -/
theorem Confined.openFile
    {fresh : File}
    {change : File → File}
    (confined : disk.Confined later place)
    (staysIn : disk.StaysIn workingDirectory place path)
    (isAlone : fresh.group = none)
    (keepsGroup : ∀ file, (change file).group = file.group)
    (opens :
      later.openFile workingDirectory path fresh change = .ok after) :
    disk.Confined after place := by
  rcases openFile_eq_ok opens with
    ⟨location, locates, rfl⟩ | ⟨location, file, locates, rfl⟩
  · have isMissing := get?_of_locate locates
    refine confined.set (staysIn later true _ confined locates) rfl ?_ ?_
    · rintro file isFresh
      rw [← Entry.file.inj isFresh, isAlone]
    · rintro ⟨mode, stands⟩
      rw [isMissing] at stands
      simp at stands
  · exact confined.updateFile (staysIn later true _ confined locates) keepsGroup

/-- A file that is copied to a path that stays in a place changes nothing else. -/
theorem Confined.copyFile
    {original : Path}
    (confined : disk.Confined later place)
    (staysIn : disk.StaysIn workingDirectory place path)
    (copies : later.copyFile workingDirectory original path = .ok after) :
    disk.Confined after place := by
  obtain ⟨_, _, emptied, -, opens, ends⟩ := copyFile_eq_ok copies
  have isEmptied : disk.Confined emptied place := by
    refine confined.openFile staysIn ?_ ?_ opens
    · rfl
    · exact fun _ => rfl
  rcases ends with ⟨_, found, -, locates, rfl⟩ | ⟨-, rfl⟩
  · have isInside := staysIn emptied true found isEmptied locates
    exact isEmptied.updateFile isInside fun file => group_extended file _
  · exact isEmptied

theorem Does.confined
    {exact : Except DiskFault Disk}
    {isPart : Disk → Prop}
    {reply : Except DiskFault Unit}
    (does : Does exact later isPart later reply after)
    (confined : disk.Confined later place)
    (ofDone : exact = .ok after → disk.Confined after place)
    (ofPart : isPart after → disk.Confined after place) :
    disk.Confined after place := by
  cases does with
  | done isDone => exact ofDone isDone
  | refused | unchanged => exact confined
  | brokenOff _ partly => exact ofPart partly

/-- Changes stay in a place under actions that stay in it. -/
theorem Answers.confined
    {children : Children}
    {action : Action}
    {reply : action.Reply}
    (answers :
      Answers workingDirectory children action later reply after)
    (staysIn : action.StaysIn disk workingDirectory place)
    (confined : disk.Confined later place) :
    disk.Confined after place := by
  cases action with
  | status | linkStatus | readFile | listDirectory | realPath | environment =>
      rw [answers.eq_of_looks rfl]
      exact confined
  | makeDirectory path =>
      refine Does.confined answers confined (fun makes => ?_) False.elim
      obtain ⟨location, locates, rfl⟩ := makeDirectory_eq_ok makes
      exact confined.set (staysIn later location confined locates) rfl
        (fun _ isFile => by simp at isFile) fun _ => rfl
  | writeFile path content =>
      have writes (part : Bytes) :
          later.writeFile workingDirectory path part = .ok after →
          disk.Confined after place := by
        intro opens
        rw [writeFile] at opens
        refine confined.openFile staysIn ?_ ?_ opens
        · rfl
        · exact fun _ => rfl
      refine Does.confined answers confined (writes content) ?_
      rintro ⟨part, -, opens⟩
      exact writes part opens
  | appendFile path content =>
      have appends (part : Bytes) :
          later.appendFile workingDirectory path part = .ok after →
          disk.Confined after place := by
        intro opens
        rw [appendFile] at opens
        refine confined.openFile staysIn ?_ ?_ opens
        · rfl
        · exact fun file => group_extended file part
      refine Does.confined answers confined (appends content) ?_
      rintro ⟨part, -, opens⟩
      exact appends part opens
  | copyFile original path =>
      refine Does.confined answers confined (confined.copyFile staysIn) ?_
      rintro ⟨mode, content, opens⟩
      refine confined.openFile staysIn ?_ ?_ opens
      · rfl
      · exact fun _ => rfl
  | changeMode path mode =>
      refine Does.confined answers confined (fun changes => ?_) False.elim
      rcases changeMode_eq_ok changes with
        ⟨location, old, finds, rfl⟩ | ⟨location, entry, finds, rfl⟩
      · exact confined.set
          (staysIn later true _ confined (entryAt_eq_ok_iff.mp finds)) rfl
          (fun _ isFile => by simp at isFile) fun _ => rfl
      · exact confined.updateFile
          (staysIn later true _ confined (entryAt_eq_ok_iff.mp finds))
          fun _ => rfl
  | setTimes path time =>
      refine Does.confined answers confined (fun changes => ?_) False.elim
      obtain ⟨location, entry, finds, rfl⟩ := setTimes_eq_ok changes
      exact confined.updateFile
        (staysIn later true _ confined (entryAt_eq_ok_iff.mp finds))
        fun _ => rfl
  | removeFile path =>
      refine Does.confined answers confined (fun removes => ?_) False.elim
      obtain ⟨location, entry, finds, notDirectory, rfl⟩ :=
        removeFile_eq_ok removes
      exact confined.erase
        (staysIn later false _ confined (entryAt_eq_ok_iff.mp finds))
        (get?_of_entryAt finds) notDirectory
  | _ => simp [Action.StaysIn, Action.looks] at staysIn

end Disk

end Provision
