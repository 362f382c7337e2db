import Provision.Proofs.Archive.Confining
import Provision.Proofs.Disk.Fencing
import Provision.Proofs.Storage.Writing

namespace Provision

/-!
# The root of an archive

Members that share their first name are unpacked at or below that name in the target.  Each of them leaves
something at the root, and a directory if it lies below it.  So once an archive has been extracted, the root
that is reported is there, and nothing has changed elsewhere.  This is so if the names of the members are texts.
A name that is none is read as a text for the report, and then that text names nothing in the target.
-/

open Plan

namespace Disk

variable {disk later after : Disk}
variable {workingDirectory place root : Location}
variable {directory path : Path}

/-! ## Paths from a directory -/

/-- No file is written by a path that leads to a directory and names nothing in it. -/
theorem Enters.not_openFile
    {fresh : File}
    {change : File → File}
    (enters : disk.Enters workingDirectory directory place)
    (isDirectory : disk.HasDirectory place)
    (confined : disk.Confined later place)
    (isNames : path.names = directory.way ++ [.text ""])
    (isStart :
      path.start workingDirectory = directory.start workingDirectory) :
    later.openFile workingDirectory path fresh change ≠ .ok after := by
  intro opens
  obtain ⟨mode, stands⟩ := confined.directories place isDirectory
  have finds
      {found : Found}
      (locates : later.locate workingDirectory true path = .ok found) :
      found = ⟨place, some (.directory mode)⟩ := by
    obtain ⟨-, walks⟩ := locate_eq_ok_iff.mp locates
    rw [isNames, isStart] at walks
    rcases enters.walks later true _ found confined walks with
      ⟨left, walksOn⟩ | ⟨isNil, -⟩
    · rw [walksOn.eq_of_heres (by simp [Name.isHere]), stands]
    · simp at isNil
  rcases openFile_eq_ok opens with
    ⟨location, locates, -⟩ | ⟨location, file, locates, -⟩
  · simpa using finds locates
  · simpa using finds locates

/-- Names that are walked at all are walked from a directory. -/
theorem Walks.hasDirectory
    {followLast : Bool}
    {links : Nat}
    {here : Location}
    {name : Name}
    {rest : List Name}
    {found : Found}
    (walks : disk.Walks followLast links here (name :: rest) found) :
    disk.HasDirectory here := by
  cases walks with
  | missing isOpen | link isOpen => exact isOpen.hasDirectory
  | step steps => exact steps.hasDirectory

/-! ## What stands at a root -/

/-- What names have led to stands at the root that they start with, or below it in a directory. -/
structure HoldsRoot
    (disk : Disk)
    (root : Location)
    (way : List Name) :
    Prop where
  stands : way ≠ [] → ∃ entry, disk.get? root = some entry
  isDirectory : 1 < way.length → disk.HasDirectory root

/-- A directory stays one while the disk only grows. -/
theorem HasDirectory.grows
    {location : Location}
    (isDirectory : disk.HasDirectory location)
    (grows : disk.Grows later) :
    later.HasDirectory location := by
  obtain ⟨mode, stands⟩ := isDirectory
  have grown := grows location
  rwa [stands] at grown

/-- A directory stays one while files only come and go. -/
theorem HasDirectory.wears
    {location : Location}
    (isDirectory : disk.HasDirectory location)
    (wears : disk.Wears later) :
    later.HasDirectory location := by
  obtain ⟨mode, stands⟩ := isDirectory
  have worn := wears location
  rwa [stands] at worn

/-- What stands at a root stays while the disk only grows. -/
theorem HoldsRoot.grows
    {way : List Name}
    (holds : disk.HoldsRoot root way)
    (grows : disk.Grows later) :
    later.HoldsRoot root way where
  stands notNil := by
    obtain ⟨entry, stands⟩ := holds.stands notNil
    have grown := grows root
    rw [stands] at grown
    cases entry with
    | directory | file => exact ⟨_, grown.choose_spec⟩
    | link =>
        rcases grown with isSame | ⟨file, isFile⟩
        · exact ⟨_, isSame⟩
        · exact ⟨_, isFile⟩
  isDirectory isDeep := (holds.isDirectory isDeep).grows grows

section

variable {followLast : Bool}
variable {name : Name}
variable {rest : List Name}
variable (enters : disk.Enters workingDirectory directory place)
variable (confined : disk.Confined later place)
variable (notHere : name.isHere = false)
variable (notUp : name.isUp = false)

include enters confined notHere notUp

/-- Names that are walked from a directory find their root, unless they name it and it is missing. -/
theorem Enters.holdsRoot_or_missing
    {found : Found}
    (walks :
      later.Walks followLast maxLinks (directory.start workingDirectory)
        (directory.way ++ name :: rest) found) :
    later.HoldsRoot (place ++ [name])
        (name :: rest.filter fun name => !name.isHere) ∨
      found = ⟨place ++ [name], none⟩ ∧
        rest.filter (fun name => !name.isHere) = [] := by
  obtain ⟨left, walksOn⟩ :
      ∃ left, later.Walks followLast left place (name :: rest) found := by
    rcases enters.walks later followLast _ found confined walks with
      walksOn | ⟨isNil, -⟩
    · exact walksOn
    · simp at isNil
  have noLink (target : Path) :
      later.get? (place ++ [name]) ≠ some (.link target) :=
    confined.isEnclosed.noLinks _ target (List.prefix_append _ _)
  cases walksOn with
  | missing _ _ _ isLast =>
      simp only [List.all_eq_true, decide_eq_true_eq] at isLast
      refine Or.inr ⟨rfl, List.filter_eq_nil_iff.mpr fun other member => ?_⟩
      simp [isLast other member, Name.isHere]
  | link _ _ stands => exact absurd stands (noLink _)
  | step steps _ walksRest =>
      cases steps with
      | empty _ isEmpty => simp [isEmpty, Name.isHere] at notHere
      | dot _ isDot => simp [isDot, Name.isHere] at notHere
      | up _ isUp => simp [isUp, Name.isUp] at notUp
      | follow _ _ stands => exact absurd stands (noLink _)
      | down _ _ stands =>
          refine Or.inl ⟨fun _ => ⟨_, stands⟩, fun isDeep => ?_⟩
          cases rest with
          | nil => simp at isDeep
          | cons first others => exact walksRest.hasDirectory

variable (isNames : path.names = directory.way ++ name :: rest)
variable
  (isStart : path.start workingDirectory = directory.start workingDirectory)

include isNames isStart

/-- A path that leads to something finds its root. -/
theorem Enters.holdsRoot_of_entryAt
    {found : Location × Entry}
    (finds : later.entryAt workingDirectory followLast path = .ok found) :
    later.HoldsRoot (place ++ [name])
      (name :: rest.filter fun name => !name.isHere) := by
  obtain ⟨-, walks⟩ := locate_eq_ok_iff.mp (entryAt_eq_ok_iff.mp finds)
  rw [isNames, isStart] at walks
  rcases enters.holdsRoot_or_missing confined notHere notUp walks with
    holds | ⟨isMissing, -⟩
  · exact holds
  · simp at isMissing

/-- What is made where a path finds nothing stands at its root or below it. -/
theorem Enters.holdsRoot_of_set
    {location : Location}
    {entry : Entry}
    (noLink : entry.isLink = false)
    (locates :
      later.locate workingDirectory followLast path = .ok ⟨location, none⟩) :
    (later.set location entry).HoldsRoot (place ++ [name])
      (name :: rest.filter fun name => !name.isHere) := by
  have isMissing := get?_of_locate locates
  obtain ⟨-, walks⟩ := locate_eq_ok_iff.mp locates
  rw [isNames, isStart] at walks
  rcases enters.holdsRoot_or_missing confined notHere notUp walks with
    holds | ⟨isFound, isShallow⟩
  · refine holds.grows (grows_set ?_)
    rw [isMissing]
    rintro target isLink
    obtain rfl := Option.some.inj isLink
    simp [Entry.isLink] at noLink
  · obtain rfl := (Found.mk.inj isFound).1
    refine ⟨fun _ => ⟨entry, get?_set_self _ _ _⟩, fun isDeep => ?_⟩
    simp [isShallow] at isDeep

/-- A file that is written stands at the root of its path or below it. -/
theorem Enters.holdsRoot_of_openFile
    {fresh : File}
    {change : File → File}
    (opens : later.openFile workingDirectory path fresh change = .ok after) :
    after.HoldsRoot (place ++ [name])
      (name :: rest.filter fun name => !name.isHere) := by
  have grows := (grows_and_wears_of_openFile opens).1
  rcases openFile_eq_ok opens with
    ⟨location, locates, rfl⟩ | ⟨location, file, locates, rfl⟩
  · exact enters.holdsRoot_of_set confined notHere notUp isNames isStart rfl
      locates
  · exact (enters.holdsRoot_of_entryAt confined notHere notUp isNames isStart
      (entryAt_eq_ok_iff.mpr locates)).grows grows

/-- A directory that is made stands at the root of its path or below it. -/
theorem Enters.holdsRoot_of_makeDirectory
    {mode : Nat}
    (makes : later.makeDirectory workingDirectory path mode = .ok after) :
    after.HoldsRoot (place ++ [name])
      (name :: rest.filter fun name => !name.isHere) := by
  obtain ⟨location, locates, rfl⟩ := makeDirectory_eq_ok makes
  exact enters.holdsRoot_of_set confined notHere notUp isNames isStart rfl
    locates

end

end Disk

namespace Archive

variable {ε α β : Type}
variable {workingDirectory place root : Location}
variable {children : Disk.Children}
variable {disk later after : Disk}
variable {directory path : Path}
variable {ways more further : List Name → Prop}

/-! ## Names of members -/

/-- The names that a member name leads through. -/
def wayOf (name : List Char) : List Name :=
  (Path.ofString (String.ofList name)).segments.filter fun segment =>
    !segment.isHere

/-- The segments of the path of a text are its fields between slashes. -/
theorem segments_ofString (name : List Char) :
    (Path.ofString (String.ofList name)).segments =
      (Text.fields '/' name).map fun field => .text (String.ofList field) := by
  rw [Path.ofString, String.toList_ofList]
  exact Path.segments_ofSegments (by simpa using Text.fields_ne_nil '/' name)

/-- The first field of a name is the part before its first slash. -/
theorem exists_fields_eq (name : List Char) :
    ∃ others, Text.fields '/' name = topSegment name :: others := by
  unfold topSegment
  induction name with
  | nil => exact ⟨[], rfl⟩
  | cons c rest inductionHypothesis =>
      obtain ⟨others, isRest⟩ := inductionHypothesis
      by_cases isSlash : c = '/'
      · exact ⟨Text.fields '/' rest, by simp [Text.fields, isSlash]⟩
      · exact ⟨others, by simp [Text.fields, isSlash, isRest]⟩

/-- The path of a name starts with the part before its first slash. -/
theorem exists_segments_eq (name : List Char) :
    ∃ rest,
      (Path.ofString (String.ofList name)).segments =
        .text (String.ofList (topSegment name)) :: rest := by
  obtain ⟨others, isFields⟩ := exists_fields_eq name
  rw [segments_ofString, isFields]
  exact ⟨_, rfl⟩

/-- The bytes of a text are the name with that text. -/
theorem ofBytes_encode (text : List Char) :
    Name.ofBytes (Text.Utf8.encode text) = .text (String.ofList text) := by
  have isText := Text.Utf8.toString?_ofString (String.ofList text)
  rw [Text.Utf8.ofString, String.toList_ofList] at isText
  unfold Name.ofBytes
  split
  · rename_i string isString
    rw [Option.some.inj (isString.symm.trans isText)]
  · rename_i notText
    simp [isText] at notText

/-- The names of a member whose name is a safe text are those that the text leads through. -/
theorem namesOf?_encode
    {name : List Char}
    (isSafe : isUnsafe name = false) :
    namesOf? (Text.Utf8.encode name) = some (wayOf name) := by
  have isSlash : (0x2f : UInt8) = UInt8.ofNat '/'.toNat := rfl
  have isSame :
      (Path.ofBytes (Text.Utf8.encode name)).segments =
        (Path.ofString (String.ofList name)).segments := by
    rw [Path.ofBytes, isSlash, Text.Utf8.fields_encode (by decide), List.map_map,
      segments_ofString]
    rw [Path.segments_ofSegments (by simpa using Text.fields_ne_nil '/' name)]
    exact List.map_congr_left fun field _ => ofBytes_encode field
  have notUp : ¬(wayOf name).any Name.isUp = true := by
    rw [List.any_eq_true]
    rintro ⟨segment, member, isUp⟩
    have notUp := notUp_of_isSafe isSafe segment (List.mem_filter.mp member).1
    simp [isUp] at notUp
  rw [namesOf?, isSame]
  exact if_neg notUp

/-! ## Procedures that leave something at a root -/

/-- Changes stay at a root, and what some names have led to stands there. -/
structure Rooted
    (disk : Disk)
    (root : Location)
    (ways : List Name → Prop)
    (later : Disk) :
    Prop where
  isTree : later.IsTree
  confined : disk.Confined later root
  holds : ∀ way, ways way → later.HoldsRoot root way

/-- What stands at a root stays under an action that adds there. -/
theorem Rooted.answers
    {action : Action}
    {reply : action.Reply}
    (rooted : Rooted disk root ways later)
    (answers :
      Disk.Answers workingDirectory children action later reply after)
    (stays : action.StaysIn disk workingDirectory root)
    (adds : action.adds = true) :
    Rooted disk root ways after where
  isTree := answers.isTree_of_adds adds rooted.isTree
  confined := answers.confined stays rooted.confined
  holds way isWay := (rooted.holds way isWay).grows (answers.grows adds)

/-- More names have led to something at a root. -/
theorem Rooted.add
    (rooted : Rooted disk root ways later)
    (holds : ∀ way, more way → later.HoldsRoot root way) :
    Rooted disk root (fun way => more way ∨ ways way) later where
  isTree := rooted.isTree
  confined := rooted.confined
  holds way isWay := isWay.elim (holds way) (rooted.holds way)

/-- What stands at a root stays all along a plan that only adds there. -/
theorem keeps_rooted
    {plan : Plan α}
    (stays : plan.AsksOnly (staysIn disk workingDirectory root))
    (adds : plan.AsksOnly Action.adds) :
    Keeps (Disk.Answers workingDirectory children) (Rooted disk root ways)
      plan := by
  refine (stays.and adds).keeps fun action state reply after isBoth answered => ?_
  obtain ⟨isStaying, isAdding⟩ := (Bool.and_eq_true _ _).mp isBoth
  exact fun isRooted =>
    isRooted.answers answered (staysIn_iff.mp isStaying) isAdding

/--
A procedure that succeeds leaves at a root what some names lead to, and all that other names have led to before.
-/
def Roots
    (disk : Disk)
    (workingDirectory root : Location)
    (children : Disk.Children)
    (more : List Name → Prop)
    (procedure : Procedure ε α) :
    Prop :=
  ∀ ways later,
    Rooted disk root ways later →
    Upholds (Disk.Answers workingDirectory children) (fun _ => True)
      (fun _ => Rooted disk root fun way => more way ∨ ways way) procedure later

namespace Roots

theorem mono
    {procedure : Procedure ε α}
    (roots : Roots disk workingDirectory root children more procedure)
    (isFewer : ∀ way, further way → more way) :
    Roots disk workingDirectory root children further procedure := by
  intro ways later rooted
  refine (roots ways later rooted).mono fun _ last isRooted => ?_
  exact ⟨isRooted.isTree, isRooted.confined, fun way isWay =>
    isRooted.holds way (isWay.imp_left (isFewer way))⟩

theorem bind
    {procedure : Procedure ε α}
    {next : α → Procedure ε β}
    (roots : Roots disk workingDirectory root children more procedure)
    (rootsOn :
      ∀ value, Roots disk workingDirectory root children further (next value)) :
    Roots disk workingDirectory root children
      (fun way => further way ∨ more way) (procedure >>= next) := by
  intro ways later rooted
  refine (roots ways later rooted).bind fun value after isRooted => ?_
  refine (rootsOn value _ after isRooted).mono fun _ last isRooted => ?_
  exact ⟨isRooted.isTree, isRooted.confined, fun way isWay =>
    isRooted.holds way (or_assoc.mp isWay)⟩

/-- A procedure that only adds at a root leaves what stands there. -/
theorem of_adds
    {procedure : Procedure ε α}
    (stays : procedure.run.AsksOnly (staysIn disk workingDirectory root))
    (adds : procedure.run.AsksOnly Action.adds) :
    Roots disk workingDirectory root children (fun _ => False) procedure := by
  intro ways later rooted
  have keeps :
      Keeps (Disk.Answers workingDirectory children) (Rooted disk root ways)
        procedure.run :=
    keeps_rooted stays adds
  refine (keeps.upholds rooted fun _ _ => trivial).mono fun _ last isRooted => ?_
  exact isRooted.add fun _ => False.elim

/-- A procedure that only looks leaves what stands at a root. -/
theorem of_looks
    {procedure : Procedure ε α}
    (looks : procedure.run.AsksOnly Action.looks) :
    Roots disk workingDirectory root children (· = []) procedure := by
  have keeps :
      Roots disk workingDirectory root children (fun _ => False) procedure :=
    .of_adds (looks.mono staysIn_of_looks)
      (looks.mono fun _ => Action.adds_of_looks)
  intro ways later rooted
  refine (keeps ways later rooted).mono fun _ last isRooted => ?_
  refine ⟨isRooted.isTree, isRooted.confined, ?_⟩
  rintro way (rfl | isWay)
  · exact ⟨by simp, by simp⟩
  · exact isRooted.holds way (Or.inr isWay)

/-- Members that are unpacked one after the other leave at a root what each of them leads to. -/
theorem each
    {μ : Type}
    {unpack : μ → Procedure ε Unit}
    {unpackAll : List μ → Procedure ε Unit}
    {way : μ → List Name}
    (isNil : unpackAll [] = pure ())
    (isCons :
      ∀ member rest,
        unpackAll (member :: rest) = do
          unpack member
          unpackAll rest)
    {members : List μ}
    (roots :
      ∀ member ∈ members,
        Roots disk workingDirectory root children (· = way member)
          (unpack member)) :
    Roots disk workingDirectory root children
      (fun other => ∃ member ∈ members, other = way member)
      (unpackAll members) := by
  induction members with
  | nil =>
      rw [isNil]
      exact fun ways later rooted => .pure (rooted.add (by simp))
  | cons member rest inductionHypothesis =>
      rw [isCons]
      have rootsRest := inductionHypothesis fun other isMember =>
        roots other (.tail _ isMember)
      refine ((roots member (.head _)).bind fun _ => rootsRest).mono ?_
      rintro other ⟨unpacked, isMember, rfl⟩
      rcases List.mem_cons.mp isMember with rfl | isMember
      · exact Or.inr rfl
      · exact Or.inl ⟨unpacked, isMember, rfl⟩

end Roots

/-! ## What is unpacked by a path -/

section

variable {name : Name}
variable {rest : List Name}
variable (enters : disk.Enters workingDirectory directory place)
variable (encloses : disk.Encloses place)
variable (notHere : name.isHere = false)
variable (notUp : name.isUp = false)
variable (isNames : path.names = directory.way ++ name :: rest)
variable
  (isStart : path.start workingDirectory = directory.start workingDirectory)
variable (stays : disk.StaysIn workingDirectory (place ++ [name]) path)

include enters encloses notHere notUp isNames isStart stays

/-- A file that is unpacked stands at the root or below it. -/
theorem roots_unpackFile (member : Tar.Member) :
    Roots disk workingDirectory (place ++ [name]) children
      (· = name :: rest.filter fun name => !name.isHere)
      (unpackFile path member) := by
  intro ways later rooted
  have isStaying (action : Action) :
      action.StaysIn disk workingDirectory (place ++ [name]) →
      staysIn disk workingDirectory (place ++ [name]) action = true :=
    staysIn_iff.mpr
  have finishes :
      Roots disk workingDirectory (place ++ [name]) children (fun _ => False)
        (do
          setTime path member
          setMode path member : Unpacking Unit) :=
    .of_adds
      (setTimeAndMode_asksOnly (fun _ => isStaying (.setTimes path _) stays)
        (fun _ => isStaying (.changeMode path _) stays) member)
      (setTimeAndMode_asksOnly (fun _ => rfl) (fun _ => rfl) member)
  -- What stood at the root may be gone before, but no directory is.
  have writes
      (removed : Disk)
      (isTree : removed.IsTree)
      (confined : disk.Confined removed (place ++ [name]))
      (keeps :
        ∀ way,
          ways way → 1 < way.length → removed.HasDirectory (place ++ [name])) :
      Upholds (Disk.Answers workingDirectory children) (fun _ => True)
        (fun _ => Rooted disk (place ++ [name]) fun way =>
          way = name :: rest.filter (fun name => !name.isHere) ∨ ways way)
        (do
          orSpoil (Plan.ask (.writeFile path member.content))
          setTime path member
          setMode path member : Unpacking Unit)
        removed := by
    have writesFile :
        Upholds (Disk.Answers workingDirectory children) (fun _ => True)
          (fun _ => Rooted disk (place ++ [name]) fun way =>
            way = name :: rest.filter (fun name => !name.isHere) ∨ ways way)
          (orSpoil (Plan.ask (.writeFile path member.content))) removed := by
      refine .attempt (.ask fun reply written answered => ⟨trivial, ?_⟩)
      cases reply with
      | error fault => trivial
      | ok =>
          have isConfined := answered.confined stays confined
          have grows := answered.grows rfl
          have isTreeStill := answered.isTree_of_adds rfl isTree
          cases answered with
          | done opens =>
              have isHeld :=
                enters.holdsRoot_of_openFile
                  (confined.widen encloses (List.prefix_append _ _)) notHere
                  notUp isNames isStart opens
              refine ⟨isTreeStill, isConfined, ?_⟩
              rintro way (rfl | isWay)
              · exact isHeld
              · exact ⟨fun _ => isHeld.stands (by simp), fun isDeep =>
                  (keeps way isWay isDeep).grows grows⟩
    refine writesFile.bind fun _ written isRooted => ?_
    exact (finishes _ written isRooted).mono fun _ last isLast =>
      ⟨isLast.isTree, isLast.confined, fun way isWay =>
        isLast.holds way (Or.inr isWay)⟩
  refine .bindLift (.ask fun reply seen answered => ⟨trivial, ?_⟩)
  obtain ⟨-, rfl⟩ := answered
  cases reply with
  | error fault =>
      exact writes seen rooted.isTree rooted.confined fun way isWay =>
        (rooted.holds way isWay).isDirectory
  | ok status =>
      have removes :
          Upholds (Disk.Answers workingDirectory children) (fun _ => True)
            (fun _ removed =>
              removed.IsTree ∧ disk.Confined removed (place ++ [name]) ∧
                seen.Wears removed)
            (orSpoil (Plan.ask (.removeFile path))) seen := by
        refine .attempt (.ask fun reply removed answered => ⟨trivial, ?_⟩)
        cases reply with
        | error fault => trivial
        | ok =>
            exact
              ⟨answered.isTree_of_lands (fun _ _ _ => List.nil_prefix)
                  rooted.isTree,
                answered.confined stays rooted.confined, answered.wears rfl⟩
      refine removes.bind fun _ removed isRemoved => ?_
      obtain ⟨isTree, confined, wears⟩ := isRemoved
      refine writes removed isTree confined fun way isWay isDeep => ?_
      exact ((rooted.holds way isWay).isDirectory isDeep).wears wears

/-- A directory that is unpacked stands at the root or below it. -/
theorem roots_unpackDirectory (member : Tar.Member) :
    Roots disk workingDirectory (place ++ [name]) children
      (· = name :: rest.filter fun name => !name.isHere)
      (unpackDirectory path member) := by
  intro ways later rooted
  have isStaying (mode : Nat) :
      staysIn disk workingDirectory (place ++ [name]) (.changeMode path mode) =
        true :=
    staysIn_iff.mpr stays
  have finishes :
      Roots disk workingDirectory (place ++ [name]) children (fun _ => False)
        (setMode path member) :=
    .of_adds (setMode_asksOnly isStaying member)
      (setMode_asksOnly (fun _ => rfl) member)
  have goesOn
      (made : Disk)
      (isRooted : Rooted disk (place ++ [name]) ways made)
      (isHeld :
        made.HoldsRoot (place ++ [name])
          (name :: rest.filter fun name => !name.isHere)) :
      Upholds (Disk.Answers workingDirectory children) (fun _ => True)
        (fun _ => Rooted disk (place ++ [name]) fun way =>
          way = name :: rest.filter (fun name => !name.isHere) ∨ ways way)
        (setMode path member) made := by
    have isAdded :
        Rooted disk (place ++ [name])
          (fun way =>
            way = name :: rest.filter (fun name => !name.isHere) ∨ ways way)
          made := by
      refine isRooted.add ?_
      rintro way rfl
      exact isHeld
    exact (finishes _ made isAdded).mono fun _ last isLast =>
      ⟨isLast.isTree, isLast.confined, fun way isWay =>
        isLast.holds way (Or.inr isWay)⟩
  have confined :=
    rooted.confined.widen encloses (List.prefix_append place [name])
  refine .bindLift (.ask fun reply made answered => ⟨trivial, ?_⟩)
  cases reply with
  | ok =>
      have makes :
          Action.StaysIn disk workingDirectory (place ++ [name])
            (.makeDirectory path) :=
        fun later location => stays later false ⟨location, none⟩
      have isRooted := rooted.answers answered makes rfl
      cases answered with
      | done makes =>
          exact goesOn made isRooted
            (enters.holdsRoot_of_makeDirectory confined notHere notUp isNames
              isStart makes)
  | error fault =>
      obtain rfl : made = later := by
        cases answered with
        | refused | unchanged => rfl
        | brokenOff _ partly => exact partly.elim
      refine .bindLift (.bind (.ask fun reply seen answered => ⟨trivial, ?_⟩))
      obtain ⟨tells, rfl⟩ := answered
      cases reply with
      | error fault' => exact .throw trivial
      | ok status =>
          obtain ⟨location, entry, finds, -⟩ :=
            Disk.exists_of_status tells.eq_ok
          change Upholds _ _ _ (if decide _ = true then _ else _) seen
          split
          · exact goesOn seen rooted
              (enters.holdsRoot_of_entryAt confined notHere notUp isNames
                isStart finds)
          · exact .throw trivial

/-- The content of a zip member that is unpacked stands at the root or below it. -/
theorem roots_unpackContent
    (content : Bytes)
    (isWhole : Bool) :
    Roots disk workingDirectory (place ++ [name]) children
      (· = name :: rest.filter fun name => !name.isHere)
      (unpackContent path content isWhole) := by
  intro ways later rooted
  have writes :
      Upholds (Disk.Answers workingDirectory children) (fun _ => True)
        (fun _ => Rooted disk (place ++ [name]) fun way =>
          way = name :: rest.filter (fun name => !name.isHere) ∨ ways way)
        (Files.reporting path (Plan.ask (.writeFile path content))) later := by
    refine .attempt (.ask fun reply written answered => ⟨trivial, ?_⟩)
    cases reply with
    | error fault => trivial
    | ok =>
        have isRooted := rooted.answers answered stays rfl
        cases answered with
        | done opens =>
            refine isRooted.add ?_
            rintro way rfl
            exact enters.holdsRoot_of_openFile
              (rooted.confined.widen encloses (List.prefix_append _ _)) notHere
              notUp isNames isStart opens
  refine writes.bind fun _ written isRooted => ?_
  split
  · exact .pure isRooted
  · exact .throw trivial

omit stays in
/-- A directory that is made with all that it stands in stands at the root or below it. -/
theorem roots_makeDirectories
    (makes :
      ∀ steps above,
        above ∈ Files.lineage steps path →
        staysIn disk workingDirectory (place ++ [name])
          (.makeDirectory above) = true) :
    Roots disk workingDirectory (place ++ [name]) children
      (· = name :: rest.filter fun name => !name.isHere)
      (Files.reporting path (Files.makeDirectories path)) := by
  intro ways later rooted
  have keeps :
      Keeps (Disk.Answers workingDirectory children)
        (Rooted disk (place ++ [name]) ways) (Files.makeDirectories path) :=
    keeps_rooted
      (Files.makeDirectories_asksOnly (fun _ => staysIn_of_looks _ rfl) makes)
      (Files.makeDirectories_adds path)
  have both :=
    (keeps later rooted).and (Files.ensures_makeDirectories rooted.isTree)
  refine .attempt (both.mono (fun _ _ => trivial) ?_)
  rintro (fault | value) made ⟨isRooted, -, leadsTo⟩
  · trivial
  · refine isRooted.add ?_
    rintro way rfl
    rcases leadsTo rfl with isEmpty | ⟨left, there, leads, mode, stands⟩
    · have isNamed : name ∈ Path.empty.names := by
        rw [← isEmpty, isNames]
        simp
      have isText : name = .text "" := List.mem_singleton.mp isNamed
      simp [isText, Name.isHere] at notHere
    · have walks := leads.walks stands
      rw [isNames, isStart] at walks
      rcases enters.holdsRoot_or_missing
          (isRooted.confined.widen encloses (List.prefix_append _ _)) notHere
          notUp walks with
        holds | ⟨isMissing, -⟩
      · exact holds
      · simp at isMissing

end

/-! ## Tar -/

/-- A member of a tar archive that is a file or a directory with a text for a name, or a header for all of them. -/
inductive IsOrdinary (member : Tar.Member) : Prop where
  | entry
      (text : List Char)
      (isName : member.name = Text.Utf8.encode text)
      (isFileOrDirectory : member.kind ≠ 0x31 ∧ member.kind ≠ 0x32)
      (notHeader :
        member.kind ≠ Tar.globalKind ∧ member.kind ≠ Tar.extendedKind ∧
          member.kind ≠ Tar.longNameKind ∧ member.kind ≠ Tar.longLinkKind)
  | header
      (isGlobal : member.kind = Tar.globalKind)
      (isShort :
        ∀ names, namesOf? member.name = some names → names.length ≤ 1)

/-- A header for all members leaves the disk alone. -/
theorem unpackMember_looks
    {member : Tar.Member}
    (isGlobal : member.kind = Tar.globalKind)
    (isShort :
      ∀ names, namesOf? member.name = some names → names.length ≤ 1) :
    (unpackMember directory member).run.AsksOnly Action.looks := by
  unfold unpackMember
  split
  · exact .done _
  · exact .done _
  · rename_i names notNil isNames
    obtain ⟨name, rfl⟩ : ∃ name, names = [name] := by
      refine List.length_eq_one_iff.mp (Nat.le_antisymm (isShort _ isNames) ?_)
      exact List.length_pos_iff.mpr notNil
    refine .bindProcedure (.done _) fun _ => ?_
    refine .bindProcedure (requireInside_asksOnly (fun _ => id) _ _) fun _ => ?_
    rw [unpackAt, isGlobal]
    exact .done _

section

variable {target : Path}
variable {left : Nat}
variable {name : Name}
variable (encloses : disk.Encloses place)
variable (isDirectory : disk.HasDirectory place)
variable (notHere : name.isHere = false)

include encloses isDirectory notHere

/-- A file or a directory that is unpacked stands at the root that its names start with. -/
theorem roots_unpackMember
    {rest : List Name}
    {member : Tar.Member}
    (enters : disk.Enters workingDirectory directory place)
    (isNames : namesOf? member.name = some (name :: rest))
    (isFileOrDirectory : member.kind ≠ 0x31 ∧ member.kind ≠ 0x32)
    (notHeader :
      member.kind ≠ Tar.globalKind ∧ member.kind ≠ Tar.extendedKind ∧
        member.kind ≠ Tar.longNameKind ∧ member.kind ≠ Tar.longLinkKind) :
    Roots disk workingDirectory (place ++ [name]) children (· = name :: rest)
      (unpackMember directory member) := by
  have areNamed := areNamed_of_namesOf? isNames
  have isWay : rest.filter (fun name => !name.isHere) = rest :=
    List.filter_eq_self.mpr fun other isOther => by
      simp [(areNamed other (.tail _ isOther)).1]
  have keepsTo :
      disk.KeepsTo workingDirectory directory (place ++ [name])
        (name :: rest) := by
    refine enters.keepsTo_root isDirectory encloses
      (fun other isOther => (areNamed other isOther).2) ?_ (Nat.le_refl 1)
    simp [notHere]
  have stays := staysIn_below_of_keepsTo isNames keepsTo (by simp)
  obtain ⟨isPath, isStart⟩ :
      (below directory (name :: rest)).names =
          directory.way ++ name :: rest ∧
        ∀ here,
          (below directory (name :: rest)).start here =
            directory.start here := by
    obtain ⟨before, last, isConcat⟩ :
        ∃ before last, name :: rest = before ++ [last] :=
      ⟨_, _, (List.dropLast_concat_getLast (List.cons_ne_nil name rest)).symm⟩
    rw [isConcat, ← List.append_assoc]
    refine names_below_concat directory before last fun other isOther => ?_
    exact (areNamed other (isConcat ▸ List.mem_append_left _ isOther)).1
  have notUp := (areNamed name (.head _)).2
  have unpacksAt :
      Roots disk workingDirectory (place ++ [name]) children (· = name :: rest)
        (unpackAt directory (below directory (name :: rest)) member) := by
    have unpacksDirectory :
        Roots disk workingDirectory (place ++ [name]) children _
          (unpackDirectory (below directory (name :: rest)) member) :=
      roots_unpackDirectory enters encloses notHere notUp isPath (isStart _)
        stays member
    have unpacksFile :
        Roots disk workingDirectory (place ++ [name]) children _
          (unpackFile (below directory (name :: rest)) member) :=
      roots_unpackFile enters encloses notHere notUp isPath (isStart _) stays
        member
    rw [isWay] at unpacksDirectory unpacksFile
    unfold unpackAt
    split
    · exact unpacksDirectory
    · rw [if_neg isFileOrDirectory.1, if_neg isFileOrDirectory.2,
        if_neg (by simp [notHeader])]
      split
      · exact unpacksDirectory
      · exact unpacksFile
  have makesWay :
      Roots disk workingDirectory (place ++ [name]) children (fun _ => False)
        (makeWay directory directory (name :: rest).dropLast) :=
    .of_adds (makeWay_of_keepsTo isNames keepsTo)
      (makeWay_asksOnly (fun _ => Action.adds_of_looks) _
        fun _ _ _ _ _ => rfl)
  have looksInside (path : Path) :
      Roots disk workingDirectory (place ++ [name]) children (fun _ => False)
        (requireInside directory path) :=
    .of_adds (requireInside_asksOnly staysIn_of_looks _ _)
      (requireInside_asksOnly (fun _ => Action.adds_of_looks) _ _)
  unfold unpackMember
  rw [isNames]
  dsimp only
  refine (makesWay.bind fun _ => (looksInside _).bind fun _ => unpacksAt).mono ?_
  exact fun way isWay => Or.inl (Or.inl isWay)

end

/-- A name leads through the part before its first slash. -/
theorem exists_wayOf_eq
    {name top : List Char}
    (notHere : (Name.text (String.ofList top)).isHere = false)
    (isTop : topSegment name = top) :
    ∃ rest, wayOf name = .text (String.ofList top) :: rest := by
  obtain ⟨rest, isSegments⟩ := exists_segments_eq name
  rw [isTop] at isSegments
  rw [wayOf, isSegments, List.filter_cons_of_pos (by simp [notHere])]
  exact ⟨_, rfl⟩

/-- Names of a text with a top directory lead through that directory, unless the text is empty. -/
theorem wayOf_of_top
    {name top : List Char}
    (notHere : (Name.text (String.ofList top)).isHere = false)
    (isTop : name ≠ [] → topSegment name = top) :
    wayOf name = [] ∨
      ∃ rest, wayOf name = .text (String.ofList top) :: rest := by
  by_cases isNil : name = []
  · subst isNil
    exact Or.inl rfl
  · exact Or.inr (exists_wayOf_eq notHere (isTop isNil))

/-- The names that a member of a tar archive leads through; a header leads nowhere. -/
def wayOfMember (member : Tar.Member) : List Name :=
  if member.kind = Tar.globalKind then
    []
  else
    wayOf (Text.Utf8.decodeReplacing member.name)

section

variable {archive target : Path}
variable {top : List Char}
variable (isDirectory : disk.HasDirectory place)
variable (encloses : disk.Encloses place)
variable (notHere : (Name.text (String.ofList top)).isHere = false)

include isDirectory encloses notHere

/-- A member of a tar archive with a top directory stands at that directory once it is unpacked. -/
theorem roots_ordinaryMember
    {members : List Tar.Member}
    (enters : disk.Enters workingDirectory directory place)
    (areSafe : (Contents.tar members).names.filter isUnsafe = [])
    (isTop : topLevel? (Contents.tar members).names = some top)
    {member : Tar.Member}
    (isMember : member ∈ members)
    (isOrdinary : IsOrdinary member) :
    Roots disk workingDirectory (place ++ [.text (String.ofList top)]) children
      (· = wayOfMember member) (unpackMember directory member) := by
  cases isOrdinary with
  | header isGlobal isShort =>
      rw [wayOfMember, if_pos isGlobal]
      exact .of_looks (unpackMember_looks isGlobal isShort)
  | entry text isName isFileOrDirectory notHeader =>
      have isText : Text.Utf8.decodeReplacing member.name = text := by
        rw [isName, Text.Utf8.decodeReplacing_encode]
      have isListed : text ∈ (Contents.tar members).names :=
        List.mem_map.mpr
          ⟨member, List.mem_filter.mpr ⟨isMember, by simp [notHeader.1]⟩, isText⟩
      have isSafe : isUnsafe text = false := by
        simpa using List.filter_eq_nil_iff.mp areSafe text isListed
      have isNames : namesOf? member.name = some (wayOf text) := by
        rw [isName, namesOf?_encode isSafe]
      rw [wayOfMember, if_neg notHeader.1, isText]
      rcases wayOf_of_top notHere
          ((topLevel?_eq_some_iff.mp isTop).2 text isListed) with
        isNil | ⟨rest, isCons⟩
      · rw [isNil] at isNames ⊢
        refine .of_looks ?_
        rw [unpackMember, isNames]
        exact .done _
      · rw [isCons] at isNames ⊢
        exact roots_unpackMember encloses isDirectory notHere enters isNames
          isFileOrDirectory notHeader

variable {left : Nat}
variable (tree : disk.IsTree)
variable (leads : disk.LeadsTo workingDirectory target left place)
variable (isOwn : disk.Encloses (place ++ [.text (String.ofList top)]))

include tree leads isOwn

/-- Once a tar archive is unpacked, what its names lead to stands at their root. -/
theorem rooted_unpackTar
    {members : List Tar.Member}
    (areOrdinary : ∀ member ∈ members, IsOrdinary member)
    (areSafe : (Contents.tar members).names.filter isUnsafe = [])
    (isTop : topLevel? (Contents.tar members).names = some top) :
    Upholds (Disk.Answers workingDirectory children) (fun _ => True)
      (fun _ => Rooted disk (place ++ [.text (String.ofList top)])
        fun way => ∃ name ∈ (Contents.tar members).names, way = wayOf name)
      (unpackTar target members) disk := by
  refine .bindLift ((ensures_realOrSame tree leads isDirectory).mono
    (fun _ _ => trivial) ?_)
  rintro directory after ⟨isSame, enters⟩
  subst after
  have rooted :
      Rooted disk (place ++ [.text (String.ofList top)]) (fun _ => False) disk :=
    ⟨tree, .refl isOwn, fun _ => False.elim⟩
  have unpacks
      (chosen : List Tar.Member)
      (areMembers : ∀ member ∈ chosen, member ∈ members) :
      Roots disk workingDirectory (place ++ [.text (String.ofList top)]) children
        (fun other => ∃ member ∈ chosen, other = wayOfMember member)
        (unpackMembers directory chosen) :=
    .each rfl (fun _ _ => rfl) fun member isChosen =>
      roots_ordinaryMember isDirectory encloses notHere enters areSafe isTop
        (areMembers member isChosen)
        (areOrdinary member (areMembers member isChosen))
  have isOneOf (member : Tar.Member) :
      member ∈ deepestFirst members ↔
        member ∈ members ∧ isDirectoryMember member = true := by
    rw [deepestFirst, List.mem_mergeSort, List.mem_filter]
  have unpacksFiles :=
    unpacks (members.filter fun member => !isDirectoryMember member)
      fun member isFile => (List.mem_filter.mp isFile).1
  have unpacksDirectories :=
    unpacks (deepestFirst members) fun member isOne => ((isOneOf member).mp isOne).1
  have unpacksAll := unpacksFiles.bind fun _ => unpacksDirectories
  refine (unpacksAll _ _ rooted).mono fun _ last isRooted =>
    ⟨isRooted.isTree, isRooted.confined, ?_⟩
  rintro way ⟨name, isName, rfl⟩
  obtain ⟨member, isMember, rfl⟩ := List.mem_map.mp isName
  obtain ⟨isMember, notGlobal⟩ := List.mem_filter.mp isMember
  have isWay :
      wayOf (Text.Utf8.decodeReplacing member.name) = wayOfMember member := by
    rw [wayOfMember, if_neg (by simpa using notGlobal)]
  refine isRooted.holds _ (Or.inl ?_)
  by_cases isOne : isDirectoryMember member = true
  · exact Or.inl ⟨member, (isOneOf member).mpr ⟨isMember, isOne⟩, isWay⟩
  · exact Or.inr
      ⟨member, List.mem_filter.mpr ⟨isMember, by simpa using isOne⟩, isWay⟩

end

/-! ## Zip -/

section

variable {archive target : Path}
variable {bytes : Bytes}
variable {member : Zip.Member}
variable (enters : disk.Enters workingDirectory target place)
variable (isDirectory : disk.HasDirectory place)
variable (encloses : disk.Encloses place)

include enters isDirectory encloses

/-- A member that is unpacked stands at the root that its names start with. -/
theorem roots_unpackZipMember
    {name : Name}
    {rest : List Name}
    (notHere : name.isHere = false)
    (isSafe : isUnsafe member.name = false)
    (isSegments :
      (Path.ofString (String.ofList member.name)).segments = name :: rest) :
    Roots disk workingDirectory (place ++ [name]) children
      (· = wayOf member.name)
      (unpackZipMember archive target bytes member) := by
  have isWay :
      wayOf member.name = name :: rest.filter fun name => !name.isHere := by
    rw [wayOf, isSegments, List.filter_cons_of_pos (by simp [notHere])]
  have noUps := notUp_of_isSafe isSafe
  rw [isSegments] at noUps
  have notUp := noUps name (.head _)
  have keepsTo :
      disk.KeepsTo workingDirectory target (place ++ [name]) (name :: rest) :=
    enters.keepsTo_root isDirectory encloses noUps (by simp [notHere])
      (Nat.le_refl 1)
  unfold unpackZipMember
  split
  · exact fun _ _ _ => .throw trivial
  · exact fun _ _ _ => .throw trivial
  · rename_i content isWhole _
    split
    · rename_i enclosed
      have isPath :
          (target / String.ofList member.name).names =
            target.way ++ name :: rest :=
        isSegments ▸ Path.names_join target (isRelative_of_isEnclosed enclosed)
      have isStart :=
        Path.start_join target (isRelative_of_isEnclosed enclosed)
          workingDirectory
      have stays :
          disk.StaysIn workingDirectory (place ++ [name])
            (target / String.ofList member.name) :=
        keepsTo.stays _ (by simp) isPath isStart
      have makes
          (steps : Nat)
          (above : Path)
          (isAbove :
            above ∈ Files.lineage steps (target / String.ofList member.name)) :
          staysIn disk workingDirectory (place ++ [name])
            (.makeDirectory above) = true :=
        staysIn_iff.mpr
          (keepsTo.missesIn_of_mem_lineage isAbove List.prefix_rfl (by simp)
            (isPath.trans (List.append_nil _).symm) isStart)
      have changes (mode : Nat) :
          staysIn disk workingDirectory (place ++ [name])
              (.changeMode (target / String.ofList member.name) mode) =
            true :=
        staysIn_iff.mpr stays
      rw [isWay]
      dsimp only
      split
      · exact roots_makeDirectories enters encloses notHere notUp isPath isStart
          makes
      · have makesParents :
            Roots disk workingDirectory (place ++ [name]) children
              (fun _ => False)
              (Files.makeParents (target / String.ofList member.name)) :=
          .of_adds
            (Files.makeParents_asksOnly (fun _ => staysIn_of_looks _ rfl) makes)
            (Files.makeParents_asksOnly (fun _ => rfl) fun _ _ _ => rfl)
        have writes :
            Roots disk workingDirectory (place ++ [name]) children _
              (unpackContent (target / String.ofList member.name) content
                isWhole) :=
          roots_unpackContent enters encloses notHere notUp isPath isStart stays
            content isWhole
        refine (makesParents.bind fun _ => writes.bind fun _ =>
          (?_ : Roots disk workingDirectory (place ++ [name]) children
            (fun _ => False) _)).mono ?_
        · split
          · exact .of_adds ((AsksOnly.ask (changes _)).attempt _)
              ((AsksOnly.ask rfl).attempt _)
          · exact .of_adds (.done _) (.done _)
        · exact fun way isOne => Or.inl (Or.inr isOne)
    · exact fun _ _ _ => .throw trivial

omit encloses in
/-- A member without a name cannot be unpacked: its path leads to the target itself. -/
theorem fails_unpackZipMember
    (confined : disk.Confined later place)
    (isNil : member.name = []) :
    Upholds (Disk.Answers workingDirectory children) (fun _ => True)
      (fun _ _ => False) (unpackZipMember archive target bytes member)
      later := by
  have notDirectory : member.isDirectory = false := by
    simp [Zip.Member.isDirectory, isNil]
  have isPath :
      (target / String.ofList member.name).names =
        target.way ++ [.text ""] := by
    rw [isNil]
    exact Path.names_join target rfl
  have isStart :
      (target / String.ofList member.name).start workingDirectory =
        target.start workingDirectory := by
    rw [isNil]
    exact Path.start_join target rfl _
  have makesParents :
      Keeps (Disk.Answers workingDirectory children)
        (fun made => disk.Confined made place)
        (Files.makeParents (target / String.ofList member.name)).run :=
    keeps_confined (Files.makeParents_asksOnly
      (fun _ => staysIn_of_looks _ rfl) fun steps above isAbove =>
        staysIn_iff.mpr
          (enters.missesIn_of_mem_lineage (by simp [Name.isUp]) isAbove
            List.prefix_rfl (by simp)
            (isPath.trans (List.append_nil _).symm) isStart))
  have writesNothing
      (content : Bytes)
      (made : Disk)
      (isConfined : disk.Confined made place) :
      Upholds (Disk.Answers workingDirectory children) (fun _ => True)
        (fun _ _ => False)
        (Files.reporting (target / String.ofList member.name)
          (Plan.ask (.writeFile (target / String.ofList member.name) content)))
        made := by
    refine .attempt (.ask fun reply written answered => ⟨trivial, ?_⟩)
    cases reply with
    | error fault => trivial
    | ok =>
        cases answered with
        | done opens =>
            exact enters.not_openFile isDirectory isConfined isPath isStart opens
  unfold unpackZipMember
  split
  · exact .throw trivial
  · exact .throw trivial
  · rename_i content isWhole _
    split
    · dsimp only
      rw [if_neg (by simp [notDirectory])]
      refine (makesParents.upholds confined fun _ _ => trivial).bind
        fun _ made isConfined => ?_
      exact ((writesNothing content made isConfined).bind
        fun _ _ => False.elim).bind fun _ _ => False.elim
    · exact .throw trivial

end

section

variable {archive target : Path}
variable {left : Nat}
variable {top : List Char}
variable {contents : Contents}
variable (tree : disk.IsTree)
variable (leads : disk.LeadsTo workingDirectory target left place)
variable (isDirectory : disk.HasDirectory place)
variable (encloses : disk.Encloses place)
variable (isOwn : disk.Encloses (place ++ [.text (String.ofList top)]))
variable (notHere : (Name.text (String.ofList top)).isHere = false)

include tree leads isDirectory encloses isOwn notHere

/-- Once a zip archive is unpacked, what its names lead to stands at their root. -/
theorem rooted_unpackZip
    {bytes : Bytes}
    {members : List Zip.Member}
    (areSafe : (Contents.zip bytes members).names.filter isUnsafe = [])
    (isTop : topLevel? (Contents.zip bytes members).names = some top) :
    Upholds (Disk.Answers workingDirectory children) (fun _ => True)
      (fun _ => Rooted disk (place ++ [.text (String.ofList top)])
        fun way =>
          ∃ name ∈ (Contents.zip bytes members).names, way = wayOf name)
      (unpackZip archive target bytes members) disk := by
  have enters := Disk.enters_of_leadsTo leads isDirectory
  have isListed (member : Zip.Member) (isMember : member ∈ members) :
      member.name ∈ (Contents.zip bytes members).names :=
    List.mem_eraseDups.mpr (List.mem_map_of_mem isMember)
  have roots :
      Roots disk workingDirectory (place ++ [.text (String.ofList top)]) children
        (fun other => ∃ member ∈ members, other = wayOf member.name)
        (unpackZip archive target bytes members) := by
    refine .each rfl (fun _ _ => rfl) fun member isMember => ?_
    by_cases isNil : member.name = []
    · intro ways later rooted
      have confined :=
        rooted.confined.widen encloses (List.prefix_append _ _)
      exact (fails_unpackZipMember enters isDirectory confined isNil).mono
        fun _ _ => False.elim
    · have isSafe : isUnsafe member.name = false := by
        simpa using
          List.filter_eq_nil_iff.mp areSafe member.name (isListed member isMember)
      obtain ⟨rest, isSegments⟩ := exists_segments_eq member.name
      rw [(topLevel?_eq_some_iff.mp isTop).2 _ (isListed member isMember) isNil]
        at isSegments
      exact roots_unpackZipMember enters isDirectory encloses notHere isSafe
        isSegments
  have rooted :
      Rooted disk (place ++ [.text (String.ofList top)]) (fun _ => False) disk :=
    ⟨tree, .refl isOwn, fun _ => False.elim⟩
  refine (roots _ _ rooted).mono fun _ last isRooted =>
    ⟨isRooted.isTree, isRooted.confined, ?_⟩
  rintro way ⟨name, isName, rfl⟩
  obtain ⟨member, isMember, rfl⟩ :=
    List.mem_map.mp (List.mem_eraseDups.mp isName)
  exact isRooted.holds _ (Or.inl ⟨member, isMember, rfl⟩)

/-- Once an archive is unpacked, what its names lead to stands at their root. -/
theorem rooted_unpack
    (areOrdinary :
      ∀ members,
        contents = .tar members → ∀ member ∈ members, IsOrdinary member)
    (areSafe : contents.names.filter isUnsafe = [])
    (isTop : topLevel? contents.names = some top) :
    Upholds (Disk.Answers workingDirectory children) (fun _ => True)
      (fun _ => Rooted disk (place ++ [.text (String.ofList top)])
        fun way => ∃ name ∈ contents.names, way = wayOf name)
      (contents.unpack archive target) disk := by
  cases contents with
  | zip bytes members =>
      exact rooted_unpackZip tree leads isDirectory encloses isOwn notHere
        areSafe isTop
  | tar members =>
      exact (rooted_unpackTar isDirectory encloses notHere tree leads isOwn
        (areOrdinary members rfl) areSafe isTop).adapt _

end

/-! ## The root that is told -/

/-- The root that is told of members with some names in a target. -/
def rootOf (target : Path) (names : List (List Char)) : Path :=
  match topLevel? names with
  | some top => target / String.ofList top
  | none => target

/-- The names that lead from a target to the root of members with some names. -/
def wayToRoot (names : List (List Char)) : List Name :=
  match topLevel? names with
  | some top => wayOf top
  | none => []

/-- The root of safe names is their target, or one name in it. -/
theorem wayToRoot_cases
    {names : List (List Char)}
    (areSafe : names.filter isUnsafe = []) :
    wayToRoot names = [] ∨
      ∃ top,
        topLevel? names = some top ∧
          (Name.text (String.ofList top)).isHere = false ∧
            wayToRoot names = [.text (String.ofList top)] := by
  unfold wayToRoot
  split
  · rename_i top isTop
    have isWay :
        wayOf top =
          [Name.text (String.ofList top)].filter fun name => !name.isHere := by
      rw [wayOf, ofString_of_not_mem (topLevel?_eq_some areSafe isTop).2]
      rfl
    rw [isWay]
    cases isHere : (Name.text (String.ofList top)).isHere with
    | true => exact Or.inl (List.filter_eq_nil_iff.mpr (by simp [isHere]))
    | false =>
        exact Or.inr
          ⟨top, isTop, isHere, List.filter_eq_self.mpr (by simp [isHere])⟩
  · exact Or.inl rfl

/--
Members with some names have been extracted at a root: something stands there, a directory if the names lead to two
places, and nothing has changed elsewhere.
-/
structure Extracted
    (made last : Disk)
    (root : Location)
    (names : List (List Char)) :
    Prop where
  stands : ∃ entry, last.get? root = some entry
  isDirectory :
    ∀ first ∈ names,
      ∀ second ∈ names,
        wayOf first ≠ [] →
        wayOf second ≠ [] →
        wayOf first ≠ wayOf second →
        last.HasDirectory root
  elsewhere :
    ∀ location,
      ¬root <+: location →
      last.get? location = made.get? location

section

variable {last : Disk}
variable {archive target : Path}
variable {names : List (List Char)}
variable {contents : Contents}

/-- Members have been extracted at the root that they share once what their names lead to stands there. -/
theorem Rooted.extracted
    {top : List Char}
    (rooted :
      Rooted disk root (fun way => ∃ name ∈ names, way = wayOf name) last)
    (notHere : (Name.text (String.ofList top)).isHere = false)
    (isTop : topLevel? names = some top) :
    Extracted disk last root names := by
  have holds (name : List Char) (isName : name ∈ names) :
      last.HoldsRoot root (wayOf name) :=
    rooted.holds _ ⟨name, isName, rfl⟩
  obtain ⟨⟨name, isName, notNil⟩, areTop⟩ := topLevel?_eq_some_iff.mp isTop
  refine ⟨?_, ?_, rooted.confined.elsewhere⟩
  · obtain ⟨rest, isWay⟩ := exists_wayOf_eq notHere (areTop name isName notNil)
    exact (holds name isName).stands (by simp [isWay])
  · intro first isFirst second isSecond leadsFirst leadsSecond areTwo
    obtain ⟨rest, isWay⟩ :=
      (wayOf_of_top notHere (areTop first isFirst)).resolve_left leadsFirst
    obtain ⟨rest', isWay'⟩ :=
      (wayOf_of_top notHere (areTop second isSecond)).resolve_left leadsSecond
    -- Of two ways through the same directory, one goes on from there.
    by_cases isNil : rest = []
    · refine (holds second isSecond).isDirectory ?_
      have notNil : rest' ≠ [] := by
        rintro rfl
        exact areTwo (by rw [isWay, isWay', isNil])
      simpa [isWay'] using List.length_pos_iff.mpr notNil
    · refine (holds first isFirst).isDirectory ?_
      simpa [isWay] using List.length_pos_iff.mpr isNil

/-- Members have been extracted at a directory if nothing has changed outside of it. -/
theorem extracted_of_confined
    (isDirectory : disk.HasDirectory place)
    (confined : disk.Confined last place) :
    Extracted disk last place names where
  stands := ⟨_, (confined.directories place isDirectory).choose_spec⟩
  isDirectory _ _ _ _ _ _ _ := confined.directories place isDirectory
  elsewhere := confined.elsewhere

/-- Once an archive is unpacked, its members have been extracted at their root. -/
theorem upholds_unpackContents
    {left : Nat}
    (tree : disk.IsTree)
    (leads : disk.LeadsTo workingDirectory target left place)
    (isDirectory : disk.HasDirectory place)
    (encloses : ∀ inner, place <+: inner → disk.Encloses inner)
    (areOrdinary :
      ∀ members,
        contents = .tar members → ∀ member ∈ members, IsOrdinary member)
    (areSafe : contents.names.filter isUnsafe = []) :
    Upholds (Disk.Answers workingDirectory children) (fun _ => True)
      (fun _ last =>
        Extracted disk last (place ++ wayToRoot contents.names) contents.names)
      (contents.unpack archive target) disk := by
  have isOwn := encloses place List.prefix_rfl
  rcases wayToRoot_cases areSafe with isNil | ⟨top, isTop, notHere, isWay⟩
  · have areFilesOrDirectories
        (members : List Tar.Member)
        (isTar : contents = .tar members)
        (member : Tar.Member)
        (isMember : member ∈ members) :
        member.kind ≠ 0x31 ∧ member.kind ≠ 0x32 := by
      cases areOrdinary members isTar member isMember with
      | header isGlobal => exact isGlobal ▸ by decide
      | entry _ _ isFileOrDirectory => exact isFileOrDirectory
    have unpacks :
        Ensures (Disk.Answers workingDirectory children) _ _
          (contents.unpack archive target).run disk :=
      ensures_unpackContents tree leads isDirectory isOwn areSafe
        areFilesOrDirectories
    rw [isNil, List.append_nil]
    refine ⟨unpacks.mono (fun _ _ => trivial) ?_⟩
    rintro (fault | value) last confined
    · trivial
    · exact extracted_of_confined isDirectory confined
  · have isOwnBelow :=
      encloses (place ++ [.text (String.ofList top)]) (List.prefix_append _ _)
    rw [isWay]
    exact (rooted_unpack tree leads isDirectory isOwn isOwnBelow notHere
      areOrdinary areSafe isTop).mono
        fun _ last isRooted => isRooted.extracted notHere isTop

variable {start : Disk}

/-- A path reads as an archive with some contents. -/
def ReadsAs
    (disk : Disk)
    (workingDirectory : Location)
    (archive : Path)
    (contents : Contents) :
    Prop :=
  ∃ bytes kind,
    disk.readFile workingDirectory archive = .ok bytes ∧
      Kind.ofName? archive.fileNameText = some kind ∧
        Contents.read? kind bytes = some contents

/--
The root that is told of an archive with members whose names are texts is there.  It is the target, or the one name
in it that all members share, and nothing has changed outside of it but that its target was made.
-/
theorem extract_extracted
    {path : Path}
    (tree : start.IsTree)
    (isDirectory : start.HasDirectory workingDirectory)
    (encloses :
      ∀ made left place inner,
        start.GainsWay made workingDirectory target →
        made.LeadsTo workingDirectory target left place →
        place <+: inner →
        start.Encloses inner)
    (areOrdinary :
      ∀ members,
        ReadsAs start workingDirectory archive (.tar members) →
        ∀ member ∈ members, IsOrdinary member)
    (run :
      Runs (Disk.Answers workingDirectory children)
        (extract archive target).run start last (some (.ok path))) :
    ∃ contents made left place,
      ReadsAs start workingDirectory archive contents ∧
        path = rootOf target contents.names ∧
        start.GainsWay made workingDirectory target ∧
        made.LeadsTo workingDirectory target left place ∧
        Extracted made last (place ++ wayToRoot contents.names)
          contents.names := by
  suffices
      Upholds (Disk.Answers workingDirectory children) (fun _ => True)
        (fun path last =>
          ∃ contents made left place,
            ReadsAs start workingDirectory archive contents ∧
              path = rootOf target contents.names ∧
              start.GainsWay made workingDirectory target ∧
              made.LeadsTo workingDirectory target left place ∧
              Extracted made last (place ++ wayToRoot contents.names)
                contents.names)
        (extract archive target) start from
    (this.of_runs run trivial).2 path rfl
  have reads
      (kind : Kind)
      (isKind : Kind.ofName? archive.fileNameText = some kind) :
      Upholds (Disk.Answers workingDirectory children) (fun _ => True)
        (fun contents after =>
          after = start ∧ ReadsAs start workingDirectory archive contents)
        (readContents kind archive) start := by
    refine .bindLift (.ask fun reply after answered => ⟨trivial, ?_⟩)
    obtain ⟨tells, isSame⟩ := answered
    subst after
    split
    · exact .throw trivial
    · exact .throw trivial
    · split
      · rename_i contents isRead
        exact .pure ⟨rfl, _, kind, tells.eq_ok, isKind, isRead⟩
      · exact .throw trivial
  unfold extract
  dsimp only
  split
  · exact .throw trivial
  · rename_i kind isKind
    refine (reads kind isKind).bind fun contents after ⟨isSame, readsAs⟩ => ?_
    subst after
    split
    · exact .throw trivial
    · rename_i areSafe
      have makes :
          Upholds (Disk.Answers workingDirectory children) (fun _ => True)
            (fun _ made =>
              made.IsTree ∧ start.GainsWay made workingDirectory target ∧
                ∃ left place,
                  made.LeadsTo workingDirectory target left place ∧
                    made.HasDirectory place)
            (Files.reporting target (Files.makeDirectories target)) start := by
        refine .attempt ((Files.ensures_makeDirectories tree).mono
          (fun _ _ => trivial) ?_)
        rintro (fault | value) made ⟨⟨isTree, gains⟩, leadsTo⟩
        · trivial
        · refine ⟨isTree, gains, ?_⟩
          rcases leadsTo rfl with rfl | leads
          · obtain ⟨mode, stands⟩ := isDirectory
            exact ⟨_, _, .arrived _ _, mode, gains.get? stands⟩
          · exact leads
      refine makes.bind fun _ made isMade => ?_
      obtain ⟨isTree, gains, left, place, leads, isMade⟩ := isMade
      have unpacks :
          Upholds (Disk.Answers workingDirectory children) _ _
            (contents.unpack archive target) made :=
        upholds_unpackContents isTree leads isMade
          (fun inner isInside => gains.encloses
            (encloses made left place inner gains leads isInside))
          (fun members isTar => areOrdinary members (isTar ▸ readsAs)) areSafe
      refine unpacks.bind fun _ last extracted => ?_
      split
      · rename_i isTop
        exact .pure ⟨contents, made, left, place, readsAs, by rw [rootOf, isTop],
          gains, leads, extracted⟩
      · rename_i isNone
        exact .pure ⟨contents, made, left, place, readsAs, by rw [rootOf, isNone],
          gains, leads, extracted⟩

end

example :
    ∃ contents made left place,
      ReadsAs letterDisk [] "/letter.zip" contents ∧
        "/box/new/f" = rootOf "/box/new" contents.names ∧
        letterDisk.GainsWay made [] "/box/new" ∧
        made.LeadsTo [] "/box/new" left place ∧
        Extracted made
          ((Host.ofDisk letterDisk).run
            (extract "/letter.zip" "/box/new").run).2.disk
          (place ++ wayToRoot contents.names) contents.names := by
  have run :=
    Host.runs_ofDisk (extract "/letter.zip" "/box/new").run letterDisk
  have isRoot :
      ((Host.ofDisk letterDisk).run
        (extract "/letter.zip" "/box/new").run).1 = .ok "/box/new/f" := by
    decide +kernel
  rw [isRoot] at run
  refine extract_extracted (Disk.isTree_of_entries (by decide +kernel))
    ⟨0o755, by decide +kernel⟩ (fun _ _ _ inner _ _ _ =>
      Disk.encloses_of_entries (by decide +kernel) inner) ?_ run
  rintro members ⟨bytes, kind, -, isKind, isRead⟩
  have isZip : Kind.ofName? (Path.fileNameText "/letter.zip") = some .zip := by
    decide +kernel
  obtain rfl := Option.some.inj (isZip.symm.trans isKind)
  simp [Contents.read?] at isRead

/-- A disk with a tar archive of one file in a directory whose name is no text. -/
def menuDisk : Disk :=
  ⟨[
    ([], .directory 0o755),
    ([.text "menu.tar"],
      .file {
        mode := 0o644
        content := Tar.write [([0xe9, 0x2f, 0x6d], [0x6e], 0o644)] })]⟩

/-- The root that is told of a directory whose name is no text is not there; the file is, by its own name. -/
theorem menu_lacks_root :
    ((Host.ofDisk menuDisk).run (extract "/menu.tar" "/box").run).1 =
        .ok "/box/\uFFFD" ∧
      ((Host.ofDisk menuDisk).run
            (extract "/menu.tar" "/box").run).2.disk.get?
          [.text "box", .text "\uFFFD"] = none ∧
      (((Host.ofDisk menuDisk).run
              (extract "/menu.tar" "/box").run).2.disk.get?
            [.text "box", .ofBytes [0xe9], .text "m"]).map Entry.size =
        some 1 :=
  ⟨by decide +kernel, by decide +kernel, by decide +kernel⟩

end Archive

end Provision
