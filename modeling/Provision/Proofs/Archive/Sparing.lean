import Provision.Proofs.Storage.Adding
import Provision.Proofs.Text.Fields

namespace Provision.Archive

/-!
# Archives that spare a mark

An archive is unpacked into a directory by adding to the disk, but for the files that a file of a tar
archive replaces.  It spares the mark of the directory if no member is unpacked in its place: neither by
the path of the mark nor by another one that leads there through a symbolic link.
-/

open Plan

/-! ## Archives -/

/-- A member of a tar archive is a file or a directory and is not unpacked in place of a mark. -/
structure SparesMember
    (disk : Disk)
    (place : Location)
    (member : Tar.Member) :
    Prop where
  isFileOrDirectory : member.kind ≠ 0x31 ∧ member.kind ≠ 0x32
  isBelow :
    ∀ names,
      namesOf? member.name = some names →
      names.getLast? = some markName →
      names.dropLast ≠ []
  noLinks :
    ∀ names,
      namesOf? member.name = some names →
      names.getLast? = some markName →
      ∀ first,
        first <+: names.dropLast →
        first ≠ [] →
        ∀ target, disk.get? (place ++ first) ≠ some (.link target)

/-- The members of an archive are not unpacked in place of a mark, nor in a directory of its name. -/
structure Contents.Spares
    (disk : Disk)
    (place : Location)
    (contents : Contents) :
    Prop where
  notTop : topLevel? contents.names ≠ some StorageName.installing.text.toList
  members :
    ∀ members,
      contents = .tar members →
      ∀ member ∈ members, SparesMember disk place member

/-! ## Paths of members -/

/-- Names below a directory go its way first. -/
theorem way_below
    (directory : Path)
    {names : List Name}
    (areNamed : ∀ name ∈ names, name.isHere = false) :
    (below directory names).way = directory.way ++ names ∧
      ∀ here, (below directory names).start here = directory.start here := by
  induction names generalizing directory with
  | nil => exact ⟨(List.append_nil _).symm, fun _ => rfl⟩
  | cons name rest inductionHypothesis =>
      have isNamed : name ≠ .text "" := by
        rintro rfl
        simpa [Name.isHere] using areNamed _ (.head _)
      obtain ⟨isWay, isStart⟩ :=
        inductionHypothesis (directory.child name)
          fun other member => areNamed other (.tail _ member)
      refine ⟨?_, fun here => ?_⟩
      · rw [below, List.foldl_cons, ← below, isWay,
          Path.way_child directory isNamed, List.append_assoc]
        rfl
      · rw [below, List.foldl_cons, ← below, isStart, Path.start_child]

/-- The last name below a directory is that of the path. -/
theorem names_below_concat
    (directory : Path)
    (before : List Name)
    (name : Name)
    (areNamed : ∀ name ∈ before, name.isHere = false) :
    (below directory (before ++ [name])).names =
        (directory.way ++ before) ++ [name] ∧
      ∀ here,
        (below directory (before ++ [name])).start here =
          directory.start here := by
  obtain ⟨isWay, isStart⟩ := way_below directory areNamed
  have isChild :
      below directory (before ++ [name]) =
        (below directory before).child name := by
    rw [below, List.foldl_append]
    rfl
  constructor
  · rw [isChild, Path.names_child, isWay]
  · intro here
    rw [isChild, Path.start_child, isStart]

/-- The names of a member stand for no directory. -/
theorem areNamed_of_namesOf?
    {name : Bytes}
    {names : List Name}
    (isNames : namesOf? name = some names) :
    ∀ name ∈ names, name.isHere = false ∧ name.isUp = false := by
  unfold namesOf? at isNames
  dsimp only at isNames
  split at isNames
  · simp at isNames
  · rename_i notUp
    obtain rfl := Option.some.inj isNames
    intro name member
    have notHere := (List.mem_filter.mp member).2
    simp only [Bool.not_eq_true, List.any_eq_false] at notUp
    exact ⟨by simpa using notHere, by simpa using notUp name member⟩

/-! ## The place of a directory -/

variable {workingDirectory place : Location}
variable {start first : Disk}
variable {directory : Path}

/-- A path leads to no directory but one, as long as a disk only grows. -/
def LeadsOnlyTo
    (first : Disk)
    (workingDirectory : Location)
    (directory : Path)
    (place : Location) :
    Prop :=
  ∀ disk left there,
    first.Grows disk →
    disk.LeadsTo workingDirectory directory left there →
    disk.HasDirectory there →
    there = place

/-- The path of a location has its names. -/
theorem way_pathOf
    {location : Location}
    (arePlain : ∀ name ∈ location, name.isPlain = true) :
    (Disk.pathOf location).way = location ∧
      ∀ here, (Disk.pathOf location).start here = [] := by
  cases location with
  | nil => exact ⟨rfl, fun _ => rfl⟩
  | cons name rest =>
      have isAbsolute : (Disk.pathOf (name :: rest)).isAbsolute = true := by
        rfl
      have notOpen : (Disk.pathOf (name :: rest)).endsOpen = false := by
        have isLast :
            (Disk.pathOf (name :: rest)).segments.getLast? =
              (name :: rest).getLast? :=
          List.getLast?_cons_cons
        rw [Path.endsOpen, isLast]
        by_contra isEmpty
        have member : Name.text "" ∈ name :: rest :=
          List.mem_of_getLast? (by simpa using isEmpty)
        have isPlain := arePlain _ member
        simp [Name.isPlain, Name.isHere] at isPlain
      refine ⟨?_, fun here => ?_⟩
      · rw [Path.way, notOpen, if_neg Bool.false_ne_true, Path.names,
          if_pos isAbsolute]
        rfl
      · rw [Path.start, if_pos isAbsolute]

/-- A path leads to no directory but the one in which the mark was made. -/
theorem leadsOnlyTo_self
    (marked : start.Marked workingDirectory directory place)
    (grows : start.Grows first) :
    LeadsOnlyTo first workingDirectory directory place :=
  fun _ _ _ grown leads isDirectory =>
    (marked.guarded (grows.trans grown)).eq_of_leadsTo marked leads isDirectory

/-- The path of the place of a directory leads to no directory but that place. -/
theorem leadsOnlyTo_pathOf
    (marked : start.Marked workingDirectory directory place)
    (arePlain : ∀ name ∈ directory.start workingDirectory, name.isPlain = true)
    (grows : start.Grows first)
    {location : Location}
    {entry : Entry}
    (finds :
      first.entryAt workingDirectory true directory = .ok (location, entry)) :
    LeadsOnlyTo first workingDirectory (Disk.pathOf location) place := by
  obtain ⟨-, walks⟩ :=
    Disk.locate_eq_ok_iff.mp (Disk.entryAt_eq_ok_iff.mp finds)
  obtain ⟨⟨left, leads⟩, stands⟩ := walks.leads
  have standing := marked.standing.grows grows
  have isPlain := leads.isPlain arePlain
  intro disk left' there grown leadsNow isDirectory
  rw [Disk.LeadsTo, (way_pathOf isPlain).1, (way_pathOf isPlain).2] at leadsNow
  have isLocation : there = location := by
    refine leadsNow.eq_append_of_no_links (fun name member => ?_)
      fun before isPrefix _ target => ?_
    · obtain ⟨-, -, -, notHere, notUp, -⟩ :=
        Disk.not_special_of_isPlain (isPlain name member)
      exact ⟨notHere, notUp⟩
    · rw [List.nil_append]
      intro isLink
      have wasLink := (grown before).eq_link_of_link isLink
      by_cases isWhole : before = location
      · subst isWhole
        exact leads.not_link standing directory.names_ne_nil target wasLink
      · obtain ⟨mode, stood⟩ :=
          leads.standing standing before isPrefix isWhole
        rw [stood] at wasLink
        simp at wasLink
  subst isLocation
  have wasDirectory : first.HasDirectory there := by
    obtain ⟨mode, isDirectory⟩ := isDirectory
    exact (grown there).directory stands isDirectory
  obtain ⟨left, leadsTo⟩ := Disk.leadsTo_of_leads leads
  exact (marked.guarded grows).eq_of_leadsTo marked leadsTo wasDirectory

/-! ## Files that are replaced -/

variable {disk removed after : Disk}
variable {path : Path}

/-- A file that is written where something was removed is made in its place. -/
theorem grows_of_replaced
    {before : List Name}
    {name : Name}
    (isNames : path.names = before ++ [name])
    (isNamed : name.isHere = false ∧ name.isUp = false)
    (grows : first.Grows disk)
    (removes : disk.removeFile workingDirectory path = .ok removed)
    {content : Bytes}
    (writes :
      removed.writeFile workingDirectory path content = .ok after) :
    first.Grows after := by
  obtain ⟨location, entry, finds, notDirectory, rfl⟩ :=
    Disk.removeFile_eq_ok removes
  have stood := Disk.get?_of_entryAt finds
  obtain ⟨left, there, leads, -, isFound⟩ :=
    Disk.exists_of_locate_named isNames isNamed.1 isNamed.2
      (Disk.entryAt_eq_ok_iff.mp finds)
  obtain ⟨rfl, -⟩ := Disk.Found.mk.inj isFound
  -- On what is left, the path leads to the place where something was removed.
  have isPlace
      {found : Disk.Found}
      (locates :
        (disk.erase (there ++ [name])).locate workingDirectory true path =
          .ok found) :
      found = ⟨there ++ [name], none⟩ :=
    Disk.eq_of_locate_erase isNames isNamed.1 isNamed.2 leads locates
  have fits (file : File) :
      Disk.Grown (first.get? (there ++ [name])) (some (.file file)) := by
    have grown := grows (there ++ [name])
    rw [stood] at grown
    rcases isFirst : first.get? (there ++ [name]) with
      - | (mode | other | target)
    · exact fun target => by simp
    · rw [isFirst] at grown
      obtain ⟨mode, isDirectory⟩ := grown
      obtain rfl := Option.some.inj isDirectory
      simp [Entry.isDirectory] at notDirectory
    · exact ⟨file, rfl⟩
    · exact Or.inr ⟨file, rfl⟩
  rcases Disk.openFile_eq_ok writes with
    ⟨location, locates, rfl⟩ | ⟨location, file, locates, -⟩
  · obtain ⟨rfl, -⟩ := Disk.Found.mk.inj (isPlace locates)
    intro other
    by_cases isSame : other = there ++ [name]
    · subst isSame
      rw [Disk.get?_set_self]
      exact fits _
    · rw [Disk.get?_set_of_ne _ _ isSame, Disk.get?_erase_of_ne _ isSame]
      exact grows other
  · have isFound := (Disk.Found.mk.inj (isPlace locates)).2
    simp at isFound

variable {step : Stepping Disk}
variable {children : Disk.Children}

section

variable (answersBy : Disk.AnswersBy workingDirectory children step)
variable (guarded : ∀ disk, first.Grows disk → start.Guarded place disk)

include answersBy guarded

/-- A file of a tar archive that is not unpacked in place of a mark spares it. -/
theorem sparesMark_unpackFile
    {before : List Name}
    {name : Name}
    (isNames : path.names = before ++ [name])
    (isNamed : name.isHere = false ∧ name.isUp = false)
    (notMark :
      ∀ disk location entry,
        first.Grows disk →
        disk.entryAt workingDirectory false path = .ok (location, entry) →
        location ≠ place ++ [markName])
    (member : Tar.Member) :
    SparesMark step start place first (unpackFile path member) := by
  have finishes : AsksOnly Action.adds
      (do
        setTime path member
        setMode path member : Unpacking Unit).run :=
    setTimeAndMode_asksOnly (fun _ => rfl) (fun _ => rfl) member
  intro disk grows
  refine .bindLift
    ((SparesMark.ensures_of_adds answersBy guarded (.ask rfl) grows).mono
      (fun _ => id) fun found seen grown => ?_)
  cases found with
  | error fault =>
      exact SparesMark.of_adds answersBy guarded
        (.bindProcedure ((AsksOnly.ask rfl).attempt _) fun _ => finishes)
        seen grown
  | ok status =>
      refine .bindProcedure (.attempt (.ask fun reply removed answered => ?_))
      have isGuarded := guarded seen grown
      cases answersBy _ _ _ _ answered with
      | refused | unchanged => exact ⟨isGuarded, isGuarded⟩
      | brokenOff _ partly => exact partly.elim
      | done removes =>
          obtain ⟨location, entry, finds, notDirectory, isErased⟩ :=
            Disk.removeFile_eq_ok removes
          have isMark : ∃ file,
              removed.get? (place ++ [markName]) = some (.file file) := by
            rw [isErased, Disk.get?_erase_of_ne _
              (notMark seen location entry grown finds).symm]
            exact isGuarded.mark
          have stillGuarded : start.Guarded place removed :=
            isGuarded.of_wears
              (isErased ▸
                Disk.wears_erase (Disk.get?_of_entryAt finds) notDirectory)
              isMark
          refine ⟨stillGuarded, ?_⟩
          refine .bindProcedure
            (.attempt (.ask fun reply written answered => ?_))
          cases answersBy _ _ _ _ answered with
          | refused | unchanged => exact ⟨stillGuarded, stillGuarded⟩
          | brokenOff _ partly =>
              obtain ⟨part, -, writes⟩ := partly
              have isWritten := guarded written
                (grows_of_replaced isNames isNamed grown removes writes)
              exact ⟨isWritten, isWritten⟩
          | done writes =>
              have isGrown :=
                grows_of_replaced isNames isNamed grown removes writes
              exact ⟨guarded written isGrown,
                SparesMark.of_adds answersBy guarded finishes written isGrown⟩

end

/-- A member that is not unpacked in place of a mark replaces no mark. -/
theorem ne_mark_of_sparesMember
    {target : Path}
    {member : Tar.Member}
    {before : List Name}
    {name : Name}
    (leadsOnly : LeadsOnlyTo first workingDirectory target place)
    (spares : SparesMember first place member)
    (isNames : namesOf? member.name = some (before ++ [name]))
    {location : Location}
    {entry : Entry}
    (grows : first.Grows disk)
    (finds :
      disk.entryAt workingDirectory false (below target (before ++ [name])) =
        .ok (location, entry)) :
    location ≠ place ++ [markName] := by
  have areNamed := areNamed_of_namesOf? isNames
  have areNamedBefore :
      ∀ other ∈ before, other.isHere = false ∧ other.isUp = false :=
    fun other member => areNamed other (List.mem_append_left _ member)
  have isNamed := areNamed name (by simp)
  obtain ⟨isPath, isStart⟩ :=
    names_below_concat target before name fun other member =>
      (areNamedBefore other member).1
  obtain ⟨left, there, leads, -, isFound⟩ :=
    Disk.exists_of_locate_named isPath isNamed.1 isNamed.2
      (Disk.entryAt_eq_ok_iff.mp finds)
  rw [isStart] at leads
  obtain ⟨rfl, -⟩ := Disk.Found.mk.inj isFound
  intro isMark
  obtain ⟨rfl, isName⟩ := List.append_singleton_inj.mp isMark
  have isLast : (before ++ [name]).getLast? = some markName := by
    rw [List.getLast?_concat, isName]
  have isDropped : (before ++ [name]).dropLast = before :=
    List.dropLast_concat
  have notNil := spares.isBelow _ isNames isLast
  have noLinks := spares.noLinks _ isNames isLast
  rw [isDropped] at notNil noLinks
  -- The names before the last one lead down from the directory, and so away from it.
  obtain ⟨middle, between, leadsFirst, leadsOn⟩ :=
    Disk.leads_of_leads_append leads
  have isDirectory : disk.HasDirectory between := by
    cases leadsOn with
    | arrived => exact absurd rfl notNil
    | step steps => exact steps.hasDirectory
  obtain rfl := leadsOnly disk middle between grows leadsFirst isDirectory
  have isBelow :=
    leadsOn.eq_append_of_no_links areNamedBefore
      fun above isPrefix isAbove linkTarget isLink =>
        noLinks above isPrefix isAbove linkTarget
          ((grows _).eq_link_of_link isLink)
  exact notNil (List.append_right_eq_self.mp isBelow.symm)

section

variable {target : Path}
variable (answersBy : Disk.AnswersBy workingDirectory children step)
variable (guarded : ∀ disk, first.Grows disk → start.Guarded place disk)
variable (leadsOnly : LeadsOnlyTo first workingDirectory target place)

include answersBy guarded leadsOnly

/-- A member of a tar archive that is not unpacked in place of a mark spares it. -/
theorem sparesMark_unpackMember
    {member : Tar.Member}
    (spares : SparesMember first place member) :
    SparesMark step start place first (unpackMember target member) := by
  have looks (action : Action) : action.looks = true → action.adds = true :=
    Action.adds_of_looks
  unfold unpackMember
  split
  · exact .of_adds answersBy guarded (.done _)
  · exact .of_adds answersBy guarded (.done _)
  · rename_i names notNil isNames
    refine .bind
      (.of_adds answersBy guarded
        (makeWay_asksOnly looks _ fun _ _ _ _ _ => rfl)) fun _ => ?_
    refine .bind
      (.of_adds answersBy guarded (requireInside_asksOnly looks _ _))
      fun _ => ?_
    obtain ⟨before, name, rfl⟩ : ∃ before name, names = before ++ [name] := by
      rcases List.eq_nil_or_concat names with rfl | ⟨before, name, isConcat⟩
      · exact absurd rfl notNil
      · exact ⟨before, name, by simpa using isConcat⟩
    have areNamed := areNamed_of_namesOf? isNames
    have isNamed := areNamed name (by simp)
    obtain ⟨isPath, -⟩ :=
      names_below_concat target before name fun other member =>
        (areNamed other (List.mem_append_left _ member)).1
    have unpacksFile :=
      sparesMark_unpackFile answersBy guarded isPath isNamed
        (fun _ _ _ grows finds =>
          ne_mark_of_sparesMember leadsOnly spares isNames grows finds)
        member
    have unpacksDirectory :
        SparesMark step start place first
          (unpackDirectory (below target (before ++ [name])) member) :=
      .of_adds answersBy guarded
        (unpackDirectory_asksOnly looks rfl (fun _ => rfl) _)
    unfold unpackAt
    split
    · exact unpacksDirectory
    · rw [if_neg spares.isFileOrDirectory.1, if_neg spares.isFileOrDirectory.2]
      split
      · exact .of_adds answersBy guarded (.done _)
      · split
        · exact unpacksDirectory
        · exact unpacksFile

/-- Members of a tar archive that are not unpacked in place of a mark spare it. -/
theorem sparesMark_unpackMembers
    {members : List Tar.Member}
    (spares : ∀ member ∈ members, SparesMember first place member) :
    SparesMark step start place first (unpackMembers target members) := by
  induction members with
  | nil => exact .of_adds answersBy guarded (.done _)
  | cons member rest inductionHypothesis =>
      exact .bind
        (sparesMark_unpackMember answersBy guarded leadsOnly
          (spares member (.head _)))
        fun _ =>
          inductionHypothesis fun other member =>
            spares other (.tail _ member)

end

/-! ## Whole archives -/

/-- A member that spares a mark spares it once the disk has grown. -/
theorem SparesMember.grows
    {member : Tar.Member}
    (spares : SparesMember first place member)
    (grows : first.Grows disk) :
    SparesMember disk place member where
  isFileOrDirectory := spares.isFileOrDirectory
  isBelow := spares.isBelow
  noLinks := fun names isNames isLast above isPrefix notNil target isLink =>
    spares.noLinks names isNames isLast above isPrefix notNil target
      ((grows _).eq_link_of_link isLink)

/-- What spares a mark from a later disk on spares it from an earlier one. -/
theorem ensures_of_later
    {ε α : Type}
    {procedure : Procedure ε α}
    (grows : first.Grows disk)
    (spares : SparesMark step start place disk procedure) :
    Ensures step (start.Guarded place)
      (ending
        (fun _ last => first.Grows last)
        (fun _ last => start.Guarded place last))
      procedure.run disk := by
  refine (spares disk (.refl disk)).mono (fun _ => id) ?_
  intro outcome last
  cases outcome with
  | ok value => exact grows.trans
  | error fault => exact id

section

variable (answersBy : Disk.AnswersBy workingDirectory children step)
variable (marked : start.Marked workingDirectory directory place)
variable
  (arePlain : ∀ name ∈ directory.start workingDirectory, name.isPlain = true)

include answersBy marked arePlain

/-- A tar archive whose members are not unpacked in place of a mark spares it. -/
theorem sparesMark_unpackTar
    (grows : start.Grows first)
    {members : List Tar.Member}
    (spares : ∀ member ∈ members, SparesMember first place member) :
    SparesMark step start place first (unpackTar directory members) := by
  intro disk grown
  have reached := grows.trans grown
  have guarded : ∀ later, disk.Grows later → start.Guarded place later :=
    fun later growsOn => marked.guarded (reached.trans growsOn)
  have unpacks
      (target : Path)
      (leadsOnly : LeadsOnlyTo disk workingDirectory target place) :
      SparesMark step start place disk (do
        unpackMembers target
          (members.filter fun member => !isDirectoryMember member)
        unpackMembers target (deepestFirst members)) := by
    refine .bind ?_ fun _ => ?_
    · refine sparesMark_unpackMembers answersBy guarded leadsOnly
        fun member isMember => ?_
      exact (spares member (List.mem_filter.mp isMember).1).grows grown
    · refine sparesMark_unpackMembers answersBy guarded leadsOnly
        fun member isMember => ?_
      rw [deepestFirst, List.mem_mergeSort] at isMember
      exact (spares member (List.mem_filter.mp isMember).1).grows grown
  refine .bindLift (.bind (.ask fun reply after answered => ?_))
  obtain ⟨tells, rfl⟩ := answersBy _ _ _ _ answered
  refine ⟨guarded after (.refl after), ?_⟩
  have ofSame :=
    ensures_of_later grown (unpacks directory (leadsOnlyTo_self marked reached))
  cases tells with
  | broken => exact ofSame
  | told =>
      rw [Disk.realPath]
      cases finds : after.entryAt workingDirectory true directory with
      | error fault => exact ofSame
      | ok found =>
          exact ensures_of_later grown
            (unpacks _ (leadsOnlyTo_pathOf marked arePlain reached finds))

/-- An archive that spares a mark spares it when it is unpacked. -/
theorem sparesMark_unpack
    (grows : start.Grows first)
    (archive : Path)
    {contents : Contents}
    (spares : contents.Spares first place) :
    SparesMark step start place first (contents.unpack archive directory) := by
  cases contents with
  | zip bytes members =>
      exact .of_adds answersBy (fun _ grown => marked.guarded (grows.trans grown))
        (unpackZip_adds archive directory bytes members)
  | tar members =>
      exact .adapt
        (sparesMark_unpackTar answersBy marked arePlain grows
          (spares.members members rfl)) _

end

/-! ## Extracting -/

/-- Whatever archive is read by a path spares the mark of a directory. -/
def ReadsSparing
    (step : Stepping Disk)
    (workingDirectory : Location)
    (directory archive : Path) :
    Prop :=
  ∀ disk bytes after,
    step (.readFile archive) disk (.ok bytes) after →
    ∀ kind contents left there,
      Kind.ofName? archive.fileNameText = some kind →
      Contents.read? kind bytes = some contents →
      disk.LeadsTo workingDirectory directory left there →
      contents.Spares disk there

/-- The root of an archive in a directory: the directory, or something in it that is not the mark. -/
def IsRootIn (directory root : Path) : Prop :=
  root = directory ∨
    ∃ name : Name,
      root = directory.child name ∧ name ≠ .text "" ∧ name ≠ markName

/--
Names have a top directory exactly if one of them is not empty and that directory is what each of these has before
its first slash.
-/
theorem topLevel?_eq_some_iff
    {names : List (List Char)}
    {top : List Char} :
    topLevel? names = some top ↔
      (∃ name ∈ names, name ≠ []) ∧
        ∀ name ∈ names, name ≠ [] → topSegment name = top := by
  have areTops :
      ∀ segment,
        segment ∈ (names.filter fun name => !name.isEmpty).map topSegment ↔
          ∃ name ∈ names, name ≠ [] ∧ topSegment name = segment := by
    intro segment
    simp [and_assoc]
  unfold topLevel?
  split
  · rename_i isNil
    simp only [isNil, List.not_mem_nil, false_iff] at areTops
    refine iff_of_false (by simp) ?_
    rintro ⟨⟨name, member, notNil⟩, -⟩
    exact areTops _ ⟨name, member, notNil, rfl⟩
  · rename_i first others isCons
    rw [isCons] at areTops
    obtain ⟨name, member, notNil, isFirst⟩ := (areTops first).mp (.head _)
    constructor
    · intro isTop
      split at isTop
      · rename_i areAll
        obtain rfl := Option.some.inj isTop
        refine ⟨⟨name, member, notNil⟩, fun other isMember isNamed => ?_⟩
        rcases List.mem_cons.mp
            ((areTops _).mpr ⟨other, isMember, isNamed, rfl⟩) with
          isSame | isOther
        · exact isSame
        · simpa using List.all_eq_true.mp areAll _ isOther
      · simp at isTop
    · rintro ⟨-, areSame⟩
      have areAll : others.all (· = first) = true := by
        refine List.all_eq_true.mpr fun segment isOther => ?_
        obtain ⟨other, isMember, isNamed, rfl⟩ :=
          (areTops segment).mp (.tail _ isOther)
        simp [areSame other isMember isNamed,
          ← areSame name member notNil, isFirst]
      rw [if_pos areAll, ← areSame name member notNil, isFirst]

/-- The top directory of members with safe names has a name without slashes. -/
theorem topLevel?_eq_some
    {names : List (List Char)}
    (areSafe : names.filter isUnsafe = [])
    {top : List Char}
    (isTop : topLevel? names = some top) :
    top ≠ [] ∧ '/' ∉ top := by
  obtain ⟨⟨name, isMember, notNil⟩, areTop⟩ := topLevel?_eq_some_iff.mp isTop
  obtain rfl := areTop name isMember notNil
  have isSafe : isUnsafe name = false := by
    simpa using List.filter_eq_nil_iff.mp areSafe name isMember
  constructor
  · obtain ⟨c, rest, rfl⟩ := List.exists_cons_of_ne_nil notNil
    have notSlash : c ≠ '/' := by
      rintro rfl
      simp [isUnsafe, forwardSlash] at isSafe
    simp [topSegment, notSlash]
  · intro isSlash
    simpa using List.mem_takeWhile_imp isSlash

/-- The path of a text without slashes is a single name. -/
theorem ofString_of_not_mem
    {text : List Char}
    (noSlash : '/' ∉ text) :
    Path.ofString (String.ofList text) = ⟨.text (String.ofList text), []⟩ := by
  rw [Path.ofString, String.toList_ofList, Text.fields_of_not_mem noSlash]
  rfl

/-- Where the members of an archive that spares a mark have their root. -/
theorem isRootIn_of_topLevel?
    {contents : Contents}
    (directory : Path)
    (spares : contents.Spares first place)
    (areSafe : contents.names.filter isUnsafe = [])
    {top : List Char}
    (isTop : topLevel? contents.names = some top) :
    IsRootIn directory (directory / String.ofList top) := by
  obtain ⟨notNil, noSlash⟩ := topLevel?_eq_some areSafe isTop
  refine Or.inr ⟨.text (String.ofList top), ?_, ?_, ?_⟩
  · change directory.join (Path.ofString (String.ofList top)) = _
    rw [ofString_of_not_mem noSlash]
    rfl
  · intro isEmpty
    have isNil : String.ofList top = "" := by simpa using isEmpty
    exact notNil (by simpa using congrArg String.toList isNil)
  · intro isMark
    have isSame : String.ofList top = StorageName.installing.text := by
      simpa [markName] using isMark
    refine spares.notTop (isTop.trans (congrArg some ?_))
    rw [← isSame, String.toList_ofList]

section

variable (answersBy : Disk.AnswersBy workingDirectory children step)
variable (marked : start.Marked workingDirectory directory place)
variable
  (arePlain : ∀ name ∈ directory.start workingDirectory, name.isPlain = true)
variable {archive : Path}
variable (through : directory.GoesThrough archive)
variable (readsSparing : ReadsSparing step workingDirectory directory archive)

include answersBy marked arePlain through readsSparing

/-- An archive that is extracted into a directory spares its mark, and has its root in it. -/
theorem ensures_extract
    (grows : start.Grows disk) :
    Ensures step (start.Guarded place)
      (ending
        (fun root last => start.Grows last ∧ IsRootIn directory root)
        (fun _ last => start.Guarded place last))
      (extract archive directory).run disk := by
  have isGuarded := marked.guarded grows
  unfold extract
  dsimp only
  split
  · exact isGuarded
  · rename_i kind isKind
    refine .bindProcedure (.bindLift (.ask fun reply after answered => ?_))
    obtain ⟨tells, rfl⟩ := answersBy _ _ _ _ answered
    refine ⟨isGuarded, ?_⟩
    split
    · exact isGuarded
    · exact isGuarded
    · rename_i bytes
      split
      · rename_i contents isRead
        -- The archive was read, so the path of the directory leads to its place.
        obtain ⟨location, file, finds, -⟩ :=
          Disk.exists_of_readFile_eq_ok tells.eq_ok
        obtain ⟨left, there, leads, isOpen⟩ :=
          Disk.exists_leadsTo_of_locate through
            (Disk.entryAt_eq_ok_iff.mp finds)
        obtain rfl :=
          isGuarded.eq_of_leadsTo marked leads isOpen.hasDirectory
        have spares :=
          readsSparing after bytes after answered kind contents left there isKind
            isRead leads
        have guarded :
            ∀ later, after.Grows later → start.Guarded there later :=
          fun later grown => marked.guarded (grows.trans grown)
        have makes :
            SparesMark step start there after
              (Files.reporting directory (Files.makeDirectories directory)) :=
          .of_adds answersBy guarded
            ((Files.makeDirectories_adds directory).attempt _)
        refine .pureProcedure ?_
        split
        · exact isGuarded
        · rename_i areSafe
          refine .bindProcedure ((makes after (.refl after)).mono
            (fun _ => id) ?_)
          intro outcome made
          cases outcome with
          | error fault => exact id
          | ok =>
              intro grown
              have unpacks :=
                sparesMark_unpack answersBy marked arePlain grows archive spares
              refine .bindProcedure ((unpacks made grown).mono
                (fun _ => id) ?_)
              intro outcome unpacked
              cases outcome with
              | error fault => exact id
              | ok =>
                  intro isGrown
                  have reached := grows.trans isGrown
                  split
                  · rename_i root isTop
                    exact ⟨reached,
                      isRootIn_of_topLevel? directory spares areSafe isTop⟩
                  · exact ⟨reached, Or.inl rfl⟩
      · exact isGuarded

end

end Provision.Archive
