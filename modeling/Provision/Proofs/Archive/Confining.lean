import Provision.Archive.Zip.Writing
import Provision.Proofs.Archive.Sparing
import Provision.Proofs.Disk.Confining
import Provision.Proofs.Storage.Making

namespace Provision

/-!
# Archives that stay in their target

An archive of files and directories is unpacked in its target, whatever names its members have.
First the target is made with all that it stands in, so nothing but missing directories comes to the
disk.  Then every path that is written to starts with that of the target and never goes up, so all
changes stay where the target leads.
-/

open Plan

namespace Disk

variable {disk middle later last : Disk}
variable {workingDirectory place : Location}
variable {path : Path}

/-! ## Directories on the way to a path -/

/-- Directories come to a disk where nothing stood: where a path leads, or one that it stands in. -/
def GainsWay
    (disk later : Disk)
    (workingDirectory : Location)
    (path : Path) :
    Prop :=
  ∀ location,
    later.get? location = disk.get? location ∨
      disk.get? location = none ∧ later.HasDirectory location ∧
        ∃ steps above left,
          above ∈ Files.lineage steps path ∧
            later.LeadsTo workingDirectory above left location

theorem GainsWay.refl
    (disk : Disk)
    (workingDirectory : Location)
    (path : Path) :
    disk.GainsWay disk workingDirectory path :=
  fun _ => Or.inl rfl

theorem GainsWay.get?
    {location : Location}
    {entry : Entry}
    (gains : disk.GainsWay later workingDirectory path)
    (stands : disk.get? location = some entry) :
    later.get? location = some entry := by
  rcases gains location with isSame | ⟨isMissing, -⟩
  · exact isSame.trans stands
  · rw [stands] at isMissing
    simp at isMissing

theorem GainsWay.trans
    (gains : disk.GainsWay middle workingDirectory path)
    (again : middle.GainsWay last workingDirectory path) :
    disk.GainsWay last workingDirectory path := by
  intro location
  rcases again location with isSame | ⟨wasMissing, isNew⟩
  · rcases gains location with
      wasSame |
      ⟨wasMissing, ⟨mode, stands⟩, steps, above, left, member, leads⟩
    · exact Or.inl (isSame.trans wasSame)
    · refine Or.inr ⟨wasMissing, ⟨mode, isSame.trans stands⟩, steps, above,
        left, member, ?_⟩
      exact leads.mono fun _ _ => again.get?
  · rcases gains location with wasSame | ⟨-, ⟨mode, stands⟩, -⟩
    · exact Or.inr ⟨wasSame.symm.trans wasMissing, isNew⟩
    · rw [stands] at wasMissing
      simp at wasMissing

/-- A directory that is made by a path is one on the way to what stands in it. -/
theorem gainsWay_of_makeDirectory
    {steps : Nat}
    {above : Path}
    (tree : disk.IsTree)
    (member : above ∈ Files.lineage steps path)
    (makes :
      disk.makeDirectory workingDirectory above 0o755 = .ok later) :
    later.IsTree ∧ disk.GainsWay later workingDirectory path := by
  obtain ⟨isTree, -, left, there, locates, -, leads, -⟩ :=
    fresh_of_makeDirectory tree rfl makes
  obtain ⟨location, locates', rfl⟩ := makeDirectory_eq_ok makes
  obtain ⟨rfl, -⟩ := Found.mk.inj (Except.ok.inj (locates.symm.trans locates'))
  refine ⟨isTree, fun other => ?_⟩
  by_cases isHere : other = there
  · subst isHere
    exact Or.inr ⟨get?_of_locate locates, ⟨_, get?_set_self disk _ _⟩, steps,
      above, left, member, leads⟩
  · exact Or.inl (get?_set_of_ne disk _ isHere)

/-- Directories that come to a disk open no way out of a place. -/
theorem GainsWay.encloses
    (gains : disk.GainsWay later workingDirectory path)
    (encloses : disk.Encloses place) :
    later.Encloses place := by
  have stood {location : Location} {entry : Entry} :
      later.get? location = some entry →
      entry.isDirectory = false →
      disk.get? location = some entry := by
    intro stands notDirectory
    rcases gains location with isSame | ⟨-, ⟨mode, isNew⟩, -⟩
    · exact isSame.symm.trans stands
    · obtain rfl := Option.some.inj (isNew.symm.trans stands)
      simp [Entry.isDirectory] at notDirectory
  constructor
  · intro location target isInside isLink
    exact encloses.noLinks location target isInside (stood isLink rfl)
  · intro inside outside file other group isInside stands stands'
    exact encloses.noNames inside outside file other group isInside
      (stood stands rfl) (stood stands' rfl)

/-- A disk without links and without files that have several names encloses every place. -/
theorem encloses_of_entries
    (areAlone :
      ∀ item ∈ disk.entries,
        item.2.isLink = false ∧ item.2.hasOtherNames = false)
    (place : Location) :
    disk.Encloses place := by
  constructor
  · intro location target _ stands
    have isAlone := areAlone _ (mem_entries_of_get? stands)
    simp [Entry.isLink] at isAlone
  · intro inside _ file _ group _ stands _ isGroup
    have isAlone := areAlone _ (mem_entries_of_get? stands)
    simp [Entry.hasOtherNames, isGroup] at isAlone

end Disk

namespace Files

variable {workingDirectory : Location}
variable {children : Disk.Children}
variable {disk last : Disk}
variable {path : Path}

/-- Whether an action looks or makes a directory on the way to a path. -/
def IsOnWay (path : Path) : Action → Prop
  | .makeDirectory above => ∃ steps, above ∈ lineage steps path
  | action => action.looks = true

/-- A path that was made a directory leads to one, unless it is empty. -/
theorem leadsTo_of_makeLineage
    {above : List Path}
    (tree : disk.IsTree)
    (ends :
      Ends (Disk.Answers workingDirectory children)
        (makeLineage (path :: above)) disk (.ok ()) last) :
    path = Path.empty ∨
      ∃ left there,
        last.LeadsTo workingDirectory path left there ∧
          last.HasDirectory there := by
  have answersBy :
      Disk.AnswersBy workingDirectory children
        (Disk.Answers workingDirectory children) :=
    fun _ _ _ _ => id
  have ofMade {disk : Disk} (tree : disk.IsTree) :
      disk.makeDirectory workingDirectory path 0o755 = .ok last →
      ∃ left there,
        last.LeadsTo workingDirectory path left there ∧
          last.HasDirectory there := by
    intro makes
    obtain ⟨-, -, left, there, -, -, leads, isFresh⟩ :=
      Disk.fresh_of_makeDirectory tree rfl makes
    exact ⟨left, there, leads, isFresh.1.hasDirectory⟩
  have ofTold {disk : Disk} {fault : DiskFault} :
      Ends (Disk.Answers workingDirectory children)
        (do if ← isDirectory path then return .ok () else return .error fault :
          Plan (Except DiskFault Unit))
        disk (.ok ()) last →
      ∃ left there,
        last.LeadsTo workingDirectory path left there ∧
          last.HasDirectory there := by
    intro ends
    obtain ⟨rfl, _, there, leads, isDirectory⟩ :=
      ends_requireDirectory answersBy ends
    obtain ⟨left, leadsTo⟩ := Disk.leadsTo_of_leads leads
    exact ⟨left, there, leadsTo, isDirectory⟩
  rw [makeLineage] at ends
  split at ends
  · rename_i isEmpty
    exact Or.inl isEmpty
  · refine Or.inr ?_
    obtain ⟨reply, made, asked, ends⟩ := ends_bind_iff.mp ends
    rcases ends_makeDirectory answersBy asked with
      ⟨rfl, notOk⟩ | ⟨rfl, makes⟩
    · cases reply with
      | ok => exact absurd rfl notOk
      | error fault =>
          dsimp only at ends
          split at ends
          · obtain ⟨madeAbove, between, endsAbove, ends⟩ :=
              ends_bind_iff.mp ends
            cases madeAbove with
            | error fault =>
                obtain ⟨isError, -⟩ := ends_pure_iff.mp ends
                simp at isError
            | ok =>
                obtain ⟨again, remade, remakes, ends⟩ := ends_bind_iff.mp ends
                -- Whatever has been made above, the disk is still a tree.
                have isTree : between.IsTree := by
                  refine endsAbove.preserves Disk.IsTree
                    (makeLineage_makesWay above) ?_ tree
                  intro action first told after makesWay answered tree
                  cases action with
                  | status => exact answered.2 ▸ tree
                  | makeDirectory other =>
                      rcases ends_makeDirectory answersBy
                          (ends_ask_iff.mpr answered) with
                        ⟨rfl, -⟩ | ⟨-, makes⟩
                      · exact tree
                      · exact (Disk.fresh_of_makeDirectory tree rfl makes).1
                  | _ => simp [Action.makesWay] at makesWay
                rcases ends_makeDirectory answersBy remakes with
                  ⟨rfl, notOk⟩ | ⟨rfl, makes⟩
                · cases again with
                  | ok => exact absurd rfl notOk
                  | error fault => exact ofTold ends
                · obtain ⟨-, rfl⟩ := ends_pure_iff.mp ends
                  exact ofMade isTree makes
          · exact ofTold ends
    · obtain ⟨-, rfl⟩ := ends_pure_iff.mp ends
      exact ofMade tree makes

open Classical in
/-- A directory is made by making directories on the way to it, and then its path leads to it. -/
theorem ensures_makeDirectories
    (tree : disk.IsTree) :
    Ensures (Disk.Answers workingDirectory children)
      (fun later =>
        later.IsTree ∧ disk.GainsWay later workingDirectory path)
      (fun outcome later =>
        (later.IsTree ∧ disk.GainsWay later workingDirectory path) ∧
          (outcome = .ok () →
            path = Path.empty ∨
              ∃ left there,
                later.LeadsTo workingDirectory path left there ∧
                  later.HasDirectory there))
      (makeDirectories path) disk := by
  have answers
      (action : Action)
      (state : Disk)
      (reply : action.Reply)
      (after : Disk) :
      decide (IsOnWay path action) = true →
      Disk.Answers workingDirectory children action state reply after →
      state.IsTree ∧ disk.GainsWay state workingDirectory path →
      after.IsTree ∧ disk.GainsWay after workingDirectory path := by
    rintro isOnWay answered ⟨isTree, gains⟩
    have isOnWay := of_decide_eq_true isOnWay
    cases action with
    | makeDirectory above =>
        obtain ⟨steps, member⟩ := isOnWay
        rcases ends_makeDirectory (fun _ _ _ _ => id)
            (ends_ask_iff.mpr answered) with
          ⟨rfl, -⟩ | ⟨-, makes⟩
        · exact ⟨isTree, gains⟩
        · obtain ⟨isTree, gainsOn⟩ :=
            Disk.gainsWay_of_makeDirectory isTree member makes
          exact ⟨isTree, gains.trans gainsOn⟩
    | status | linkStatus | readFile | listDirectory | realPath
    | environment =>
        rw [answered.eq_of_looks rfl]
        exact ⟨isTree, gains⟩
    | _ => simp [IsOnWay, Action.looks] at isOnWay
  have looks (other : Path) : IsOnWay path (.status other) := rfl
  have asksOnly :
      (makeDirectories path).AsksOnly fun action =>
        decide (IsOnWay path action) :=
    makeDirectories_asksOnly (fun other => decide_eq_true (looks other))
      fun steps above member => decide_eq_true ⟨steps, member⟩
  refine (asksOnly.keeps answers disk ⟨tree, .refl _ _ _⟩).ends.mono
    (fun _ => id) ?_
  rintro outcome later ⟨reached, ends⟩
  refine ⟨reached, ?_⟩
  rintro rfl
  exact leadsTo_of_makeLineage tree ends

end Files

namespace Archive

variable {workingDirectory place : Location}
variable {children : Disk.Children}
variable {disk later start last : Disk}
variable {archive directory target path : Path}

/-! ## Unpacking in a place -/

open Classical in
/-- Whether what an action changes or makes lies in a place, whatever changes there. -/
noncomputable def staysIn
    (disk : Disk)
    (workingDirectory place : Location)
    (action : Action) :
    Bool :=
  decide (action.StaysIn disk workingDirectory place)

theorem staysIn_iff
    {action : Action} :
    staysIn disk workingDirectory place action = true ↔
      action.StaysIn disk workingDirectory place := by
  simp [staysIn]

theorem staysIn_of_looks
    (action : Action)
    (looks : action.looks = true) :
    staysIn disk workingDirectory place action = true :=
  staysIn_iff.mpr (Action.staysIn_of_looks looks)

/-- Changes stay in a place all along a plan whose actions do. -/
theorem keeps_confined
    {α : Type}
    {plan : Plan α}
    (asksOnly : plan.AsksOnly (staysIn disk workingDirectory place)) :
    Keeps (Disk.Answers workingDirectory children)
      (fun later => disk.Confined later place) plan :=
  asksOnly.keeps fun _ _ _ _ stays answered =>
    answered.confined (staysIn_iff.mp stays)

/-! ### Zip -/

/-- A safe name has no segment that goes up, under either kind of slash. -/
theorem notUp_of_isSafe
    {name : List Char}
    (isSafe : isUnsafe name = false) :
    ∀ segment ∈ (Path.ofString (String.ofList name)).segments,
      segment.isUp = false := by
  have noUps : ['.', '.'] ∉ Text.fields '/' name := by
    intro member
    have isField :
        ['.', '.'] ∈ Text.fields '/' (name.map forwardSlash) :=
      Text.mem_fields_map member rfl (by decide)
    have isUp :
        ((Text.fields '/' (name.map forwardSlash)).any fun segment =>
          segment = ['.', '.']) = true :=
      List.any_eq_true.mpr ⟨_, isField, by simp⟩
    simp [isUnsafe, isUp] at isSafe
  intro segment member
  have notNil :
      (Text.fields '/' name).map
          (fun field => Name.text (String.ofList field)) ≠ [] := by
    simpa using Text.fields_ne_nil '/' name
  rw [Path.ofString, String.toList_ofList,
    Path.segments_ofSegments notNil, List.mem_map] at member
  obtain ⟨field, isField, rfl⟩ := member
  by_contra isUp
  have isDots : String.ofList field = ".." := by
    simpa [Name.isUp] using isUp
  have isTwo : field = ['.', '.'] := by
    simpa using congrArg String.toList isDots
  exact noUps (isTwo ▸ isField)

/-- An enclosed name is that of a relative path. -/
theorem isRelative_of_isEnclosed
    {name : List Char}
    (enclosed : isEnclosed name = true) :
    (Path.ofString (String.ofList name)).isAbsolute = false := by
  refine Path.isAbsolute_ofString ?_
  rw [String.toList_ofList]
  simp only [isEnclosed, Bool.and_eq_true, decide_eq_true_eq] at enclosed
  exact enclosed.1.2

/-- A zip member is unpacked in the place that its names keep to. -/
theorem unpackZipMember_of_keepsTo
    {bytes : Bytes}
    {member : Zip.Member}
    (keepsTo :
      disk.KeepsTo workingDirectory target place
        (Path.ofString (String.ofList member.name)).segments) :
    (unpackZipMember archive target bytes member).run.AsksOnly
      (staysIn disk workingDirectory place) := by
  have isNames (enclosed : isEnclosed member.name = true) :
      (target / String.ofList member.name).names =
        target.way ++ (Path.ofString (String.ofList member.name)).segments :=
    Path.names_join target (isRelative_of_isEnclosed enclosed)
  have isStart (enclosed : isEnclosed member.name = true) :
      (target / String.ofList member.name).start workingDirectory =
        target.start workingDirectory :=
    Path.start_join target (isRelative_of_isEnclosed enclosed) _
  have stays (enclosed : isEnclosed member.name = true) :
      disk.StaysIn workingDirectory place
        (target / String.ofList member.name) :=
    keepsTo.stays _ (List.cons_ne_nil _ _) (isNames enclosed) (isStart enclosed)
  refine unpackZipMember_asksOnly staysIn_of_looks ?_ ?_ ?_
  · intro enclosed steps above isAbove
    have isWhole := (isNames enclosed).trans (List.append_nil _).symm
    exact staysIn_iff.mpr
      (keepsTo.missesIn_of_mem_lineage isAbove List.prefix_rfl (by simp)
        isWhole (isStart enclosed))
  · exact fun enclosed _ => staysIn_iff.mpr (stays enclosed)
  · exact fun enclosed _ => staysIn_iff.mpr (stays enclosed)

/-- A zip member with a safe name is unpacked in the place that its target enters. -/
theorem unpackZipMember_staysIn
    {bytes : Bytes}
    {member : Zip.Member}
    (enters : disk.Enters workingDirectory target place)
    (isSafe : isUnsafe member.name = false) :
    (unpackZipMember archive target bytes member).run.AsksOnly
      (staysIn disk workingDirectory place) :=
  unpackZipMember_of_keepsTo (enters.keepsTo (notUp_of_isSafe isSafe))

/-! ### Tar -/

section

variable {member : Tar.Member}

/-- A file is unpacked in a place by a path that stays in it. -/
theorem unpackFile_staysIn
    (stays : disk.StaysIn workingDirectory place path) :
    (unpackFile path member).run.AsksOnly
      (staysIn disk workingDirectory place) := by
  have isStaying (action : Action) :
      action.StaysIn disk workingDirectory place →
      staysIn disk workingDirectory place action = true :=
    staysIn_iff.mpr
  have writes : AsksOnly (staysIn disk workingDirectory place)
      (do
        orSpoil (Plan.ask (.writeFile path member.content))
        setTime path member
        setMode path member : Unpacking Unit).run :=
    .bindProcedure
      ((AsksOnly.ask (isStaying (.writeFile path _) stays)).attempt _)
      fun _ =>
        setTimeAndMode_asksOnly (fun _ => isStaying (.setTimes path _) stays)
          (fun _ => isStaying (.changeMode path _) stays) member
  refine .bindProcedure (.liftProcedure (.ask (staysIn_of_looks _ rfl)))
    fun found => ?_
  cases found with
  | ok status =>
      exact .bindProcedure
        ((AsksOnly.ask (isStaying (.removeFile path) stays)).attempt _)
        fun _ => writes
  | error fault => exact writes

section

variable {names : List Name}
variable (isNames : namesOf? member.name = some names)
variable (keepsTo : disk.KeepsTo workingDirectory directory place names)

include isNames keepsTo

/-- The path of a member stays in the place that its names keep to. -/
theorem staysIn_below_of_keepsTo
    (notNil : names ≠ []) :
    disk.StaysIn workingDirectory place (below directory names) := by
  have areNamed := areNamed_of_namesOf? isNames
  obtain ⟨before, name, rfl⟩ : ∃ before name, names = before ++ [name] := by
    rcases List.eq_nil_or_concat names with rfl | ⟨before, name, isConcat⟩
    · exact absurd rfl notNil
    · exact ⟨before, name, by simpa using isConcat⟩
  obtain ⟨isPath, isStart⟩ :=
    names_below_concat directory before name fun other isName =>
      (areNamed other (List.mem_append_left _ isName)).1
  rw [List.append_assoc] at isPath
  exact keepsTo.stays _ notNil isPath (isStart _)

/-- The way to a member is made in the place that its names keep to. -/
theorem makeWay_of_keepsTo :
    (makeWay directory directory names.dropLast).run.AsksOnly
      (staysIn disk workingDirectory place) := by
  have areNamed := areNamed_of_namesOf? isNames
  refine makeWay_asksOnly staysIn_of_looks directory
    fun first steps above isAbove member => staysIn_iff.mpr ?_
  have isPrefix := isAbove.trans (List.dropLast_prefix names)
  obtain ⟨isWay, isStart⟩ :=
    way_below directory fun name isName =>
      (areNamed name (isPrefix.subset isName)).1
  have isBelow : directory.way ++ first <+: directory.way ++ names :=
    (List.prefix_append_right_inj _).mpr isPrefix
  rcases (below directory first).names_eq_way with isOwn | isOpen
  · exact keepsTo.missesIn_of_mem_lineage member isBelow (by simp)
      ((isOwn.trans isWay).trans (List.append_nil _).symm) (isStart _)
  · rw [isWay] at isOpen
    exact keepsTo.missesIn_of_mem_lineage member isBelow
      (by simp [Name.isHere]) isOpen (isStart _)

end

/-- A directory is unpacked in a place by a path that stays in it. -/
theorem unpackDirectory_staysIn
    (stays : disk.StaysIn workingDirectory place path) :
    (unpackDirectory path member).run.AsksOnly
      (staysIn disk workingDirectory place) := by
  have makes :
      Action.StaysIn disk workingDirectory place (.makeDirectory path) :=
    fun later location => stays later false ⟨location, none⟩
  have changes (mode : Nat) :
      Action.StaysIn disk workingDirectory place (.changeMode path mode) :=
    stays
  exact unpackDirectory_asksOnly staysIn_of_looks (staysIn_iff.mpr makes)
    (fun mode => staysIn_iff.mpr (changes mode)) member

/-- A file or a directory of a tar archive is unpacked in the place that its names keep to. -/
theorem unpackMember_of_keepsTo
    (keepsTo :
      ∀ names,
        namesOf? member.name = some names →
        disk.KeepsTo workingDirectory directory place names)
    (isFileOrDirectory : member.kind ≠ 0x31 ∧ member.kind ≠ 0x32) :
    (unpackMember directory member).run.AsksOnly
      (staysIn disk workingDirectory place) := by
  unfold unpackMember
  split
  · exact .done _
  · exact .done _
  · rename_i names notNil isNames
    have keeps := keepsTo names isNames
    have stays := staysIn_below_of_keepsTo isNames keeps notNil
    refine .bindProcedure (makeWay_of_keepsTo isNames keeps) fun _ => ?_
    refine .bindProcedure (requireInside_asksOnly staysIn_of_looks _ _)
      fun _ => ?_
    unfold unpackAt
    split
    · exact unpackDirectory_staysIn stays
    · rw [if_neg isFileOrDirectory.1, if_neg isFileOrDirectory.2]
      split
      · exact .done _
      · split
        · exact unpackDirectory_staysIn stays
        · exact unpackFile_staysIn stays

end

/-- Members of a tar archive are unpacked one after the other. -/
theorem unpackMembers_asksOnly
    {allowed : Action → Bool}
    {members : List Tar.Member}
    (unpacks :
      ∀ member ∈ members,
        (unpackMember directory member).run.AsksOnly allowed) :
    (unpackMembers directory members).run.AsksOnly allowed := by
  induction members with
  | nil => exact .done _
  | cons member rest inductionHypothesis =>
      exact .bindProcedure (unpacks member (.head _)) fun _ =>
        inductionHypothesis fun other isMember =>
          unpacks other (.tail _ isMember)

/-- The path that members are unpacked below enters the directory that the target leads to. -/
theorem ensures_realOrSame
    {left : Nat}
    (tree : disk.IsTree)
    (leads : disk.LeadsTo workingDirectory target left place)
    (isDirectory : disk.HasDirectory place) :
    Ensures (Disk.Answers workingDirectory children)
      (fun after => after = disk)
      (fun directory after =>
        after = disk ∧ disk.Enters workingDirectory directory place)
      (realOrSame target) disk := by
  have entersTarget := Disk.enters_of_leadsTo leads isDirectory
  refine .bind (.ask fun reply after answered => ?_)
  obtain ⟨tells, rfl⟩ := answered
  refine ⟨rfl, ?_⟩
  cases tells with
  | broken => exact ⟨rfl, entersTarget⟩
  | told =>
      rw [Disk.realPath]
      cases finds : after.entryAt workingDirectory true target with
      | error fault => exact ⟨rfl, entersTarget⟩
      | ok found =>
          -- The path is that of the place itself, down from the root.
          obtain ⟨-, walks⟩ :=
            Disk.locate_eq_ok_iff.mp (Disk.entryAt_eq_ok_iff.mp finds)
          obtain ⟨⟨_, leadsNames⟩, -⟩ := walks.leads
          obtain ⟨_, leadsAgain⟩ := Disk.leadsTo_of_leads leadsNames
          obtain ⟨-, rfl⟩ := leads.unique leadsAgain
          obtain ⟨mode, stands⟩ := isDirectory
          obtain ⟨standing, arePlain⟩ := tree _ _ stands
          have areDirectories
              (above : Location)
              (isAbove : above <+: found.1) :
              after.HasDirectory above := by
            by_cases isSame : above = found.1
            · exact isSame ▸ ⟨mode, stands⟩
            · exact standing above isAbove isSame
          obtain ⟨isWay, isStart⟩ := way_pathOf arePlain
          exact ⟨rfl,
            Disk.enters_of_way isWay (isStart _) arePlain areDirectories⟩

/-- Files and directories of a tar archive are unpacked in the place that their target leads to. -/
theorem ensures_unpackTar
    {left : Nat}
    {members : List Tar.Member}
    (tree : disk.IsTree)
    (leads : disk.LeadsTo workingDirectory target left place)
    (isDirectory : disk.HasDirectory place)
    (encloses : disk.Encloses place)
    (areFilesOrDirectories :
      ∀ member ∈ members, member.kind ≠ 0x31 ∧ member.kind ≠ 0x32) :
    Ensures (Disk.Answers workingDirectory children)
      (fun after => disk.Confined after place)
      (fun _ last => disk.Confined last place)
      (unpackTar target members).run disk := by
  have isConfined := Disk.Confined.refl encloses
  rw [unpackTar, Procedure.run_lift_bind]
  refine .bind ((ensures_realOrSame tree leads isDirectory).mono ?_ ?_)
  · rintro _ rfl
    exact isConfined
  · rintro directory _ ⟨rfl, enters⟩
    have unpacks (member : Tar.Member) (isMember : member ∈ members) :=
      unpackMember_of_keepsTo
        (fun names isNames => enters.keepsTo fun name isName =>
          (areNamed_of_namesOf? isNames name isName).2)
        (areFilesOrDirectories member isMember)
    refine keeps_confined (.bindProcedure ?_ fun _ => ?_) _ isConfined
    · refine unpackMembers_asksOnly fun member isMember => ?_
      exact unpacks member (List.mem_filter.mp isMember).1
    · refine unpackMembers_asksOnly fun member isMember => ?_
      rw [deepestFirst, List.mem_mergeSort] at isMember
      exact unpacks member (List.mem_filter.mp isMember).1

/-- An archive of files and directories with safe names is unpacked in the place of its target. -/
theorem ensures_unpackContents
    {left : Nat}
    {contents : Contents}
    (tree : disk.IsTree)
    (leads : disk.LeadsTo workingDirectory target left place)
    (isDirectory : disk.HasDirectory place)
    (encloses : disk.Encloses place)
    (areSafe : contents.names.filter isUnsafe = [])
    (areFilesOrDirectories :
      ∀ members,
        contents = .tar members →
        ∀ member ∈ members, member.kind ≠ 0x31 ∧ member.kind ≠ 0x32) :
    Ensures (Disk.Answers workingDirectory children)
      (fun after => disk.Confined after place)
      (fun _ last => disk.Confined last place)
      (contents.unpack archive target).run disk := by
  cases contents with
  | zip bytes members =>
      have enters := Disk.enters_of_leadsTo leads isDirectory
      refine keeps_confined (unpackZip_asksOnly fun member isMember => ?_)
        disk (.refl encloses)
      have isNamed : member.name ∈ (Contents.zip bytes members).names :=
        List.mem_eraseDups.mpr (List.mem_map_of_mem isMember)
      have isSafe : isUnsafe member.name = false := by
        simpa using List.filter_eq_nil_iff.mp areSafe member.name isNamed
      exact unpackZipMember_staysIn enters isSafe
  | tar members =>
      have unpacks :
          Ensures (Disk.Answers workingDirectory children) _ _
            (unpackTar target members).run disk :=
        ensures_unpackTar tree leads isDirectory encloses
          (areFilesOrDirectories members rfl)
      exact .bind (unpacks.mono (fun _ => id) fun _ _ confined => confined)

/-! ## Extracting -/

/--
Changes are confined to a target: missing directories on the way to it are made, and from then on
nothing changes but what lies at or below the place that it leads to.
-/
def ChangesWithin
    (start last : Disk)
    (workingDirectory : Location)
    (target : Path) :
    Prop :=
  ∃ made,
    start.GainsWay made workingDirectory target ∧
      ∀ location,
        last.get? location = made.get? location ∨
          ∃ left place,
            made.LeadsTo workingDirectory target left place ∧
              place <+: location

/-- An archive that is read by a path holds files and directories, whatever their names are. -/
def HoldsFiles
    (disk : Disk)
    (workingDirectory : Location)
    (archive : Path) :
    Prop :=
  ∀ bytes kind members,
    disk.readFile workingDirectory archive = .ok bytes →
    Kind.ofName? archive.fileNameText = some kind →
    Contents.read? kind bytes = some (.tar members) →
    ∀ member ∈ members, member.kind ≠ 0x31 ∧ member.kind ≠ 0x32

theorem changesWithin_of_gainsWay
    (gains : start.GainsWay last workingDirectory target) :
    ChangesWithin start last workingDirectory target :=
  ⟨last, gains, fun _ => Or.inl rfl⟩

theorem changesWithin_of_confined
    {left : Nat}
    (gains : start.GainsWay disk workingDirectory target)
    (leads : disk.LeadsTo workingDirectory target left place)
    (confined : disk.Confined last place) :
    ChangesWithin start last workingDirectory target := by
  refine ⟨disk, gains, fun location => ?_⟩
  by_cases isInside : place <+: location
  · exact Or.inr ⟨left, place, leads, isInside⟩
  · exact Or.inl (confined.elsewhere location isInside)

/--
Wherever the extraction of an archive of files and directories stops, nothing has changed but at and
below its target, and directories on the way to it may have been made.
-/
theorem extract_changesWithin
    {value? : Option (Except StorageFault Path)}
    (tree : start.IsTree)
    (isDirectory : start.HasDirectory workingDirectory)
    (encloses :
      ∀ made left place,
        start.GainsWay made workingDirectory target →
        made.LeadsTo workingDirectory target left place →
        start.Encloses place)
    (holdsFiles : HoldsFiles start workingDirectory archive)
    (run :
      Runs (Disk.Answers workingDirectory children)
        (extract archive target).run start last value?) :
    ChangesWithin start last workingDirectory target := by
  have isKept : ChangesWithin start start workingDirectory target :=
    changesWithin_of_gainsWay (.refl _ _ _)
  suffices
      Ensures (Disk.Answers workingDirectory children)
        (fun disk => ChangesWithin start disk workingDirectory target)
        (ending
          (fun _ last => ChangesWithin start last workingDirectory target)
          fun _ last => ChangesWithin start last workingDirectory target)
        (extract archive target).run start from
    (this.of_runs run isKept).1
  unfold extract
  dsimp only
  split
  · exact isKept
  · rename_i kind isKind
    refine .bindProcedure (.bindLift (.ask fun reply after answered => ?_))
    obtain ⟨tells, isSame⟩ := answered
    subst after
    refine ⟨isKept, ?_⟩
    split
    · exact isKept
    · exact isKept
    · rename_i bytes
      split
      · rename_i contents isRead
        refine .pureProcedure ?_
        split
        · exact isKept
        · rename_i areSafe
          have makes :
              Ensures (Disk.Answers workingDirectory children) _ _
                (Files.makeDirectories target) start :=
            Files.ensures_makeDirectories tree
          refine .bindProcedure (.attempt (makes.mono
            (fun later made => changesWithin_of_gainsWay made.2) ?_))
          rintro (fault | value) made ⟨⟨isTree, gains⟩, leadsTo⟩
          · exact changesWithin_of_gainsWay gains
          · obtain ⟨left, place, leads, isMade⟩ :
                ∃ left place,
                  made.LeadsTo workingDirectory target left place ∧
                    made.HasDirectory place := by
              rcases leadsTo rfl with rfl | leads
              · obtain ⟨mode, stands⟩ := isDirectory
                exact ⟨_, _, .arrived _ _, mode, gains.get? stands⟩
              · exact leads
            have unpacks :
                Ensures (Disk.Answers workingDirectory children) _ _
                  (contents.unpack archive target).run made :=
              ensures_unpackContents isTree leads isMade
                (gains.encloses (encloses made left place gains leads))
                areSafe fun members isTar =>
                  holdsFiles bytes kind members tells.eq_ok isKind
                    (isTar ▸ isRead)
            refine .bindProcedure (unpacks.mono
              (fun later => changesWithin_of_confined gains leads) ?_)
            rintro (fault | value) unpacked confined
            · exact changesWithin_of_confined gains leads confined
            · have isWithin := changesWithin_of_confined gains leads confined
              split <;> exact isWithin
      · exact isKept

/-- A disk with a directory and a zip archive of one file. -/
def letterDisk : Disk :=
  ⟨[
    ([], .directory 0o755),
    ([.text "letter.zip"],
      .file { mode := 0o644, content := Zip.write [⟨['f'], [0x6e], 0o644⟩] }),
    ([.text "box"], .directory 0o755)]⟩

/-- The file of the archive comes to a new directory, and nothing changes outside of that. -/
theorem letter_stays_in_box :
    ((Host.ofDisk letterDisk).run (extract "/letter.zip" "/box/new").run).1 =
        .ok "/box/new/f" ∧
      ((Host.ofDisk letterDisk).run
            (extract "/letter.zip" "/box/new").run).2.disk.get?
          [.text "box", .text "new", .text "f"] =
        some (.file { mode := 0o644, content := [0x6e] }) ∧
      ChangesWithin letterDisk
        ((Host.ofDisk letterDisk).run
          (extract "/letter.zip" "/box/new").run).2.disk
        [] "/box/new" := by
  refine ⟨by decide +kernel, by decide +kernel, ?_⟩
  have tree : letterDisk.IsTree :=
    Disk.isTree_of_entries (by decide +kernel)
  have encloses (place : Location) : letterDisk.Encloses place :=
    Disk.encloses_of_entries (by decide +kernel) place
  have holdsFiles : HoldsFiles letterDisk [] "/letter.zip" := by
    intro bytes kind members _ isKind isRead
    have isZip : Kind.ofName? (Path.fileNameText "/letter.zip") = some .zip := by
      decide +kernel
    obtain rfl := Option.some.inj (isZip.symm.trans isKind)
    simp [Contents.read?] at isRead
  exact extract_changesWithin tree ⟨0o755, by decide +kernel⟩
    (fun _ _ place _ _ => encloses place) holdsFiles
    (Host.runs_ofDisk _ letterDisk)

/-- A disk where the file in the target has another name outside of it. -/
def sharedDisk : Disk :=
  ⟨letterDisk.entries ++ [
    ([.text "box", .text "f"],
      .file { mode := 0o644, content := [0x6f], group := some 0 }),
    ([.text "other"],
      .file { mode := 0o644, content := [0x6f], group := some 0 })]⟩

/--
Without any link on the disk, a file outside of the target is written to when it is the same as a
file in the target.
-/
theorem shared_file_changes_outside :
    (∀ item ∈ sharedDisk.entries, item.2.isLink = false) ∧
      ¬[Name.text "box"] <+: [Name.text "other"] ∧
      ((Host.ofDisk sharedDisk).run (extract "/letter.zip" "/box").run).1 =
        .ok "/box/f" ∧
      (sharedDisk.get? [.text "other"]).map Entry.size = some 1 ∧
      ((Host.ofDisk sharedDisk).run
            (extract "/letter.zip" "/box").run).2.disk.get?
          [.text "other"] ≠
        sharedDisk.get? [.text "other"] := by
  refine ⟨?_, ?_, ?_, ?_, ?_⟩
  · decide +kernel
  · decide +kernel
  · decide +kernel
  · decide +kernel
  · decide +kernel

end Archive

end Provision
