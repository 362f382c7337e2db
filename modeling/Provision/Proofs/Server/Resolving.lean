import Provision.Proofs.Storage.Sheltering
import Provision.Server.Resources

namespace Provision

/-!
# Where resources are

A resource path is followed by what stands between its slashes, unless that is empty or a dot.  It is refused if
two dots stand there, so a resource lies at or below the directory of all resources, however its path is
written.  What reads a resource gets its path from there, so that no path is accessed but that of the resource
and what is below, and the paths of a copy.
-/

open Plan

/-! ## Texts of resource paths -/

namespace Resources

/-- The text of a resource path that is followed: what comes after the beginning, if that is there. -/
def reach (path : String) : List Char :=
  if opening.toList <+: path.toList then
    path.toList.drop opening.toList.length
  else
    path.toList

/-- The fields of a text that name something other than the directory they stand in. -/
def stepsOf (text : List Char) : List (List Char) :=
  (Text.fields '/' text).filter fun field => field ≠ [] && field ≠ ['.']

/-- Two texts of which one has a slash or a dot that leads nowhere, and the other one does not. -/
inductive Respells : List Char → List Char → Prop where
  | twoSlashes
      (before after : List Char) :
      Respells (before ++ '/' :: '/' :: after) (before ++ '/' :: after)
  | firstSlash
      (after : List Char) :
      Respells ('/' :: after) after
  | lastSlash
      (before : List Char) :
      Respells (before ++ ['/']) before
  | middleDot
      (before after : List Char) :
      Respells (before ++ '/' :: '.' :: '/' :: after) (before ++ '/' :: after)
  | firstDot
      (after : List Char) :
      Respells ('.' :: '/' :: after) after
  | lastDot
      (before : List Char) :
      Respells (before ++ ['/', '.']) before
  | onlyDot :
      Respells ['.'] []

/-- The steps of two texts with a slash between them. -/
theorem stepsOf_append_slash (before after : List Char) :
    stepsOf (before ++ '/' :: after) = stepsOf before ++ stepsOf after := by
  rw [stepsOf, Text.fields_append_separator, List.filter_append, stepsOf, stepsOf]

theorem stepsOf_slash (after : List Char) :
    stepsOf ('/' :: after) = stepsOf after :=
  stepsOf_append_slash [] after

/-- A slash or a dot that leads nowhere makes no step. -/
theorem Respells.stepsOf_eq
    {text other : List Char}
    (respells : Respells text other) :
    stepsOf text = stepsOf other := by
  have noStep : stepsOf [] = [] := rfl
  have noStepOfDot : stepsOf ['.'] = [] := rfl
  cases respells with
  | twoSlashes before after =>
      rw [stepsOf_append_slash, stepsOf_append_slash, stepsOf_slash]
  | firstSlash after =>
      exact stepsOf_slash other
  | lastSlash before =>
      rw [stepsOf_append_slash, noStep, List.append_nil]
  | middleDot before after =>
      rw [stepsOf_append_slash, stepsOf_append_slash]
      exact congrArg _ (stepsOf_append_slash ['.'] after)
  | firstDot after =>
      exact stepsOf_append_slash ['.'] other
  | lastDot before =>
      rw [stepsOf_append_slash, noStepOfDot, List.append_nil]
  | onlyDot => rfl

/-- Texts that differ in slashes and dots that lead nowhere have the same steps. -/
theorem stepsOf_eq_of_respells
    {text other : List Char}
    (respells : Relation.EqvGen Respells text other) :
    stepsOf text = stepsOf other := by
  induction respells with
  | rel _ _ respells => exact respells.stepsOf_eq
  | refl _ => rfl
  | symm _ _ _ same => exact same.symm
  | trans _ _ _ _ _ same sameAgain => exact same.trans sameAgain

/-- The text that is followed is what the beginning is cut off from. -/
theorem reach_eq (path : String) :
    reach path = ((Text.afterString? opening path).getD path).toList := by
  rw [reach, Text.afterString?]
  split
  · rename_i isOpening
    obtain ⟨rest, isPath⟩ := isOpening
    rw [← isPath, Text.after?_append, List.drop_left]
    simp
  · rename_i notOpening
    cases cut : Text.after? opening.toList path.toList with
    | none => rfl
    | some rest =>
        exact absurd ⟨rest, (Text.eq_append_of_after? cut).symm⟩ notOpening

/-- The names that a resource path leads through are the steps of its text. -/
theorem namesOf_eq (path : String) :
    namesOf path = (stepsOf (reach path)).map String.ofList := by
  rw [namesOf, ← reach_eq, stepsOf, List.filter_map]
  congr 1
  refine List.filter_congr fun field _ => ?_
  have isText (text : List Char) :
      String.ofList field = String.ofList text ↔ field = text :=
    String.ofList_inj
  have isEmpty : String.ofList field = "" ↔ field = [] := isText []
  have isDot : String.ofList field = "." ↔ field = ['.'] := isText ['.']
  simp [isEmpty, isDot]

/-- Two dots are a name that a resource path leads through if they are a field of its text. -/
theorem up_mem_namesOf_iff (path : String) :
    ".." ∈ namesOf path ↔ ['.', '.'] ∈ Text.fields '/' (reach path) := by
  have isText (field text : List Char) :
      String.ofList field = String.ofList text ↔ field = text :=
    String.ofList_inj
  have isUp (field : List Char) : String.ofList field = ".." ↔ field = ['.', '.'] :=
    isText field ['.', '.']
  simp [namesOf_eq, stepsOf, isUp]

end Resources

/-! ## Paths of resources -/

namespace Path

/-- A path goes down from a directory: by names that neither stay in their directory nor go up. -/
def Holds (directory path : Path) : Prop :=
  ∃ names : List Name,
    (∀ name ∈ names, name.isHere = false ∧ name.isUp = false) ∧
      path = directory.below names

theorem Holds.refl (directory : Path) :
    directory.Holds directory :=
  ⟨[], by simp, rfl⟩

theorem holds_child
    (directory : Path)
    {name : Name}
    (notHere : name.isHere = false)
    (notUp : name.isUp = false) :
    directory.Holds (directory.child name) :=
  ⟨[name], List.forall_mem_singleton.mpr ⟨notHere, notUp⟩, rfl⟩

theorem Holds.trans
    {directory middle path : Path}
    (holds : directory.Holds middle)
    (holdsOn : middle.Holds path) :
    directory.Holds path := by
  obtain ⟨names, leadDown, rfl⟩ := holds
  obtain ⟨others, leadOn, rfl⟩ := holdsOn
  exact ⟨names ++ others, List.forall_mem_append.mpr ⟨leadDown, leadOn⟩,
    List.foldl_append.symm⟩

/-- What goes down from a directory is a path of something in it, however the directory is looked up. -/
theorem Holds.goesOn
    {directory path : Path}
    (holds : directory.Holds path) :
    ∃ names, directory.GoesOn path names := by
  obtain ⟨names, leadDown, rfl⟩ := holds
  suffices goesOn :
      ∀ (names : List Name) (above : Path) (before : List Name),
        (∀ name ∈ names, name.isHere = false ∧ name.isUp = false) →
        directory.GoesOn above before →
        directory.GoesOn (above.below names) (before ++ names) from
    ⟨names, goesOn names directory [] leadDown ⟨by simp, fun _ => rfl, by simp⟩⟩
  intro names
  induction names with
  | nil => simp [below]
  | cons name rest inductionHypothesis =>
      intro above before leadDown isAbove
      obtain ⟨⟨notHere, notUp⟩, restLeadsDown⟩ :=
        List.forall_mem_cons.mp leadDown
      have goesOn :=
        inductionHypothesis _ _ restLeadsDown
          (isAbove.child (Name.ne_empty notHere) notUp)
      rwa [List.append_assoc] at goesOn

end Path

namespace Resources

variable {resources : Resources}
variable {path : String}

/-- The names that the steps of a text stand for. -/
def placeNames (text : List Char) : List Name :=
  (stepsOf text).map fun step => .text (String.ofList step)

/-- A path that leads upwards is refused, and any other one is followed by the names of its text. -/
theorem resolve_eq (resources : Resources) (path : String) :
    resources.resolve path =
      if ['.', '.'] ∈ Text.fields '/' (reach path) then
        .error (.badConfig (.leavesPackages path))
      else
        .ok (resources.root.below (placeNames (reach path))) := by
  have isPlace :
      (namesOf path).foldl (fun place name => place.child (.text name))
          resources.root =
        resources.root.below (placeNames (reach path)) := by
    rw [namesOf_eq, Path.below, placeNames, List.foldl_map, List.foldl_map]
  rw [resolve, isPlace]
  exact if_congr (up_mem_namesOf_iff path) rfl rfl

example :
    (Resources.mk "/srv/Packages").resolve "Packages/A//./b/" =
      .ok ("/srv/Packages/A/b" : String) := by
  decide +kernel

/-- The names of a resource lead down, unless two dots are a field of the text. -/
theorem placeNames_leadDown
    {text : List Char}
    (noUps : ['.', '.'] ∉ Text.fields '/' text) :
    ∀ name ∈ placeNames text, name.isHere = false ∧ name.isUp = false := by
  intro name member
  obtain ⟨field, isStep, rfl⟩ := List.mem_map.mp member
  rw [stepsOf, List.mem_filter] at isStep
  obtain ⟨isField, isNamed⟩ := isStep
  have isOther {other : List Char} :
      field ≠ other → Name.text (String.ofList field) ≠ .text (String.ofList other) :=
    fun differs same => differs (String.ofList_inj.mp (Name.text.inj same))
  have notUp : field ≠ ['.', '.'] := by
    rintro rfl
    exact noUps isField
  simp only [Bool.and_eq_true, decide_eq_true_eq] at isNamed
  rw [Name.isHere, Name.isUp, Bool.or_eq_false_iff, decide_eq_false_iff_not,
    decide_eq_false_iff_not, decide_eq_false_iff_not]
  exact ⟨⟨isOther isNamed.1, isOther isNamed.2⟩, isOther notUp⟩

/-- Texts that differ in slashes and dots that lead nowhere are followed to the same place. -/
theorem resolve_eq_ok_iff_of_respells
    {other : String}
    (respells : Relation.EqvGen Respells (reach path) (reach other))
    (place : Path) :
    resources.resolve path = .ok place ↔ resources.resolve other = .ok place := by
  have sameNames : namesOf path = namesOf other := by
    rw [namesOf_eq, namesOf_eq, stepsOf_eq_of_respells respells]
  rw [resolve, resolve, sameNames]
  split <;> simp

end Resources

/-! ## Actions on paths -/

/-- The paths that an action is about. -/
def Action.paths : Action → List Path
  | .status path | .linkStatus path | .readFile path | .listDirectory path
  | .realPath path | .writeFile path _ | .appendFile path _
  | .makeDirectory path | .makeTemporary path _ | .changeMode path _
  | .setTimes path _ | .removeFile path | .removeTree path => [path]
  | .copyFile source target | .rename source target => [source, target]
  | .makeLink target path => [target, path]
  | .makeHardLink existing path => [existing, path]
  | .spawn child => child.workingDirectory.toList
  | .environment | .fetch _ => []

/-- An action is about allowed paths only, and leaves nothing to a child process. -/
def Action.KeepsTo (allowed : Path → Prop) (action : Action) : Prop :=
  action.isChild = false ∧ ∀ path ∈ action.paths, allowed path

/-- Wherever a plan stops on a tree, whatever it is answered, all its actions have been about allowed paths. -/
def Plan.Accesses
    {α : Type}
    (allowed : Path → Prop)
    (plan : Plan α) :
    Prop :=
  ∀ (workingDirectory : Location)
    (children : Disk.Children)
    (disk : Disk)
    (last : Trace Disk)
    (value? : Option α),
    disk.IsTree →
    disk.ListsOnce →
    Runs (tracing (Disk.Answers workingDirectory children)) plan ⟨disk, []⟩ last
      value? →
    ∀ asked ∈ last.past, asked.action.KeepsTo allowed

namespace Files

/-- A path that a copy is about: its target, something below, or what one of them stands in. -/
def IsOnCopy (target path : Path) : Prop :=
  ∃ place steps, target.Holds place ∧ path ∈ lineage steps place

/-- Something that goes down from a target is on the copy, with all that it stands in. -/
theorem IsOnCopy.of_mem_lineage
    {target place path : Path}
    {steps : Nat}
    (holds : target.Holds place)
    (member : path ∈ lineage steps place) :
    IsOnCopy target path :=
  ⟨place, steps, holds, member⟩

theorem IsOnCopy.of_holds
    {target place : Path}
    (holds : target.Holds place) :
    IsOnCopy target place :=
  ⟨place, 1, holds, .head _⟩

end Files

/-- A trace on a tree whose actions have been about allowed paths. -/
structure Trace.KeepsTo (allowed : Path → Prop) (trace : Trace Disk) : Prop where
  isTree : trace.state.IsTree
  listsOnce : trace.state.ListsOnce
  keepsTo : ∀ asked ∈ trace.past, asked.action.KeepsTo allowed

section

variable {workingDirectory : Location}
variable {children : Disk.Children}
variable {allowed : Path → Prop}

theorem Trace.KeepsTo.answered
    {trace after : Trace Disk}
    {action : Action}
    {reply : action.Reply}
    (kept : trace.KeepsTo allowed)
    (fills : action.fills = true)
    (keepsTo : action.KeepsTo allowed)
    (answered :
      tracing (Disk.Answers workingDirectory children) action trace reply
        after) :
    after.KeepsTo allowed := by
  obtain ⟨answers, isPast⟩ := answered
  obtain ⟨isTree, listsOnce, -⟩ :=
    answers.stays_of_fills fills kept.isTree kept.listsOnce
  refine ⟨isTree, listsOnce, ?_⟩
  rw [isPast]
  exact List.forall_mem_append.mpr
    ⟨kept.keepsTo, List.forall_mem_singleton.mpr keepsTo⟩

namespace Files

variable {source target : Path}

/-- A plan of which each action fills and is about allowed paths keeps to these paths. -/
theorem keeps_of_asksOnly
    {α : Type}
    {asked : Action → Bool}
    {plan : Plan α}
    (asksOnly : AsksOnly asked plan)
    (isAllowed :
      ∀ action,
        asked action = true →
        action.fills = true ∧ action.KeepsTo allowed) :
    Keeps (tracing (Disk.Answers workingDirectory children))
      (Trace.KeepsTo allowed) plan := by
  refine asksOnly.keeps fun action trace reply after isAsked answered kept => ?_
  obtain ⟨fills, keepsTo⟩ := isAllowed action isAsked
  exact kept.answered fills keepsTo answered

theorem keeps_askPaths
    {action : Action}
    (fills : action.fills = true)
    (notChild : action.isChild = false)
    (areAllowed : ∀ path ∈ action.paths, allowed path) :
    Keeps (tracing (Disk.Answers workingDirectory children))
      (Trace.KeepsTo allowed) (Plan.ask action) :=
  .ask fun _ _ _ answered kept =>
    kept.answered fills ⟨notChild, areAllowed⟩ answered

/-- Something is asked along the paths that a path stands in if it may be asked of them. -/
theorem exists_asked
    (allowed : Path → Prop) :
    ∃ asked : Action → Bool,
      (∀ action,
        asked action = true → action.fills = true ∧ action.KeepsTo allowed) ∧
      ∀ path,
        allowed path →
        asked (.status path) = true ∧ asked (.makeDirectory path) = true := by
  classical
  refine ⟨fun action => decide (action.fills = true ∧ action.KeepsTo allowed),
    fun action => of_decide_eq_true, fun path isAllowed => ?_⟩
  have isOnly : ∀ other ∈ [path], allowed other :=
    List.forall_mem_singleton.mpr isAllowed
  exact ⟨decide_eq_true ⟨rfl, rfl, isOnly⟩, decide_eq_true ⟨rfl, rfl, isOnly⟩⟩

theorem keeps_makeDirectoriesAlong
    (areAllowed : ∀ steps, ∀ above ∈ lineage steps target, allowed above) :
    Keeps (tracing (Disk.Answers workingDirectory children))
      (Trace.KeepsTo allowed) (makeDirectories target) := by
  obtain ⟨asked, isAllowed, asks⟩ := exists_asked allowed
  exact keeps_of_asksOnly
    (makeDirectories_asksAlong fun steps above member =>
      asks above (areAllowed steps above member))
    isAllowed

theorem keeps_makeParentsAlong
    (areAllowed : ∀ steps, ∀ above ∈ lineage steps target, allowed above) :
    Keeps (tracing (Disk.Answers workingDirectory children))
      (Trace.KeepsTo allowed) (makeParents target).run := by
  obtain ⟨asked, isAllowed, asks⟩ := exists_asked allowed
  exact keeps_of_asksOnly
    (makeParents_asksAlong fun steps above member =>
      asks above (areAllowed steps above member))
    isAllowed

/-- The entries of a directory are copied by their own paths. -/
theorem keeps_copyEntriesAlong
    {copyBelow : Path → Path → Storing Unit}
    {items : List (Name × Disk.Kind)}
    (lead :
      ∀ item ∈ items,
        allowed (source.child item.1) ∧ allowed (target.child item.1))
    (keepsBelow :
      ∀ item ∈ items,
        Keeps (tracing (Disk.Answers workingDirectory children))
          (Trace.KeepsTo allowed)
          (copyBelow (source.child item.1) (target.child item.1)).run) :
    Keeps (tracing (Disk.Answers workingDirectory children))
      (Trace.KeepsTo allowed)
      (copyEntries copyBelow source target items).run := by
  induction items with
  | nil => exact .pure _
  | cons item rest inductionHypothesis =>
      obtain ⟨⟨fromAllowed, toAllowed⟩, restLeads⟩ := List.forall_mem_cons.mp lead
      obtain ⟨keepsItem, keepsRest⟩ := List.forall_mem_cons.mp keepsBelow
      obtain ⟨name, kind⟩ := item
      have copiesRest := inductionHypothesis restLeads keepsRest
      rw [copyEntries]
      dsimp only
      split
      · exact keepsItem.bindProcedure fun _ => copiesRest
      · have copies :
            Keeps (tracing (Disk.Answers workingDirectory children))
              (Trace.KeepsTo allowed)
              (Plan.ask
                (.copyFile (source.child name) (target.child name))) :=
          keeps_askPaths rfl rfl (by simp [Action.paths, fromAllowed, toAllowed])
        exact (copies.attempt _).bindProcedure fun _ => copiesRest

/-- A directory is copied by the paths of what is below it and of its copy. -/
theorem keeps_copyTreeAlong
    (depth : Nat)
    (mayRead : ∀ path, source.Holds path → allowed path)
    (mayWrite : ∀ path, IsOnCopy target path → allowed path) :
    Keeps (tracing (Disk.Answers workingDirectory children))
      (Trace.KeepsTo allowed) (copyTreeWithin depth source target).run := by
  induction depth generalizing source target with
  | zero => exact .pure _
  | succ depth inductionHypothesis =>
      rw [copyTreeWithin]
      apply Keeps.bindProcedure
      · exact (keeps_makeDirectoriesAlong fun steps above member =>
          mayWrite above (.of_mem_lineage (.refl target) member)).attempt _
      intro _ trace kept
      rw [ExceptT.run_bind]
      refine .bind (.bind (.ask fun reply after answered => ?_))
      have readsSource : (Action.listDirectory source).KeepsTo allowed :=
        ⟨rfl, List.forall_mem_singleton.mpr (mayRead _ (.refl source))⟩
      have keptAfter := kept.answered rfl readsSource answered
      refine ⟨keptAfter, ?_⟩
      cases reply with
      | error fault => exact keptAfter
      | ok items =>
          -- What is listed on a tree has plain names, which lead down.
          obtain ⟨⟨tells, -⟩, -⟩ := answered
          obtain ⟨there, _, -, -, areListed⟩ :=
            kept.listsOnce.listDirectory tells.eq_ok
          have leadDown :
              ∀ item ∈ items, item.1.isHere = false ∧ item.1.isUp = false := by
            rintro ⟨name, kind⟩ member
            obtain ⟨entry, stands, -⟩ := (areListed name kind).mp member
            have isPlain := (kept.isTree _ entry stands).2 name (by simp)
            obtain ⟨-, -, -, notHere, notUp, -⟩ :=
              Disk.not_special_of_isPlain isPlain
            exact ⟨notHere, notUp⟩
          have goesDown (directory : Path) {item : Name × Disk.Kind} :
              item ∈ items → directory.Holds (directory.child item.1) :=
            fun member =>
              Path.holds_child directory (leadDown item member).1
                (leadDown item member).2
          refine keeps_copyEntriesAlong ?_ ?_ _ keptAfter
          · exact fun item member =>
              ⟨mayRead _ (goesDown source member),
                mayWrite _ (.of_holds (goesDown target member))⟩
          · intro item member
            apply inductionHypothesis
            · exact fun path holds =>
                mayRead path ((goesDown source member).trans holds)
            · rintro path ⟨place, steps, holds, isAbove⟩
              exact mayWrite path
                (.of_mem_lineage ((goesDown target member).trans holds) isAbove)

end Files

end

namespace Resources

section

variable {workingDirectory : Location}
variable {children : Disk.Children}
variable {allowed : Path → Prop}
variable {resources : Resources}
variable {path : String}
variable {target : Path}
variable {trace : Trace Disk}

/-- A resource that has to be there is looked up at its place. -/
theorem upholds_existingAlong
    (isAllowed : ∀ place, resources.resolve path = .ok place → allowed place)
    (kept : trace.KeepsTo allowed) :
    Upholds (tracing (Disk.Answers workingDirectory children))
      (Trace.KeepsTo allowed)
      (fun place last =>
        last.KeepsTo allowed ∧ resources.resolve path = .ok place)
      (resources.existing path) trace := by
  have looksAt (place : Path) (mayLook : allowed place) :
      Upholds (tracing (Disk.Answers workingDirectory children))
        (Trace.KeepsTo allowed)
        (fun found last => last.KeepsTo allowed ∧ found = place)
        (do
          let isThere ← (Files.exists? place : Plan Bool)
          if isThere then return place else throw (.missingResource path) :
          Serving Path)
        trace := by
    refine .bindLift (.bind (.ask fun reply after answered => ?_))
    have looksAtPlace : (Action.status place).KeepsTo allowed :=
      ⟨rfl, List.forall_mem_singleton.mpr mayLook⟩
    have keptAfter := kept.answered rfl looksAtPlace answered
    refine ⟨keptAfter, ?_⟩
    cases reply with
    | ok status => exact .pure ⟨keptAfter, rfl⟩
    | error fault => exact .throw keptAfter
  unfold existing
  cases resolves : resources.resolve path with
  | error fault => exact ⟨kept⟩
  | ok place =>
      refine (looksAt place (isAllowed place resolves)).mono fun _ _ isFound => ?_
      exact ⟨isFound.1, congrArg Except.ok isFound.2.symm⟩

/-- What goes on from the place of a resource keeps to the paths that it may. -/
theorem keeps_existing_bind
    {α : Type}
    {next : Path → Serving α}
    (isAllowed : ∀ place, resources.resolve path = .ok place → allowed place)
    (keepsOn :
      ∀ place,
        resources.resolve path = .ok place →
        Keeps (tracing (Disk.Answers workingDirectory children))
          (Trace.KeepsTo allowed) (next place).run) :
    Keeps (tracing (Disk.Answers workingDirectory children))
      (Trace.KeepsTo allowed) (resources.existing path >>= next).run := by
  intro trace kept
  have upholds :
      Upholds (tracing (Disk.Answers workingDirectory children))
        (Trace.KeepsTo allowed) (fun _ last => last.KeepsTo allowed)
        (resources.existing path >>= next) trace :=
    (upholds_existingAlong isAllowed kept).bind fun place last isFound =>
      (keepsOn place isFound.2).upholds isFound.1 fun _ => id
  refine upholds.ensures.mono (fun _ => id) fun outcome last isEnd => ?_
  cases outcome <;> exact isEnd

end

/-- A path at or below the place of a resource. -/
def IsAt (resources : Resources) (path : String) (accessed : Path) : Prop :=
  ∃ place, resources.resolve path = .ok place ∧ place.Holds accessed

theorem accesses_of_keeps
    {α : Type}
    {allowed : Path → Prop}
    {plan : Plan α}
    (keeps :
      ∀ workingDirectory children,
        Keeps (tracing (Disk.Answers workingDirectory children))
          (Trace.KeepsTo allowed) plan) :
    plan.Accesses allowed := by
  intro workingDirectory children disk last value? tree once runs
  have kept : Trace.KeepsTo allowed ⟨disk, []⟩ := ⟨tree, once, by simp⟩
  exact ((keeps _ _ _ kept).of_runs runs kept).1.keepsTo

variable (resources : Resources)
variable (path : String)

theorem accesses_exists? :
    (resources.exists? path).Accesses fun accessed =>
      resources.resolve path = .ok accessed := by
  refine accesses_of_keeps fun workingDirectory children => ?_
  rw [exists?]
  cases resolves : resources.resolve path with
  | error fault => exact .pure _
  | ok place =>
      refine (Files.keeps_askPaths rfl rfl ?_).bind fun _ => .pure _
      exact List.forall_mem_singleton.mpr rfl

theorem accesses_readBytes :
    (resources.readBytes path).run.Accesses fun accessed =>
      resources.resolve path = .ok accessed := by
  refine accesses_of_keeps fun workingDirectory children => ?_
  refine keeps_existing_bind (fun _ => id) fun place resolves => ?_
  refine Keeps.adapt (Keeps.attempt (Files.keeps_askPaths rfl rfl ?_) _) _
  exact List.forall_mem_singleton.mpr resolves

theorem accesses_copyFile (target : Path) :
    (resources.copyFile path target).run.Accesses fun accessed =>
      resources.resolve path = .ok accessed ∨ Files.IsOnCopy target accessed := by
  refine accesses_of_keeps fun workingDirectory children => ?_
  refine keeps_existing_bind (fun _ => .inl) fun place resolves => ?_
  refine Keeps.adapt ?_ _
  apply Keeps.bindProcedure
  · exact Files.keeps_makeParentsAlong fun steps above member =>
      .inr (.of_mem_lineage (.refl target) member)
  · intro _
    refine Keeps.attempt (Files.keeps_askPaths rfl rfl ?_) _
    simp [Action.paths, resolves, Files.IsOnCopy.of_holds (.refl target)]

theorem accesses_copyTree (target : Path) :
    (resources.copyTree path target).run.Accesses fun accessed =>
      resources.IsAt path accessed ∨ Files.IsOnCopy target accessed := by
  refine accesses_of_keeps fun workingDirectory children => ?_
  apply keeps_existing_bind
  · exact fun place resolves => .inl ⟨place, resolves, .refl place⟩
  · intro place resolves
    refine Keeps.adapt (Files.keeps_copyTreeAlong _ ?_ ?_) _
    · exact fun accessed holds => .inl ⟨place, resolves, holds⟩
    · exact fun accessed => .inr

/--
A resource stays inside: its path is refused exactly if two dots stand between its slashes, and followed below
the directory of all resources otherwise, by what else stands there and names something.  Nothing is accessed
but the resource, what is below, and the paths of a copy.
-/
structure StaysInside : Prop where
  refuses :
    resources.resolve path = .error (.badConfig (.leavesPackages path)) ↔
      ['.', '.'] ∈ Text.fields '/' (reach path)
  follows :
    ['.', '.'] ∉ Text.fields '/' (reach path) →
      ∃ place,
        resources.resolve path = .ok place ∧
          place = resources.root.below (placeNames (reach path)) ∧
            place.closedSegments =
                resources.root.closedSegments ++ placeNames (reach path) ∧
              resources.root.Holds place
  respells :
    ∀ other,
      Relation.EqvGen Respells (reach path) (reach other) →
      ∀ place,
        resources.resolve path = .ok place ↔
          resources.resolve other = .ok place
  looks :
    (resources.exists? path).Accesses fun accessed =>
      resources.resolve path = .ok accessed
  reads :
    (resources.readBytes path).run.Accesses fun accessed =>
      resources.resolve path = .ok accessed
  copiesFile :
    ∀ target,
      (resources.copyFile path target).run.Accesses fun accessed =>
        resources.resolve path = .ok accessed ∨
          Files.IsOnCopy target accessed
  copiesTree :
    ∀ target,
      (resources.copyTree path target).run.Accesses fun accessed =>
        resources.IsAt path accessed ∨ Files.IsOnCopy target accessed

/-- Every resource stays inside, whatever its path is and whatever the directory of all resources. -/
theorem resource_staysInside : resources.StaysInside path where
  refuses := by
    rw [resolve_eq]
    split
    · rename_i hasUp
      exact iff_of_true rfl hasUp
    · rename_i noUps
      exact iff_of_false (by simp) noUps
  follows noUps := by
    have leadDown := placeNames_leadDown noUps
    refine ⟨_, (resolve_eq resources path).trans (if_neg noUps), rfl, ?_, _, leadDown,
      rfl⟩
    exact Path.closedSegments_below _ fun name member =>
      Name.ne_empty (leadDown name member).1
  respells _ respells place := resolve_eq_ok_iff_of_respells respells place
  looks := accesses_exists? resources path
  reads := accesses_readBytes resources path
  copiesFile := accesses_copyFile resources path
  copiesTree := accesses_copyTree resources path

end Resources

end Provision
