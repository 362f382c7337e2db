import Provision.Proofs.Storage.Copying
import Provision.Venv.Uv

namespace Provision

/-!
# Copies of manifests

An environment that uv fills is installed with copies of the manifests that the package has.  Whatever was
there before, after an installation each copy holds what its manifest holds, or it is missing.
-/

open Plan

namespace Resources

/-- What a resource holds on a disk, if it can be read. -/
def content?
    (resources : Resources)
    (workingDirectory : Location)
    (disk : Disk)
    (path : String) :
    Option Bytes :=
  match resources.resolve path with
  | .error _ => none
  | .ok place =>
      match disk.readFile workingDirectory place with
      | .ok content => some content
      | .error _ => none

/-- Whether there is something at a resource path. -/
def isThere
    (resources : Resources)
    (workingDirectory : Location)
    (disk : Disk)
    (path : String) :
    Bool :=
  match resources.resolve path with
  | .error _ => false
  | .ok place => (disk.status workingDirectory true place).isOk

variable {resources : Resources}
variable {workingDirectory : Location}
variable {disk : Disk}
variable {path : String}

/-- What a resource holds is read at its place. -/
theorem content?_eq_some_iff
    {content : Bytes} :
    resources.content? workingDirectory disk path = some content ↔
      ∃ place,
        resources.resolve path = .ok place ∧
          disk.readFile workingDirectory place = .ok content := by
  unfold content?
  cases resources.resolve path with
  | error fault => simp
  | ok place =>
      cases reads : disk.readFile workingDirectory place <;> simp [reads]

/--
A resource on one disk accounts for a file on another one: the file is missing, or it holds what the
resource holds.
-/
def AccountsFor
    (resources : Resources)
    (workingDirectory : Location)
    (disk : Disk)
    (path : String)
    (later : Disk)
    (copy : Path) :
    Prop :=
  (∃ content,
      resources.content? workingDirectory disk path = some content ∧
        later.readFile workingDirectory copy = .ok content) ∨
    later.readFile workingDirectory copy = .error (.refused .noEntry)

/-- What accounts for a file is what a resource holds, wherever that is read. -/
theorem AccountsFor.congr
    {first later : Disk}
    {copy : Path}
    (accounts :
      resources.AccountsFor workingDirectory disk path later copy)
    (isSame :
      resources.content? workingDirectory disk path =
        resources.content? workingDirectory first path) :
    resources.AccountsFor workingDirectory first path later copy :=
  accounts.imp_left fun ⟨content, isContent, reads⟩ =>
    ⟨content, isSame ▸ isContent, reads⟩

/-- What accounts for a file accounts for it as long as the same is read there. -/
theorem AccountsFor.of_same
    {later last : Disk}
    {copy : Path}
    (accounts :
      resources.AccountsFor workingDirectory disk path later copy)
    (isSame :
      last.readFile workingDirectory copy =
        later.readFile workingDirectory copy) :
    resources.AccountsFor workingDirectory disk path last copy := by
  rw [AccountsFor, isSame]
  exact accounts

section

variable {children : Disk.Children}
variable {step : Stepping Disk}
variable {last : Disk}
variable {directory : Path}
variable {name : Name}
variable (answersBy : Disk.AnswersBy workingDirectory children step)

include answersBy

/-- Looking for a resource changes nothing. -/
theorem ends_exists
    {isThere : Bool}
    (ends : Ends step (resources.exists? path) disk isThere last) :
    last = disk := by
  unfold exists? at ends
  split at ends
  · obtain ⟨reply, asked, answered, told⟩ := ends_bind_iff.mp ends
    obtain ⟨-, rfl⟩ := answersBy _ _ _ _ (ends_ask_iff.mp answered)
    exact (ends_pure_iff.mp told).2
  · exact (ends_pure_iff.mp ends).2

/-- A resource that has to be there is at its place. -/
theorem ends_existing
    {place : Path}
    (ends :
      Ends step (resources.existing path).run disk (.ok place) last) :
    resources.resolve path = .ok place ∧ last = disk := by
  unfold existing at ends
  obtain ⟨found, _, resolves, checks⟩ := ends_bindProcedure_iff.mp ends
  obtain ⟨isFound, rfl⟩ := ends_pure_iff.mp resolves
  obtain ⟨isThere, _, looks, settles⟩ := ends_bindLift_iff.mp checks
  obtain ⟨reply, _, asks, tells⟩ := ends_bind_iff.mp looks
  obtain ⟨-, rfl⟩ := answersBy _ _ _ _ (ends_ask_iff.mp asks)
  obtain ⟨-, rfl⟩ := ends_pure_iff.mp tells
  cases isThere with
  | false => exact absurd settles not_ends_throw
  | true =>
      obtain ⟨isPlace, rfl⟩ := ends_pure_iff.mp settles
      obtain rfl := Except.ok.inj isPlace
      exact ⟨isFound.symm, rfl⟩

/--
A resource that is copied to a missing entry of a directory is there with what it holds once the directory has
been made, and all else that stood still stands.
-/
theorem ends_copyFile_within
    (tree : disk.IsTree)
    (upFirst : directory.UpFirst)
    (isPlain : name.isPlain = true)
    (lacks : disk.LacksChild workingDirectory directory name)
    (ends :
      Ends step (resources.copyFile path (directory.child name)).run disk
        (.ok ()) last) :
    last.IsTree ∧
      (∀ other,
        other ≠ name →
        disk.LacksChild workingDirectory directory other →
        last.LacksChild workingDirectory directory other) ∧
      ∃ made content,
        Ends step (Files.makeParents (directory.child name)).run disk
            (.ok ()) made ∧
          disk.Within made ∧ made.Within last ∧
            resources.content? workingDirectory made path = some content ∧
              last.readFile workingDirectory (directory.child name) =
                .ok content := by
  unfold copyFile at ends
  obtain ⟨place, middle, finds, stores⟩ := ends_bindProcedure_iff.mp ends
  obtain ⟨resolves, rfl⟩ := ends_existing answersBy finds
  obtain ⟨_, made, makes, copies⟩ :=
    ends_bindProcedure_iff.mp (ends_adapt_iff.mp stores)
  have notHere := (Disk.not_special_of_isPlain isPlain).2.2.2.1
  obtain ⟨tree, ⟨_, gainsDirectories⟩, isNew⟩ :=
    Files.ends_makeParents_child answersBy notHere tree upFirst makes
  have staysMissing (other : Name) :
      middle.LacksChild workingDirectory directory other →
      made.LacksChild workingDirectory directory other := by
    intro lacks
    rcases isNew with rfl | ⟨left, there, -, leads, isFresh⟩
    · exact lacks
    · exact isFresh.lacksChild leads other
  have answers := answersBy _ _ _ _ (ends_ask_iff.mp (ends_attempt_iff.mp copies))
  cases answers with
  | done isDone =>
      obtain ⟨content, left, there, file, reads, leads, gains, readsCopy⟩ :=
        (staysMissing name lacks).copyFile isPlain isDone
      refine ⟨tree.of_gainsFile isPlain gains, ?_,
        made, content, makes, fun _ _ => gainsDirectories.get?, gains.within,
        content?_eq_some_iff.mpr ⟨place, resolves, reads⟩, readsCopy⟩
      intro other isOther lacksOther
      exact (staysMissing other lacksOther).of_gainsFile leads gains isOther

/--
A resource that is copied to a missing entry of a directory is there with what it held, if nothing changes it on
the way, and all else that stood still stands.
-/
theorem ends_copyFile
    (keeps :
      ∀ action first reply after,
        step action first reply after →
        resources.content? workingDirectory after path =
          resources.content? workingDirectory first path)
    (tree : disk.IsTree)
    (upFirst : directory.UpFirst)
    (isPlain : name.isPlain = true)
    (lacks : disk.LacksChild workingDirectory directory name)
    (ends :
      Ends step (resources.copyFile path (directory.child name)).run disk
        (.ok ()) last) :
    last.IsTree ∧ disk.Within last ∧
      (∃ content,
        resources.content? workingDirectory disk path = some content ∧
          last.readFile workingDirectory (directory.child name) =
            .ok content) ∧
      (∀ other,
        other ≠ name →
        disk.LacksChild workingDirectory directory other →
        last.LacksChild workingDirectory directory other) := by
  obtain ⟨tree, stayMissing, made, content, makes, within, withinLast,
      isContent, reads⟩ :=
    ends_copyFile_within answersBy tree upFirst isPlain lacks ends
  have sameContent :
      resources.content? workingDirectory made path =
        resources.content? workingDirectory disk path :=
    makes.keeps
      (fun disk => resources.content? workingDirectory disk path)
      (.always _) fun action first reply after _ =>
        keeps action first reply after
  exact ⟨tree, within.trans withinLast,
    ⟨content, sameContent ▸ isContent, reads⟩, stayMissing⟩

end

end Resources

/--
A disk is ready for entries of a directory: its path leads somewhere, and entries with these names can be
made there and are missing.
-/
structure Disk.ReadyFor
    (disk : Disk)
    (workingDirectory : Location)
    (directory : Path)
    (names : List Name) :
    Prop where
  isTree : disk.IsTree
  leads : ∃ left there, disk.LeadsTo workingDirectory directory left there
  arePlain : ∀ name ∈ names, name.isPlain = true
  areUsable : ∀ name ∈ names, (directory.child name).isUsable = true
  lacks : ∀ name ∈ names, disk.LacksChild workingDirectory directory name

namespace Disk.ReadyFor

variable {disk later : Disk}
variable {workingDirectory : Location}
variable {directory : Path}
variable {name : Name}
variable {names : List Name}

/-- A disk that is ready for entries is ready for fewer of them. -/
theorem tail
    (ready : disk.ReadyFor workingDirectory directory (name :: names)) :
    disk.ReadyFor workingDirectory directory names where
  isTree := ready.isTree
  leads := ready.leads
  arePlain := fun other member => ready.arePlain other (.tail _ member)
  areUsable := fun other member => ready.areUsable other (.tail _ member)
  lacks := fun other member => ready.lacks other (.tail _ member)

/-- A disk with more is ready for the entries that are still missing. -/
theorem of_within
    (ready : disk.ReadyFor workingDirectory directory names)
    (tree : later.IsTree)
    (within : disk.Within later)
    (stayMissing :
      ∀ name ∈ names,
        disk.LacksChild workingDirectory directory name →
        later.LacksChild workingDirectory directory name) :
    later.ReadyFor workingDirectory directory names where
  isTree := tree
  leads :=
    ready.leads.imp fun _ => .imp fun _ leads => leads.mono within
  arePlain := ready.arePlain
  areUsable := ready.areUsable
  lacks := fun name member =>
    stayMissing name member (ready.lacks name member)

end Disk.ReadyFor

namespace UvProject

/-- Which manifests are stored under which names. -/
def storedNames (project : UvProject) : List (String × Name) :=
  [(project.manifest, .text manifestName), (project.lock, .text lockName)]

/-- The copies of the manifests are entries of the storage. -/
theorem sources_eq_map (project : UvProject) :
    project.sources =
      project.storedNames.map fun item =>
        (item.1, project.storage.child item.2) := by
  have isChild
      (name : String)
      (isName : Path.ofString name = ⟨.text name, []⟩) :
      project.storage / name = project.storage.child (.text name) :=
    congrArg project.storage.join isName
  have isManifest := isChild manifestName (by decide +kernel)
  have isLock := isChild lockName (by decide +kernel)
  rw [sources, isManifest, isLock]
  rfl

/-- The copies of the manifests are at these entries of the storage. -/
theorem copies_eq_map (project : UvProject) :
    project.sources.map Prod.snd =
      (project.storedNames.map Prod.snd).map project.storage.child := by
  simp [sources_eq_map, Function.comp_def]

/-- The copies of manifests have different names, and they can be those of entries. -/
theorem storedNames_arePlain (project : UvProject) :
    (project.storedNames.map Prod.snd).Nodup ∧
      ∀ name ∈ project.storedNames.map Prod.snd, name.isPlain = true := by
  change ([.text manifestName, .text lockName] : List Name).Nodup ∧
    ∀ name ∈ ([.text manifestName, .text lockName] : List Name),
      name.isPlain = true
  decide +kernel

/-- Remove the environment and the copies of the manifests, and make the storage. -/
def clear (project : UvProject) : Storing Unit := do
  removeFiles (project.sources.map Prod.snd)
  Files.removeTree project.environment
  Files.reporting project.storage (Files.makeDirectories project.storage)

/-- Copy the manifests, and let the tool make the environment. -/
def fill : Session UvProject ServerFault Unit := do
  let project ← get
  Procedure.within (copySources project.resources project.sources)
  let tool ← locateTool
  let _ ← Procedure.within (tool.run ["sync"] project.storage)

/-- The storage of a project is cleared, and then the manifests are copied. -/
theorem prepare_eq (project : UvProject) :
    project.prepare =
      (Serving.storing project.clear >>= fun _ =>
        copySources project.resources project.sources) :=
  rfl

section

variable {workingDirectory : Location}
variable {children : Disk.Children}
variable {step : Stepping Disk}
variable {disk last : Disk}
variable {directory : Path}
variable (answersBy : Disk.AnswersBy workingDirectory children step)

include answersBy

/-- Entries of a directory that are removed unless they are gone are missing. -/
theorem ends_removeFiles
    {names : List Name}
    (tree : disk.IsTree)
    (arePlain : ∀ name ∈ names, name.isPlain = true)
    (ends :
      Ends step (removeFiles (names.map directory.child)).run disk (.ok ())
        last) :
    last.IsTree ∧ last.Within disk ∧
      ∀ name ∈ names,
        last.LacksChild workingDirectory directory name ∧
          (directory.child name).isUsable = true := by
  induction names generalizing disk with
  | nil =>
      obtain ⟨-, rfl⟩ := ends_pure_iff.mp ends
      exact ⟨tree, .refl last, by simp⟩
  | cons name rest inductionHypothesis =>
      obtain ⟨_, middle, removes, removesOn⟩ := ends_bindProcedure_iff.mp ends
      obtain ⟨tree, within, lacks, isUsable⟩ :=
        Files.ends_removeFile_child answersBy tree (arePlain name (.head _))
          removes
      obtain ⟨tree, withinMiddle, areMissing⟩ :=
        inductionHypothesis tree
          (fun other member => arePlain other (.tail _ member)) removesOn
      refine ⟨tree, withinMiddle.trans within, fun other member => ?_⟩
      rcases List.mem_cons.mp member with rfl | inRest
      · exact ⟨lacks.of_within withinMiddle, isUsable⟩
      · exact areMissing other inRest

/--
Manifests that are copied to missing entries of a directory account for these; other entries that were
missing still are.
-/
theorem ends_copySources
    {resources : Resources}
    {items : List (String × Name)}
    (keeps :
      ∀ item ∈ items,
        ∀ action first reply after,
          step action first reply after →
          resources.content? workingDirectory after item.1 =
            resources.content? workingDirectory first item.1)
    (upFirst : directory.UpFirst)
    (areDifferent : (items.map Prod.snd).Nodup)
    (ready : disk.ReadyFor workingDirectory directory (items.map Prod.snd))
    (ends :
      Ends step
        (copySources resources
          (items.map fun item => (item.1, directory.child item.2))).run
        disk (.ok ()) last) :
    disk.Within last ∧
      (∀ other,
        other ∉ items.map Prod.snd →
        disk.LacksChild workingDirectory directory other →
        last.LacksChild workingDirectory directory other) ∧
      ∀ item ∈ items,
        resources.AccountsFor workingDirectory disk item.1 last
          (directory.child item.2) := by
  induction items generalizing disk with
  | nil =>
      obtain ⟨-, rfl⟩ := ends_pure_iff.mp ends
      exact ⟨.refl last, fun _ _ => id, by simp⟩
  | cons item rest inductionHypothesis =>
      obtain ⟨isNew, areDifferent⟩ := List.nodup_cons.mp areDifferent
      have keepsRest :
          ∀ other ∈ rest,
            ∀ action first reply after,
              step action first reply after →
              resources.content? workingDirectory after other.1 =
                resources.content? workingDirectory first other.1 :=
        fun other member => keeps other (.tail _ member)
      rw [List.map_cons, copySources] at ends
      obtain ⟨isThere, now, looks, goesOn⟩ := ends_bindLift_iff.mp ends
      obtain rfl : disk = now := (Resources.ends_exists answersBy looks).symm
      cases isThere with
      | false =>
          obtain ⟨within, stayMissing, account⟩ :=
            inductionHypothesis keepsRest areDifferent ready.tail goesOn
          have isMissing :=
            stayMissing item.2 isNew (ready.lacks item.2 (.head _))
          refine ⟨within, fun other isOther => stayMissing other ?_, ?_⟩
          · exact fun inRest => isOther (.tail _ inRest)
          · intro other member
            rcases List.mem_cons.mp member with rfl | inRest
            · obtain ⟨left, there, leads⟩ := ready.leads
              exact Or.inr (isMissing.readFile (leads.mono within)
                (ready.arePlain other.2 (.head _))
                (ready.areUsable other.2 (.head _)))
            · exact account other inRest
      | true =>
          obtain ⟨_, middle, copies, copiesOn⟩ :=
            ends_bindProcedure_iff.mp goesOn
          obtain ⟨tree, within, ⟨content, isContent, reads⟩, stay⟩ :=
            Resources.ends_copyFile answersBy (keeps item (.head _))
              ready.isTree upFirst (ready.arePlain item.2 (.head _))
              (ready.lacks item.2 (.head _)) copies
          obtain ⟨withinLast, stayMissing, account⟩ :=
            inductionHypothesis keepsRest areDifferent
              (ready.tail.of_within tree within fun other inRest =>
                stay other fun isItem => isNew (isItem ▸ inRest))
              copiesOn
          refine ⟨within.trans withinLast, fun other isOther lacks => ?_, ?_⟩
          · exact stayMissing other (fun inRest => isOther (.tail _ inRest))
              (stay other (fun isItem => isOther (isItem ▸ .head _)) lacks)
          · intro other member
            rcases List.mem_cons.mp member with rfl | inRest
            · exact Or.inl ⟨content, isContent, withinLast.readFile reads⟩
            · have isSame :=
                copies.keeps
                  (fun disk =>
                    resources.content? workingDirectory disk other.1)
                  (.always _) fun action first reply after _ =>
                    keepsRest other inRest action first reply after
              exact (account other inRest).congr isSame

/-- A storage that is cleared is ready for the copies of the manifests. -/
theorem ends_clear
    {project : UvProject}
    (tree : disk.IsTree)
    (upFirst : project.storage.UpFirst)
    (ends : Ends step project.clear.run disk (.ok ()) last) :
    last.ReadyFor workingDirectory project.storage
      (project.storedNames.map Prod.snd) := by
  have arePlain := project.storedNames_arePlain.2
  obtain ⟨_, removed, removes, clearsOn⟩ := ends_bindProcedure_iff.mp ends
  obtain ⟨_, thinned, thins, makes⟩ := ends_bindProcedure_iff.mp clearsOn
  rw [project.copies_eq_map] at removes
  obtain ⟨tree, -, areMissing⟩ :=
    ends_removeFiles answersBy tree arePlain removes
  obtain ⟨tree, within⟩ := Files.ends_removeTree answersBy tree thins
  obtain ⟨there, way⟩ :=
    Files.ends_makeDirectories answersBy tree upFirst
      (ends_attempt_iff.mp makes)
  obtain ⟨left, leads⟩ := way.leads
  refine ⟨way.isTree, ⟨left, there, leads⟩, arePlain,
    fun name member => (areMissing name member).2, fun name member => ?_⟩
  rcases way.isNew with ⟨rfl, -⟩ | ⟨-, isFresh, -⟩
  · exact (areMissing name member).1.of_within within
  · exact isFresh.lacksChild leads name

/-- What a package is prepared with accounts for the copies of its manifests. -/
theorem ends_prepare
    {project : UvProject}
    (keeps :
      ∀ source ∈ project.sources,
        ∀ action first reply after,
          step action first reply after →
          project.resources.content? workingDirectory after source.1 =
            project.resources.content? workingDirectory first source.1)
    (tree : disk.IsTree)
    (upFirst : project.storage.UpFirst)
    (ends : Ends step project.prepare.run disk (.ok ()) last) :
    ∀ source ∈ project.sources,
      project.resources.AccountsFor workingDirectory disk source.1 last
        source.2 := by
  rw [prepare_eq] at ends
  obtain ⟨_, middle, clears, copies⟩ := ends_bindProcedure_iff.mp ends
  have ready := ends_clear answersBy tree upFirst (ends_adapt_iff.mp clears)
  rw [project.sources_eq_map] at keeps copies ⊢
  have keepsItems :
      ∀ item ∈ project.storedNames,
        ∀ action first reply after,
          step action first reply after →
          project.resources.content? workingDirectory after item.1 =
            project.resources.content? workingDirectory first item.1 :=
    fun item member =>
      keeps (item.1, project.storage.child item.2)
        (List.mem_map_of_mem member)
  obtain ⟨-, -, account⟩ :=
    ends_copySources answersBy keepsItems upFirst
      project.storedNames_arePlain.1 ready copies
  intro source member
  obtain ⟨item, isItem, rfl⟩ := List.mem_map.mp member
  have isSame :=
    clears.keeps
      (fun disk => project.resources.content? workingDirectory disk item.1)
      (.always _) fun action first reply after _ =>
        keepsItems item isItem action first reply after
  exact (account item isItem).congr isSame

end

/-! ## Installing -/

/-- The manifests of the package hold the same on two disks. -/
def SameManifests
    (project : UvProject)
    (workingDirectory : Location)
    (disk later : Disk) :
    Prop :=
  ∀ source ∈ project.sources,
    project.resources.content? workingDirectory later source.1 =
      project.resources.content? workingDirectory disk source.1

/-- The same is read at the stored copies of the manifests on two disks. -/
def SameCopies
    (project : UvProject)
    (workingDirectory : Location)
    (disk later : Disk) :
    Prop :=
  ∀ source ∈ project.sources,
    later.readFile workingDirectory source.2 =
      disk.readFile workingDirectory source.2

/-- The answers of a disk while the manifests of the package stay as they are. -/
def installing
    (project : UvProject)
    (workingDirectory : Location)
    (children : Disk.Children) :
    Stepping Disk :=
  fun action disk reply after =>
    Disk.Answers workingDirectory children action disk reply after ∧
      project.SameManifests workingDirectory disk after

section

variable {project after : UvProject}
variable {workingDirectory : Location}
variable {children : Disk.Children}
variable {disk installed : Disk}

/-- The tool keeps the copies if its processes do. -/
theorem ends_run
    {tool : UvTool}
    {arguments : List String}
    {directory : Path}
    {output : String}
    (childrenKeep :
      ∀ child disk reply last,
        children child disk reply last →
        project.SameCopies workingDirectory disk last)
    (ends :
      Ends (project.installing workingDirectory children)
        (tool.run arguments directory).run disk (.ok output) installed) :
    project.SameCopies workingDirectory disk installed := by
  intro source member
  refine
    (ends_adapt_iff.mp (ends_adapt_iff.mp ends)).keeps
      (fun disk => disk.readFile workingDirectory source.2)
      ((Command.run_asksOnly _).mono fun _ => Action.isQuiet_of_runsIn) ?_
  intro action first reply last isQuiet answered
  cases looks : action.looks with
  | true => rw [answered.1.eq_of_looks looks]
  | false =>
      cases action with
      | spawn child => exact childrenKeep _ _ _ _ answered.1 source member
      | _ => simp [Action.isQuiet, Action.isChild, looks] at isQuiet

/-- The tool that is used is the one that is known, or else it is located and known from then on. -/
theorem ends_locateTool
    {step : Stepping Disk}
    {tool : UvTool}
    {last : Disk}
    (ends :
      Ends step (locateTool.run.run project) disk (.ok tool, after) last) :
    after = { project with tool := some tool } ∧
      (project.tool = some tool ∧ last = disk ∨
        project.tool = none ∧
          Ends step (UvTool.locate project.layout none {}).run disk
            (.ok tool) last) := by
  unfold locateTool at ends
  obtain ⟨_, _, _, gets, finds⟩ := ends_bindSession_iff.mp ends
  obtain ⟨rfl, rfl, rfl⟩ := ends_getSession_iff.mp gets
  split at finds
  · rename_i known isKnown
    obtain ⟨rfl, rfl, rfl⟩ := ends_pureSession_iff.mp finds
    exact ⟨by rw [← isKnown], Or.inl ⟨isKnown, rfl⟩⟩
  · rename_i isUnknown
    obtain ⟨_, _, _, within, keeps⟩ := ends_bindSession_iff.mp finds
    obtain ⟨locates, rfl⟩ := ends_within_iff.mp within
    obtain ⟨_, _, _, sets, returns⟩ := ends_bindSession_iff.mp keeps
    obtain ⟨rfl, rfl⟩ := ends_setSession_iff.mp sets
    obtain ⟨rfl, rfl, rfl⟩ := ends_pureSession_iff.mp returns
    exact ⟨rfl, Or.inr ⟨isUnknown, locates⟩⟩

/-- An installation clears the storage and then fills it. -/
theorem ends_clear_of_install
    {step : Stepping Disk}
    (ends :
      Ends step (install.run.run project) disk (.ok (), after) installed) :
    ∃ cleared,
      Ends step project.clear.run disk (.ok ()) cleared ∧
        Ends step (fill.run.run project) cleared (.ok (), after)
          installed := by
  unfold install at ends
  obtain ⟨_, _, _, gets, installs⟩ := ends_bindSession_iff.mp ends
  obtain ⟨rfl, rfl, rfl⟩ := ends_getSession_iff.mp gets
  obtain ⟨_, _, prepared, first, goesOn⟩ := ends_bindSession_iff.mp installs
  obtain ⟨prepares, rfl⟩ := ends_within_iff.mp first
  rw [prepare_eq] at prepares
  obtain ⟨_, cleared, clears, copies⟩ := ends_bindProcedure_iff.mp prepares
  refine ⟨cleared, ends_adapt_iff.mp clears, ?_⟩
  refine ends_bindSession_iff.mpr
    ⟨project, project, cleared, ends_getSession_iff.mpr ⟨rfl, rfl, rfl⟩, ?_⟩
  exact ends_bindSession_iff.mpr
    ⟨(), project, prepared, ends_within_iff.mpr ⟨copies, rfl⟩, goesOn⟩

/-- The storage is filled with the manifests by the tool that is known or located, and that is kept. -/
theorem ends_fillSteps
    {step : Stepping Disk}
    (ends :
      Ends step (fill.run.run project) disk (.ok (), after) installed) :
    ∃ prepared tool located output,
      Ends step (copySources project.resources project.sources).run disk
          (.ok ()) prepared ∧
        (project.tool = some tool ∧ located = prepared ∨
          project.tool = none ∧
            Ends step (UvTool.locate project.layout none {}).run prepared
              (.ok tool) located) ∧
          Ends step (tool.run ["sync"] project.storage).run located
              (.ok output) installed ∧
            after = { project with tool := some tool } := by
  unfold fill at ends
  obtain ⟨_, _, _, gets, fills⟩ := ends_bindSession_iff.mp ends
  obtain ⟨rfl, rfl, rfl⟩ := ends_getSession_iff.mp gets
  obtain ⟨_, _, prepared, first, goesOn⟩ := ends_bindSession_iff.mp fills
  obtain ⟨copies, rfl⟩ := ends_within_iff.mp first
  obtain ⟨tool, _, located, locates, uses⟩ := ends_bindSession_iff.mp goesOn
  obtain ⟨output, _, _, second, returns⟩ := ends_bindSession_iff.mp uses
  obtain ⟨runs, rfl⟩ := ends_within_iff.mp second
  obtain ⟨-, rfl, rfl⟩ := ends_pureSession_iff.mp returns
  obtain ⟨isAfter, isLocated⟩ := ends_locateTool locates
  exact ⟨prepared, tool, located, output, copies, isLocated, runs, isAfter⟩

/-- An installation accounts for the copies, if nothing but its preparation touches them. -/
theorem ends_install
    (childrenKeep :
      ∀ child disk reply last,
        children child disk reply last →
        project.SameCopies workingDirectory disk last)
    (locatingKeeps :
      project.tool = none →
      ∀ disk tool last,
        Ends (project.installing workingDirectory children)
          (UvTool.locate project.layout none {}).run disk (.ok tool) last →
        project.SameCopies workingDirectory disk last)
    (tree : disk.IsTree)
    (upFirst : project.storage.UpFirst)
    (ends :
      Ends (project.installing workingDirectory children)
        (install.run.run project) disk (.ok (), after) installed) :
    after = { project with tool := after.tool } ∧
      ∀ source ∈ project.sources,
        project.resources.AccountsFor workingDirectory disk source.1
          installed source.2 := by
  obtain ⟨cleared, clears, fills⟩ := ends_clear_of_install ends
  obtain ⟨prepared, tool, located, output, copies, isLocated, runs, rfl⟩ :=
    ends_fillSteps fills
  have prepares :
      Ends (project.installing workingDirectory children)
        project.prepare.run disk (.ok ()) prepared :=
    ends_bindProcedure_iff.mpr ⟨(), cleared, ends_adapt_iff.mpr clears, copies⟩
  have sameLocated : project.SameCopies workingDirectory prepared located := by
    rcases isLocated with ⟨-, rfl⟩ | ⟨isUnknown, locates⟩
    · exact fun _ _ => rfl
    · exact locatingKeeps isUnknown _ _ _ locates
  have sameInstalled := ends_run childrenKeep runs
  refine ⟨rfl, fun source member => ?_⟩
  have answersBy :
      Disk.AnswersBy workingDirectory children
        (project.installing workingDirectory children) :=
    fun _ _ _ _ => And.left
  have accounts :=
    ends_prepare answersBy
      (fun source member _ _ _ _ answered => answered.2 source member) tree
      upFirst prepares source member
  exact accounts.of_same
    ((sameInstalled source member).trans (sameLocated source member))

end

end UvProject

end Provision
