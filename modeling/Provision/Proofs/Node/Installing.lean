import Provision.Node.Electron
import Provision.Proofs.Disk.Guarding
import Provision.Proofs.Node.Marking
import Provision.Proofs.Text.Fields

namespace Provision

/-!
# Paths of archives

An archive is downloaded to a path in the directory of its runtime.  Its name holds what a release says, so
it may hold slashes; but it starts in the directory, and it does not end as a mark does.
-/

/-- Whether a text starts like a relative path with a name. -/
def opensName (text : List Char) : Bool :=
  text.head?.any (· ≠ '/')

/-- Whether a text ends like a path to something other than a mark. -/
def closesName (text : List Char) : Bool :=
  text.getLast?.any (· ∉ ['/', '.', 'g'])

/-- A text that starts like a path goes on as it likes. -/
theorem opensName_append
    {opening : List Char}
    (opens : opensName opening = true)
    (rest : List Char) :
    opensName (opening ++ rest) = true := by
  cases opening with
  | nil => simp [opensName] at opens
  | cons c others => exact opens

/-- A text that ends like a path to a file starts as it likes. -/
theorem closesName_append
    {closing : List Char}
    (closes : closesName closing = true)
    (before : List Char) :
    closesName (before ++ closing) = true := by
  unfold closesName at closes ⊢
  cases isLast : closing.getLast? with
  | none => simp [isLast] at closes
  | some c =>
      rw [List.getLast?_append, isLast]
      simpa [isLast] using closes

namespace Path

/-- The path of a text that starts like one is relative, and starts with a name. -/
theorem ofString_of_opensName
    {text : String}
    (opens : opensName text.toList = true) :
    (ofString text).isAbsolute = false ∧
      (ofString text).first ≠ .text "" := by
  cases isText : text.toList with
  | nil => simp [isText, opensName] at opens
  | cons c rest =>
      have notSlash : c ≠ '/' := by
        simpa [isText, opensName] using opens
      obtain ⟨first, others, isFields⟩ := Text.exists_fields_cons notSlash rest
      have isFirst :
          (ofString text).first = .text (String.ofList (c :: first)) := by
        rw [ofString, isText, isFields]
        rfl
      have isNamed : (ofString text).first ≠ .text "" := by
        rw [isFirst]
        intro isEmpty
        have isNil := congrArg String.toList (Name.text.inj isEmpty)
        simp at isNil
      exact ⟨by simp [isAbsolute, isNamed], isNamed⟩

/-- What is joined to a directory and starts with a name goes through the directory. -/
theorem goesThrough_of_opensName
    (directory : Path)
    {text : String}
    (opens : opensName text.toList = true) :
    directory.GoesThrough (directory / text) :=
  have isPath := ofString_of_opensName opens
  goesThrough_join directory isPath.1 isPath.2

/-- What is joined to a directory ends with a name that ends as its text does. -/
theorem exists_names_concat
    (directory : Path)
    {text : String}
    {c : Char}
    (opens : opensName text.toList = true)
    (isLast : text.toList.getLast? = some c)
    (notSlash : c ≠ '/') :
    ∃ before last,
      (directory / text).names =
        before ++ [.text (String.ofList (last ++ [c]))] := by
  obtain ⟨rest, isText⟩ := List.getLast?_eq_some_iff.mp isLast
  obtain ⟨before, last, isFields⟩ := Text.exists_fields_concat notSlash rest
  have isSegments :
      (ofString text).segments =
        (before ++ [last ++ [c]]).map (.text ∘ String.ofList) := by
    rw [ofString, segments_ofSegments (by simp [Text.fields_ne_nil]), isText,
      isFields]
    rfl
  refine ⟨directory.way ++ before.map (.text ∘ String.ofList), last, ?_⟩
  change (directory.join (ofString text)).names = _
  rw [names_join directory (ofString_of_opensName opens).1, isSegments,
    List.map_append, List.append_assoc]
  rfl

/-- What is joined to a directory ends with its own name. -/
theorem endsApart_of_closesName
    (directory : Path)
    {text : String}
    (opens : opensName text.toList = true)
    (closes : closesName text.toList = true) :
    (directory / text).endsApart = true := by
  cases isLast : text.toList.getLast? with
  | none => simp [isLast, closesName] at closes
  | some c =>
      have notSpecial : c ≠ '/' ∧ c ≠ '.' ∧ c ≠ 'g' := by
        simpa [isLast, closesName] using closes
      obtain ⟨before, last, isNames⟩ :=
        exists_names_concat directory opens isLast notSpecial.1
      generalize isOwn : String.ofList (last ++ [c]) = own at isNames
      have differs
          {other : String}
          (isOther : other.toList.getLast? ≠ some c) :
          own ≠ other := by
        rintro rfl
        simp [← isOwn] at isOther
      have notEmpty : own ≠ "" := differs (by simp)
      have notDot : own ≠ "." :=
        differs (by simpa using Ne.symm notSpecial.2.1)
      have notDots : own ≠ ".." :=
        differs (by simpa using Ne.symm notSpecial.2.1)
      have notMark : own ≠ StorageName.installing.text :=
        differs (by
          simpa [StorageName.text] using Ne.symm notSpecial.2.2)
      simp [endsApart, isNames, Name.isHere, Name.isUp, markName, notEmpty,
        notDot, notDots, notMark]

end Path

/-- The archives of Node.js are in their directory, and none ends as a mark does. -/
theorem NodeRelease.namesArchive
    {release : NodeRelease}
    {platform : Platform}
    {name : String}
    (isName : release.archiveName platform = .ok name) :
    opensName name.toList = true ∧ closesName name.toList = true := by
  have named
      (system : String)
      {extension : String}
      (closes : closesName extension.toList = true) :
      let name :=
        s!"node-v{release.version}-{system}-{platform.processor.name}.{extension}"
      opensName name.toList = true ∧ closesName name.toList = true := by
    simp only [String.toList_append]
    refine ⟨?_, closesName_append closes _⟩
    simp only [List.append_assoc]
    exact opensName_append (by decide) _
  unfold archiveName at isName
  dsimp only at isName
  split at isName
  · exact Except.ok.inj isName ▸ named "win" (by decide)
  · exact Except.ok.inj isName ▸ named "linux" (by decide)
  · exact Except.ok.inj isName ▸ named "linux" (by decide)
  · exact Except.ok.inj isName ▸ named "darwin" (by decide)
  · exact Except.ok.inj isName ▸ named "darwin" (by decide)
  · contradiction

/-- The archives of Electron are in their directory, and none ends as a mark does. -/
theorem ElectronRelease.namesArchive
    {release : ElectronRelease}
    {platform : Platform}
    {name : String}
    (isName : release.archiveName platform = .ok name) :
    opensName name.toList = true ∧ closesName name.toList = true := by
  unfold archiveName at isName
  split at isName
  · contradiction
  · obtain rfl := Except.ok.inj isName
    simp only [String.toList_append]
    refine ⟨?_, closesName_append (by decide) _⟩
    simp only [List.append_assoc]
    exact opensName_append (by decide) _

/-- An archive in the directory for downloads goes through the directory of its runtime. -/
theorem Path.goesThrough_cache
    (directory : Path)
    {text : String}
    (opens : opensName text.toList = true) :
    directory.GoesThrough (directory.within .cache / text) :=
  .of_child (show Name.text StorageName.cache.text ≠ .text "" by decide)
    (goesThrough_of_opensName _ opens)

/-!
# Installing a runtime under its mark

Node.js and Electron are installed by steps of the same kinds: an archive is fetched, unpacked and
discarded, and then the mark is removed.  Each step leaves the mark held, so the installation does,
wherever it stops; and where it succeeds the mark is gone.
-/

open Plan

section

variable {workingDirectory place : Location}
variable {children : Disk.Children}
variable {directory : Path}
variable {step : Stepping Disk}
variable {start : Disk}

/-! ## What happens under the mark -/

/-- A path starts at a plain location if the working directory is one. -/
theorem Path.arePlain_start
    (arePlain : ∀ name ∈ workingDirectory, name.isPlain = true) :
    ∀ name ∈ directory.start workingDirectory, name.isPlain = true := by
  intro name member
  unfold start at member
  split at member
  · simp at member
  · exact arePlain name member

-- What an extraction does is told by its theorem, and it is too long to be unfolded.
attribute [local irreducible] Archive.extract

/-- A mark that is guarded is held. -/
theorem Disk.Guarded.holds
    {trace : Trace Disk}
    (guarded : start.Guarded place trace.state)
    (marked : start.Marked workingDirectory directory place) :
    trace.Holds workingDirectory directory :=
  Or.inr (guarded.marks marked)

section

variable {α : Type}
variable {good : α → Trace Disk → Prop}
variable (marked : start.Marked workingDirectory directory place)

include marked

/-- What follows under the mark starts on a disk that has only grown. -/
theorem ensures_sparing
    {ε β : Type}
    {bad : ε → Trace Disk → Prop}
    {procedure : Procedure ε β}
    {next : β → Procedure ε α}
    {trace : Trace Disk}
    (spares : SparesMark step start place start procedure)
    (grows : start.Grows trace.state)
    (continues :
      ∀ value later,
        start.Grows later.state →
        Ensures (tracing step)
          (fun later => later.Holds workingDirectory directory)
          (ending good bad) (next value).run later)
    (fails :
      ∀ fault last,
        last.Holds workingDirectory directory →
        bad fault last) :
    Ensures (tracing step)
      (fun later => later.Holds workingDirectory directory)
      (ending good bad) (procedure >>= next).run trace := by
  refine .bindProcedure ((spares _ grows).tracedProcedure.mono ?_ ?_)
  · exact fun later guarded => guarded.holds marked
  · rintro (fault | value) later
    · exact fun guarded => fails fault later (guarded.holds marked)
    · exact continues value later

variable (answersBy : Disk.AnswersBy workingDirectory children step)

include answersBy

/-- The directory for an archive is made under the mark, if there is an archive. -/
theorem ensures_prepared
    {good : Unit → Trace Disk → Prop}
    {named : Except RuntimeFault String}
    {cache : Path}
    {next : String → Provisioning Unit}
    {trace : Trace Disk}
    (grows : start.Grows trace.state)
    (continues :
      ∀ name later,
        named = .ok name →
        start.Grows later.state →
        Ensures (tracing step)
          (fun later => later.Holds workingDirectory directory)
          (ending good
            (fun _ last => last.Holds workingDirectory directory))
          (next name).run later) :
    Ensures (tracing step)
      (fun later => later.Holds workingDirectory directory)
      (ending good
        (fun _ last => last.Holds workingDirectory directory))
      (do
        let name ← Provisioning.require named
        Provisioning.storing
          (Files.reporting cache (Files.makeDirectories cache))
        next name).run
      trace := by
  cases named with
  | error fault => exact (marked.guarded grows).holds marked
  | ok name =>
      have makes :
          SparesMark step start place start
            (Provisioning.storing
              (Files.reporting cache (Files.makeDirectories cache))) :=
        (SparesMark.of_adds answersBy (fun _ => marked.guarded)
          ((Files.makeDirectories_adds cache).attempt _)).adapt _
      change Ensures (tracing step) _ _
        (Provisioning.storing
            (Files.reporting cache (Files.makeDirectories cache)) >>=
          fun _ => next name).run trace
      exact ensures_sparing marked makes grows
        (fun _ later grown => continues name later rfl grown) fun _ _ => id

/-- An archive is fetched and unpacked under the mark, and then it is discarded. -/
theorem ensures_fetched
    {finished : Trace Disk → Prop}
    {archive : Path}
    {unpack : Provisioning Unit}
    {trace : Trace Disk}
    (url : String)
    (endsApart : archive.endsApart = true)
    (grows : start.Grows trace.state)
    (unpacks :
      ∀ later,
        start.Grows later.state →
        Ensures (tracing step)
          (fun later => later.Holds workingDirectory directory)
          (ending
            (fun _ last => finished last)
            (fun _ last => last.Holds workingDirectory directory))
          unpack.run later)
    (closes :
      ∀ last,
        finished last →
        Ensures (tracing step)
          (fun later => later.Holds workingDirectory directory)
          (fun _ last => finished last) (Files.discardFile archive) last) :
    Ensures (tracing step)
      (fun later => later.Holds workingDirectory directory)
      (ending
        (fun _ last => finished last)
        (fun _ last => last.Holds workingDirectory directory))
      (Procedure.closedBy
        (do
          let isCached ← (Files.isFile archive : Plan Bool)
          if !isCached then
            Provisioning.storing (Download.toFile url archive)
          unpack)
        (Files.discardFile archive)).run
      trace := by
  have guarded (disk : Disk) : start.Grows disk → start.Guarded place disk :=
    marked.guarded
  have looks : AsksOnly Action.adds (Files.isFile archive) :=
    .bind (.ask rfl) fun found => by cases found <;> exact .done _
  have fetches :
      SparesMark step start place start
        (Provisioning.storing (Download.toFile url archive)) :=
    (Download.sparesMark_toFile answersBy guarded url endsApart).adapt _
  have unpacked :
      Ensures (tracing step)
        (fun later => later.Holds workingDirectory directory)
        (ending
          (fun _ last => finished last)
          (fun _ last => last.Holds workingDirectory directory))
        (do
          let isCached ← (Files.isFile archive : Plan Bool)
          if !isCached then
            Provisioning.storing (Download.toFile url archive)
          unpack : Provisioning Unit).run
        trace := by
    refine .bindLift
      ((SparesMark.ensures_of_adds answersBy guarded looks grows).traced.mono
        (fun _ isGuarded => isGuarded.holds marked) fun isCached later grown => ?_)
    cases isCached with
    | true => exact unpacks later grown
    | false =>
        exact ensures_sparing marked fetches grown
          (fun _ last lastGrown => unpacks last lastGrown) fun _ _ => id
  refine .closedBy (unpacked.mono (fun _ => id) ?_)
  rintro (fault | value) last
  · exact fun holds =>
      (ensures_discard answersBy endsApart holds).mono (fun _ => id)
        fun _ _ => And.left
  · exact closes last

variable
  (arePlain : ∀ name ∈ directory.start workingDirectory, name.isPlain = true)
variable
  (reads :
    ∀ archive,
      Archive.ReadsSparing step workingDirectory directory archive)

include arePlain reads

/-- An archive is extracted under the mark. -/
theorem ensures_extracted
    {archive : Path}
    {next : Path → Provisioning Unit}
    {good : Trace Disk → Prop}
    {trace : Trace Disk}
    (through : directory.GoesThrough archive)
    (grows : start.Grows trace.state)
    (continues :
      ∀ root later,
        Archive.IsRootIn directory root →
        start.Grows later.state →
        Ensures (tracing step)
          (fun later => later.Holds workingDirectory directory)
          (ending
            (fun _ last => good last)
            (fun _ last => last.Holds workingDirectory directory))
          (next root).run later) :
    Ensures (tracing step)
      (fun later => later.Holds workingDirectory directory)
      (ending
        (fun _ last => good last)
        (fun _ last => last.Holds workingDirectory directory))
      (Provisioning.storing (Archive.extract archive directory) >>=
        next).run
      trace := by
  have extracts :=
    (Archive.ensures_extract answersBy marked arePlain through (reads archive)
      grows).tracedProcedure
  refine .bindProcedure (.adaptProcedure (extracts.mono ?_ ?_))
  · exact fun later guarded => guarded.holds marked
  · rintro (fault | root) later
    · exact fun guarded => guarded.holds marked
    · exact fun ⟨grown, isRoot⟩ => continues root later isRoot grown

end

/-! ## Installing Node.js -/

namespace StoredNode

variable {node : StoredNode}

section

variable (answersBy : Disk.AnswersBy workingDirectory children step)
variable (marked : start.Marked workingDirectory node.directory place)
variable
  (arePlain :
    ∀ name ∈ node.directory.start workingDirectory, name.isPlain = true)
variable
  (reads :
    ∀ archive,
      Archive.ReadsSparing step workingDirectory node.directory archive)

include answersBy marked arePlain reads

/-- A release is put in its place under the mark, and then the mark is removed. -/
theorem ensures_unpack
    {archiveName : String}
    {trace : Trace Disk}
    (opens : opensName archiveName.toList = true)
    (grows : start.Grows trace.state) :
    Ensures (tracing step)
      (fun later => later.Holds workingDirectory node.directory)
      (ending
        (fun _ last =>
          last.Holds workingDirectory node.directory ∧
            last.state.IsGone workingDirectory node.marker)
        (fun _ last => last.Holds workingDirectory node.directory))
      (node.unpack archiveName (node.cache / archiveName)).run trace := by
  refine ensures_extracted marked answersBy arePlain reads
    (Path.goesThrough_cache _ opens) grows fun root later isRoot grown => ?_
  split
  · exact (marked.guarded grown).holds marked
  · rename_i notSame
    rcases isRoot with rfl | ⟨top, rfl, isNamed, notMark⟩
    · simp [Path.matchesPath] at notSame
    · have clears :=
        (ensures_clear answersBy marked grown (by decide) (by decide)
          (show Name.text "node" ≠ markName by decide)).tracedProcedure
      refine .bindProcedure (.adaptProcedure (clears.mono ?_ ?_))
      · exact fun _ guarded => guarded.holds marked
      · rintro (fault | value) cleared
        · exact fun guarded => guarded.holds marked
        · rintro ⟨guarded, isCleared⟩
          have moves :=
            (ensures_move answersBy marked guarded isCleared (by decide)
              (by decide) (by decide) isNamed notMark).tracedProcedure
          refine .bindProcedure (.adaptProcedure (moves.mono ?_ ?_))
          · exact fun _ => Or.inr
          · rintro (fault | value) moved
            · exact Or.inr
            · exact fun marks => .adaptProcedure (ensures_unmark answersBy marks)

end

/-- Node.js is installed under its mark. -/
theorem ensures_install
    {trace : Trace Disk}
    (isFirst : trace.past = [])
    (standing :
      trace.state.Standing (node.directory.start workingDirectory))
    (arePlain : ∀ name ∈ workingDirectory, name.isPlain = true) :
    Ensures
      (tracing
        (Disk.AnswersInstall workingDirectory children node.directory))
      (fun later => later.IsCovered workingDirectory node.directory)
      (ending
        (fun _ last => last.state.IsGone workingDirectory node.marker)
        (fun _ _ => True))
      node.install.run trace := by
  refine ensures_installing isFirst standing fun place later marked => ?_
  refine ensures_prepared marked Disk.answersBy_install (.refl _)
    fun name middle isName grown => ?_
  obtain ⟨opens, closes⟩ := NodeRelease.namesArchive isName
  have endsApart := Path.endsApart_of_closesName node.cache opens closes
  refine ensures_fetched marked Disk.answersBy_install _ endsApart grown ?_ ?_
  · exact fun last lastGrown =>
      ensures_unpack Disk.answersBy_install marked
        (Path.arePlain_start arePlain) Disk.readsSparing_install opens lastGrown
  · rintro last ⟨holds, isGone⟩
    exact (ensures_discard Disk.answersBy_install endsApart holds).mono
      (fun _ => id) fun _ _ stays => ⟨stays.1, stays.2 isGone⟩

end StoredNode

/-! ## Installing Electron -/

namespace StoredElectron

variable {electron : StoredElectron}

section

variable (answersBy : Disk.AnswersBy workingDirectory children step)
variable (marked : start.Marked workingDirectory electron.directory place)

include answersBy marked

/-- An archive that a process of `unzip` unpacks is unpacked under the mark. -/
theorem ensures_unzip
    {command : Command}
    {wording : CommandFault → RuntimeFault}
    {trace : Trace Disk}
    (unzips :
      Disk.UnzipsBeside workingDirectory children electron.directory)
    (isUnzip : command.program = "unzip")
    (grows : start.Grows trace.state) :
    Ensures (tracing step)
      (fun later => start.Guarded place later.state)
      (ending
        (fun _ last => start.Guarded place last.state)
        (fun _ last => start.Guarded place last.state))
      (command.run.adapt wording).run trace := by
  have starts :
      Ensures (tracing step)
        (fun later => start.Guarded place later.state)
        (fun _ last => start.Guarded place last.state)
        command.start trace := by
    refine .bind (.ask fun environment middle asked => ?_)
    have isSame : middle.state = trace.state := answersBy _ _ _ _ asked.1
    have middleGrown : start.Grows middle.state := isSame ▸ grows
    refine ⟨marked.guarded middleGrown, .ask fun reply last answered => ?_⟩
    have spawned := answersBy _ _ _ _ answered.1
    obtain ⟨between, grown, wears⟩ := unzips.overlays _ _ _ _ spawned isUnzip
    have guarded : start.Guarded place last.state :=
      ⟨(middleGrown.trans grown).keepsWays.trans_wears wears,
        unzips.spares _ _ _ _ _ _ marked middleGrown spawned isUnzip⟩
    exact ⟨guarded, guarded⟩
  refine .adaptProcedure (.bind (starts.mono (fun _ => id) ?_))
  intro reply last guarded
  cases reply with
  | error fault => exact guarded
  | ok result =>
      dsimp only
      unfold Command.outcome
      dsimp only
      split <;> exact guarded

/-- Yarn is fetched under the mark, and then the mark is removed. -/
theorem ensures_finish
    {trace : Trace Disk}
    (guarded : start.Guarded place trace.state) :
    Ensures (tracing step)
      (fun later => later.Holds workingDirectory electron.directory)
      (ending
        (fun _ last =>
          last.Holds workingDirectory electron.directory ∧
            last.state.IsGone workingDirectory electron.marker)
        (fun _ last => last.Holds workingDirectory electron.directory))
      (do
        Provisioning.storing
          (Download.toFile electron.release.yarnUrl electron.yarnPlace)
        Provisioning.storing (Files.removeMarker electron.marker)).run
      trace := by
  have endsApart : electron.yarnPlace.endsApart = true :=
    Path.endsApart_of_closesName _ (by decide) (by decide)
  have spares :
      (Download.toFile electron.release.yarnUrl electron.yarnPlace).run.AsksOnly
        Action.spares :=
    Download.toFile_asksOnly rfl rfl (fun _ => rfl) endsApart
  have fetches := (spares.ensures_guarded answersBy guarded).traced
  refine .bindProcedure (.adaptProcedure (fetches.mono ?_ ?_))
  · exact fun _ isGuarded => isGuarded.holds marked
  · rintro (fault | value) last isGuarded
    · exact isGuarded.holds marked
    · exact .adaptProcedure
        (ensures_unmark answersBy (isGuarded.marks marked))

variable
  (arePlain :
    ∀ name ∈ electron.directory.start workingDirectory, name.isPlain = true)
variable
  (reads :
    ∀ archive,
      Archive.ReadsSparing step workingDirectory electron.directory archive)

include arePlain reads

/-- A release is unpacked under the mark. -/
theorem ensures_unpack
    {archiveName : String}
    {trace : Trace Disk}
    (unzips :
      Disk.UnzipsBeside workingDirectory children electron.directory)
    (opens : opensName archiveName.toList = true)
    (grows : start.Grows trace.state) :
    Ensures (tracing step)
      (fun later => later.Holds workingDirectory electron.directory)
      (ending
        (fun _ last => start.Guarded place last.state)
        (fun _ last => last.Holds workingDirectory electron.directory))
      (electron.unpack (electron.cache / archiveName)).run trace := by
  unfold unpack
  split
  · exact ensures_extracted marked answersBy arePlain reads
      (Path.goesThrough_cache _ opens) grows
      fun _ _ _ grown => marked.guarded grown
  · refine .bindProcedure
      ((ensures_unzip answersBy marked unzips rfl grows).mono ?_ ?_)
    · exact fun _ guarded => guarded.holds marked
    · rintro (fault | output) last
      · exact fun guarded => guarded.holds marked
      · exact id

end

/-- Electron and yarn are installed under their mark. -/
theorem ensures_install
    {trace : Trace Disk}
    (isFirst : trace.past = [])
    (standing :
      trace.state.Standing (electron.directory.start workingDirectory))
    (arePlain : ∀ name ∈ workingDirectory, name.isPlain = true)
    (unzips :
      Disk.UnzipsBeside workingDirectory children electron.directory) :
    Ensures
      (tracing
        (Disk.AnswersInstall workingDirectory children electron.directory))
      (fun later => later.IsCovered workingDirectory electron.directory)
      (ending
        (fun _ last => last.state.IsGone workingDirectory electron.marker)
        (fun _ _ => True))
      electron.install.run trace := by
  refine ensures_installing isFirst standing fun place later marked => ?_
  refine ensures_prepared marked Disk.answersBy_install (.refl _)
    fun name middle isName grown => ?_
  obtain ⟨opens, closes⟩ := ElectronRelease.namesArchive isName
  have endsApart := Path.endsApart_of_closesName electron.cache opens closes
  have holds
      (last : Trace Disk)
      (guarded : later.state.Guarded place last.state) :
      last.Holds workingDirectory electron.directory :=
    guarded.holds marked
  have discards :
      AsksOnly Action.spares (Files.discardFile (electron.cache / name)) :=
    .bind (.ask endsApart) fun _ => .done _
  have fetched :=
    ensures_fetched marked Disk.answersBy_install
      (electron.release.url name) endsApart grown
      (fun last lastGrown =>
        ensures_unpack Disk.answersBy_install marked
          (Path.arePlain_start arePlain) Disk.readsSparing_install unzips
          opens lastGrown)
      (fun last guarded =>
        (discards.ensures_guarded Disk.answersBy_install guarded).traced.mono
          holds fun _ _ => id)
  refine .bindProcedure (fetched.mono (fun _ => id) ?_)
  rintro (fault | value) filled
  · exact id
  · exact ensures_finish Disk.answersBy_install marked

end StoredElectron

end

end Provision
