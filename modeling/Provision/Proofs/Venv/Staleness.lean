import Provision.Proofs.Node.Unfinished
import Provision.Proofs.Text.Utf8
import Provision.Proofs.Venv.Copies

namespace Provision

/-!
# When an environment is out of date

As long as nothing else touches the copies of the manifests, an environment counts as current only if every
manifest that the package has is stored as it is now.  A manifest that has changed or is new is noticed.
-/

open Plan

/-! ## Checking copies -/

namespace Resources

variable {resources : Resources}
variable {path : String}
variable {host last : Host}

/-- A host tells whether a resource is there. -/
theorem run_exists? :
    (resources.exists? path).run Host.perform host =
      (resources.isThere host.workingDirectory host.disk path, host) := by
  unfold exists? isThere
  cases resources.resolve path <;> rfl

/-- A host gives the content of a resource that can be read. -/
theorem run_readBytes_of_content
    {content : Bytes}
    (isContent :
      resources.content? host.workingDirectory host.disk path =
        some content) :
    (resources.readBytes path).run.run Host.perform host =
      (.ok content, host) := by
  obtain ⟨place, resolves, reads⟩ := content?_eq_some_iff.mp isContent
  obtain ⟨location, file, finds, -⟩ := Disk.exists_of_readFile_eq_ok reads
  have isThere :
      (Files.exists? place).run Host.perform host = (true, host) := by
    change ((host.disk.status host.workingDirectory true place).isOk, host) = _
    rw [Disk.status, finds]
    rfl
  have isFound :
      (resources.existing path).run.run Host.perform host =
        (.ok place, host) := by
    rw [← ends_answersOf_iff, existing, resolves, ends_bindProcedure_iff]
    refine ⟨place, host, ends_pure_iff.mpr ⟨rfl, rfl⟩, ?_⟩
    rw [ends_bindLift_iff]
    exact ⟨true, host, ends_answersOf_iff.mpr isThere,
      ends_pure_iff.mpr ⟨rfl, rfl⟩⟩
  have isRead :
      (Files.content place).run.run Host.perform host =
        (.ok content, host) := by
    rw [← ends_answersOf_iff]
    refine ends_attempt_iff.mpr (ends_ask_iff.mpr ?_)
    exact Prod.ext reads rfl
  rw [← ends_answersOf_iff, readBytes, ends_bindProcedure_iff]
  exact ⟨place, host, ends_answersOf_iff.mpr isFound,
    ends_adapt_iff.mpr (ends_answersOf_iff.mpr isRead)⟩

/-- What a host gives as the content of a resource can be read there. -/
theorem content?_of_ends
    {content : Bytes}
    (ends :
      Ends (answersOf Host.perform) (resources.readBytes path).run host
        (.ok content) last) :
    resources.content? host.workingDirectory host.disk path = some content ∧
      last = host := by
  unfold readBytes existing at ends
  obtain ⟨place, _, finds, reads⟩ := ends_bindProcedure_iff.mp ends
  obtain ⟨_, _, resolves, looks⟩ := ends_bindProcedure_iff.mp finds
  obtain ⟨isPlace, rfl⟩ := ends_pure_iff.mp resolves
  obtain ⟨isThere, _, told, settles⟩ := ends_bindLift_iff.mp looks
  obtain ⟨-, rfl⟩ := Prod.mk.inj (ends_answersOf_iff.mp told)
  cases isThere with
  | false => exact absurd settles not_ends_throw
  | true =>
      obtain ⟨isSame, rfl⟩ := ends_pure_iff.mp settles
      obtain rfl := Except.ok.inj isSame
      obtain ⟨isRead, isHost⟩ :=
        Prod.mk.inj
          (ends_ask_iff.mp (ends_attempt_iff.mp (ends_adapt_iff.mp reads)))
      exact ⟨content?_eq_some_iff.mpr ⟨place, isPlace.symm, isRead⟩,
        isHost.symm⟩

/-- A resource that can be read is there. -/
theorem isThere_of_content
    {workingDirectory : Location}
    {disk : Disk}
    {content : Bytes}
    (isContent :
      resources.content? workingDirectory disk path = some content) :
    resources.isThere workingDirectory disk path = true := by
  obtain ⟨place, resolves, reads⟩ := content?_eq_some_iff.mp isContent
  obtain ⟨location, file, finds, -⟩ := Disk.exists_of_readFile_eq_ok reads
  rw [isThere, resolves]
  change (disk.status workingDirectory true place).isOk = true
  rw [Disk.status, finds]
  rfl

end Resources

/-- How a host finds a stored file to be the same as a content. -/
theorem Checksum.ends_matchesFile_iff
    {host last : Host}
    {content : Bytes}
    {copy : Path}
    {isSame : Bool} :
    Ends (answersOf Host.perform) (matchesFile content copy).run host
        (.ok isSame) last ↔
      last = host ∧
        ((∃ stored,
            host.disk.readFile host.workingDirectory copy = .ok stored ∧
              isSame = decide (ofBytes content = ofBytes stored)) ∨
          host.disk.readFile host.workingDirectory copy =
              .error (.refused .noEntry) ∧
            isSame = false) := by
  rw [matchesFile]
  refine ends_attempt_iff.trans (ends_bind_iff.trans ?_)
  constructor
  · rintro ⟨reply, _, asks, ends⟩
    obtain ⟨isReply, rfl⟩ := Prod.mk.inj (ends_ask_iff.mp asks)
    cases reply with
    | ok stored =>
        obtain ⟨isOk, rfl⟩ := ends_pure_iff.mp ends
        exact ⟨rfl, Or.inl ⟨stored, isReply, Except.ok.inj isOk⟩⟩
    | error fault =>
        dsimp only at ends
        split at ends
        · rename_i isMissing
          obtain ⟨isOk, rfl⟩ := ends_pure_iff.mp ends
          rw [fault.eq_of_isMissing isMissing] at isReply
          exact ⟨rfl, Or.inr ⟨isReply, Except.ok.inj isOk⟩⟩
        · obtain ⟨isError, -⟩ := ends_pure_iff.mp ends
          simp at isError
  · rintro ⟨rfl, ⟨stored, reads, rfl⟩ | ⟨isMissing, rfl⟩⟩
    · exact ⟨.ok stored, last, ends_ask_iff.mpr (Prod.ext reads rfl),
        ends_pure_iff.mpr ⟨rfl, rfl⟩⟩
    · exact ⟨.error (.refused .noEntry), last,
        ends_ask_iff.mpr (Prod.ext isMissing rfl),
        ends_pure_iff.mpr ⟨rfl, rfl⟩⟩

namespace UvProject

variable {resources : Resources}
variable {host last : Host}
variable {source : String × Path}
variable {others : List (String × Path)}

/-- A host goes on to the other copies where the package has no manifest. -/
theorem ends_areCurrent_of_not_isThere
    {isCurrent : Bool}
    (notThere :
      resources.isThere host.workingDirectory host.disk source.1 = false) :
    Ends (answersOf Host.perform)
        (areCurrent resources (source :: others)).run host (.ok isCurrent)
        last ↔
      Ends (answersOf Host.perform) (areCurrent resources others).run host
        (.ok isCurrent) last := by
  rw [areCurrent, ends_bindLift_iff]
  constructor
  · rintro ⟨isThere, _, told, ends⟩
    rw [ends_answersOf_iff, Resources.run_exists?, notThere] at told
    obtain ⟨rfl, rfl⟩ := Prod.mk.inj told
    exact ends
  · intro ends
    refine ⟨false, host, ?_, ends⟩
    rw [ends_answersOf_iff, Resources.run_exists?, notThere]

/-- A host compares a copy with a manifest that the package has, and goes on if they are the same. -/
theorem ends_areCurrent_of_isThere
    {isCurrent : Bool}
    (isThere :
      resources.isThere host.workingDirectory host.disk source.1 = true) :
    Ends (answersOf Host.perform)
        (areCurrent resources (source :: others)).run host (.ok isCurrent)
        last ↔
      ∃ content isSame,
        resources.content? host.workingDirectory host.disk source.1 =
            some content ∧
          Ends (answersOf Host.perform)
              (Checksum.matchesFile content source.2).run host (.ok isSame)
              host ∧
            if isSame then
              Ends (answersOf Host.perform)
                (areCurrent resources others).run host (.ok isCurrent) last
            else
              isCurrent = false ∧ last = host := by
  rw [areCurrent, ends_bindLift_iff]
  constructor
  · rintro ⟨told, _, tells, ends⟩
    rw [ends_answersOf_iff, Resources.run_exists?, isThere] at tells
    obtain ⟨rfl, rfl⟩ := Prod.mk.inj tells
    obtain ⟨content, _, reads, compares⟩ := ends_bindProcedure_iff.mp ends
    obtain ⟨isContent, rfl⟩ := Resources.content?_of_ends reads
    obtain ⟨isSame, _, matches', goesOn⟩ := ends_bindProcedure_iff.mp compares
    have matches'' := ends_adapt_iff.mp matches'
    obtain ⟨rfl, -⟩ := Checksum.ends_matchesFile_iff.mp matches''
    refine ⟨content, isSame, isContent, matches'', ?_⟩
    cases isSame with
    | true => exact goesOn
    | false =>
        obtain ⟨isOk, rfl⟩ := ends_pure_iff.mp goesOn
        exact ⟨Except.ok.inj isOk, rfl⟩
  · rintro ⟨content, isSame, isContent, compares, goesOn⟩
    refine ⟨true, host, ?_, ?_⟩
    · rw [ends_answersOf_iff, Resources.run_exists?, isThere]
    · refine ends_bindProcedure_iff.mpr ⟨content, host, ?_, ?_⟩
      · rw [ends_answersOf_iff, Resources.run_readBytes_of_content isContent]
      · refine ends_bindProcedure_iff.mpr
          ⟨isSame, host, ends_adapt_iff.mpr compares, ?_⟩
        cases isSame with
        | true => exact goesOn
        | false =>
            obtain ⟨rfl, rfl⟩ := goesOn
            exact ends_pure_iff.mpr ⟨rfl, rfl⟩

/-- Copies that are found current hold what the manifests that are there hold, as far as checksums tell. -/
theorem checksums_of_areCurrent
    {sources : List (String × Path)}
    (ends :
      Ends (answersOf Host.perform) (areCurrent resources sources).run host
        (.ok true) last) :
    ∀ source ∈ sources,
      resources.isThere host.workingDirectory host.disk source.1 = true →
      ∃ content stored,
        resources.content? host.workingDirectory host.disk source.1 =
            some content ∧
          host.disk.readFile host.workingDirectory source.2 = .ok stored ∧
            Checksum.ofBytes content = Checksum.ofBytes stored := by
  induction sources with
  | nil => simp
  | cons first others inductionHypothesis =>
      intro source member isThere
      cases isFirst :
          resources.isThere host.workingDirectory host.disk first.1 with
      | false =>
          have goesOn := (ends_areCurrent_of_not_isThere isFirst).mp ends
          rcases List.mem_cons.mp member with rfl | inOthers
          · simp [isFirst] at isThere
          · exact inductionHypothesis goesOn source inOthers isThere
      | true =>
          obtain ⟨content, isSame, isContent, compares, goesOn⟩ :=
            (ends_areCurrent_of_isThere isFirst).mp ends
          cases isSame with
          | false => simp at goesOn
          | true =>
              rcases List.mem_cons.mp member with rfl | inOthers
              · obtain ⟨-, ⟨stored, reads, isEqual⟩ | ⟨-, isDifferent⟩⟩ :=
                  Checksum.ends_matchesFile_iff.mp compares
                · exact ⟨content, stored, isContent, reads,
                    of_decide_eq_true isEqual.symm⟩
                · simp at isDifferent
              · exact inductionHypothesis goesOn source inOthers isThere

/-- Copies are found out of date if one of them does not hold what its manifest holds. -/
theorem areCurrent_eq_false
    {sources : List (String × Path)}
    (areReadable :
      ∀ source ∈ sources,
        resources.isThere host.workingDirectory host.disk source.1 = true →
        ∃ content,
          resources.content? host.workingDirectory host.disk source.1 =
            some content)
    (areStored :
      ∀ source ∈ sources,
        (∃ stored,
          host.disk.readFile host.workingDirectory source.2 = .ok stored) ∨
        host.disk.readFile host.workingDirectory source.2 =
          .error (.refused .noEntry))
    (isStale :
      ∃ source ∈ sources,
        ∃ content,
          resources.content? host.workingDirectory host.disk source.1 =
              some content ∧
            ∀ stored,
              host.disk.readFile host.workingDirectory source.2 =
                .ok stored →
              Checksum.ofBytes content ≠ Checksum.ofBytes stored) :
    Ends (answersOf Host.perform) (areCurrent resources sources).run host
      (.ok false) host := by
  induction sources with
  | nil => simp at isStale
  | cons first others inductionHypothesis =>
      obtain ⟨source, member, content, isContent, isOther⟩ := isStale
      have goesOn (inOthers : source ∈ others) :
          Ends (answersOf Host.perform) (areCurrent resources others).run host
            (.ok false) host :=
        inductionHypothesis
          (fun other member => areReadable other (.tail _ member))
          (fun other member => areStored other (.tail _ member))
          ⟨source, inOthers, content, isContent, isOther⟩
      cases isFirst :
          resources.isThere host.workingDirectory host.disk first.1 with
      | false =>
          refine (ends_areCurrent_of_not_isThere isFirst).mpr (goesOn ?_)
          refine (List.mem_cons.mp member).resolve_left ?_
          rintro rfl
          simp [Resources.isThere_of_content isContent] at isFirst
      | true =>
          obtain ⟨held, isHeld⟩ := areReadable first (.head _) isFirst
          refine (ends_areCurrent_of_isThere isFirst).mpr ?_
          rcases areStored first (.head _) with ⟨stored, reads⟩ | isMissing
          · by_cases isEqual :
                Checksum.ofBytes held = Checksum.ofBytes stored
            · refine ⟨held, true, isHeld, ?_, goesOn ?_⟩
              · exact Checksum.ends_matchesFile_iff.mpr
                  ⟨rfl, Or.inl ⟨stored, reads, (decide_eq_true isEqual).symm⟩⟩
              · refine (List.mem_cons.mp member).resolve_left ?_
                rintro rfl
                obtain rfl := Option.some.inj (isHeld.symm.trans isContent)
                exact isOther stored reads isEqual
            · exact ⟨held, false, isHeld,
                Checksum.ends_matchesFile_iff.mpr
                  ⟨rfl, Or.inl ⟨stored, reads,
                    (decide_eq_false isEqual).symm⟩⟩, rfl, rfl⟩
          · exact ⟨held, false, isHeld,
              Checksum.ends_matchesFile_iff.mpr
                ⟨rfl, Or.inr ⟨isMissing, rfl⟩⟩, rfl, rfl⟩

/-- The environment is current if it is a directory and the copies are current. -/
theorem ends_isCurrent_iff
    {project : UvProject}
    {isCurrent : Bool} :
    Ends (answersOf Host.perform) project.isCurrent.run host
        (.ok isCurrent) last ↔
      ∃ isThere,
        host.run (Files.isDirectory project.environment) = (isThere, host) ∧
          if isThere then
            Ends (answersOf Host.perform)
              (areCurrent project.resources project.sources).run host
              (.ok isCurrent) last
          else
            isCurrent = false ∧ last = host := by
  obtain ⟨isThere, runs⟩ := host.exists_run_isDirectory project.environment
  rw [UvProject.isCurrent, ends_bindLift_iff]
  constructor
  · rintro ⟨told, _, tells, ends⟩
    obtain ⟨rfl, rfl⟩ :=
      Prod.mk.inj (runs.symm.trans (ends_answersOf_iff.mp tells))
    refine ⟨isThere, runs, ?_⟩
    cases isThere with
    | true => exact ends
    | false =>
        obtain ⟨isOk, rfl⟩ := ends_pure_iff.mp ends
        exact ⟨Except.ok.inj isOk, rfl⟩
  · rintro ⟨told, tells, goesOn⟩
    refine ⟨told, host, ends_answersOf_iff.mpr tells, ?_⟩
    cases told with
    | true => exact goesOn
    | false =>
        obtain ⟨rfl, rfl⟩ := goesOn
        exact ends_pure_iff.mpr ⟨rfl, rfl⟩

/-! ## After an installation -/

/--
A manifest has the copy that an installation makes: the copy holds what the manifest holds, or there is
none if there is no manifest.
-/
def HasFreshCopy
    (project : UvProject)
    (workingDirectory : Location)
    (disk : Disk)
    (source : String × Path) :
    Prop :=
  if project.resources.isThere workingDirectory disk source.1 then
    ∃ content,
      project.resources.content? workingDirectory disk source.1 =
          some content ∧
        disk.readFile workingDirectory source.2 = .ok content
  else
    ∀ content, disk.readFile workingDirectory source.2 ≠ .ok content

/-- A manifest is gone that was there once, and its copy still holds what it held. -/
def IsGone
    (project : UvProject)
    (workingDirectory : Location)
    (disk later : Disk)
    (source : String × Path) :
    Prop :=
  project.resources.isThere workingDirectory later source.1 = false ∧
    ∃ content,
      project.resources.content? workingDirectory disk source.1 =
          some content ∧
        later.readFile workingDirectory source.2 = .ok content

/-- A manifest can be read and holds something else than on an earlier disk, where it may not have been. -/
def IsChanged
    (project : UvProject)
    (workingDirectory : Location)
    (disk later : Disk)
    (source : String × Path) :
    Prop :=
  ∃ content,
    project.resources.content? workingDirectory later source.1 =
        some content ∧
      project.resources.content? workingDirectory disk source.1 ≠
        some content

/-- Different contents of manifests and of their copies have different checksums. -/
def IsCollisionFree
    (project : UvProject)
    (workingDirectory : Location)
    (disk : Disk) :
    Prop :=
  ∀ source ∈ project.sources,
    ∀ content stored,
      project.resources.content? workingDirectory disk source.1 =
        some content →
      disk.readFile workingDirectory source.2 = .ok stored →
      Checksum.ofBytes content = Checksum.ofBytes stored →
      content = stored

/-- A project of a package, with a tool that is known. -/
def sampleProject (package : String) : UvProject where
  package := package
  manifest := "p/pyproject.toml"
  layout := ⟨.ofString "/s"⟩
  resources := ⟨.ofString "/r"⟩
  tool := some ⟨.ofString "/uv"⟩

/-- A disk with a package that has a project file, and with an empty storage. -/
def unlockedDisk : Disk :=
  [([.text "s"], Entry.directory 0o755), ([.text "r"], .directory 0o755),
    ([.text "r", .text "p"], .directory 0o755),
    ([.text "r", .text "p", .text "pyproject.toml"],
      .file { mode := 0o644, content := [0x6d] })].foldl
    (fun disk item => disk.set item.1 item.2) Disk.blank

/-- A disk whose package has a lock file, too. -/
def lockedDisk : Disk :=
  unlockedDisk.set [.text "r", .text "p", .text "uv.lock"]
    (.file { mode := 0o644, content := [0x6c] })

/-- A host with a disk and little more. -/
def hostOn (disk : Disk) : Host where
  disk := disk
  web := { base := "", isOnline := false }
  environment := []
  workingDirectory := []

/-- Surroundings in which the tool makes the directory of the environment and nothing else. -/
def syncing : Surroundings Host
  | .spawn _, host =>
      (.ok ⟨.exited 0, [], []⟩,
        { host with
          disk :=
            host.disk.set [.text "s", .text "p", .text ".venv"]
              (.directory 0o755) })
  | action, host => Host.perform action host

/-- What an installation prepares before the tool runs. -/
def preparedDisk : Disk :=
  ((sampleProject "p").prepare.run.run syncing (hostOn unlockedDisk)).2.disk

/-- What the installation leaves. -/
def syncedDisk : Disk :=
  preparedDisk.set [.text "s", .text "p", .text ".venv"] (.directory 0o755)

/-- The only process that takes place is the one that makes the environment. -/
def syncs : Disk.Children :=
  fun _ disk reply last =>
    disk = preparedDisk ∧ reply = .ok ⟨.exited 0, [], []⟩ ∧
      last = syncedDisk

instance
    (project : UvProject)
    (workingDirectory : Location)
    (disk later : Disk) :
    Decidable (project.SameManifests workingDirectory disk later) :=
  inferInstanceAs (Decidable (∀ source ∈ project.sources, _ = _))

instance
    (project : UvProject)
    (workingDirectory : Location)
    (disk later : Disk) :
    Decidable (project.SameCopies workingDirectory disk later) :=
  inferInstanceAs (Decidable (∀ source ∈ project.sources, _ = _))

/-- A disk with an installation on which a lock file has come to the package since. -/
def relockedDisk : Disk :=
  syncedDisk.set [.text "r", .text "p", .text "uv.lock"]
    (.file { mode := 0o644, content := [0x6c] })

/-- Whether an action leaves the manifests as they are, and a process starts from what was prepared. -/
def isExpected (action : Action) (host : Host) : Bool :=
  decide (host.workingDirectory = []) &&
    decide
      ((sampleProject "p").SameManifests [] host.disk
        (syncing action host).2.disk) &&
      (!action.isChild || decide (host.disk = preparedDisk))

/-- What is expected is an answer of the disk while the manifests stay as they are. -/
theorem installing_of_isExpected
    (action : Action)
    (host : Host)
    (expected : isExpected action host = true) :
    (sampleProject "p").installing [] syncs action host.disk
      (syncing action host).1 (syncing action host).2.disk := by
  simp only [isExpected, Bool.and_eq_true, decide_eq_true_eq] at expected
  obtain ⟨⟨isRoot, areSame⟩, isPrepared⟩ := expected
  refine ⟨?_, areSame⟩
  rw [← isRoot]
  apply Host.answers_of_performs
  · intro action host isChild
    cases action <;> first | rfl | simp [Action.isChild] at isChild
  · rintro child rfl
    have isDisk : host.disk = preparedDisk := by
      simpa [Action.isChild] using isPrepared
    refine ⟨isDisk, rfl, ?_⟩
    rw [syncedDisk, ← isDisk]
    rfl

/-- The disk without the lock file of the package. -/
def withoutLock (disk : Disk) : Disk :=
  disk.erase [.text "r", .text "p", .text "uv.lock"]

/-- A disk with an older copy of a lock file in the storage of a package that has none. -/
def staleDisk : Disk :=
  [([.text "s", .text "p"], Entry.directory 0o755),
    ([.text "s", .text "p", .text "uv.lock"],
      .file { mode := 0o644, content := [0x6c] })].foldl
    (fun disk item => disk.set item.1 item.2) unlockedDisk

/-- What a host has after an installation for a package. -/
def hostAfter (package : String) (disk : Disk) : Host :=
  ((install.run.run (sampleProject package)).run syncing (hostOn disk)).2

end UvProject

end Provision
