import Provision.Proofs.Plan.Ending
import Provision.Server.Extension
import Provision.Server.Npm
import Provision.Server.Python

namespace Provision

/-!
# What the status of a server tells

The operations of a server are called again and again, and anything may happen in between.  A call
settles the status if it installs the server or finds it current.  The status tells of the last of these
calls, and of nothing else.
-/

open Plan

/-! ## What a session keeps -/

namespace Session

variable {σ ε α β γ : Type}

/-- A session leaves a view of what it has as it is, whatever its actions are answered. -/
def Keeps (view : σ → γ) (host : σ) (session : Session σ ε α) : Prop :=
  ∀ (State : Type) (step : Stepping State) (state last : State)
    (outcome : Except ε α) (later : σ),
    Ends step (session.run.run host) state (outcome, later) last →
    view later = view host

variable {view : σ → γ}
variable {host : σ}

theorem keeps_pure {value : α} :
    Keeps view host (pure value : Session σ ε α) := by
  intro State step state last outcome later ends
  obtain ⟨isSame, -⟩ := ends_pure_iff.mp ends
  exact congrArg view (Prod.mk.inj isSame).2

theorem keeps_set {value : σ} (isSame : view value = view host) :
    Keeps view host (set value : Session σ ε PUnit) := by
  intro State step state last outcome later ends
  obtain ⟨isSet, -⟩ := ends_pure_iff.mp ends
  exact (congrArg view (Prod.mk.inj isSet).2).trans isSame

theorem keeps_within {procedure : Procedure ε α} :
    Keeps view host (Procedure.within procedure) := by
  intro State step state last outcome later ends
  obtain ⟨value, middle, -, isKept⟩ := ends_bind_iff.mp ends
  obtain ⟨isSame, -⟩ := ends_pure_iff.mp isKept
  exact congrArg view (Prod.mk.inj isSame).2

/-- The second one of two sessions starts from something with the same view. -/
theorem keeps_bind
    {session : Session σ ε α}
    {next : α → Session σ ε β}
    (first : Keeps view host session)
    (second :
      ∀ value between,
        view between = view host →
        Keeps view between (next value)) :
    Keeps view host (session >>= next) := by
  intro State step state last outcome later ends
  rw [ExceptT.run_bind, StateT.run_bind] at ends
  obtain ⟨⟨reply, between⟩, middle, firstEnds, secondEnds⟩ :=
    ends_bind_iff.mp ends
  have isKept : view between = view host :=
    first State step state middle reply between firstEnds
  cases reply with
  | error fault =>
      obtain ⟨isSame, -⟩ := ends_pure_iff.mp secondEnds
      exact (congrArg view (Prod.mk.inj isSame).2).trans isKept
  | ok value =>
      exact (second value between isKept State step middle last outcome later
        secondEnds).trans isKept

/-- A session that looks at what it has goes on with that. -/
theorem keeps_bindGet
    {next : σ → Session σ ε β}
    (later : Keeps view host (next host)) :
    Keeps view host (get >>= next) :=
  later

/-- A session that starts with a procedure still has what it had. -/
theorem keeps_bindWithin
    {procedure : Procedure ε α}
    {next : α → Session σ ε β}
    (later : ∀ value, Keeps view host (next value)) :
    Keeps view host (Procedure.within procedure >>= next) := by
  intro State step state last outcome after ends
  rw [Procedure.within, ExceptT.run_bind, StateT.run_bind] at ends
  obtain ⟨⟨reply, between⟩, middle, first, second⟩ := ends_bind_iff.mp ends
  obtain ⟨value, _, -, isKept⟩ := ends_bind_iff.mp first
  obtain ⟨isSame, -⟩ := ends_pure_iff.mp isKept
  obtain ⟨rfl, rfl⟩ := Prod.mk.inj isSame
  cases reply with
  | error fault =>
      obtain ⟨isFault, -⟩ := ends_pure_iff.mp second
      exact congrArg view (Prod.mk.inj isFault).2
  | ok value => exact later value State step middle last outcome after second

end Session

/-- The operations of a kind of server never change the package of a server. -/
structure Server.KeepsPackage (σ : Type) [Server σ] : Prop where
  isCurrent :
    ∀ server : σ,
      Session.Keeps Server.package server (Server.isCurrent : Session σ _ _)
  installSteps :
    ∀ server : σ,
      Session.Keeps Server.package server (Server.installSteps : Session σ _ _)

namespace PipServer

theorem keepsPackage : Server.KeepsPackage PipServer where
  isCurrent _ := Session.keeps_bindGet Session.keeps_within
  installSteps _ := Session.keeps_bindGet Session.keeps_within

end PipServer

namespace ExtensionServer

theorem keepsPackage : Server.KeepsPackage ExtensionServer where
  isCurrent _ := Session.keeps_bindGet Session.keeps_within
  installSteps _ := Session.keeps_bindGet Session.keeps_within

end ExtensionServer

namespace UvProject

theorem keeps_locateTool (project : UvProject) :
    Session.Keeps UvProject.package project locateTool := by
  refine Session.keeps_bindGet ?_
  split
  · exact Session.keeps_pure
  · refine Session.keeps_bindWithin fun tool => ?_
    refine Session.keeps_bind (Session.keeps_set rfl) ?_
    intro _ between _
    exact Session.keeps_pure

theorem keeps_install (project : UvProject) :
    Session.Keeps UvProject.package project install := by
  refine Session.keeps_bindGet (Session.keeps_bindWithin fun _ => ?_)
  refine Session.keeps_bind (keeps_locateTool project) ?_
  intro tool between _
  exact Session.keeps_bindWithin fun _ => Session.keeps_pure

end UvProject

namespace UvServer

theorem keepsPackage : Server.KeepsPackage UvServer where
  isCurrent _ := Session.keeps_bindGet Session.keeps_within
  installSteps server := by
    intro State step state last outcome later ends
    obtain ⟨⟨reply, project⟩, middle, installs, isSame⟩ := ends_bind_iff.mp ends
    obtain ⟨isSame, -⟩ := ends_pure_iff.mp isSame
    rw [(Prod.mk.inj isSame).2]
    exact UvProject.keeps_install server.project State step state middle reply
      project installs

end UvServer

namespace NpmServer

theorem keeps_versionText (server : NpmServer) :
    Session.Keeps Server.package server versionText := by
  refine Session.keeps_bind ?_ fun _ _ _ => Session.keeps_pure
  intro State step state last outcome later ends
  obtain ⟨_, middle, -, isSame⟩ := ends_bind_iff.mp ends
  obtain ⟨isSame, -⟩ := ends_pure_iff.mp isSame
  rw [(Prod.mk.inj isSame).2]
  rfl

theorem keeps_isCurrentFor (server : NpmServer) (manifest : Bytes) :
    Session.Keeps Server.package server (isCurrentFor manifest) := by
  refine Session.keeps_bindGet (Session.keeps_bindWithin fun isComplete => ?_)
  split
  · exact Session.keeps_pure
  · refine Session.keeps_bindWithin fun stored => ?_
    refine Session.keeps_bind (keeps_versionText server) ?_
    intro version between _
    split
    · exact Session.keeps_pure
    · exact Session.keeps_within

theorem keeps_isCurrent (server : NpmServer) :
    Session.Keeps Server.package server isCurrent := by
  refine Session.keeps_bindGet (Session.keeps_bindWithin fun manifest => ?_)
  exact keeps_isCurrentFor server manifest

theorem keeps_installSteps (server : NpmServer) :
    Session.Keeps Server.package server installSteps := by
  refine Session.keeps_bindGet (Session.keeps_bindWithin fun _ => ?_)
  refine Session.keeps_bind (keeps_versionText server) ?_
  intro version between _
  exact Session.keeps_within

theorem keepsPackage : Server.KeepsPackage NpmServer :=
  ⟨keeps_isCurrent, keeps_installSteps⟩

end NpmServer

namespace Managed

section

variable {σ State α : Type}
variable {step : Stepping State}
variable {state last : State}
variable {managed after : Managed σ}

/-! ## One call -/

/-- A session of the server leaves the status as it is. -/
theorem ends_onServer_iff
    {session : Session σ ServerFault α}
    {outcome : Except ServerFault α} :
    Ends step ((onServer session).run.run managed) state (outcome, after)
        last ↔
      Ends step (session.run.run managed.server) state
          (outcome, after.server) last ∧
        after.status = managed.status := by
  refine ends_bind_iff.trans ?_
  constructor
  · rintro ⟨⟨_, server⟩, _, ends, isKept⟩
    obtain ⟨isSame, rfl⟩ := ends_pure_iff.mp isKept
    obtain ⟨rfl, rfl⟩ := Prod.mk.inj isSame
    exact ⟨ends, rfl⟩
  · rintro ⟨ends, isKept⟩
    refine ⟨(outcome, after.server), last, ends,
      ends_pure_iff.mpr ⟨?_, rfl⟩⟩
    rw [← isKept]

/-- The status after a check: a server that is current is ready. -/
def statusOfCheck
    (status : ServerStatus) :
    Except ServerFault Bool → ServerStatus
  | .ok true => .ready
  | _ => status

/-- The status after the steps of an installation. -/
def statusOfSteps : Except ServerFault Unit → ServerStatus
  | .ok _ => .ready
  | .error _ => .failed

variable [Server σ]

/-- A check tells whether the server is current, and leaves the status unless it is. -/
theorem exists_isCurrent_of_check
    {outcome : Except ServerFault Bool}
    (ends :
      Ends step (needsInstallation.run.run managed) state (outcome, after)
        last) :
    ∃ isCurrent : Except ServerFault Bool,
      Ends step (Server.isCurrent.run.run managed.server) state
          (isCurrent, after.server) last ∧
        outcome = isCurrent.map (!·) ∧
          after.status = statusOfCheck managed.status isCurrent := by
  unfold needsInstallation at ends
  rw [ExceptT.run_bind, StateT.run_bind] at ends
  obtain ⟨⟨isCurrent, between⟩, middle, looks, settles⟩ :=
    ends_bind_iff.mp ends
  obtain ⟨looks, isKept⟩ := ends_onServer_iff.mp looks
  match isCurrent with
  | .error fault =>
      obtain ⟨isSame, rfl⟩ := ends_pure_iff.mp settles
      obtain ⟨rfl, rfl⟩ := Prod.mk.inj isSame
      exact ⟨.error fault, looks, rfl, isKept⟩
  | .ok false =>
      obtain ⟨isSame, rfl⟩ := ends_pure_iff.mp settles
      obtain ⟨rfl, rfl⟩ := Prod.mk.inj isSame
      exact ⟨.ok false, looks, rfl, isKept⟩
  | .ok true =>
      obtain ⟨isSame, rfl⟩ := ends_pure_iff.mp settles
      obtain ⟨rfl, rfl⟩ := Prod.mk.inj isSame
      exact ⟨.ok true, looks, rfl, rfl⟩

/-- An installation goes through its steps; the fault of a step becomes one of the package. -/
theorem exists_steps_of_install
    {outcome : Except ServerFault Unit}
    (ends :
      Ends step (install.run.run managed) state (outcome, after) last) :
    ∃ steps : Except ServerFault Unit,
      Ends step (Server.installSteps.run.run managed.server) state
          (steps, after.server) last ∧
        outcome =
            steps.mapError (.installFailed (Server.package managed.server)) ∧
          after.status = statusOfSteps steps := by
  change
    Ends step
      (((onServer Server.installSteps).run.run managed >>= _) >>= _) _ _ _
    at ends
  obtain ⟨⟨caught, settled⟩, middle, tries, settles⟩ := ends_bind_iff.mp ends
  obtain ⟨⟨steps, between⟩, _, installs, catches⟩ := ends_bind_iff.mp tries
  obtain ⟨installs, -⟩ := ends_onServer_iff.mp installs
  cases steps with
  | error fault =>
      obtain ⟨isSame, rfl⟩ := ends_pure_iff.mp catches
      obtain ⟨rfl, rfl⟩ := Prod.mk.inj isSame
      obtain ⟨isSame, rfl⟩ := ends_pure_iff.mp settles
      obtain ⟨rfl, rfl⟩ := Prod.mk.inj isSame
      exact ⟨.error fault, installs, rfl, rfl⟩
  | ok =>
      obtain ⟨isSame, rfl⟩ := ends_pure_iff.mp catches
      obtain ⟨rfl, rfl⟩ := Prod.mk.inj isSame
      obtain ⟨isSame, rfl⟩ := ends_pure_iff.mp settles
      obtain ⟨rfl, rfl⟩ := Prod.mk.inj isSame
      exact ⟨.ok (), installs, rfl, rfl⟩

/-- A server is checked first, and installed only after a check that asks for it. -/
theorem exists_check_of_ensureInstalled
    {outcome : Except ServerFault Unit}
    (ends :
      Ends step (ensureInstalled.run.run managed) state (outcome, after)
        last) :
    ∃ needed between middle,
      Ends step (needsInstallation.run.run managed) state (needed, between)
          middle ∧
        ((needed = .ok true ∧
            Ends step (install.run.run between) middle (outcome, after)
              last) ∨
          (needed ≠ .ok true ∧
            outcome = needed.map (fun _ => ()) ∧
              after = between ∧ last = middle)) := by
  unfold ensureInstalled at ends
  rw [ExceptT.run_bind, StateT.run_bind] at ends
  obtain ⟨⟨needed, between⟩, middle, checks, goesOn⟩ := ends_bind_iff.mp ends
  refine ⟨needed, between, middle, checks, ?_⟩
  match needed with
  | .error fault =>
      obtain ⟨isSame, rfl⟩ := ends_pure_iff.mp goesOn
      obtain ⟨rfl, rfl⟩ := Prod.mk.inj isSame
      exact .inr ⟨by simp, rfl, rfl, rfl⟩
  | .ok false =>
      obtain ⟨isSame, rfl⟩ := ends_pure_iff.mp goesOn
      obtain ⟨rfl, rfl⟩ := Prod.mk.inj isSame
      exact .inr ⟨by simp, rfl, rfl, rfl⟩
  | .ok true => exact .inl ⟨rfl, goesOn⟩

end

/-! ## Calls that follow each other -/

/-- A call of an operation of a server, with its outcome. -/
inductive Call where
  | checked (outcome : Except ServerFault Bool)
  | installed (outcome : Except ServerFault Unit)

namespace Call

/-- Whether a call settles the status: it is an installation, or finds that there is no need of one. -/
def settles : Call → Bool
  | .checked (.ok needed) => !needed
  | .checked (.error _) => false
  | .installed _ => true

/-- The status that a call leaves if it settles it. -/
def status : Call → ServerStatus
  | .installed (.error _) => .failed
  | _ => .ready

/-- The last one of the calls that settles the status. -/
def lastSettling? (calls : List Call) : Option Call :=
  (calls.filter settles).getLast?

theorem lastSettling?_cons (call : Call) (calls : List Call) :
    lastSettling? (call :: calls) =
      (lastSettling? calls).or (if call.settles then some call else none) := by
  unfold lastSettling?
  by_cases isSettling : call.settles = true
  · rw [List.filter_cons_of_pos isSettling, if_pos isSettling,
      List.getLast?_cons]
    cases (calls.filter settles).getLast? <;> rfl
  · rw [List.filter_cons_of_neg isSettling, if_neg isSettling, Option.or_none]

theorem settles_of_lastSettling?
    {calls : List Call}
    {call : Call}
    (isLast : lastSettling? calls = some call) :
    call.settles = true := by
  have isMember : call ∈ calls.filter settles := List.mem_of_getLast? isLast
  exact (List.mem_filter.mp isMember).2

theorem lastSettling?_eq_none_iff {calls : List Call} :
    lastSettling? calls = none ↔ ∀ call ∈ calls, call.settles = false := by
  rw [lastSettling?, List.getLast?_eq_none_iff, List.filter_eq_nil_iff]
  simp only [Bool.not_eq_true]

end Call

section

variable {σ : Type}
variable [Server σ]
variable {managed between after : Managed σ}
variable {call : Call}
variable {calls : List Call}

/-- A call takes place in some surroundings, whatever they answer. -/
inductive Takes (managed : Managed σ) : Call → Managed σ → Prop where
  | checked
      {State : Type}
      {step : Stepping State}
      {state last : State}
      {outcome : Except ServerFault Bool}
      {after : Managed σ}
      (ends :
        Ends step (needsInstallation.run.run managed) state (outcome, after)
          last) :
      Takes managed (.checked outcome) after
  | installed
      {State : Type}
      {step : Stepping State}
      {state last : State}
      {outcome : Except ServerFault Unit}
      {after : Managed σ}
      (ends :
        Ends step (install.run.run managed) state (outcome, after) last) :
      Takes managed (.installed outcome) after

/-- Calls that follow each other, each in surroundings of its own. -/
inductive Serves : Managed σ → List Call → Managed σ → Prop where
  | idle
      (managed : Managed σ) :
      Serves managed [] managed
  | call
      {managed between after : Managed σ}
      {call : Call}
      {calls : List Call}
      (takes : Takes managed call between)
      (later : Serves between calls after) :
      Serves managed (call :: calls) after

/-- A call leaves the status that it settles, and otherwise the one that there was. -/
theorem Takes.status_eq (takes : Takes managed call after) :
    after.status = if call.settles then call.status else managed.status := by
  cases takes with
  | checked ends =>
      obtain ⟨isCurrent, -, rfl, isStatus⟩ := exists_isCurrent_of_check ends
      rw [isStatus]
      match isCurrent with
      | .error _ | .ok false | .ok true => rfl
  | installed ends =>
      obtain ⟨steps, -, rfl, isStatus⟩ := exists_steps_of_install ends
      rw [isStatus]
      cases steps <;> rfl

/-- After calls the status is that of the last one that settles it. -/
theorem Serves.status_eq (serves : Serves managed calls after) :
    after.status =
      ((Call.lastSettling? calls).map Call.status).getD managed.status := by
  induction serves with
  | idle managed => rfl
  | @call managed between after call calls takes _ inductionHypothesis =>
      rw [inductionHypothesis, takes.status_eq, Call.lastSettling?_cons]
      cases Call.lastSettling? calls with
      | some last => rfl
      | none => split <;> rfl

/-- No call changes the package. -/
theorem Takes.package_eq
    (keepsPackage : Server.KeepsPackage σ)
    (takes : Takes managed call after) :
    Server.package after.server = Server.package managed.server := by
  cases takes with
  | checked ends =>
      obtain ⟨_, looks, -⟩ := exists_isCurrent_of_check ends
      exact keepsPackage.isCurrent _ _ _ _ _ _ _ looks
  | installed ends =>
      obtain ⟨_, installs, -⟩ := exists_steps_of_install ends
      exact keepsPackage.installSteps _ _ _ _ _ _ _ installs

theorem Serves.package_eq
    (keepsPackage : Server.KeepsPackage σ)
    (serves : Serves managed calls after) :
    Server.package after.server = Server.package managed.server := by
  induction serves with
  | idle managed => rfl
  | call takes _ inductionHypothesis =>
      exact inductionHypothesis.trans (takes.package_eq keepsPackage)

/-! ## What the status tells -/

/--
How the status of a kind of server follows the calls, from a server of which nothing is known.  The status
is that of the last call that settles it.  The fault of an installation names the package and has the
fault of a step.  To ensure that a server is installed takes a check, and one installation if that asks
for it; then the server is ready exactly if this succeeds.
-/
structure StatusFollowsCalls (σ : Type) [Server σ] : Prop where
  uninitialized_iff :
    ∀ {server : σ} {calls : List Call} {after : Managed σ},
      Serves ⟨server, .uninitialized⟩ calls after →
      (after.status = .uninitialized ↔
        ∀ call ∈ calls, call.settles = false)
  failed_iff :
    ∀ {server : σ} {calls : List Call} {after : Managed σ},
      Serves ⟨server, .uninitialized⟩ calls after →
      (after.status = .failed ↔
        ∃ fault,
          Call.lastSettling? calls = some (.installed (.error fault)))
  ready_iff :
    ∀ {server : σ} {calls : List Call} {after : Managed σ},
      Serves ⟨server, .uninitialized⟩ calls after →
      (after.status = .ready ↔
        Call.lastSettling? calls = some (.installed (.ok ())) ∨
          Call.lastSettling? calls = some (.checked (.ok false)))
  unsettled :
    ∀ {managed after : Managed σ} {outcome : Except ServerFault Bool},
      Takes managed (.checked outcome) after →
      outcome ≠ .ok false →
      after.status = managed.status
  fault :
    ∀ {server : σ} {calls : List Call} {managed after : Managed σ}
      {State : Type} {step : Stepping State} {state last : State}
      {fault : ServerFault},
      Serves ⟨server, .uninitialized⟩ calls managed →
      Ends step (install.run.run managed) state (.error fault, after) last →
      ∃ cause,
        fault = .installFailed (Server.package server) cause ∧
          Ends step (Server.installSteps.run.run managed.server) state
            (.error cause, after.server) last
  ensured :
    ∀ {server : σ} {after : Managed σ} {State : Type}
      {step : Stepping State} {state last : State}
      {outcome : Except ServerFault Unit},
      Ends step (ensureInstalled.run.run ⟨server, .uninitialized⟩) state
          (outcome, after) last →
      (after.status = .ready ↔ outcome = .ok ()) ∧
        ∃ needed between middle,
          Ends step (needsInstallation.run.run ⟨server, .uninitialized⟩)
              state (needed, between) middle ∧
            ((needed = .ok true ∧
                Ends step (install.run.run between) middle (outcome, after)
                  last) ∨
              (needed ≠ .ok true ∧
                outcome = needed.map (fun _ => ()) ∧
                  after = between ∧ last = middle))

/-- A call that settles the status makes the server ready or fails to install it. -/
theorem Call.status_cases
    (isSettling : call.settles = true) :
    (call.status = .failed ∧ ∃ fault, call = .installed (.error fault)) ∨
      (call.status = .ready ∧
        (call = .installed (.ok ()) ∨ call = .checked (.ok false))) := by
  match call with
  | .checked (.ok false) => exact .inr ⟨rfl, .inr rfl⟩
  | .installed (.ok ()) => exact .inr ⟨rfl, .inl rfl⟩
  | .installed (.error fault) => exact .inl ⟨rfl, fault, rfl⟩

/-- After an installation the server is ready exactly if it succeeds. -/
theorem status_eq_ready_iff_of_install
    {State : Type}
    {step : Stepping State}
    {state last : State}
    {outcome : Except ServerFault Unit}
    (ends :
      Ends step (install.run.run managed) state (outcome, after) last) :
    after.status = .ready ↔ outcome = .ok () := by
  have isStatus := (Takes.installed ends).status_eq
  cases outcome with
  | ok => exact iff_of_true isStatus rfl
  | error fault =>
      rw [Call.settles, if_pos rfl, Call.status] at isStatus
      simp [isStatus]

theorem statusFollowsCalls_of_keepsPackage
    (keepsPackage : Server.KeepsPackage σ) :
    StatusFollowsCalls σ where
  uninitialized_iff {server calls after} serves := by
    rw [serves.status_eq, ← Call.lastSettling?_eq_none_iff]
    cases isLast : Call.lastSettling? calls with
    | none => exact iff_of_true rfl rfl
    | some call =>
        obtain ⟨isStatus, -⟩ | ⟨isStatus, -⟩ :=
          Call.status_cases (Call.settles_of_lastSettling? isLast) <;>
        simp [isStatus]
  failed_iff {server calls after} serves := by
    rw [serves.status_eq]
    cases isLast : Call.lastSettling? calls with
    | none => simp
    | some call =>
        obtain ⟨isStatus, fault, rfl⟩ | ⟨isStatus, rfl | rfl⟩ :=
          Call.status_cases (Call.settles_of_lastSettling? isLast) <;>
        simp [isStatus]
  ready_iff {server calls after} serves := by
    rw [serves.status_eq]
    cases isLast : Call.lastSettling? calls with
    | none => simp
    | some call =>
        obtain ⟨isStatus, fault, rfl⟩ | ⟨isStatus, rfl | rfl⟩ :=
          Call.status_cases (Call.settles_of_lastSettling? isLast) <;>
        simp [isStatus]
  unsettled {managed after outcome} takes notCurrent := by
    rw [takes.status_eq]
    match outcome with
    | .error _ | .ok true => rfl
    | .ok false => exact absurd rfl notCurrent
  fault serves ends := by
    obtain ⟨steps, installs, isFault, -⟩ := exists_steps_of_install ends
    obtain ⟨cause, rfl, rfl⟩ :=
      Outcome.mapError_eq_error_iff.mp isFault.symm
    exact ⟨cause, by rw [serves.package_eq keepsPackage], installs⟩
  ensured ends := by
    obtain ⟨needed, between, middle, checks, goesOn⟩ :=
      exists_check_of_ensureInstalled ends
    refine ⟨?_, needed, between, middle, checks, goesOn⟩
    rcases goesOn with ⟨-, installs⟩ | ⟨notNeeded, rfl, rfl, -⟩
    · exact status_eq_ready_iff_of_install installs
    · have isStatus := (Takes.checked checks).status_eq
      match needed with
      | .ok false => exact iff_of_true isStatus rfl
      | .ok true => exact absurd rfl notNeeded
      | .error fault =>
          rw [isStatus]
          simp [Call.settles, Except.map]

end

end Managed

end Provision
