import Provision.Node.Resolution
import Provision.Proofs.Plan.Asking

namespace Provision

/-!
# Recorded sources

The sources of a resolver and its prompt can be recorded: each probe, each question and each
installation is noted before it happens, in a list beside the state of the host.  Recording changes
nothing else, so the notes of a recorded run tell what happens in the run without them.
-/

/-- What a resolver does with its sources and its prompt, with the place of the source. -/
inductive SourceCall where
  | probe (index : Nat)
  | ask
  | install (index : Nat)
  deriving Repr, DecidableEq

/-- A plan of a host that notes the calls of sources. -/
abbrev Recorded (σ α : Type) := StateT (List SourceCall × σ) Plan α

namespace Recorded

variable {σ α : Type}

/-- Do as the plan does and note nothing. -/
def unnoted (plan : StateT σ Plan α) : Recorded σ α :=
  fun (calls, host) => do
    let (value, host) ← plan.run host
    return (value, (calls, host))

/-- Note a call and do as the plan does. -/
def noted (call : SourceCall) (plan : StateT σ Plan α) : Recorded σ α :=
  fun (calls, host) => (unnoted plan).run (calls ++ [call], host)

end Recorded

namespace NodeSource

variable {σ : Type}

/-- A source at a place in a list that notes when it is probed and when it installs. -/
def recorded (source : NodeSource σ) (index : Nat) : NodeSource (List SourceCall × σ) where
  name := source.name
  announcement := source.announcement
  probe := Recorded.noted (.probe index) source.probe
  canInstall := Recorded.unnoted source.canInstall
  install := ExceptT.mk (Recorded.noted (.install index) source.install.run)

/-- The sources of a list, each with its place after a first one. -/
def recordedFrom (first : Nat) : List (NodeSource σ) → List (NodeSource (List SourceCall × σ))
  | [] => []
  | source :: others => source.recorded first :: recordedFrom (first + 1) others

end NodeSource

namespace NodeResolver

variable {σ : Type}

/-- A resolver that notes what it does with its sources and its prompt. -/
def recorded (resolver : NodeResolver σ) : NodeResolver (List SourceCall × σ) where
  package := resolver.package
  sources := NodeSource.recordedFrom 0 resolver.sources
  confirm := fun package => Recorded.noted .ask (resolver.confirm package)
  prefersLocal := resolver.prefersLocal

end NodeResolver

namespace Recorded

open Plan

variable {σ State α β : Type}
variable (perform : Surroundings State)

/-- A recorded plan runs as another one does from a moment, and notes the given calls. -/
def Notes
    (recorded : Recorded σ α)
    (plan : StateT σ Plan α)
    (moment : σ × State)
    (calls : List SourceCall) : Prop :=
  ∀ earlier,
    runFrom perform recorded ((earlier, moment.1), moment.2) =
      ((runFrom perform plan moment).1,
        ((earlier ++ calls, (runFrom perform plan moment).2.1),
          (runFrom perform plan moment).2.2))

section

variable {perform}

/-- A plan that is done notes nothing. -/
theorem Notes.pure
    (value : α)
    (moment : σ × State) :
    Notes perform (pure value) (pure value) moment [] := by
  intro earlier
  rw [runFrom_pure, runFrom_pure, List.append_nil]

/-- A plan that knows no host notes nothing. -/
theorem Notes.lift
    (plan : Plan α)
    (moment : σ × State) :
    Notes perform (StateT.lift plan) (StateT.lift plan) moment [] := by
  intro earlier
  rw [runFrom_lift, runFrom_lift, List.append_nil]

/-- A plan that is not noted notes nothing. -/
theorem Notes.unnoted
    (plan : StateT σ Plan α)
    (moment : σ × State) :
    Notes perform (unnoted plan) plan moment [] := by
  intro earlier
  simp only [Recorded.unnoted, runFrom, StateT.run, run_bind,
    List.append_nil]
  rfl

/-- A call that is noted is noted once. -/
theorem Notes.noted
    (call : SourceCall)
    (plan : StateT σ Plan α)
    (moment : σ × State) :
    Notes perform (noted call plan) plan moment [call] := by
  intro earlier
  have rest :
      Notes perform (Recorded.unnoted plan) plan moment [] :=
    Notes.unnoted plan moment
  have run := rest (earlier ++ [call])
  rw [List.append_nil] at run
  exact run

/-- What two plans note that follow each other. -/
theorem Notes.bind
    {recorded : Recorded σ α}
    {plan : StateT σ Plan α}
    {recordedNext : α → Recorded σ β}
    {next : α → StateT σ Plan β}
    {moment after : σ × State}
    {value : α}
    {calls later : List SourceCall}
    (run : runFrom perform plan moment = (value, after))
    (first : Notes perform recorded plan moment calls)
    (second :
      Notes perform (recordedNext value) (next value) after later) :
    Notes perform (recorded >>= recordedNext) (plan >>= next) moment
      (calls ++ later) := by
  intro earlier
  have firstRun := first earlier
  rw [run] at firstRun
  rw [runFrom_bind_of_runFrom perform firstRun,
    runFrom_bind_of_runFrom perform run, second, List.append_assoc]

end

end Recorded

namespace NodeResolver

open Plan Recorded

variable {σ State : Type}

/--
The calls that a source gets when it is tried: one probe, then a question unless the storage is
preferred, then one installation; any of them may be the last.
-/
inductive IsVisit (prefersLocal : Bool) (index : Nat) : List SourceCall → Prop where
  | probed :
      IsVisit prefersLocal index [.probe index]
  | declined
      (asks : prefersLocal = false) :
      IsVisit prefersLocal index [.probe index, .ask]
  | preferred
      (unasked : prefersLocal = true) :
      IsVisit prefersLocal index [.probe index, .install index]
  | agreed
      (asks : prefersLocal = false) :
      IsVisit prefersLocal index [.probe index, .ask, .install index]

/-- The calls of the sources of a list in order, each tried once, from a first place on. -/
inductive AreVisits (prefersLocal : Bool) : Nat → Nat → List SourceCall → Prop where
  | none
      (first : Nat) :
      AreVisits prefersLocal first 0 []
  | more
      {first count : Nat}
      {visit later : List SourceCall}
      (isVisit : IsVisit prefersLocal first visit)
      (areVisits : AreVisits prefersLocal (first + 1) count later) :
      AreVisits prefersLocal first (count + 1) (visit ++ later)

variable (perform : Surroundings State)
variable (resolver : NodeResolver σ)
variable (requirement : Requirement)

/-- Taking a runtime calls no source. -/
theorem notes_takeFit
    (runtime : NodeRuntime)
    (setbacks : List Setback)
    (moment : σ × State) :
    Notes perform (takeFit requirement runtime setbacks)
      (takeFit requirement runtime setbacks) moment [] := by
  rcases checked :
      runFrom perform
        (StateT.lift
          ((NodeRuntime.checkVersion requirement).run.run runtime))
        moment with
    ⟨⟨outcome, kept⟩, after⟩
  refine Notes.bind checked (Notes.lift _ moment) ?_
  cases outcome with
  | ok =>
      exact Notes.pure _ after
  | error fault =>
      exact Notes.pure _ after

/-- What is noted of the question whether a download is allowed. -/
def questions : List SourceCall :=
  if resolver.prefersLocal then [] else [.ask]

/-- The user is asked unless the storage is preferred. -/
theorem notes_mayDownload (moment : σ × State) :
    Notes perform resolver.recorded.mayDownload resolver.mayDownload moment
      resolver.questions := by
  cases prefersLocal : resolver.prefersLocal with
  | true =>
      simp only [mayDownload, recorded, questions, prefersLocal, if_true]
      exact Notes.pure true moment
  | false =>
      simp only [mayDownload, recorded, questions, prefersLocal,
        Bool.false_eq_true, if_false]
      exact Notes.noted .ask (resolver.confirm resolver.package) moment

end NodeResolver

end Provision
