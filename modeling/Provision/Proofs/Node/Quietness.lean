import Provision.Node.Context
import Provision.Proofs.Node.Looking
import Provision.Proofs.Node.Visiting

namespace Provision

/-!
# Resolving without installing

As long as nothing is installed, a resolver looks, starts child processes and asks the user.  What
happens between two moments of a run is quiet if there is nothing else to it.
-/

open Plan

variable {σ State : Type}
variable (perform : Surroundings State)

/-- One moment follows from another by quiet actions and by questions to the user. -/
inductive Quietly (prompt : StateT σ Plan Bool) : σ × State → σ × State → Prop where
  | refl
      (moment : σ × State) :
      Quietly prompt moment moment
  | acted
      {host : σ}
      {state : State}
      {action : Action}
      {last : σ × State}
      (isQuiet : action.isQuiet = true)
      (later : Quietly prompt (host, (perform action state).2) last) :
      Quietly prompt (host, state) last
  | asked
      {moment last : σ × State}
      (later : Quietly prompt (runFrom perform prompt moment).2 last) :
      Quietly prompt moment last

section

variable {perform}
variable {prompt : StateT σ Plan Bool}

/-- What is quiet up to a moment and quiet from there is quiet. -/
theorem Quietly.trans
    {moment middle last : σ × State}
    (first : Quietly perform prompt moment middle)
    (second : Quietly perform prompt middle last) :
    Quietly perform prompt moment last := by
  induction first with
  | refl =>
      exact second
  | acted isQuiet _ inductionHypothesis =>
      exact .acted isQuiet (inductionHypothesis second)
  | asked _ inductionHypothesis =>
      exact .asked (inductionHypothesis second)

/-- A plan that asks only for quiet actions runs quietly. -/
theorem Quietly.ofAsksOnly
    {α : Type}
    {plan : Plan α}
    (asksOnly : plan.AsksOnly Action.isQuiet)
    {host : σ}
    {state after : State}
    {value : α}
    (run : plan.run perform state = (value, after)) :
    Quietly perform prompt (host, state) (host, after) := by
  have quietly :=
    asksOnly.run_induction perform
      (fun state last =>
        Quietly perform prompt (host, state) (host, last))
      (fun state => .refl (host, state))
      (fun _ _ _ isQuiet later => .acted isQuiet later)
      state
  rw [run] at quietly
  exact quietly

end

namespace NodeRuntime

variable {perform}
variable {prompt : StateT σ Plan Bool}

/-- A complete runtime is found quietly. -/
theorem Complete.quietly
    {runtime : NodeRuntime}
    {host : σ}
    {state after : State}
    (complete : runtime.Complete perform state after) :
    Quietly perform prompt (host, state) (host, after) := by
  refine .ofAsksOnly ?_ (run_checkPrograms_of_complete perform complete)
  exact runtime.checkPrograms_asksOnly.mono fun _ =>
    Action.isQuiet_of_looks

/-- That a runtime is incomplete is found out quietly. -/
theorem Incomplete.quietly
    {runtime : NodeRuntime}
    {host : σ}
    {state after : State}
    (incomplete : runtime.Incomplete perform state after) :
    Quietly perform prompt (host, state) (host, after) := by
  obtain ⟨fault, fails⟩ :=
    run_checkPrograms_of_incomplete perform incomplete
  refine .ofAsksOnly ?_ fails
  exact runtime.checkPrograms_asksOnly.mono fun _ =>
    Action.isQuiet_of_looks

end NodeRuntime

namespace NodeResolver

variable {perform}
variable {prompt : StateT σ Plan Bool}

/-- A runtime is taken quietly. -/
theorem quietly_takeFit
    (requirement : Requirement)
    (runtime : NodeRuntime)
    (setbacks : List Setback)
    (host : σ)
    (state : State) :
    Quietly perform prompt (host, state)
      (runFrom perform (takeFit requirement runtime setbacks)
        (host, state)).2 := by
  rcases checked :
      ((NodeRuntime.checkVersion requirement).run.run runtime).run
        perform state with
    ⟨⟨outcome, kept⟩, after⟩
  rw [takeFit,
    runFrom_bind_of_runFrom perform
      (runFrom_lift_of_run perform checked host)]
  have quietly : Quietly perform prompt (host, state) (host, after) :=
    .ofAsksOnly (runtime.checkVersion_asksOnly requirement) checked
  cases outcome with
  | ok =>
      exact quietly
  | error fault =>
      exact quietly

variable {resolver : NodeResolver σ}
variable {requirement : Requirement}

/-- A source that is probed and answers quietly. -/
structure IsQuietSource
    (perform : Surroundings State)
    (prompt : StateT σ Plan Bool)
    (source : NodeSource σ) : Prop where
  probes :
    ∀ moment,
      Quietly perform prompt moment (runFrom perform source.probe moment).2
  answers :
    ∀ moment,
      Quietly perform prompt moment
        (runFrom perform source.canInstall moment).2

/-- It is found out quietly that a source lacks its runtime and whether it can install one. -/
theorem IsQuietSource.quietly
    {source : NodeSource σ}
    (isQuiet : IsQuietSource perform prompt source)
    {runtime : NodeRuntime}
    {host : σ}
    {state seen : State}
    {moment able : σ × State}
    {answer : Bool}
    (probes :
      runFrom perform source.probe moment = (runtime, (host, state)))
    (incomplete : runtime.Incomplete perform state seen)
    (answers :
      runFrom perform source.canInstall (host, seen) = (answer, able)) :
    Quietly perform prompt moment able := by
  have probed := isQuiet.probes moment
  rw [probes] at probed
  have answered := isQuiet.answers (host, seen)
  rw [answers] at answered
  exact probed.trans (incomplete.quietly.trans answered)

/-- A quiet source is tried quietly unless it installs. -/
theorem Course.quietly
    {source : NodeSource σ}
    {index : Nat}
    {moment after : σ × State}
    {calls : List SourceCall}
    (course :
      resolver.Course perform requirement source index moment calls after)
    (isQuiet :
      IsQuietSource perform (resolver.confirm resolver.package) source)
    (noInstall : .install index ∉ calls) :
    Quietly perform (resolver.confirm resolver.package) moment after := by
  cases course with
  | present probes complete =>
      have probed := isQuiet.probes moment
      rw [probes] at probed
      exact probed.trans
        (complete.quietly.trans (quietly_takeFit _ _ _ _ _))
  | absent probes incomplete cannotInstall =>
      exact isQuiet.quietly probes incomplete cannotInstall
  | declined lacks _ declines =>
      obtain ⟨probes, incomplete, canInstall⟩ := lacks
      refine (isQuiet.quietly probes incomplete canInstall).trans
        (.asked ?_)
      rw [declines]
      exact .refl after
  | preferred | agreed =>
      simp at noInstall

end NodeResolver

namespace NodeContext

variable {perform}
variable {prompt : StateT σ Plan Bool}

/-- The sources of a session are quiet. -/
theorem isQuietSource
    {context : NodeContext σ}
    {name : String}
    {source : NodeSource σ}
    (isKnown : context.source? name = some source) :
    NodeResolver.IsQuietSource perform prompt source := by
  rw [source?] at isKnown
  split at isKnown
  · obtain rfl := Option.some.inj isKnown
    refine ⟨fun moment => ?_, .refl⟩
    change Quietly perform prompt moment
      (runFrom perform (StateT.lift (NodeRuntime.search _)) moment).2
    rw [runFrom_lift]
    refine .ofAsksOnly ?_ rfl
    exact (NodeRuntime.search_asksOnly _).mono fun _ =>
      Action.isQuiet_of_looks
  · split at isKnown
    · obtain rfl := Option.some.inj isKnown
      exact ⟨.refl, .refl⟩
    · simp at isKnown

end NodeContext

end Provision
