import Provision.Proofs.Node.Checks
import Provision.Proofs.Node.Recording

namespace Provision.NodeResolver

/-!
# The course of a visit

A source that is tried is probed.  If its runtime is not there and it can install one, the user may
be asked, and it may install; what is noted of the source tells which of these has happened.
-/

open Plan Recorded

variable {σ State : Type}
variable (perform : Surroundings State)
variable (resolver : NodeResolver σ)
variable (requirement : Requirement)

/-- A source lacks its runtime at a moment, and can install one from a later moment on. -/
inductive Lacks (source : NodeSource σ) (moment : σ × State) : σ × State → Prop where
  | incomplete
      {runtime : NodeRuntime}
      {host : σ}
      {state seen : State}
      {able : σ × State}
      (probes :
        runFrom perform source.probe moment = (runtime, (host, state)))
      (incomplete : runtime.Incomplete perform state seen)
      (canInstall :
        runFrom perform source.canInstall (host, seen) = (true, able)) :
      Lacks source moment able

/-- What happens when a source is tried at a moment: what is noted, and where that leads. -/
inductive Course
    (source : NodeSource σ)
    (index : Nat)
    (moment : σ × State) :
    List SourceCall → σ × State → Prop where
  | present
      {runtime : NodeRuntime}
      {host : σ}
      {state seen : State}
      (probes :
        runFrom perform source.probe moment = (runtime, (host, state)))
      (complete : runtime.Complete perform state seen) :
      Course source index moment [.probe index]
        (runFrom perform (takeFit requirement runtime []) (host, seen)).2
  | absent
      {runtime : NodeRuntime}
      {host : σ}
      {state seen : State}
      {able : σ × State}
      (probes :
        runFrom perform source.probe moment = (runtime, (host, state)))
      (incomplete : runtime.Incomplete perform state seen)
      (cannotInstall :
        runFrom perform source.canInstall (host, seen) = (false, able)) :
      Course source index moment [.probe index] able
  | declined
      {able after : σ × State}
      (lacks : Lacks perform source moment able)
      (asks : resolver.prefersLocal = false)
      (declines :
        runFrom perform (resolver.confirm resolver.package) able =
          (false, after)) :
      Course source index moment [.probe index, .ask] after
  | preferred
      {able after : σ × State}
      (lacks : Lacks perform source moment able)
      (unasked : resolver.prefersLocal = true) :
      Course source index moment [.probe index, .install index] after
  | agreed
      {able allowed after : σ × State}
      (lacks : Lacks perform source moment able)
      (asks : resolver.prefersLocal = false)
      (agrees :
        runFrom perform (resolver.confirm resolver.package) able =
          (true, allowed)) :
      Course source index moment [.probe index, .ask, .install index] after

section

variable {perform resolver requirement}

/-- What is noted of a source that is tried is one visit of it. -/
theorem Course.isVisit
    {source : NodeSource σ}
    {index : Nat}
    {moment after : σ × State}
    {calls : List SourceCall}
    (course :
      resolver.Course perform requirement source index moment calls after) :
    IsVisit resolver.prefersLocal index calls := by
  cases course with
  | present => exact .probed
  | absent => exact .probed
  | declined _ asks _ => exact .declined asks
  | preferred _ unasked => exact .preferred unasked
  | agreed _ asks _ => exact .agreed asks

end

/-- A runtime that has been installed is checked and taken without a further call. -/
theorem notes_checkAndTake
    (fault : RuntimeFault)
    (runtime : NodeRuntime)
    (moment : σ × State) :
    Notes perform
      (do
        match ← StateT.lift runtime.checkPrograms.run with
        | .error failure =>
            return .error [.incomplete fault, .unusable failure]
        | .ok () => takeFit requirement runtime [.incomplete fault])
      (do
        match ← StateT.lift runtime.checkPrograms.run with
        | .error failure =>
            return .error [.incomplete fault, .unusable failure]
        | .ok () => takeFit requirement runtime [.incomplete fault])
      moment [] := by
  rcases checks :
      runFrom perform (StateT.lift runtime.checkPrograms.run)
        moment with
    ⟨checked, after⟩
  refine Notes.bind checks (Notes.lift _ moment) ?_
  cases checked with
  | error failure =>
      exact Notes.pure _ after
  | ok =>
      exact notes_takeFit perform requirement runtime _ after

/-- The course of a source that lacks its runtime, from where it could install one. -/
theorem course_installFit
    {source : NodeSource σ}
    {moment able : σ × State}
    (lacks : Lacks perform source moment able)
    (index : Nat)
    (fault : RuntimeFault) :
    ∃ calls,
      resolver.Course perform requirement source index moment
          (.probe index :: calls)
          (runFrom perform (resolver.installFit requirement source fault)
            able).2 ∧
        Notes perform
          (resolver.recorded.installFit requirement
            (source.recorded index) fault)
          (resolver.installFit requirement source fault) able calls := by
  rcases may : runFrom perform resolver.mayDownload able with
    ⟨answer, allowed⟩
  have question :
      Notes perform resolver.recorded.mayDownload resolver.mayDownload
        able resolver.questions :=
    resolver.notes_mayDownload perform able
  cases answer with
  | false =>
      refine ⟨resolver.questions ++ [], ?_,
        Notes.bind may question (Notes.pure _ allowed)⟩
      rw [installFit, runFrom_bind_of_runFrom perform may]
      -- Only the user can decline, and the user is not asked where the storage is preferred.
      cases prefersLocal : resolver.prefersLocal with
      | true =>
          rw [mayDownload, if_pos prefersLocal, runFrom_pure] at may
          simp at may
      | false =>
          rw [mayDownload, prefersLocal] at may
          rw [questions, prefersLocal]
          exact .declined lacks prefersLocal may
  | true =>
      refine ⟨resolver.questions ++ ([.install index] ++ []), ?_,
        Notes.bind may question ?_⟩
      · cases prefersLocal : resolver.prefersLocal with
        | true =>
            rw [questions, prefersLocal]
            exact .preferred lacks prefersLocal
        | false =>
            rw [mayDownload, prefersLocal] at may
            rw [questions, prefersLocal]
            exact .agreed lacks prefersLocal may
      · rw [if_pos rfl, if_pos rfl]
        rcases installs : runFrom perform source.install.run allowed with
          ⟨outcome, installed⟩
        refine Notes.bind installs
          (Notes.noted (.install index) source.install.run allowed) ?_
        cases outcome with
        | error failure =>
            exact Notes.pure _ installed
        | ok runtime =>
            exact notes_checkAndTake perform requirement fault runtime
              installed

/-- A source that is tried takes one of the courses, and that is noted. -/
theorem course_trySource
    (source : NodeSource σ)
    (index : Nat)
    (moment : σ × State) :
    ∃ calls,
      resolver.Course perform requirement source index moment calls
          (runFrom perform (resolver.trySource requirement source)
            moment).2 ∧
        Notes perform
          (resolver.recorded.trySource requirement (source.recorded index))
          (resolver.trySource requirement source) moment calls := by
  rcases probes : runFrom perform source.probe moment with
    ⟨runtime, host, state⟩
  have probe :
      Notes perform (source.recorded index).probe source.probe moment
        [.probe index] :=
    Notes.noted (.probe index) source.probe moment
  obtain ⟨seen, complete | incomplete⟩ :=
    runtime.complete_or_incomplete perform state
  · have checks :=
      runFrom_lift_of_run perform
        (NodeRuntime.run_checkPrograms_of_complete perform complete) host
    refine ⟨[.probe index] ++ ([] ++ []), ?_,
      Notes.bind probes probe
        (Notes.bind checks (Notes.lift _ _)
          (notes_takeFit perform requirement runtime [] _))⟩
    rw [trySource, runFrom_bind_of_runFrom perform probes,
      runFrom_bind_of_runFrom perform checks]
    exact .present probes complete
  · obtain ⟨fault, fails⟩ :=
      NodeRuntime.run_checkPrograms_of_incomplete perform incomplete
    have checks := runFrom_lift_of_run perform fails host
    rcases can : runFrom perform source.canInstall (host, seen) with
      ⟨answer, able⟩
    have unnoted :
        Notes perform (source.recorded index).canInstall
          source.canInstall (host, seen) [] :=
      Notes.unnoted source.canInstall (host, seen)
    rw [trySource, runFrom_bind_of_runFrom perform probes,
      runFrom_bind_of_runFrom perform checks,
      runFrom_bind_of_runFrom perform can]
    cases answer with
    | false =>
        exact ⟨[.probe index] ++ ([] ++ ([] ++ [])),
          .absent probes incomplete can,
          Notes.bind probes probe
            (Notes.bind checks (Notes.lift _ _)
              (Notes.bind can unnoted (Notes.pure _ able)))⟩
    | true =>
        obtain ⟨calls, course, installs⟩ :=
          resolver.course_installFit perform requirement
            (.incomplete probes incomplete can) index fault
        exact ⟨[.probe index] ++ ([] ++ ([] ++ calls)), course,
          Notes.bind probes probe
            (Notes.bind checks (Notes.lift _ _)
              (Notes.bind can unnoted installs))⟩

/-- A source that is tried is visited once. -/
theorem notes_trySource
    (source : NodeSource σ)
    (index : Nat)
    (moment : σ × State) :
    ∃ visit,
      IsVisit resolver.prefersLocal index visit ∧
        Notes perform
          (resolver.recorded.trySource requirement (source.recorded index))
          (resolver.trySource requirement source) moment visit := by
  obtain ⟨visit, course, notes⟩ :=
    resolver.course_trySource perform requirement source index moment
  exact ⟨visit, course.isVisit, notes⟩

end Provision.NodeResolver
