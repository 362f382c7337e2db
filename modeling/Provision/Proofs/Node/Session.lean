import Provision.Node.Context
import Provision.Proofs.Node.Resolution

namespace Provision.NodeContext

/-!
# One resolution for a session

A session asks for its runtime again and again, and anything may happen in between.  Only the first
request runs the resolver.  Every later one is answered from the cell alone: it runs nothing, and it
leaves the host and the surroundings as they are.
-/

open Plan

/-- A request for the runtime of a session, and what happens before it. -/
structure Request (σ State : Type) where
  package : String
  requirement : Requirement
  meanwhile : σ × State → σ × State

/-- The answer to a request, the actions that it took, and the moments around it. -/
structure Answer (σ State : Type) where
  outcome : Except RuntimeFault NodeRuntime
  actions : List Action
  before : σ × State
  after : σ × State

variable {σ State : Type}
variable (perform : Surroundings State)
variable (context : NodeContext σ)

/-- The answers to requests that come one after the other. -/
def answers :
    NodeCell → σ × State → List (Request σ State) → List (Answer σ State)
  | _, _, [] => []
  | cell, moment, request :: later =>
      let before := request.meanwhile moment
      let plan :=
        (context.nodeRuntime request.package request.requirement).run.run
          (cell, before.1)
      let ((outcome, (cell, host)), state) := plan.run perform before.2
      { outcome
        actions := plan.actions perform before.2
        before
        after := (host, state) } ::
          answers cell (host, state) later

/-- Answers that follow from the requirement alone, and take nothing. -/
def idleAnswers
    (reply : Requirement → Except RuntimeFault NodeRuntime) :
    σ × State → List (Request σ State) → List (Answer σ State)
  | _, [] => []
  | moment, request :: later =>
      let before := request.meanwhile moment
      { outcome := reply request.requirement
        actions := []
        before
        after := before } ::
          idleAnswers reply before later

/-- What a session with a runtime of a known version answers. -/
def replyOf
    (runtime : NodeRuntime)
    (version : Version)
    (requirement : Requirement) :
    Except RuntimeFault NodeRuntime :=
  if requirement.accepts version then
    .ok runtime
  else
    .error (.versionMismatch requirement.text version.toText)

/-- A runtime with a known version is checked without asking anything. -/
theorem recheck_of_known
    {runtime : NodeRuntime}
    {version : Version}
    (known : runtime.version? = some version)
    (requirement : Requirement) :
    (recheck runtime requirement :
        StateT σ Plan (Except RuntimeFault NodeRuntime × NodeCell)) =
      pure (replyOf runtime version requirement, .resolved runtime) := by
  rw [recheck, NodeRuntime.checkVersion_run_of_known known,
    NodeRuntime.requireVersion, replyOf]
  split <;> rfl

/-- A request is answered from the cell, which keeps what the answer leaves in it. -/
theorem nodeRuntime_run
    (package : String)
    (requirement : Requirement)
    (cell : NodeCell)
    (host : σ) :
    (context.nodeRuntime package requirement).run.run (cell, host) = do
      let result ← (context.answer package requirement cell).run host
      return (result.1.1, (result.1.2, result.2)) :=
  rfl

/-- A cell that answers from the requirement alone does so for all requests. -/
theorem answers_of_idle
    {cell : NodeCell}
    {reply : Requirement → Except RuntimeFault NodeRuntime}
    (idle :
      ∀ package requirement,
        context.answer package requirement cell =
          pure (reply requirement, cell))
    (moment : σ × State)
    (requests : List (Request σ State)) :
    context.answers perform cell moment requests =
      idleAnswers reply moment requests := by
  induction requests generalizing moment with
  | nil =>
      rfl
  | cons request later inductionHypothesis =>
      rw [answers, nodeRuntime_run, idle]
      exact congrArg (_ :: ·)
        (inductionHypothesis (request.meanwhile moment))

/-- A session with a runtime of a known version answers with it or names its version. -/
theorem answers_of_resolved
    {runtime : NodeRuntime}
    {version : Version}
    (known : runtime.version? = some version)
    (moment : σ × State)
    (requests : List (Request σ State)) :
    context.answers perform (.resolved runtime) moment requests =
      idleAnswers (replyOf runtime version) moment requests := by
  refine context.answers_of_idle perform ?_ moment requests
  exact fun _ requirement => recheck_of_known known requirement

/-- A session whose resolution has failed answers with the message of its fault. -/
theorem answers_of_failed
    (message : String)
    (moment : σ × State)
    (requests : List (Request σ State)) :
    context.answers perform (.failed message) moment requests =
      idleAnswers (fun _ => .error (.unresolvedBefore message)) moment
        requests :=
  context.answers_of_idle perform (fun _ _ => rfl) moment requests

/-- The resolver that the first request runs. -/
def firstResolution (request : Request σ State) :
    StateT σ Plan (Except RuntimeFault NodeRuntime) :=
  ((context.resolver request.package).resolve request.requirement).run

/-- What the first request does with the outcome of the resolver. -/
def settle (requirement : Requirement) :
    Except RuntimeFault NodeRuntime × σ →
      Plan (Except RuntimeFault NodeRuntime × (NodeCell × σ))
  | (.ok runtime, host) => do
      let result ← (recheck runtime requirement).run host
      return (result.1.1, (result.1.2, result.2))
  | (.error fault, host) =>
      return (.error fault, (.failed fault.message, host))

/-- The first request runs the resolver and settles its outcome. -/
theorem nodeRuntime_unresolved_run
    (request : Request σ State)
    (host : σ) :
    (context.nodeRuntime request.package request.requirement).run.run
        (.unresolved, host) =
      (context.firstResolution request).run host >>=
        settle request.requirement := by
  rw [nodeRuntime_run, answer, resolveFirst]
  simp only [StateT.run_bind, bind_assoc]
  refine bind_congr fun found => ?_
  obtain ⟨outcome, host⟩ := found
  cases outcome <;> rfl

/-- The answer that the resolver gives to a request by itself. -/
def resolved
    (request : Request σ State)
    (moment : σ × State) : Answer σ State :=
  let before := request.meanwhile moment
  let resolution := context.firstResolution request
  { outcome := (runFrom perform resolution before).1
    actions := (resolution.run before.1).actions perform before.2
    before
    after := (runFrom perform resolution before).2 }

/-- What a session keeps of its first resolution. -/
def kept : Except RuntimeFault NodeRuntime → NodeCell
  | .ok runtime => .resolved runtime
  | .error fault => .failed fault.message

section

variable {perform context}

/-- A runtime that has been resolved has a version, and the requirement accepts it. -/
theorem exists_version_of_resolved
    {request : Request σ State}
    {moment : σ × State}
    {runtime : NodeRuntime}
    (isResolved :
      (context.resolved perform request moment).outcome = .ok runtime) :
    ∃ version,
      runtime.version? = some version ∧
        request.requirement.accepts version = true := by
  obtain ⟨index, firstYields, -⟩ :=
    (context.resolver request.package).firstYields_of_resolve perform
      request.requirement (Prod.ext isResolved rfl)
  obtain ⟨source, -, yields⟩ := firstYields.yields
  exact yields.complete.2

/-- Settling the outcome of the resolver asks for nothing and keeps the outcome. -/
theorem settle_of_resolved
    {request : Request σ State}
    {moment : σ × State}
    {outcome : Except RuntimeFault NodeRuntime}
    (isResolved :
      (context.resolved perform request moment).outcome = outcome)
    (host : σ) :
    settle request.requirement (outcome, host) =
      pure (outcome, (kept outcome, host)) := by
  cases outcome with
  | error fault =>
      rfl
  | ok runtime =>
      -- The resolver has left the version in the runtime, so nothing is asked for again.
      obtain ⟨version, known, accepted⟩ :=
        exists_version_of_resolved isResolved
      rw [settle, recheck_of_known known, replyOf, if_pos accepted]
      rfl

end

/-- The first answer is that of the resolver, and the cell keeps it. -/
theorem answers_cons_of_unresolved
    (request : Request σ State)
    (later : List (Request σ State))
    (moment : σ × State) :
    context.answers perform .unresolved moment (request :: later) =
      context.resolved perform request moment ::
        context.answers perform
          (kept (context.resolved perform request moment).outcome)
          (context.resolved perform request moment).after later := by
  rcases run :
      ((context.firstResolution request).run
        (request.meanwhile moment).1).run perform
        (request.meanwhile moment).2 with
    ⟨⟨outcome, host⟩, state⟩
  have isResolved :
      context.resolved perform request moment =
        { outcome
          actions :=
            ((context.firstResolution request).run
              (request.meanwhile moment).1).actions perform
              (request.meanwhile moment).2
          before := request.meanwhile moment
          after := (host, state) } := by
    simp only [resolved, runFrom, run]
  have settled :
      settle request.requirement (outcome, host) =
        pure (outcome, (kept outcome, host)) :=
    settle_of_resolved (congrArg Answer.outcome isResolved) host
  rw [answers, nodeRuntime_unresolved_run, actions_bind, run_bind, run,
    settled, isResolved]
  simp only [pure, Plan.run, Plan.actions, List.append_nil]

/--
Only the first request runs the resolver, and its answer is that of the resolver.  After a failure
every later request fails with the message of the first fault.  Otherwise the runtime has a version,
and every later request gets this very runtime if its requirement accepts the version, or else a
fault that names both; nothing is run for it, whatever has happened in between.
-/
theorem answers_resolve_once
    (request : Request σ State)
    (later : List (Request σ State))
    (moment : σ × State) :
    ∃ rest,
      context.answers perform .unresolved moment (request :: later) =
          context.resolved perform request moment :: rest ∧
        (∀ fault,
          (context.resolved perform request moment).outcome =
              .error fault →
          rest =
            idleAnswers
              (fun _ => .error (.unresolvedBefore fault.message))
              (context.resolved perform request moment).after later) ∧
        (∀ runtime,
          (context.resolved perform request moment).outcome =
              .ok runtime →
          ∃ version,
            runtime.version? = some version ∧
              request.requirement.accepts version = true ∧
                rest =
                  idleAnswers (replyOf runtime version)
                    (context.resolved perform request moment).after
                    later) := by
  refine ⟨_, context.answers_cons_of_unresolved perform request later moment,
    ?_, ?_⟩
  · intro fault failed
    rw [failed, kept, answers_of_failed]
  · intro runtime succeeded
    obtain ⟨version, known, accepted⟩ :=
      exists_version_of_resolved succeeded
    rw [succeeded, kept, answers_of_resolved perform context known]
    exact ⟨version, known, accepted, rfl⟩

end Provision.NodeContext
