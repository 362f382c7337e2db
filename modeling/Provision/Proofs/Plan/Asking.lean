import Provision.Host.Basic
import Provision.Plan.Basic

namespace Provision

/-!
# Running plans

A plan runs in surroundings that answer each of its actions from a state.  A plan of a host has a
state of its own besides; the two states together are a moment of the run.  Runs of plans that
follow each other are taken apart here, one plan at a time.
-/

/-- How the surroundings answer an action from a state that it may change. -/
abbrev Surroundings (State : Type) :=
  (action : Action) → State → action.Reply × State

namespace Plan

variable {State σ α β : Type}
variable (perform : Surroundings State)

/-- The actions that a plan asks for in a run. -/
def actions : Plan α → State → List Action
  | .done _, _ => []
  | .act action next, state =>
      let (reply, after) := perform action state
      action :: (next reply).actions after

/-- Two plans run one after the other. -/
theorem run_bind
    (plan : Plan α)
    (next : α → Plan β)
    (state : State) :
    (plan >>= next).run perform state =
      (next (plan.run perform state).1).run perform
        (plan.run perform state).2 := by
  induction plan generalizing state with
  | done value =>
      rfl
  | act action rest inductionHypothesis =>
      exact inductionHypothesis (perform action state).1
        (perform action state).2

/-- Two plans ask for the actions of the one and then of the other. -/
theorem actions_bind
    (plan : Plan α)
    (next : α → Plan β)
    (state : State) :
    (plan >>= next).actions perform state =
      plan.actions perform state ++
        (next (plan.run perform state).1).actions perform
          (plan.run perform state).2 := by
  induction plan generalizing state with
  | done value =>
      rfl
  | act action rest inductionHypothesis =>
      exact congrArg (action :: ·)
        (inductionHypothesis (perform action state).1
          (perform action state).2)

/-- The second plan runs from what the first one leaves. -/
theorem run_bind_of_run
    {plan : Plan α}
    {next : α → Plan β}
    {state after : State}
    {value : α}
    (first : plan.run perform state = (value, after)) :
    (plan >>= next).run perform state = (next value).run perform after := by
  rw [run_bind, first]

/-- Run a plan of a host from a moment, which is the state of the host and the surroundings. -/
def runFrom (plan : StateT σ Plan α) (moment : σ × State) : α × (σ × State) :=
  let ((value, host), state) := (plan.run moment.1).run perform moment.2
  (value, (host, state))

/-- Nothing happens in a plan that is done. -/
theorem runFrom_pure
    (value : α)
    (moment : σ × State) :
    runFrom perform (pure value) moment = (value, moment) :=
  rfl

/-- Two plans of a host run one after the other. -/
theorem runFrom_bind
    (plan : StateT σ Plan α)
    (next : α → StateT σ Plan β)
    (moment : σ × State) :
    runFrom perform (plan >>= next) moment =
      runFrom perform (next (runFrom perform plan moment).1)
        (runFrom perform plan moment).2 := by
  simp only [runFrom, StateT.run_bind, run_bind]

/-- The second plan of a host runs from what the first one leaves. -/
theorem runFrom_bind_of_runFrom
    {plan : StateT σ Plan α}
    {next : α → StateT σ Plan β}
    {moment after : σ × State}
    {value : α}
    (first : runFrom perform plan moment = (value, after)) :
    runFrom perform (plan >>= next) moment =
      runFrom perform (next value) after := by
  rw [runFrom_bind, first]

/-- A plan that knows no host leaves the state of the host as it is. -/
theorem runFrom_lift
    (plan : Plan α)
    (moment : σ × State) :
    runFrom perform (StateT.lift plan) moment =
      ((plan.run perform moment.2).1,
        (moment.1, (plan.run perform moment.2).2)) := by
  simp only [runFrom, StateT.run_lift, run_bind]
  rfl

/-- A run of a plan is a run of it for any host. -/
theorem runFrom_lift_of_run
    {plan : Plan α}
    {state after : State}
    {value : α}
    (run : plan.run perform state = (value, after))
    (host : σ) :
    runFrom perform (StateT.lift plan) (host, state) =
      (value, (host, after)) := by
  rw [runFrom_lift, run]

end Plan

/-- A procedure that starts with a plan that cannot fail goes on with its value. -/
theorem Procedure.run_lift_bind
    {ε α β : Type}
    (plan : Plan α)
    (next : α → Procedure ε β) :
    ((liftM plan : Procedure ε α) >>= next).run =
      plan >>= fun value => (next value).run := by
  simp [ExceptT.run_bind]

end Provision

namespace Provision

/-!
# What plans ask for

A plan asks only for certain actions if each action that it comes to is one of them, whatever it is
answered on the way.  Some actions only look, and leave a host as it is.
-/

namespace Action

/-- Whether an action looks at what there is and changes nothing. -/
def looks : Action → Bool
  | .status _ | .linkStatus _ | .readFile _ | .listDirectory _ | .realPath _
  | .environment => true
  | _ => false

/-- Whether an action starts a child process. -/
def isChild : Action → Bool
  | .spawn _ => true
  | _ => false

/-- Whether an action looks, or leaves everything to a child process. -/
def isQuiet (action : Action) : Bool :=
  action.looks || action.isChild

/-- Whether an action looks, or starts a child process in a directory, or where the process itself works. -/
def runsIn (directory : Option Path) : Action → Bool
  | .spawn child => child.workingDirectory = directory
  | action => action.looks

end Action

namespace Plan

variable {State α β ε : Type}

/-- A plan that asks only for allowed actions, whatever it is answered. -/
inductive AsksOnly (allowed : Action → Bool) : Plan α → Prop where
  | done
      (value : α) :
      AsksOnly allowed (.done value)
  | act
      {action : Action}
      {next : action.Reply → Plan α}
      (isAllowed : allowed action = true)
      (later : ∀ reply, AsksOnly allowed (next reply)) :
      AsksOnly allowed (.act action next)

variable {allowed : Action → Bool}

/-- The plan of a single action asks for that action. -/
theorem AsksOnly.ask
    {action : Action}
    (isAllowed : allowed action = true) :
    AsksOnly allowed (Plan.ask action) :=
  .act isAllowed .done

/-- A plan that asks only for some actions asks only for more of them. -/
theorem AsksOnly.mono
    {more : Action → Bool}
    {plan : Plan α}
    (asksOnly : AsksOnly allowed plan)
    (isMore : ∀ action, allowed action = true → more action = true) :
    AsksOnly more plan := by
  induction asksOnly with
  | done value =>
      exact .done value
  | act isAllowed later inductionHypothesis =>
      exact .act (isMore _ isAllowed) inductionHypothesis

/-- A plan that asks only for actions of two sorts asks only for those of both. -/
theorem AsksOnly.and
    {other : Action → Bool}
    {plan : Plan α}
    (asksOnly : AsksOnly allowed plan)
    (also : AsksOnly other plan) :
    AsksOnly (fun action => allowed action && other action) plan := by
  induction asksOnly with
  | done value => exact .done value
  | act isAllowed _ inductionHypothesis =>
      cases also with
      | act isAlso later =>
          exact .act (by simp [isAllowed, isAlso]) fun reply =>
            inductionHypothesis reply (later reply)

/-- Two plans that follow each other ask for what each of them asks for. -/
theorem AsksOnly.bind
    {plan : Plan α}
    {next : α → Plan β}
    (first : AsksOnly allowed plan)
    (second : ∀ value, AsksOnly allowed (next value)) :
    AsksOnly allowed (plan >>= next) := by
  induction first with
  | done value =>
      exact second value
  | act isAllowed later inductionHypothesis =>
      exact .act isAllowed inductionHypothesis

/-- Two procedures that follow each other ask for what each of them asks for. -/
theorem AsksOnly.bindProcedure
    {procedure : Procedure ε α}
    {next : α → Procedure ε β}
    (first : AsksOnly allowed procedure.run)
    (second : ∀ value, AsksOnly allowed (next value).run) :
    AsksOnly allowed (procedure >>= next).run := by
  rw [ExceptT.run_bind]
  refine first.bind fun outcome => ?_
  cases outcome with
  | ok value =>
      exact second value
  | error fault =>
      exact .done _

/-- A plan that cannot fail asks for the same actions as a procedure. -/
theorem AsksOnly.liftProcedure
    {plan : Plan α}
    (asksOnly : AsksOnly allowed plan) :
    AsksOnly allowed (liftM plan : Procedure ε α).run := by
  simp only [ExceptT.run_liftM]
  exact asksOnly.bind fun value => .done _

/-- Other faults of a procedure do not change what it asks for. -/
theorem AsksOnly.adaptProcedure
    {δ : Type}
    {procedure : Procedure ε α}
    (asksOnly : AsksOnly allowed procedure.run)
    (wording : ε → δ) :
    AsksOnly allowed (procedure.adapt wording).run :=
  asksOnly.bind fun _ => .done _

/-- Surroundings that agree on the actions that a plan asks for run it alike. -/
theorem AsksOnly.run_congr
    {perform other : Surroundings State}
    {plan : Plan α}
    (asksOnly : AsksOnly allowed plan)
    (agrees :
      ∀ action state,
        allowed action = true →
        perform action state = other action state)
    (state : State) :
    plan.run perform state = plan.run other state := by
  induction asksOnly generalizing state with
  | done value => rfl
  | act isAllowed _ inductionHypothesis =>
      rw [run, run, agrees _ _ isAllowed]
      exact inductionHypothesis _ _

/-- What a plan asks for in a run is what it may ask for. -/
theorem AsksOnly.mem_actions
    {perform : Surroundings State}
    {plan : Plan α}
    (asksOnly : plan.AsksOnly allowed)
    (state : State) :
    ∀ action ∈ plan.actions perform state, allowed action = true := by
  induction asksOnly generalizing state with
  | done value => exact fun _ isAsked => absurd isAsked List.not_mem_nil
  | act isAllowed _ inductionHypothesis =>
      rw [actions]
      intro action isAsked
      rcases List.mem_cons.mp isAsked with rfl | isLater
      · exact isAllowed
      · exact inductionHypothesis _ _ action isLater

/-- A relation that every allowed action keeps is kept by a whole run. -/
theorem AsksOnly.run_induction
    (perform : Surroundings State)
    (Reaches : State → State → Prop)
    {plan : Plan α}
    (asksOnly : AsksOnly allowed plan)
    (refl : ∀ state, Reaches state state)
    (step :
      ∀ action state last,
        allowed action = true →
        Reaches (perform action state).2 last →
        Reaches state last)
    (state : State) :
    Reaches state (plan.run perform state).2 := by
  induction asksOnly generalizing state with
  | done value =>
      exact refl state
  | act isAllowed later inductionHypothesis =>
      exact step _ state _ isAllowed (inductionHypothesis _ _)

end Plan

end Provision
