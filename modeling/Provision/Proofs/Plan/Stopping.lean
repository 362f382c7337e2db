import Provision.Proofs.Plan.Asking

namespace Provision

/-!
# Runs that may stop

What answers a plan need not be determined: an action may fail for reasons of its own, and the
process that runs the plan may end between two actions.  A run follows a plan up to some action.  What
holds all along and what holds at the end is stated for all runs of a plan at once.
-/

/-- How an action may be answered from a state, and the state that it may leave. -/
abbrev Stepping (State : Type) :=
  (action : Action) → State → action.Reply → State → Prop

namespace Plan

variable {State α β ε : Type}
variable (step : Stepping State)

/-- A run of a plan from a state to another one; it has a value if it is not stopped there. -/
inductive Runs : Plan α → State → State → Option α → Prop where
  | stopped
      (plan : Plan α)
      (state : State) :
      Runs plan state state none
  | done
      (value : α)
      (state : State) :
      Runs (.done value) state state (some value)
  | act
      {action : Action}
      {next : action.Reply → Plan α}
      {state after last : State}
      {reply : action.Reply}
      {value? : Option α}
      (answered : step action state reply after)
      (later : Runs (next reply) after last value?) :
      Runs (.act action next) state last value?

/--
Whatever a plan is answered from a state, something holds after each action, and something holds of
the value and the state at the end.
-/
def Ensures
    (always : State → Prop)
    (atEnd : α → State → Prop) :
    Plan α → State → Prop
  | .done value, state => atEnd value state
  | .act action next, state =>
      ∀ reply after,
        step action state reply after →
        always after ∧ Ensures always atEnd (next reply) after

variable {step}
variable {always often : State → Prop}
variable {atEnd : α → State → Prop}

/-- A plan that surroundings run to its end has a run, if they answer as it may be answered. -/
theorem runs_of_surroundings
    {Holder : Type}
    {surroundings : Surroundings Holder}
    (view : Holder → State)
    (holds : Holder → Prop)
    (answers :
      ∀ action holder,
        holds holder →
        step action (view holder) (surroundings action holder).1
            (view (surroundings action holder).2) ∧
          holds (surroundings action holder).2)
    (plan : Plan α)
    (holder : Holder)
    (isHeld : holds holder) :
    Runs step plan (view holder) (view (plan.run surroundings holder).2)
      (some (plan.run surroundings holder).1) := by
  induction plan generalizing holder with
  | done value =>
      exact .done value _
  | act action next inductionHypothesis =>
      obtain ⟨answered, isHeldLater⟩ := answers action holder isHeld
      exact .act answered (inductionHypothesis _ _ isHeldLater)

/-- What a plan ensures is so in each of its runs. -/
theorem Ensures.of_runs
    {plan : Plan α}
    {state last : State}
    {value? : Option α}
    (run : Runs step plan state last value?)
    (ensures : Ensures step always atEnd plan state)
    (atStart : always state) :
    always last ∧ ∀ value, value? = some value → atEnd value last := by
  induction run with
  | stopped plan state =>
      exact ⟨atStart, by simp⟩
  | done value state =>
      refine ⟨atStart, ?_⟩
      rintro _ ⟨⟩
      exact ensures
  | act answered later inductionHypothesis =>
      obtain ⟨holds, rest⟩ := ensures _ _ answered
      exact inductionHypothesis rest holds

/-- A plan ensures less than it ensures. -/
theorem Ensures.mono
    {ending : α → State → Prop}
    {plan : Plan α}
    {state : State}
    (ensures : Ensures step always atEnd plan state)
    (isOften : ∀ state, always state → often state)
    (isEnding : ∀ value state, atEnd value state → ending value state) :
    Ensures step often ending plan state := by
  induction plan generalizing state with
  | done value =>
      exact isEnding value state ensures
  | act action next inductionHypothesis =>
      intro reply after answered
      obtain ⟨holds, rest⟩ := ensures reply after answered
      exact ⟨isOften after holds, inductionHypothesis reply rest⟩

/-- A plan ensures no less if it is answered in fewer ways. -/
theorem Ensures.of_fewer
    {more : Stepping State}
    {plan : Plan α}
    {state : State}
    (ensures : Ensures more always atEnd plan state)
    (isFewer :
      ∀ action state reply after,
        step action state reply after →
        more action state reply after) :
    Ensures step always atEnd plan state := by
  induction plan generalizing state with
  | done value => exact ensures
  | act action next inductionHypothesis =>
      intro reply after answered
      obtain ⟨holds, rest⟩ := ensures reply after (isFewer _ _ _ _ answered)
      exact ⟨holds, inductionHypothesis reply rest⟩

/-- What a plan ensures in two ways it ensures in one. -/
theorem Ensures.and
    {ending : α → State → Prop}
    {plan : Plan α}
    {state : State}
    (ensures : Ensures step always atEnd plan state)
    (also : Ensures step often ending plan state) :
    Ensures step (fun state => always state ∧ often state)
      (fun value state => atEnd value state ∧ ending value state) plan
      state := by
  induction plan generalizing state with
  | done value =>
      exact ⟨ensures, also⟩
  | act action next inductionHypothesis =>
      intro reply after answered
      obtain ⟨holds, rest⟩ := ensures reply after answered
      obtain ⟨alsoHolds, alsoRest⟩ := also reply after answered
      exact ⟨⟨holds, alsoHolds⟩, inductionHypothesis reply rest alsoRest⟩

/-- The plan of a single action ensures what each answer leaves. -/
theorem Ensures.ask
    {action : Action}
    {ending : action.Reply → State → Prop}
    {state : State}
    (answers :
      ∀ reply after,
        step action state reply after →
        always after ∧ ending reply after) :
    Ensures step always ending (Plan.ask action) state :=
  answers

/-- Two plans that follow each other: the second one starts from what the first one ensures. -/
theorem Ensures.bind
    {ending : β → State → Prop}
    {plan : Plan α}
    {next : α → Plan β}
    {state : State}
    (ensures :
      Ensures step always
        (fun value after => Ensures step always ending (next value) after)
        plan state) :
    Ensures step always ending (plan >>= next) state := by
  induction plan generalizing state with
  | done value =>
      exact ensures
  | act action rest inductionHypothesis =>
      intro reply after answered
      obtain ⟨holds, later⟩ := ensures reply after answered
      exact ⟨holds, inductionHypothesis reply later⟩

/-- What holds at the end of a procedure: of its value, or of its fault. -/
def ending
    (good : α → State → Prop)
    (bad : ε → State → Prop) :
    Except ε α → State → Prop
  | .ok value => good value
  | .error fault => bad fault

/-- A procedure that is done ensures what holds of its value. -/
theorem Ensures.pureProcedure
    {good : α → State → Prop}
    {bad : ε → State → Prop}
    {value : α}
    {state : State}
    (holds : good value state) :
    Ensures step always (ending good bad)
      (pure value : Procedure ε α).run state :=
  holds

/-- Two procedures that follow each other: the second one starts where the first one succeeds. -/
theorem Ensures.bindProcedure
    {good : β → State → Prop}
    {bad : ε → State → Prop}
    {procedure : Procedure ε α}
    {next : α → Procedure ε β}
    {state : State}
    (ensures :
      Ensures step always
        (ending
          (fun value after =>
            Ensures step always (ending good bad) (next value).run after)
          bad)
        procedure.run state) :
    Ensures step always (ending good bad) (procedure >>= next).run
      state := by
  rw [ExceptT.run_bind]
  refine .bind (ensures.mono (fun _ holds => holds) fun outcome after => ?_)
  cases outcome with
  | ok value =>
      exact id
  | error fault =>
      exact id

/-- A procedure that starts with a plan that cannot fail. -/
theorem Ensures.bindLift
    {good : β → State → Prop}
    {bad : ε → State → Prop}
    {plan : Plan α}
    {next : α → Procedure ε β}
    {state : State}
    (ensures :
      Ensures step always
        (fun value after =>
          Ensures step always (ending good bad) (next value).run after)
        plan state) :
    Ensures step always (ending good bad)
      ((liftM plan : Procedure ε α) >>= next).run state := by
  rw [Procedure.run_lift_bind]
  exact .bind ensures

/-- Other faults of a procedure change nothing of what it does. -/
theorem Ensures.adaptProcedure
    {δ : Type}
    {good : α → State → Prop}
    {bad : δ → State → Prop}
    {wording : ε → δ}
    {procedure : Procedure ε α}
    {state : State}
    (ensures :
      Ensures step always
        (ending good fun fault after => bad (wording fault) after)
        procedure.run state) :
    Ensures step always (ending good bad) (procedure.adapt wording).run
      state := by
  refine .bind (ensures.mono (fun _ holds => holds) fun outcome after => ?_)
  cases outcome with
  | ok value =>
      exact id
  | error fault =>
      exact id

/-- A plan whose failure becomes the fault of a procedure. -/
theorem Ensures.attempt
    {good : α → State → Prop}
    {bad : ε → State → Prop}
    {wording : DiskFault → ε}
    {plan : Plan (Except DiskFault α)}
    {state : State}
    (ensures :
      Ensures step always
        (ending good fun fault after => bad (wording fault) after)
        plan state) :
    Ensures step always (ending good bad)
      (Procedure.attempt plan wording).run state := by
  refine .bind (ensures.mono (fun _ holds => holds) fun outcome after => ?_)
  cases outcome with
  | ok value =>
      exact id
  | error fault =>
      exact id

/-- A closing plan runs from whatever a procedure leaves. -/
theorem Ensures.closedBy
    {good : α → State → Prop}
    {bad : ε → State → Prop}
    {procedure : Procedure ε α}
    {closing : Plan Unit}
    {state : State}
    (ensures :
      Ensures step always
        (ending
          (fun value after =>
            Ensures step always (fun _ last => good value last) closing
              after)
          (fun fault after =>
            Ensures step always (fun _ last => bad fault last) closing
              after))
        procedure.run state) :
    Ensures step always (ending good bad)
      (procedure.closedBy closing).run state := by
  refine .bind (ensures.mono (fun _ holds => holds) fun outcome after => ?_)
  cases outcome with
  | ok value =>
      intro closes
      exact .bind (closes.mono (fun _ holds => holds) fun _ _ => id)
  | error fault =>
      intro closes
      exact .bind (closes.mono (fun _ holds => holds) fun _ _ => id)

/-! ## Sessions -/

section

variable {σ : Type}
variable {good : β → State → Prop}
variable {bad : ε → State → Prop}
variable {host : σ}
variable {state : State}

/-- What holds at the end of a session: of its value, or of its fault. -/
def endingSession
    (good : α → State → Prop)
    (bad : ε → State → Prop)
    (outcome : Except ε α × σ) :
    State → Prop :=
  ending good bad outcome.1

/-- A session that starts by getting what it has. -/
theorem Ensures.bindGet
    {atEnd : Except ε β × σ → State → Prop}
    {next : σ → Session σ ε β}
    (ensures : Ensures step always atEnd ((next host).run.run host) state) :
    Ensures step always atEnd ((get >>= next).run.run host) state :=
  ensures

/-- Two sessions that follow each other: the second one starts where the first one succeeds. -/
theorem Ensures.bindSession
    {session : Session σ ε α}
    {next : α → Session σ ε β}
    (ensures :
      Ensures step always
        (endingSession
          (fun value after =>
            ∀ later,
              Ensures step always (endingSession good bad)
                ((next value).run.run later) after)
          bad)
        (session.run.run host) state) :
    Ensures step always (endingSession good bad)
      ((session >>= next).run.run host) state := by
  rw [ExceptT.run_bind, StateT.run_bind]
  refine .bind (ensures.mono (fun _ holds => holds) ?_)
  rintro ⟨fault | value, later⟩ after holds
  · exact holds
  · exact holds later

/-- A procedure in a session ensures what it ensures by itself. -/
theorem Ensures.within
    {procedure : Procedure ε β}
    (ensures : Ensures step always (ending good bad) procedure.run state) :
    Ensures step always (endingSession good bad)
      ((Procedure.within procedure : Session σ ε β).run.run host) state := by
  rw [Procedure.within, ExceptT.run_mk, StateT.run_lift]
  exact .bind (ensures.mono (fun _ holds => holds) fun _ _ holds => holds)

end

/-- A preorder that every allowed action keeps is kept all along a plan. -/
theorem AsksOnly.ensures
    {allowed : Action → Bool}
    {plan : Plan α}
    (asksOnly : AsksOnly allowed plan)
    {Reaches : State → State → Prop}
    (trans :
      ∀ first middle last,
        Reaches first middle → Reaches middle last → Reaches first last)
    (answers :
      ∀ action state reply after,
        allowed action = true →
        step action state reply after →
        Reaches state after)
    {start state : State}
    (reached : Reaches start state) :
    Ensures step (Reaches start) (fun _ last => Reaches start last) plan
      state := by
  induction asksOnly generalizing state with
  | done value =>
      exact reached
  | act isAllowed later inductionHypothesis =>
      intro reply after answered
      have reaches : Reaches start after :=
        trans _ _ _ reached (answers _ _ _ _ isAllowed answered)
      exact ⟨reaches, inductionHypothesis reply reaches⟩

/-! ## What is kept -/

section

variable (step)

/-- A plan keeps something that holds at its start: it holds after each action, and at the end. -/
def Keeps (holds : State → Prop) (plan : Plan α) : Prop :=
  ∀ state, holds state → Ensures step holds (fun _ last => holds last) plan state

end

section

variable {holds : State → Prop}

theorem Keeps.pure (value : α) :
    Keeps step holds (Pure.pure value : Plan α) :=
  fun _ isHeld => isHeld

theorem Keeps.ask
    {action : Action}
    (answers :
      ∀ state reply after,
        step action state reply after →
        holds state →
        holds after) :
    Keeps step holds (Plan.ask action) := by
  intro state isHeld
  refine .ask fun reply after answered => ?_
  have isHeldAfter := answers state reply after answered isHeld
  exact ⟨isHeldAfter, isHeldAfter⟩

theorem Keeps.bind
    {plan : Plan α}
    {next : α → Plan β}
    (keeps : Keeps step holds plan)
    (keepsOn : ∀ value, Keeps step holds (next value)) :
    Keeps step holds (plan >>= next) := by
  intro state isHeld
  refine .bind ((keeps state isHeld).mono (fun _ => id) ?_)
  intro value after isHeldAfter
  exact keepsOn value after isHeldAfter

/-- A step that keeps something may be followed by one that needs it. -/
theorem Keeps.bindProcedure
    {procedure : Procedure ε α}
    {next : α → Procedure ε β}
    (keeps : Keeps step holds procedure.run)
    (keepsOn : ∀ value, Keeps step holds (next value).run) :
    Keeps step holds (procedure >>= next).run := by
  rw [ExceptT.run_bind]
  apply keeps.bind
  intro outcome
  cases outcome with
  | ok value => exact keepsOn value
  | error fault => exact .pure _

theorem Keeps.adapt
    {δ : Type}
    {procedure : Procedure ε α}
    (keeps : Keeps step holds procedure.run)
    (wording : ε → δ) :
    Keeps step holds (procedure.adapt wording).run :=
  keeps.bind fun _ => .pure _

theorem Keeps.attempt
    {plan : Plan (Except DiskFault α)}
    (keeps : Keeps step holds plan)
    (wording : DiskFault → ε) :
    Keeps step holds (Procedure.attempt plan wording).run :=
  keeps.bind fun _ => .pure _

/-- What every allowed action keeps is kept by a plan that asks only for such actions. -/
theorem AsksOnly.keeps
    {allowed : Action → Bool}
    {plan : Plan α}
    (asksOnly : AsksOnly allowed plan)
    (answers :
      ∀ action state reply after,
        allowed action = true →
        step action state reply after →
        holds state →
        holds after) :
    Keeps step holds plan := by
  induction asksOnly with
  | done value => exact .pure value
  | act isAllowed _ inductionHypothesis =>
      intro state isHeld reply after answered
      have isHeldAfter := answers _ _ _ _ isAllowed answered isHeld
      exact ⟨isHeldAfter, inductionHypothesis reply after isHeldAfter⟩

end

/-! ## What is upheld -/

/-- Something holds all along a procedure, and where it fails; where it succeeds, something else holds. -/
structure Upholds
    (step : Stepping State)
    (always : State → Prop)
    (good : α → State → Prop)
    (procedure : Procedure ε α)
    (state : State) :
    Prop where
  ensures :
    Ensures step always (ending good fun _ last => always last)
      procedure.run state

namespace Upholds

variable {good better : α → State → Prop}
variable {procedure : Procedure ε α}
variable {state : State}

theorem mono
    (upholds : Upholds step always good procedure state)
    (isBetter : ∀ value last, good value last → better value last) :
    Upholds step always better procedure state := by
  refine ⟨upholds.ensures.mono (fun _ => id) fun outcome last isEnd => ?_⟩
  cases outcome with
  | ok value => exact isBetter value last isEnd
  | error fault => exact isEnd

theorem bind
    {next : α → Procedure ε β}
    {best : β → State → Prop}
    (upholds : Upholds step always good procedure state)
    (upholdsOn :
      ∀ value after,
        good value after →
        Upholds step always best (next value) after) :
    Upholds step always best (procedure >>= next) state := by
  refine ⟨.bindProcedure (upholds.ensures.mono (fun _ => id) ?_)⟩
  intro outcome after isEnd
  cases outcome with
  | ok value => exact (upholdsOn value after isEnd).ensures
  | error fault => exact isEnd

theorem adapt
    {δ : Type}
    (upholds : Upholds step always good procedure state)
    (wording : ε → δ) :
    Upholds step always good (procedure.adapt wording) state :=
  ⟨.adaptProcedure upholds.ensures⟩

/-- What holds all along may be weakened to what is known of it. -/
theorem weaken
    (upholds : Upholds step always good procedure state)
    (isOften : ∀ state, always state → often state) :
    Upholds step often good procedure state := by
  refine ⟨upholds.ensures.mono isOften fun outcome last isEnd => ?_⟩
  cases outcome with
  | ok value => exact isEnd
  | error fault => exact isOften last isEnd

theorem pure
    {value : α}
    (isGood : good value state) :
    Upholds step always good (pure value : Procedure ε α) state :=
  ⟨.pureProcedure isGood⟩

theorem throw
    {fault : ε}
    (isHeld : always state) :
    Upholds step always good (throw fault : Procedure ε α) state :=
  ⟨isHeld⟩

theorem attempt
    {plan : Plan (Except DiskFault α)}
    {wording : DiskFault → ε}
    (ensures :
      Ensures step always (ending good fun _ last => always last) plan state) :
    Upholds step always good (Procedure.attempt plan wording) state :=
  ⟨.attempt ensures⟩

theorem bindLift
    {best : β → State → Prop}
    {plan : Plan α}
    {next : α → Procedure ε β}
    (ensures :
      Ensures step always
        (fun value after => Upholds step always best (next value) after)
        plan state) :
    Upholds step always best ((liftM plan : Procedure ε α) >>= next) state :=
  ⟨.bindLift (ensures.mono (fun _ => id) fun _ _ upholds => upholds.ensures)⟩

/-- What a procedure upholds is so in each of its runs. -/
theorem of_runs
    {last : State}
    {value? : Option (Except ε α)}
    (upholds : Upholds step always good procedure state)
    (run : Runs step procedure.run state last value?)
    (atStart : always state) :
    always last ∧ ∀ value, value? = some (.ok value) → good value last := by
  obtain ⟨isKept, isEnd⟩ := Ensures.of_runs run upholds.ensures atStart
  exact ⟨isKept, fun value isOk => isEnd _ isOk⟩

end Upholds

/-- What a procedure ensures, whatever its outcome, is upheld if it is more than what has to hold all along. -/
theorem Ensures.upholds
    {holds : State → Prop}
    {procedure : Procedure ε α}
    {state : State}
    (ensures : Ensures step holds (fun _ last => holds last) procedure.run state)
    (isAlways : ∀ state, holds state → always state) :
    Upholds step always (fun _ => holds) procedure state := by
  refine ⟨ensures.mono isAlways fun outcome last isHeld => ?_⟩
  cases outcome with
  | ok value => exact isHeld
  | error fault => exact isAlways last isHeld

theorem Keeps.upholds
    {holds : State → Prop}
    {procedure : Procedure ε α}
    {state : State}
    (keeps : Keeps step holds procedure.run)
    (isHeld : holds state)
    (isAlways : ∀ state, holds state → always state) :
    Upholds step always (fun _ => holds) procedure state :=
  (keeps state isHeld).upholds isAlways

/-- What a plan keeps, whatever its outcome, is upheld by the procedure that reports its failure. -/
theorem Ensures.upholdsAttempt
    {holds : State → Prop}
    {plan : Plan (Except DiskFault α)}
    {wording : DiskFault → ε}
    {state : State}
    (ensures : Ensures step holds (fun _ last => holds last) plan state) :
    Upholds step holds (fun _ last => holds last)
      (Procedure.attempt plan wording) state := by
  refine .attempt (ensures.mono (fun _ => id) ?_)
  rintro (fault | value) last isHeld <;> exact isHeld

end Plan

/-!
## Traces of runs

A trace keeps what was asked and answered in a run beside the state.  What a plan ensures of the state it
ensures of the state of a trace, and a plan adds to the past only what it asks for.
-/

/-- An action that was asked for, the answer, and the state after it. -/
structure Asked (State : Type) where
  action : Action
  reply : action.Reply
  after : State

/-- A state with all that was asked on the way to it. -/
structure Trace (State : Type) where
  state : State
  past : List (Asked State)

/-- Whether something has been asked for on the way to a state. -/
def Trace.HasAsked
    {State : Type}
    (trace : Trace State)
    (action : Action) :
    Prop :=
  ∃ asked ∈ trace.past, asked.action = action

namespace Plan

variable {State α ε : Type}

/-- A step that is taken down. -/
def tracing (step : Stepping State) : Stepping (Trace State) :=
  fun action trace reply later =>
    step action trace.state reply later.state ∧
      later.past = trace.past ++ [⟨action, reply, later.state⟩]

variable {step : Stepping State}
variable {always : State → Prop}

/-- What a plan ensures of the state it ensures of the state of a trace. -/
theorem Ensures.traced
    {atEnd : α → State → Prop}
    {plan : Plan α}
    {trace : Trace State}
    (ensures : Ensures step always atEnd plan trace.state) :
    Ensures (tracing step) (fun later => always later.state)
      (fun value later => atEnd value later.state) plan trace := by
  induction plan generalizing trace with
  | done value => exact ensures
  | act action next inductionHypothesis =>
      rintro reply later ⟨answered, -⟩
      obtain ⟨holds, rest⟩ := ensures reply later.state answered
      exact ⟨holds, inductionHypothesis reply rest⟩

/-- What a procedure ensures of the state it ensures of the state of a trace. -/
theorem Ensures.tracedProcedure
    {good : α → State → Prop}
    {bad : ε → State → Prop}
    {plan : Plan (Except ε α)}
    {trace : Trace State}
    (ensures : Ensures step always (ending good bad) plan trace.state) :
    Ensures (tracing step) (fun later => always later.state)
      (ending
        (fun value later => good value later.state)
        (fun fault later => bad fault later.state))
      plan trace :=
  ensures.traced.mono (fun _ => id) fun outcome _ => by
    cases outcome <;> exact id

/-- A run is the run of a trace from any past. -/
theorem Runs.traced
    {plan : Plan α}
    {state last : State}
    {value? : Option α}
    (runs : Runs step plan state last value?)
    (past : List (Asked State)) :
    ∃ later : Trace State,
      later.state = last ∧
        Runs (tracing step) plan ⟨state, past⟩ later value? := by
  induction runs generalizing past with
  | stopped plan state => exact ⟨_, rfl, .stopped _ _⟩
  | done value state => exact ⟨_, rfl, .done _ _⟩
  | @act action next state after last reply value? answered _
      inductionHypothesis =>
      obtain ⟨later, isLast, runsOn⟩ :=
        inductionHypothesis (past ++ [⟨action, reply, after⟩])
      exact ⟨later, isLast, .act ⟨answered, rfl⟩ runsOn⟩

/-- Whatever a plan asks for is one of the actions that it may ask for. -/
theorem AsksOnly.traced
    {allowed : Action → Bool}
    {plan : Plan α}
    (asksOnly : AsksOnly allowed plan)
    {trace : Trace State}
    (areAllowed : ∀ asked ∈ trace.past, allowed asked.action = true) :
    Ensures (tracing step)
      (fun later => ∀ asked ∈ later.past, allowed asked.action = true)
      (fun _ later => ∀ asked ∈ later.past, allowed asked.action = true)
      plan trace := by
  induction asksOnly generalizing trace with
  | done value => exact areAllowed
  | act isAllowed later inductionHypothesis =>
      rintro reply after ⟨-, isPast⟩
      have stillAllowed :
          ∀ asked ∈ after.past, allowed asked.action = true := by
        intro asked member
        rw [isPast] at member
        rcases List.mem_append.mp member with before | isLast
        · exact areAllowed asked before
        · rw [List.mem_singleton.mp isLast]
          exact isAllowed
      exact ⟨stillAllowed, inductionHypothesis reply stillAllowed⟩

end Plan

end Provision
