import Provision.Command.Basic
import Provision.Proofs.Outcome
import Provision.Proofs.Plan.Stopping
import Provision.Storage.Files

namespace Provision

/-!
# Runs that end

A run that ends with a value has gone through every step of its plan.  A run of plans that follow each
other is taken apart into runs of its parts, and a procedure that succeeds has succeeded in each of its
steps.
-/

namespace Plan

variable {State α β ε δ : Type}

/-- A run of a plan to its end. -/
abbrev Ends
    (step : Stepping State)
    (plan : Plan α)
    (state : State)
    (value : α)
    (last : State) :
    Prop :=
  Runs step plan state last (some value)

variable {step : Stepping State}
variable {state last : State}

/-- A plan that is done ends where it is. -/
theorem ends_pure_iff
    {value result : α} :
    Ends step (pure value) state result last ↔
      result = value ∧ last = state := by
  constructor
  · intro ends
    cases ends
    exact ⟨rfl, rfl⟩
  · rintro ⟨rfl, rfl⟩
    exact .done result last

/-- The plan of a single action ends with an answer to it. -/
theorem ends_ask_iff
    {action : Action}
    {reply : action.Reply} :
    Ends step (ask action) state reply last ↔
      step action state reply last := by
  constructor
  · intro ends
    cases ends with
    | act answered later =>
        cases later
        exact answered
  · exact fun answered => .act answered (.done reply last)

/-- Two plans that follow each other end if the first one does, and the second one from there. -/
theorem ends_bind_iff
    {plan : Plan α}
    {next : α → Plan β}
    {result : β} :
    Ends step (plan >>= next) state result last ↔
      ∃ value middle,
        Ends step plan state value middle ∧
          Ends step (next value) middle result last := by
  constructor
  · intro ends
    induction plan generalizing state with
    | done value =>
        exact ⟨value, state, .done value state, ends⟩
    | act action rest inductionHypothesis =>
        cases ends with
        | act answered later =>
            obtain ⟨value, middle, first, second⟩ :=
              inductionHypothesis _ later
            exact ⟨value, middle, .act answered first, second⟩
  · rintro ⟨value, middle, first, second⟩
    rw [Ends] at first
    generalize isSome : some value = value? at first
    induction first with
    | stopped => simp at isSome
    | done value state =>
        obtain rfl := Option.some.inj isSome
        exact second
    | act answered _ inductionHypothesis =>
        exact .act answered (inductionHypothesis second isSome)

/-- Two procedures that follow each other succeed if both do. -/
theorem ends_bindProcedure_iff
    {procedure : Procedure ε α}
    {next : α → Procedure ε β}
    {result : β} :
    Ends step (procedure >>= next).run state (.ok result) last ↔
      ∃ value middle,
        Ends step procedure.run state (.ok value) middle ∧
          Ends step (next value).run middle (.ok result) last := by
  rw [ExceptT.run_bind, ends_bind_iff]
  constructor
  · rintro ⟨fault | value, middle, first, second⟩
    · obtain ⟨isError, -⟩ := ends_pure_iff.mp second
      simp at isError
    · exact ⟨value, middle, first, second⟩
  · rintro ⟨value, middle, first, second⟩
    exact ⟨.ok value, middle, first, second⟩

/-- A procedure that starts with a plan that cannot fail succeeds if the rest does. -/
theorem ends_bindLift_iff
    {plan : Plan α}
    {next : α → Procedure ε β}
    {result : β} :
    Ends step ((liftM plan : Procedure ε α) >>= next).run state
        (.ok result) last ↔
      ∃ value middle,
        Ends step plan state value middle ∧
          Ends step (next value).run middle (.ok result) last := by
  rw [Procedure.run_lift_bind, ends_bind_iff]

/-- A plan whose outcome is put in other words succeeds if the plan does. -/
theorem ends_mapError_iff
    {plan : Plan (Except ε α)}
    {wording : ε → δ}
    {result : α} :
    Ends step (plan >>= fun outcome => pure (outcome.mapError wording))
        state (.ok result) last ↔
      Ends step plan state (.ok result) last := by
  rw [ends_bind_iff]
  constructor
  · rintro ⟨outcome, middle, first, second⟩
    obtain ⟨isOk, rfl⟩ := ends_pure_iff.mp second
    rw [Outcome.mapError_eq_ok_iff.mp isOk.symm] at first
    exact first
  · exact fun first =>
      ⟨.ok result, last, first, ends_pure_iff.mpr ⟨rfl, rfl⟩⟩

/-- A procedure whose faults get another wording succeeds if it does. -/
theorem ends_adapt_iff
    {procedure : Procedure ε α}
    {wording : ε → δ}
    {result : α} :
    Ends step (procedure.adapt wording).run state (.ok result) last ↔
      Ends step procedure.run state (.ok result) last :=
  ends_mapError_iff

/-- A plan whose failure becomes a fault succeeds if the plan does. -/
theorem ends_attempt_iff
    {plan : Plan (Except DiskFault α)}
    {wording : DiskFault → ε}
    {result : α} :
    Ends step (Procedure.attempt plan wording).run state (.ok result)
        last ↔
      Ends step plan state (.ok result) last :=
  ends_mapError_iff

/-- A plan that is forgiven what is missing succeeded, or told that something is missing. -/
theorem Ends.of_forgiveMissing
    {plan : Plan (Except DiskFault Unit)}
    (ends :
      Ends step (Files.forgiveMissing plan) state (.ok ()) last) :
    ∃ reply,
      Ends step plan state reply last ∧
        ∀ fault, reply = .error fault → fault.isMissing = true := by
  obtain ⟨reply, middle, first, second⟩ := ends_bind_iff.mp ends
  cases reply with
  | ok =>
      obtain ⟨-, rfl⟩ := ends_pure_iff.mp second
      exact ⟨.ok (), first, by simp⟩
  | error fault =>
      dsimp only at second
      split at second
      · rename_i isMissing
        obtain ⟨-, rfl⟩ := ends_pure_iff.mp second
        refine ⟨.error fault, first, ?_⟩
        rintro _ ⟨⟩
        exact isMissing
      · obtain ⟨isError, -⟩ := ends_pure_iff.mp second
        simp at isError

/-- What a plan ensures at its end holds of a run to that end. -/
theorem Ensures.ends
    {always : State → Prop}
    {atEnd : α → State → Prop}
    {plan : Plan α}
    (ensures : Ensures step always atEnd plan state) :
    Ensures step always
      (fun value last => atEnd value last ∧ Ends step plan state value last)
      plan state := by
  induction plan generalizing state with
  | done value => exact ⟨ensures, .done value state⟩
  | act action next inductionHypothesis =>
      intro reply after answered
      obtain ⟨holds, later⟩ := ensures reply after answered
      refine ⟨holds, (inductionHypothesis reply later).mono (fun _ => id) ?_⟩
      rintro value last ⟨isEnd, ends⟩
      exact ⟨isEnd, .act answered ends⟩

/-- What every step of a plan preserves, a run of it preserves. -/
theorem Ends.preserves
    {allowed : Action → Bool}
    {plan : Plan α}
    {value : α}
    (holds : State → Prop)
    (asksOnly : AsksOnly allowed plan)
    (preserves :
      ∀ action state reply after,
        allowed action = true →
        step action state reply after →
        holds state →
        holds after)
    (ends : Ends step plan state value last)
    (isHeld : holds state) :
    holds last := by
  induction asksOnly generalizing state with
  | done value =>
      obtain ⟨-, rfl⟩ := ends_pure_iff.mp ends
      exact isHeld
  | act isAllowed _ inductionHypothesis =>
      cases ends with
      | act answered later =>
          exact inductionHypothesis _ later
            (preserves _ _ _ _ isAllowed answered isHeld)

/-- What no step of a plan changes, a run of it does not change. -/
theorem Ends.keeps
    {allowed : Action → Bool}
    {plan : Plan α}
    {value : α}
    (view : State → β)
    (asksOnly : AsksOnly allowed plan)
    (keeps :
      ∀ action state reply after,
        allowed action = true →
        step action state reply after →
        view after = view state)
    (ends : Ends step plan state value last) :
    view last = view state :=
  ends.preserves (fun middle => view middle = view state) asksOnly
    (fun action middle reply after isAllowed answered isKept =>
      (keeps action middle reply after isAllowed answered).trans isKept)
    rfl

/-- Every plan asks only for actions. -/
theorem AsksOnly.always (plan : Plan α) :
    AsksOnly (fun _ => true) plan := by
  induction plan with
  | done value => exact .done value
  | act action next inductionHypothesis =>
      exact .act rfl inductionHypothesis

/-- What has been asked for stays asked for. -/
theorem keeps_hasAsked
    (action : Action)
    (plan : Plan α) :
    Keeps (tracing step) (fun trace => trace.HasAsked action) plan := by
  refine (AsksOnly.always plan).keeps ?_
  rintro _ trace reply later - ⟨-, isPast⟩ ⟨asked, member, isSame⟩
  refine ⟨asked, ?_, isSame⟩
  rw [isPast]
  exact List.mem_append_left _ member

/-- What a plan starts with has been asked for when it ends. -/
theorem ensures_hasAsked
    (action : Action)
    (next : action.Reply → Plan α)
    (trace : Trace State) :
    Ensures (tracing step) (fun later => later.HasAsked action)
      (fun _ later => later.HasAsked action) (.act action next) trace := by
  rintro reply later ⟨-, isPast⟩
  have isAsked : later.HasAsked action := by
    refine ⟨⟨action, reply, later.state⟩, ?_, rfl⟩
    rw [isPast]
    exact List.mem_append_right _ (List.mem_singleton_self _)
  exact ⟨isAsked, keeps_hasAsked action (next reply) later isAsked⟩

/-- A procedure that always fails never succeeds. -/
theorem not_ends_throw
    {fault : ε}
    {result : α} :
    ¬Ends step (throw fault : Procedure ε α).run state (.ok result)
        last := by
  intro ends
  obtain ⟨isOk, -⟩ := ends_pure_iff.mp ends
  simp at isOk

/-! ## Sessions -/

section

variable {σ : Type}
variable {host later : σ}

/-- Two sessions that follow each other succeed if both do. -/
theorem ends_bindSession_iff
    {session : Session σ ε α}
    {next : α → Session σ ε β}
    {result : β} :
    Ends step ((session >>= next).run.run host) state
        (.ok result, later) last ↔
      ∃ value between middle,
        Ends step (session.run.run host) state (.ok value, between)
            middle ∧
          Ends step ((next value).run.run between) middle
            (.ok result, later) last := by
  rw [ExceptT.run_bind, StateT.run_bind, ends_bind_iff]
  constructor
  · rintro ⟨⟨fault | value, between⟩, middle, first, second⟩
    · obtain ⟨isError, -⟩ := ends_pure_iff.mp second
      simp at isError
    · exact ⟨value, between, middle, first, second⟩
  · rintro ⟨value, between, middle, first, second⟩
    exact ⟨(.ok value, between), middle, first, second⟩

/-- A session that is done with a value keeps what it has. -/
theorem ends_pureSession_iff
    {value result : α} :
    Ends step ((pure value : Session σ ε α).run.run host) state
        (.ok result, later) last ↔
      value = result ∧ host = later ∧ state = last := by
  refine ends_pure_iff.trans ?_
  rw [Prod.mk.injEq, Except.ok.injEq, and_assoc]
  simp only [eq_comm]

/-- A session looks at what it has. -/
theorem ends_getSession_iff
    {result : σ} :
    Ends step ((get : Session σ ε σ).run.run host) state
        (.ok result, later) last ↔
      host = result ∧ host = later ∧ state = last :=
  ends_pureSession_iff

/-- A session gets something else to keep. -/
theorem ends_setSession_iff
    {value : σ}
    {result : PUnit} :
    Ends step ((set value : Session σ ε PUnit).run.run host) state
        (.ok result, later) last ↔
      value = later ∧ state = last := by
  refine ends_pure_iff.trans ?_
  simp [eq_comm]

/-- A procedure in a session succeeds by itself, and nothing is kept. -/
theorem ends_within_iff
    {procedure : Procedure ε α}
    {result : α} :
    Ends step
        ((Procedure.within procedure : Session σ ε α).run.run host) state
        (.ok result, later) last ↔
      Ends step procedure.run state (.ok result) last ∧ host = later := by
  rw [Procedure.within, ExceptT.run_mk, StateT.run_lift, ends_bind_iff]
  constructor
  · rintro ⟨outcome, middle, first, second⟩
    obtain ⟨isSame, rfl⟩ := ends_pure_iff.mp second
    obtain ⟨rfl, rfl⟩ := Prod.mk.inj isSame
    exact ⟨first, rfl⟩
  · rintro ⟨first, rfl⟩
    exact ⟨.ok result, last, first, ends_pure_iff.mpr ⟨rfl, rfl⟩⟩

end

/-! ## Commands -/

/-- A command succeeds if its child process starts, and the outcome of that is a success. -/
theorem ends_command_iff
    {command : Command}
    {output : String} :
    Ends step command.run.run state (.ok output) last ↔
      ∃ (environment : Environment) (middle : State) (result : ProcessOutput),
        step .environment state environment middle ∧
          step (.spawn (command.child environment.searchPath)) middle
              (.ok result) last ∧
            command.outcome result = .ok output := by
  constructor
  · intro ends
    obtain ⟨reply, _, starts, settles⟩ := ends_bind_iff.mp ends
    obtain ⟨environment, middle, looks, spawns⟩ := ends_bind_iff.mp starts
    cases reply with
    | error cause =>
        obtain ⟨isError, -⟩ := ends_pure_iff.mp settles
        simp at isError
    | ok result =>
        obtain ⟨isOutcome, rfl⟩ := ends_pure_iff.mp settles
        exact ⟨environment, middle, result, ends_ask_iff.mp looks,
          ends_ask_iff.mp spawns, isOutcome.symm⟩
  · rintro ⟨environment, middle, result, looks, spawns, isOutcome⟩
    have starts : Ends step command.start state (.ok result) last :=
      ends_bind_iff.mpr
        ⟨environment, middle, ends_ask_iff.mpr looks,
          ends_ask_iff.mpr spawns⟩
    exact ends_bind_iff.mpr
      ⟨.ok result, last, starts, ends_pure_iff.mpr ⟨isOutcome.symm, rfl⟩⟩

/-! ## Given surroundings -/

/-- The answers that surroundings give. -/
def answersOf (perform : Surroundings State) : Stepping State :=
  fun action state reply after => perform action state = (reply, after)

/-- With the answers of surroundings a plan ends as it does when it is run there. -/
theorem ends_answersOf_iff
    {perform : Surroundings State}
    {plan : Plan α}
    {value : α} :
    Ends (answersOf perform) plan state value last ↔
      plan.run perform state = (value, last) := by
  induction plan generalizing state with
  | done result =>
      rw [run, Prod.mk.injEq]
      exact ends_pure_iff.trans (and_congr eq_comm eq_comm)
  | act action next inductionHypothesis =>
      constructor
      · intro ends
        cases ends with
        | act answered later =>
            rw [run, answered]
            exact (inductionHypothesis _).mp later
      · intro runs
        exact .act rfl ((inductionHypothesis _).mpr runs)

/-- Whether every action of a run in given surroundings passes a check. -/
def passes
    (perform : Surroundings State)
    (check : Action → State → Bool) :
    Plan α → State → Bool
  | .done _, _ => true
  | .act action next, state =>
      check action state &&
        (next (perform action state).1).passes perform check
          (perform action state).2

/-- A run in given surroundings is one of those whose answers the check stands for. -/
theorem ends_of_passes
    {perform : Surroundings State}
    {check : Action → State → Bool}
    {step : Stepping β}
    {plan : Plan α}
    (view : State → β)
    (answers :
      ∀ action state,
        check action state = true →
        step action (view state) (perform action state).1
          (view (perform action state).2))
    (isPassed : plan.passes perform check state = true) :
    Ends step plan (view state) (plan.run perform state).1
      (view (plan.run perform state).2) := by
  induction plan generalizing state with
  | done value => exact .done value _
  | act action next inductionHypothesis =>
      rw [passes, Bool.and_eq_true] at isPassed
      exact .act (answers action state isPassed.1)
        (inductionHypothesis _ isPassed.2)

end Plan

end Provision
