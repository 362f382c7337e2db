import Provision.Proofs.Node.Quietness
import Provision.Proofs.Node.Session

namespace Provision.NodeContext

/-!
# Consent to installations

The sources of a session come from the names in its settings.  A source installs a runtime only where
the settings name the storage first or the user agrees to that attempt, and the user is asked only
where the runtime in the storage is missing.  The session is recorded by recording its resolver.
-/

open Plan Recorded NodeResolver

variable {σ State : Type}
variable (perform : Surroundings State)
variable (context : NodeContext σ)

/-! ## The entries of the settings -/

/-- What is noted when an entry of the settings is tried at a moment, which may be missing there. -/
inductive EntryVisit
    (package : String)
    (index : Nat)
    (name : String)
    (moment : σ × State) :
    List SourceCall → Prop where
  | probed :
      EntryVisit package index name moment [.probe index]
  | declined
      {seen : State}
      {after : σ × State}
      (isLocal : name = Settings.localName)
      (isMissing : context.store.runtime.Incomplete perform moment.2 seen)
      (notFirst : context.settings.sources.head? ≠ some Settings.localName)
      (declines :
        runFrom perform (context.confirm package) (moment.1, seen) =
          (false, after)) :
      EntryVisit package index name moment [.probe index, .ask]
  | preferred
      {seen : State}
      (isLocal : name = Settings.localName)
      (isMissing : context.store.runtime.Incomplete perform moment.2 seen)
      (isFirst : context.settings.sources.head? = some Settings.localName) :
      EntryVisit package index name moment [.probe index, .install index]
  | agreed
      {seen : State}
      {after : σ × State}
      (isLocal : name = Settings.localName)
      (isMissing : context.store.runtime.Incomplete perform moment.2 seen)
      (notFirst : context.settings.sources.head? ≠ some Settings.localName)
      (agrees :
        runFrom perform (context.confirm package) (moment.1, seen) =
          (true, after)) :
      EntryVisit package index name moment
        [.probe index, .ask, .install index]

/--
What is noted when entries of the settings are tried in order up to one of them, each from the moment
that the ones before it leave.  Unknown names are passed over.
-/
inductive EntryVisits
    (package : String)
    (requirement : Requirement) :
    List String → Nat → σ × State → List SourceCall → Prop where
  | ended
      (names : List String)
      (index : Nat)
      (moment : σ × State) :
      EntryVisits package requirement names index moment []
  | unknown
      {name : String}
      {names : List String}
      {index : Nat}
      {moment : σ × State}
      {calls : List SourceCall}
      (isUnknown : context.source? name = none)
      (later : EntryVisits package requirement names index moment calls) :
      EntryVisits package requirement (name :: names) index moment calls
  | known
      {name : String}
      {source : NodeSource σ}
      {names : List String}
      {index : Nat}
      {moment : σ × State}
      {visit calls : List SourceCall}
      (isKnown : context.source? name = some source)
      (entryVisit :
        EntryVisit perform context package index name moment visit)
      (later :
        EntryVisits package requirement names (index + 1)
          (runFrom perform
            ((context.resolver package).trySource requirement source)
            moment).2
          calls) :
      EntryVisits package requirement (name :: names) index moment
        (visit ++ calls)

section

variable {perform context}

/-- Only the storage can lack its runtime and install one. -/
theorem isMissing_of_lacks
    {name : String}
    {source : NodeSource σ}
    (isKnown : context.source? name = some source)
    {moment able : σ × State}
    (lacks : Lacks perform source moment able) :
    name = Settings.localName ∧
      ∃ seen,
        able = (moment.1, seen) ∧
          context.store.runtime.Incomplete perform moment.2 seen := by
  obtain ⟨probes, incomplete, canInstall⟩ := lacks
  rw [source?] at isKnown
  split at isKnown
  · obtain rfl := Option.some.inj isKnown
    change runFrom perform (pure false) _ = _ at canInstall
    rw [runFrom_pure] at canInstall
    simp at canInstall
  · split at isKnown
    · rename_i isLocal
      obtain rfl := Option.some.inj isKnown
      change runFrom perform (pure context.store.runtime) _ = _ at probes
      change runFrom perform (pure true) _ = _ at canInstall
      rw [runFrom_pure, Prod.mk.injEq] at probes canInstall
      obtain ⟨rfl, rfl⟩ := probes
      exact ⟨isLocal, _, canInstall.2.symm, incomplete⟩
    · simp at isKnown

/-- What a source of the settings gets is a visit of its entry. -/
theorem entryVisit_of_course
    {package name : String}
    {requirement : Requirement}
    {source : NodeSource σ}
    (isKnown : context.source? name = some source)
    {index : Nat}
    {moment after : σ × State}
    {calls : List SourceCall}
    (course :
      (context.resolver package).Course perform requirement source index
        moment calls after) :
    EntryVisit perform context package index name moment calls := by
  cases course with
  | present | absent =>
      exact .probed
  | declined lacks asks declines =>
      obtain ⟨isLocal, seen, rfl, isMissing⟩ :=
        isMissing_of_lacks isKnown lacks
      exact .declined isLocal isMissing (of_decide_eq_false asks) declines
  | preferred lacks unasked =>
      obtain ⟨isLocal, seen, rfl, isMissing⟩ :=
        isMissing_of_lacks isKnown lacks
      exact .preferred isLocal isMissing (of_decide_eq_true unasked)
  | agreed lacks asks agrees =>
      obtain ⟨isLocal, seen, rfl, isMissing⟩ :=
        isMissing_of_lacks isKnown lacks
      exact .agreed isLocal isMissing (of_decide_eq_false asks) agrees

/-- A visit asks at most once, and only for the storage where that does not come first. -/
theorem EntryVisit.count_ask_le
    {package name : String}
    {index : Nat}
    {moment : σ × State}
    {calls : List SourceCall}
    (visit : EntryVisit perform context package index name moment calls) :
    calls.count .ask ≤ [name].count Settings.localName := by
  cases visit with
  | probed => simp
  | declined isLocal | preferred isLocal | agreed isLocal =>
      simp [isLocal]

/-- The user is asked at most once for each entry that names the storage. -/
theorem EntryVisits.count_ask_le
    {package : String}
    {requirement : Requirement}
    {names : List String}
    {index : Nat}
    {moment : σ × State}
    {calls : List SourceCall}
    (visits :
      EntryVisits perform context package requirement names index moment
        calls) :
    calls.count .ask ≤ names.count Settings.localName := by
  induction visits with
  | ended =>
      exact Nat.zero_le _
  | unknown _ _ inductionHypothesis =>
      exact Nat.le_trans inductionHypothesis List.count_le_count_cons
  | @known name source names index moment visit calls _ entryVisit _
      inductionHypothesis =>
      rw [List.count_append, ← List.singleton_append, List.count_append]
      exact Nat.add_le_add entryVisit.count_ask_le inductionHypothesis

/-- The user is not asked where the storage comes first. -/
theorem EntryVisits.ask_not_mem
    {package : String}
    {requirement : Requirement}
    {names : List String}
    {index : Nat}
    {moment : σ × State}
    {calls : List SourceCall}
    (visits :
      EntryVisits perform context package requirement names index moment
        calls)
    (isFirst :
      context.settings.sources.head? = some Settings.localName) :
    .ask ∉ calls := by
  induction visits with
  | ended =>
      simp
  | unknown _ _ inductionHypothesis =>
      exact inductionHypothesis
  | known _ entryVisit _ inductionHypothesis =>
      rw [List.mem_append, not_or]
      refine ⟨?_, inductionHypothesis⟩
      cases entryVisit with
      | probed | preferred => simp
      | declined _ _ notFirst | agreed _ _ notFirst =>
          exact absurd isFirst notFirst

end

/-- Trying the sources of some names notes visits of these entries, and is quiet without installing. -/
theorem entryVisits_trySources
    (package : String)
    (requirement : Requirement)
    (names : List String)
    (index : Nat)
    (moment : σ × State) :
    ∃ calls,
      EntryVisits perform context package requirement names index moment
          calls ∧
        Notes perform
            ((context.resolver package).recorded.trySources requirement
              (NodeSource.recordedFrom index
                (names.filterMap context.source?)))
            ((context.resolver package).trySources requirement
              (names.filterMap context.source?))
            moment calls ∧
          ((∀ place, .install place ∉ calls) →
            Quietly perform (context.confirm package) moment
              (runFrom perform
                ((context.resolver package).trySources requirement
                  (names.filterMap context.source?))
                moment).2) := by
  induction names generalizing index moment with
  | nil =>
      exact ⟨[], .ended _ _ _, Notes.pure _ moment, fun _ => .refl moment⟩
  | cons name names inductionHypothesis =>
      cases isKnown : context.source? name with
      | none =>
          rw [List.filterMap_cons_none isKnown]
          obtain ⟨calls, visits, notes, quiet⟩ :=
            inductionHypothesis index moment
          exact ⟨calls, .unknown isKnown visits, notes, quiet⟩
      | some source =>
          rw [List.filterMap_cons_some isKnown]
          obtain ⟨visit, course, notes⟩ :=
            (context.resolver package).course_trySource perform requirement
              source index moment
          have entryVisit := entryVisit_of_course isKnown course
          rcases tried :
              runFrom perform
                ((context.resolver package).trySource requirement source)
                moment with
            ⟨outcome, middle⟩
          rw [tried] at course
          have isQuiet :
              IsQuietSource perform (context.confirm package) source :=
            isQuietSource isKnown
          cases outcome with
          | ok runtime =>
              refine ⟨visit ++ [], .known isKnown entryVisit (.ended _ _ _),
                notes_trySources_of_ok tried notes _, ?_⟩
              intro noInstall
              rw [runFrom_trySources_of_ok tried]
              exact course.quietly isQuiet
                (List.append_nil visit ▸ noInstall index)
          | error setbacks =>
              obtain ⟨calls, visits, laterNotes, laterQuiet⟩ :=
                inductionHypothesis (index + 1) middle
              refine ⟨visit ++ calls,
                .known isKnown entryVisit (by rw [tried]; exact visits),
                notes_trySources_of_error tried notes laterNotes, ?_⟩
              intro noInstall
              simp only [List.mem_append, not_or] at noInstall
              rw [runFrom_trySources_of_error tried rfl]
              exact (course.quietly isQuiet (noInstall index).1).trans
                (laterQuiet fun place => (noInstall place).2)

/-! ## Recorded sessions -/

/-- The answer to a request from a cell, with a given resolver. -/
def answerBy
    (resolver : NodeResolver σ)
    (requirement : Requirement) :
    NodeCell → StateT σ Plan (Except RuntimeFault NodeRuntime × NodeCell)
  | .unresolved => do
      match ← (resolver.resolve requirement).run with
      | .ok runtime => recheck runtime requirement
      | .error fault => return (.error fault, .failed fault.message)
  | .resolved runtime => recheck runtime requirement
  | .failed message =>
      return (.error (.unresolvedBefore message), .failed message)

/-- A session answers with its own resolver. -/
theorem answer_eq_answerBy
    (package : String)
    (requirement : Requirement)
    (cell : NodeCell) :
    context.answer package requirement cell =
      answerBy (context.resolver package) requirement cell := by
  cases cell with
  | unresolved =>
      simp only [answer, answerBy, resolveFirst, bind_assoc]
      refine bind_congr fun outcome => ?_
      cases outcome <;> rfl
  | resolved runtime =>
      rfl
  | failed message =>
      rfl

/-- An answer to a request with the calls that its resolver has noted. -/
structure NotedAnswer (σ State : Type) where
  request : Request σ State
  outcome : Except RuntimeFault NodeRuntime
  calls : List SourceCall
  before : σ × State
  after : σ × State

/-- The answers to requests by recorded resolvers. -/
def notedAnswers :
    NodeCell → σ × State → List (Request σ State) →
      List (NotedAnswer σ State)
  | _, _, [] => []
  | cell, moment, request :: later =>
      let before := request.meanwhile moment
      let ((outcome, cell), ((calls, host), state)) :=
        runFrom perform
          (answerBy (context.resolver request.package).recorded
            request.requirement cell)
          (([], before.1), before.2)
      { request, outcome, calls, before, after := (host, state) } ::
        notedAnswers cell (host, state) later

/-- An answer as it is given, without what it took. -/
def Answer.given (answer : Answer σ State) :
    Except RuntimeFault NodeRuntime × (σ × State) × (σ × State) :=
  (answer.outcome, answer.before, answer.after)

/-- A noted answer as it is given, without the notes. -/
def NotedAnswer.given (answer : NotedAnswer σ State) :
    Except RuntimeFault NodeRuntime × (σ × State) × (σ × State) :=
  (answer.outcome, answer.before, answer.after)

section

variable {perform context}

/-- The check of a runtime that a session has, from the run of the check of its version. -/
theorem runFrom_recheck
    {runtime kept : NodeRuntime}
    {requirement : Requirement}
    {outcome : Except RuntimeFault Unit}
    {state after : State}
    (checked :
      ((NodeRuntime.checkVersion requirement).run.run runtime).run
          perform state =
        ((outcome, kept), after))
    (host : σ) :
    runFrom perform (recheck runtime requirement) (host, state) =
      ((outcome.map fun _ => kept, .resolved kept), (host, after)) := by
  rw [recheck,
    runFrom_bind_of_runFrom perform
      (runFrom_lift_of_run perform checked host)]
  cases outcome <;> rfl

end

/-- A cell that has been resolved answers without its resolver, quietly, and stays resolved. -/
theorem answerBy_of_isResolved
    (resolver : NodeResolver σ)
    (requirement : Requirement)
    (prompt : StateT σ Plan Bool)
    {cell : NodeCell}
    (isResolved : cell.isResolved = true)
    (moment : σ × State) :
    Notes perform (answerBy resolver.recorded requirement cell)
        (answerBy resolver requirement cell) moment [] ∧
      Quietly perform prompt moment
          (runFrom perform (answerBy resolver requirement cell) moment).2 ∧
        (runFrom perform (answerBy resolver requirement cell)
          moment).1.2.isResolved = true := by
  cases cell with
  | unresolved =>
      simp [NodeCell.isResolved] at isResolved
  | failed message =>
      exact ⟨Notes.pure _ moment, .refl moment, rfl⟩
  | resolved runtime =>
      obtain ⟨host, state⟩ := moment
      rcases checked :
          ((NodeRuntime.checkVersion requirement).run.run runtime).run
            perform state with
        ⟨⟨outcome, kept⟩, after⟩
      simp only [answerBy, runFrom_recheck checked]
      refine ⟨fun earlier => ?_, ?_, rfl⟩
      · simp only [runFrom_recheck checked, List.append_nil]
      · exact .ofAsksOnly (runtime.checkVersion_asksOnly requirement)
          checked

/-- The first answer notes visits of the entries of the settings, and is quiet without installing. -/
theorem answerBy_of_unresolved
    (package : String)
    (requirement : Requirement)
    (moment : σ × State) :
    ∃ calls,
      EntryVisits perform context package requirement
          context.settings.sources 0 moment calls ∧
        Notes perform
            (answerBy (context.resolver package).recorded requirement
              .unresolved)
            (answerBy (context.resolver package) requirement .unresolved)
            moment calls ∧
          ((∀ place, .install place ∉ calls) →
            Quietly perform (context.confirm package) moment
              (runFrom perform
                (answerBy (context.resolver package) requirement
                  .unresolved)
                moment).2) ∧
            (runFrom perform
              (answerBy (context.resolver package) requirement
                .unresolved)
              moment).1.2.isResolved = true := by
  obtain ⟨calls, visits, notes, quiet⟩ :=
    context.entryVisits_trySources perform package requirement
      context.settings.sources 0 moment
  rcases tried :
      runFrom perform
        ((context.resolver package).trySources requirement
          (context.resolver package).sources)
        moment with
    ⟨outcome, middle⟩
  have triedQuietly :
      (∀ place, .install place ∉ calls) →
        Quietly perform (context.confirm package) moment middle := by
    intro noInstall
    have quietly := quiet noInstall
    rw [show
      runFrom perform
          ((context.resolver package).trySources requirement
            (context.settings.sources.filterMap context.source?))
          moment =
        (outcome, middle) from tried] at quietly
    exact quietly
  have resolved :=
    (context.resolver package).runFrom_resolve_of_trySources tried
  have resolves := notes_resolve notes
  cases outcome with
  | ok runtime =>
      -- The runtime is checked once more, as in a session that has it already.
      obtain ⟨checkNotes, checkedQuietly, isResolved⟩ :=
        answerBy_of_isResolved perform (context.resolver package)
          requirement (context.confirm package)
          (show (NodeCell.resolved runtime).isResolved = true from rfl)
          middle
      have run :
          runFrom perform
              (answerBy (context.resolver package) requirement .unresolved)
              moment =
            runFrom perform
              (answerBy (context.resolver package) requirement
                (.resolved runtime))
              middle :=
        runFrom_bind_of_runFrom perform resolved
      refine ⟨calls, visits, ?_, ?_, ?_⟩
      · rw [← List.append_nil calls]
        exact Notes.bind resolved resolves checkNotes
      · intro noInstall
        rw [run]
        exact (triedQuietly noInstall).trans checkedQuietly
      · rw [run]
        exact isResolved
  | error lines =>
      have run :
          (runFrom perform
              (answerBy (context.resolver package) requirement .unresolved)
              moment) =
            runFrom perform (pure (_, _)) middle :=
        runFrom_bind_of_runFrom perform resolved
      rw [run]
      refine ⟨calls, visits, ?_, triedQuietly, rfl⟩
      rw [← List.append_nil calls]
      exact Notes.bind resolved resolves (Notes.pure _ middle)

section

variable {perform context}

/-- The answers of a session start with that of its resolver to the first request. -/
theorem answers_cons
    {cell kept : NodeCell}
    {request : Request σ State}
    {moment after : σ × State}
    {outcome : Except RuntimeFault NodeRuntime}
    (run :
      runFrom perform
          (answerBy (context.resolver request.package) request.requirement
            cell)
          (request.meanwhile moment) =
        ((outcome, kept), after))
    (later : List (Request σ State)) :
    ∃ answer,
      answer.given = (outcome, request.meanwhile moment, after) ∧
        context.answers perform cell moment (request :: later) =
          answer :: context.answers perform kept after later := by
  rw [← answer_eq_answerBy] at run
  rcases ran :
      ((context.answer request.package request.requirement cell).run
        (request.meanwhile moment).1).run perform
        (request.meanwhile moment).2 with
    ⟨⟨⟨found, left⟩, host⟩, state⟩
  rw [runFrom, ran, Prod.mk.injEq, Prod.mk.injEq] at run
  obtain ⟨⟨rfl, rfl⟩, rfl⟩ := run
  rw [answers, nodeRuntime_run, run_bind_of_run perform ran]
  exact ⟨_, rfl, rfl⟩

/-- The noted answers of a session start with that of its recorded resolver. -/
theorem notedAnswers_cons
    {cell kept : NodeCell}
    {request : Request σ State}
    {moment after : σ × State}
    {outcome : Except RuntimeFault NodeRuntime}
    {calls : List SourceCall}
    (run :
      runFrom perform
          (answerBy (context.resolver request.package) request.requirement
            cell)
          (request.meanwhile moment) =
        ((outcome, kept), after))
    (notes :
      Notes perform
        (answerBy (context.resolver request.package).recorded
          request.requirement cell)
        (answerBy (context.resolver request.package) request.requirement
          cell)
        (request.meanwhile moment) calls)
    (later : List (Request σ State)) :
    context.notedAnswers perform cell moment (request :: later) =
      ⟨request, outcome, calls, request.meanwhile moment, after⟩ ::
        context.notedAnswers perform kept after later := by
  have recordedRun := notes []
  rw [run, List.nil_append] at recordedRun
  rw [notedAnswers, recordedRun]

end

/-- All that happens for an answer is looking, asking the user and starting child processes. -/
def NotedAnswer.IsQuiet
    (perform : Surroundings State)
    (context : NodeContext σ)
    (answer : NotedAnswer σ State) : Prop :=
  Quietly perform (context.confirm answer.request.package) answer.before
    answer.after

/-- A session that has been resolved calls no source and answers quietly. -/
theorem notedAnswers_of_isResolved
    {cell : NodeCell}
    (isResolved : cell.isResolved = true)
    (moment : σ × State)
    (requests : List (Request σ State)) :
    (context.notedAnswers perform cell moment requests).map
          NotedAnswer.given =
        (context.answers perform cell moment requests).map Answer.given ∧
      ∀ answer ∈ context.notedAnswers perform cell moment requests,
        answer.calls = [] ∧ answer.IsQuiet perform context := by
  induction requests generalizing cell moment with
  | nil =>
      exact ⟨rfl, by simp [notedAnswers]⟩
  | cons request later inductionHypothesis =>
      obtain ⟨notes, quietly, staysResolved⟩ :=
        answerBy_of_isResolved perform
          (context.resolver request.package) request.requirement
          (context.confirm request.package) isResolved
          (request.meanwhile moment)
      rcases run :
          runFrom perform
            (answerBy (context.resolver request.package)
              request.requirement cell)
            (request.meanwhile moment) with
        ⟨⟨outcome, kept⟩, after⟩
      rw [run] at quietly staysResolved
      obtain ⟨answer, given, answers⟩ := answers_cons run later
      obtain ⟨laterGiven, laterQuiet⟩ :=
        inductionHypothesis staysResolved after
      rw [notedAnswers_cons run notes, answers]
      refine ⟨?_, List.forall_mem_cons.mpr ⟨⟨rfl, quietly⟩, laterQuiet⟩⟩
      rw [List.map_cons, List.map_cons, given, laterGiven]
      rfl

/--
A session does with its sources what is noted when its resolver is recorded.  The first request tries
entries of the settings in order.  A source installs only where the runtime in the storage is missing
and either the settings name the storage first or the user has just agreed; the user is asked only
where that runtime is missing, at most once for each entry that names the storage, and not at all
where the first entry does.  Later requests call no source.  An answer before which nothing is
installed is given by looking, by asking the user and by starting child processes.
-/
theorem installs_need_consent
    (request : Request σ State)
    (later : List (Request σ State))
    (moment : σ × State) :
    ∃ first rest,
      context.notedAnswers perform .unresolved moment (request :: later) =
          first :: rest ∧
        (first :: rest).map NotedAnswer.given =
            (context.answers perform .unresolved moment
              (request :: later)).map Answer.given ∧
          EntryVisits perform context request.package request.requirement
              context.settings.sources 0 first.before first.calls ∧
            (∀ answer ∈ rest, answer.calls = []) ∧
              ((first :: rest).flatMap NotedAnswer.calls).count .ask ≤
                  context.settings.sources.count Settings.localName ∧
                (context.settings.sources.head? =
                      some Settings.localName →
                    .ask ∉ (first :: rest).flatMap NotedAnswer.calls) ∧
                  ∀ answer ∈ first :: rest,
                    (∀ place, .install place ∉ answer.calls) →
                      answer.IsQuiet perform context := by
  obtain ⟨calls, visits, notes, quiet, isResolved⟩ :=
    answerBy_of_unresolved perform context
      request.package request.requirement (request.meanwhile moment)
  rcases run :
      runFrom perform
        (answerBy (context.resolver request.package) request.requirement
          .unresolved)
        (request.meanwhile moment) with
    ⟨⟨outcome, kept⟩, after⟩
  rw [run] at quiet isResolved
  obtain ⟨answer, given, answers⟩ := answers_cons run later
  obtain ⟨laterGiven, laterIdle⟩ :=
    notedAnswers_of_isResolved perform context
      isResolved after later
  have noLaterCalls :
      (context.notedAnswers perform kept after later).flatMap
          NotedAnswer.calls = [] :=
    List.flatMap_eq_nil_iff.mpr fun answer isLater =>
      (laterIdle answer isLater).1
  refine ⟨_, _, notedAnswers_cons run notes later, ?_, visits,
    fun answer isLater => (laterIdle answer isLater).1, ?_, ?_, ?_⟩
  · rw [answers, List.map_cons, List.map_cons, given, laterGiven]
    rfl
  · rw [List.flatMap_cons, noLaterCalls, List.append_nil]
    exact visits.count_ask_le
  · intro isFirst
    rw [List.flatMap_cons, noLaterCalls, List.append_nil]
    exact visits.ask_not_mem isFirst
  · rw [List.forall_mem_cons]
    exact ⟨quiet, fun answer isLater _ => (laterIdle answer isLater).2⟩

end Provision.NodeContext
