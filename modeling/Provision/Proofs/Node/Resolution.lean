import Provision.Proofs.Node.Trying
import Provision.Proofs.Node.Visiting

namespace Provision.NodeResolver

/-!
# The first usable source

A resolver tries its sources in order, each from the moment that the ones before it have left.  It
takes what the first usable source yields and leaves the later ones alone; where no source is usable
it has tried all of them and fails.
-/

open Plan Recorded

variable {σ State : Type}
variable (perform : Surroundings State)
variable (resolver : NodeResolver σ)
variable (requirement : Requirement)

/-- The moment that is reached when sources have been tried one after the other. -/
def momentAfter : List (NodeSource σ) → σ × State → σ × State
  | [], moment => moment
  | source :: others, moment =>
      momentAfter others
        (runFrom perform (resolver.trySource requirement source) moment).2

/-- A source of a list is usable from the moment that the sources before it leave. -/
def IsUsableAt
    (sources : List (NodeSource σ))
    (moment : σ × State)
    (index : Nat) : Prop :=
  ∃ source,
    sources[index]? = some source ∧
      resolver.IsUsable perform requirement source
        (resolver.momentAfter perform requirement (sources.take index) moment)

/-- The first usable source of a list, and the runtime that it yields. -/
structure FirstYields
    (sources : List (NodeSource σ))
    (moment : σ × State)
    (index : Nat)
    (runtime : NodeRuntime)
    (after : σ × State) : Prop where
  yields :
    ∃ source,
      sources[index]? = some source ∧
        resolver.Yields perform requirement source
          (resolver.momentAfter perform requirement (sources.take index)
            moment)
          runtime after
  noneBefore :
    ∀ earlier,
      earlier < index →
      ¬resolver.IsUsableAt perform requirement sources moment earlier

section

variable {perform resolver requirement}

/-- A source that fails is not usable. -/
theorem not_isUsable_of_error
    {source : NodeSource σ}
    {moment after : σ × State}
    {setbacks : List Setback}
    (fails :
      runFrom perform (resolver.trySource requirement source) moment =
        (.error setbacks, after)) :
    ¬resolver.IsUsable perform requirement source moment := by
  rintro ⟨runtime, later, yields⟩
  rw [← runFrom_trySource_eq_ok_iff, fails] at yields
  simp at yields

/-- The first source of a list is tried at once. -/
theorem isUsableAt_cons_zero_iff
    {source : NodeSource σ}
    {others : List (NodeSource σ)}
    {moment : σ × State} :
    resolver.IsUsableAt perform requirement (source :: others) moment 0 ↔
      resolver.IsUsable perform requirement source moment := by
  simp [IsUsableAt, momentAfter]

/-- The later sources of a list are tried after the first one. -/
theorem isUsableAt_cons_succ_iff
    {source : NodeSource σ}
    {others : List (NodeSource σ)}
    {moment : σ × State}
    {index : Nat} :
    resolver.IsUsableAt perform requirement (source :: others) moment
        (index + 1) ↔
      resolver.IsUsableAt perform requirement others
        (runFrom perform (resolver.trySource requirement source) moment).2
        index := by
  simp [IsUsableAt, momentAfter]

/-- A first source that yields a runtime is the first one that does. -/
theorem FirstYields.head
    {source : NodeSource σ}
    {others : List (NodeSource σ)}
    {moment after : σ × State}
    {runtime : NodeRuntime}
    (yields :
      resolver.Yields perform requirement source moment runtime after) :
    resolver.FirstYields perform requirement (source :: others) moment 0
      runtime after where
  yields := ⟨source, rfl, yields⟩
  noneBefore := fun earlier before => absurd before (Nat.not_lt_zero earlier)

/-- Behind a source that fails, the first usable one is that of the others. -/
theorem FirstYields.tail
    {source : NodeSource σ}
    {others : List (NodeSource σ)}
    {moment middle after : σ × State}
    {setbacks : List Setback}
    {index : Nat}
    {runtime : NodeRuntime}
    (fails :
      runFrom perform (resolver.trySource requirement source) moment =
        (.error setbacks, middle))
    (firstYields :
      resolver.FirstYields perform requirement others middle index runtime
        after) :
    resolver.FirstYields perform requirement (source :: others) moment
      (index + 1) runtime after where
  yields := by
    obtain ⟨found, isThere, yields⟩ := firstYields.yields
    refine ⟨found, isThere, ?_⟩
    rw [List.take_succ_cons, momentAfter, fails]
    exact yields
  noneBefore := by
    intro earlier before
    cases earlier with
    | zero =>
        rw [isUsableAt_cons_zero_iff]
        exact not_isUsable_of_error fails
    | succ earlier =>
        rw [isUsableAt_cons_succ_iff, fails]
        exact firstYields.noneBefore earlier (Nat.lt_of_succ_lt_succ before)

end

/-- Some calls are noted when sources are tried that are recorded, a number of them once each. -/
def NotesVisits
    (sources : List (NodeSource σ))
    (first : Nat)
    (moment : σ × State)
    (count : Nat) : Prop :=
  ∃ calls,
    AreVisits resolver.prefersLocal first count calls ∧
      Notes perform
        (resolver.recorded.trySources requirement
          (NodeSource.recordedFrom first sources))
        (resolver.trySources requirement sources) moment calls

section

variable {perform resolver requirement}

/-- Behind a first source that succeeds nothing more is noted. -/
theorem notes_trySources_of_ok
    {source : NodeSource σ}
    {first : Nat}
    {moment after : σ × State}
    {runtime : NodeRuntime}
    {visit : List SourceCall}
    (tried :
      runFrom perform (resolver.trySource requirement source) moment =
        (.ok runtime, after))
    (notes :
      Notes perform
        (resolver.recorded.trySource requirement (source.recorded first))
        (resolver.trySource requirement source) moment visit)
    (others : List (NodeSource σ)) :
    Notes perform
      (resolver.recorded.trySources requirement
        (NodeSource.recordedFrom first (source :: others)))
      (resolver.trySources requirement (source :: others)) moment
      (visit ++ []) :=
  Notes.bind tried notes (Notes.pure _ after)

/-- Behind a first source that fails it is noted what happens to the others. -/
theorem notes_trySources_of_error
    {source : NodeSource σ}
    {others : List (NodeSource σ)}
    {first : Nat}
    {moment middle : σ × State}
    {setbacks : List Setback}
    {visit calls : List SourceCall}
    (tried :
      runFrom perform (resolver.trySource requirement source) moment =
        (.error setbacks, middle))
    (notes :
      Notes perform
        (resolver.recorded.trySource requirement (source.recorded first))
        (resolver.trySource requirement source) moment visit)
    (laterNotes :
      Notes perform
        (resolver.recorded.trySources requirement
          (NodeSource.recordedFrom (first + 1) others))
        (resolver.trySources requirement others) middle calls) :
    Notes perform
      (resolver.recorded.trySources requirement
        (NodeSource.recordedFrom first (source :: others)))
      (resolver.trySources requirement (source :: others)) moment
      (visit ++ calls) := by
  rcases run :
      runFrom perform (resolver.trySources requirement others) middle with
    ⟨outcome, after⟩
  rw [← List.append_nil calls]
  refine Notes.bind tried notes (Notes.bind run laterNotes ?_)
  cases outcome with
  | ok runtime =>
      exact Notes.pure _ after
  | error lines =>
      exact Notes.pure _ after

/-- A first source that succeeds is the only one that is visited. -/
theorem notesVisits_of_ok
    {source : NodeSource σ}
    {moment after : σ × State}
    {runtime : NodeRuntime}
    (tried :
      runFrom perform (resolver.trySource requirement source) moment =
        (.ok runtime, after))
    (others : List (NodeSource σ))
    (first : Nat) :
    resolver.NotesVisits perform requirement (source :: others) first moment
      1 := by
  obtain ⟨visit, isVisit, notes⟩ :=
    resolver.notes_trySource perform requirement source first moment
  exact ⟨visit ++ [], .more isVisit (.none _),
    notes_trySources_of_ok tried notes others⟩

/-- Behind a first source that fails, the others are visited from where it leaves off. -/
theorem notesVisits_of_error
    {source : NodeSource σ}
    {others : List (NodeSource σ)}
    {first count : Nat}
    {moment middle : σ × State}
    {setbacks : List Setback}
    (tried :
      runFrom perform (resolver.trySource requirement source) moment =
        (.error setbacks, middle))
    (notesVisits :
      resolver.NotesVisits perform requirement others (first + 1) middle
        count) :
    resolver.NotesVisits perform requirement (source :: others) first moment
      (count + 1) := by
  obtain ⟨visit, isVisit, notes⟩ :=
    resolver.notes_trySource perform requirement source first moment
  obtain ⟨calls, areVisits, laterNotes⟩ := notesVisits
  exact ⟨visit ++ calls, .more isVisit areVisits,
    notes_trySources_of_error tried notes laterNotes⟩

/-- A first source that succeeds ends the run. -/
theorem runFrom_trySources_of_ok
    {source : NodeSource σ}
    {moment after : σ × State}
    {runtime : NodeRuntime}
    (tried :
      runFrom perform (resolver.trySource requirement source) moment =
        (.ok runtime, after))
    (others : List (NodeSource σ)) :
    runFrom perform (resolver.trySources requirement (source :: others))
        moment =
      (.ok runtime, after) :=
  runFrom_bind_of_runFrom perform tried

/-- Behind a first source that fails, the run ends as that of the others does. -/
theorem runFrom_trySources_of_error
    {source : NodeSource σ}
    {others : List (NodeSource σ)}
    {moment middle after : σ × State}
    {setbacks : List Setback}
    {outcome : Except (List String) NodeRuntime}
    (tried :
      runFrom perform (resolver.trySource requirement source) moment =
        (.error setbacks, middle))
    (run :
      runFrom perform (resolver.trySources requirement others) middle =
        (outcome, after)) :
    runFrom perform (resolver.trySources requirement (source :: others))
        moment =
      (outcome.mapError (resolver.sourceLines source setbacks ++ ·),
        after) := by
  refine (runFrom_bind_of_runFrom perform tried).trans ?_
  refine (runFrom_bind_of_runFrom perform run).trans ?_
  cases outcome <;> rfl

end

/-- Sources are tried up to the first usable one, each visited once. -/
theorem trySources_upToFirst
    (sources : List (NodeSource σ))
    (first : Nat)
    (moment : σ × State) :
    (∃ index runtime after,
      resolver.FirstYields perform requirement sources moment index runtime
          after ∧
        runFrom perform (resolver.trySources requirement sources) moment =
            (.ok runtime, after) ∧
          resolver.NotesVisits perform requirement sources first moment
            (index + 1)) ∨
    ((∀ index,
        ¬resolver.IsUsableAt perform requirement sources moment index) ∧
      ∃ lines after,
        runFrom perform (resolver.trySources requirement sources) moment =
            (.error lines, after) ∧
          resolver.NotesVisits perform requirement sources first moment
            sources.length) := by
  induction sources generalizing first moment with
  | nil =>
      refine Or.inr ⟨?_, [], moment, rfl, [], .none first, Notes.pure _ moment⟩
      rintro index ⟨source, isThere, -⟩
      simp at isThere
  | cons source others inductionHypothesis =>
      rcases tried :
          runFrom perform (resolver.trySource requirement source) moment with
        ⟨outcome, middle⟩
      cases outcome with
      | ok runtime =>
          have yields :=
            (runFrom_trySource_eq_ok_iff perform resolver requirement).mp
              tried
          exact Or.inl ⟨0, runtime, middle, .head yields,
            runFrom_trySources_of_ok tried others,
            notesVisits_of_ok tried others first⟩
      | error setbacks =>
          rcases inductionHypothesis (first + 1) middle with
            ⟨index, runtime, after, firstYields, run, notesVisits⟩ |
            ⟨noneUsable, lines, after, run, notesVisits⟩
          · exact Or.inl ⟨index + 1, runtime, after, .tail tried firstYields,
              runFrom_trySources_of_error tried run,
              notesVisits_of_error tried notesVisits⟩
          -- The first source has failed, so the places of the others are one further.
          · refine Or.inr ⟨?_, _, after,
              runFrom_trySources_of_error tried run,
              notesVisits_of_error tried notesVisits⟩
            intro index
            cases index with
            | zero =>
                rw [isUsableAt_cons_zero_iff]
                exact not_isUsable_of_error tried
            | succ index =>
                rw [isUsableAt_cons_succ_iff, tried]
                exact noneUsable index

/-- A run of the recorded resolver ends as one of the resolver does, with the noted visits. -/
def RecordsVisits
    (moment : σ × State)
    (count : Nat) : Prop :=
  ∃ calls,
    AreVisits resolver.prefersLocal 0 count calls ∧
      runFrom perform (resolver.recorded.resolve requirement).run
          (([], moment.1), moment.2) =
        ((runFrom perform (resolver.resolve requirement).run moment).1,
          ((calls,
              (runFrom perform (resolver.resolve requirement).run
                moment).2.1),
            (runFrom perform (resolver.resolve requirement).run moment).2.2))

section

variable {perform resolver requirement}

/-- Resolving notes what is noted of the sources that are tried. -/
theorem notes_resolve
    {moment : σ × State}
    {calls : List SourceCall}
    (notes :
      Notes perform
        (resolver.recorded.trySources requirement
          (NodeSource.recordedFrom 0 resolver.sources))
        (resolver.trySources requirement resolver.sources) moment calls) :
    Notes perform (resolver.recorded.resolve requirement).run
      (resolver.resolve requirement).run moment calls := by
  rcases run :
      runFrom perform (resolver.trySources requirement resolver.sources)
        moment with
    ⟨outcome, after⟩
  rw [← List.append_nil calls]
  refine Notes.bind run notes ?_
  cases outcome with
  | ok runtime =>
      exact Notes.pure _ after
  | error lines =>
      exact Notes.pure _ after

/-- Resolving calls the sources as trying them does. -/
theorem recordsVisits_of_notesVisits
    {moment : σ × State}
    {count : Nat}
    (notesVisits :
      resolver.NotesVisits perform requirement resolver.sources 0 moment
        count) :
    resolver.RecordsVisits perform requirement moment count := by
  obtain ⟨calls, areVisits, notes⟩ := notesVisits
  exact ⟨calls, areVisits, notes_resolve notes []⟩

/-- The outcome of trying the sources is the outcome of resolving, with the whole log. -/
theorem runFrom_resolve_of_trySources
    {moment after : σ × State}
    {outcome : Except (List String) NodeRuntime}
    (run :
      runFrom perform (resolver.trySources requirement resolver.sources)
          moment =
        (outcome, after)) :
    runFrom perform (resolver.resolve requirement).run moment =
      (outcome.mapError fun lines =>
          .unresolved resolver.package (opening :: (lines ++ [closing])),
        after) := by
  refine (runFrom_bind_of_runFrom perform run).trans ?_
  cases outcome <;> rfl

end

/-- Resolving takes what the first usable source yields, or else it fails. -/
theorem resolve_upToFirst (moment : σ × State) :
    (∃ index runtime after,
      resolver.FirstYields perform requirement resolver.sources moment index
          runtime after ∧
        runFrom perform (resolver.resolve requirement).run moment =
            (.ok runtime, after) ∧
          resolver.RecordsVisits perform requirement moment (index + 1)) ∨
    ((∀ index,
        ¬resolver.IsUsableAt perform requirement resolver.sources moment
          index) ∧
      ∃ log after,
        runFrom perform (resolver.resolve requirement).run moment =
            (.error (.unresolved resolver.package log), after) ∧
          resolver.RecordsVisits perform requirement moment
            resolver.sources.length) := by
  rcases resolver.trySources_upToFirst perform requirement resolver.sources
      0 moment with
    ⟨index, runtime, after, firstYields, tried, notesVisits⟩ |
    ⟨noneUsable, lines, after, tried, notesVisits⟩
  · exact Or.inl ⟨index, runtime, after, firstYields,
      runFrom_resolve_of_trySources tried,
      recordsVisits_of_notesVisits notesVisits⟩
  · exact Or.inr ⟨noneUsable, _, after, runFrom_resolve_of_trySources tried,
      recordsVisits_of_notesVisits notesVisits⟩

/-- A resolved runtime is what the first usable source yields. -/
theorem firstYields_of_resolve
    {moment after : σ × State}
    {runtime : NodeRuntime}
    (resolved :
      runFrom perform (resolver.resolve requirement).run moment =
        (.ok runtime, after)) :
    ∃ index,
      resolver.FirstYields perform requirement resolver.sources moment index
          runtime after ∧
        resolver.RecordsVisits perform requirement moment (index + 1) := by
  rcases resolver.resolve_upToFirst perform requirement moment with
    ⟨index, found, later, firstYields, run, visits⟩ |
    ⟨-, log, later, run, -⟩
  · rw [run, Prod.mk.injEq, Except.ok.injEq] at resolved
    obtain ⟨rfl, rfl⟩ := resolved
    exact ⟨index, firstYields, visits⟩
  · rw [run] at resolved
    simp at resolved

/--
Resolving succeeds exactly if some source is usable, and then with what the first usable one yields,
a complete runtime with an accepted version.  Up to that source each one is visited once, in order,
and none behind it.  If no source is usable, all of them are visited and resolving fails.
-/
theorem resolve_takes_first_usable (moment : σ × State) :
    ((∃ runtime,
        (runFrom perform (resolver.resolve requirement).run moment).1 =
          .ok runtime) ↔
      ∃ index,
        resolver.IsUsableAt perform requirement resolver.sources moment
          index) ∧
    (∀ runtime after,
      runFrom perform (resolver.resolve requirement).run moment =
          (.ok runtime, after) →
      (∃ index,
        resolver.FirstYields perform requirement resolver.sources moment
            index runtime after ∧
          resolver.RecordsVisits perform requirement moment (index + 1)) ∧
      (∃ state found, runtime.Complete perform state found) ∧
      ∃ version,
        runtime.version? = some version ∧
          requirement.accepts version = true) ∧
    (∀ fault after,
      runFrom perform (resolver.resolve requirement).run moment =
          (.error fault, after) →
      (∃ log, fault = .unresolved resolver.package log) ∧
        resolver.RecordsVisits perform requirement moment
          resolver.sources.length) := by
  refine ⟨⟨?_, ?_⟩, ?_, ?_⟩
  · rintro ⟨runtime, resolved⟩
    obtain ⟨index, firstYields, -⟩ :=
      resolver.firstYields_of_resolve perform requirement
        (Prod.ext resolved rfl)
    obtain ⟨source, isThere, yields⟩ := firstYields.yields
    exact ⟨index, source, isThere, runtime, _, yields⟩
  · rintro ⟨index, usable⟩
    rcases resolver.resolve_upToFirst perform requirement moment with
      ⟨first, runtime, after, -, run, -⟩ | ⟨noneUsable, -⟩
    · exact ⟨runtime, by rw [run]⟩
    · exact absurd usable (noneUsable index)
  · intro runtime after resolved
    obtain ⟨index, firstYields, visits⟩ :=
      resolver.firstYields_of_resolve perform requirement resolved
    obtain ⟨source, -, yields⟩ := firstYields.yields
    exact ⟨⟨index, firstYields, visits⟩, yields.complete⟩
  · intro fault after failed
    rcases resolver.resolve_upToFirst perform requirement moment with
      ⟨index, runtime, later, -, run, -⟩ | ⟨-, log, later, run, visits⟩
    · rw [run] at failed
      simp at failed
    · rw [run, Prod.mk.injEq, Except.error.injEq] at failed
      exact ⟨⟨log, failed.1.symm⟩, visits⟩

end Provision.NodeResolver
