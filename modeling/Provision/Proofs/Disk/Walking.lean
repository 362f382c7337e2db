import Provision.Disk.Walk

namespace Provision

/-!
# Where names lead

A walk along names that succeeds goes from directory to directory.  It is described step by step: the
directories that it goes through, the links that it follows, and what it comes to at the end.  What
the first names lead to does not depend on the names that come after them.
-/

/-- Whether a name can be that of an entry. -/
def Name.isPlain (name : Name) : Bool :=
  !name.isHere && !name.isUp && name.toBytes.length ≤ Disk.maxNameBytes

namespace Path

/-- Where the names of a path are followed from. -/
def start (path : Path) (here : Location) : Location :=
  if path.isAbsolute then [] else here

/-- The names that are followed for a path. -/
def names (path : Path) : List Name :=
  if path.isAbsolute then path.rest else path.segments

end Path

/-- A path has a name. -/
theorem Path.names_ne_nil (path : Path) : path.names ≠ [] := by
  unfold Path.names Path.isAbsolute Path.segments
  split <;> simp_all

namespace Disk

variable (disk : Disk)

/-- A directory stands at a location, and it may be searched. -/
def IsOpen (here : Location) : Prop :=
  ∃ mode,
    disk.get? here = some (.directory mode) ∧
      (Entry.directory mode).allows .execute = true

/-- A directory stands at a location. -/
def HasDirectory (here : Location) : Prop :=
  ∃ mode, disk.get? here = some (.directory mode)

/--
One name is followed from a location: the links left, where that leads, and the names of the target of
a link, which come next.
-/
inductive Steps : Nat → Location → Name → Nat → Location → List Name → Prop where
  | empty
      {links : Nat}
      {here : Location}
      {name : Name}
      (isDirectory : disk.HasDirectory here)
      (isEmpty : name = .text "") :
      Steps links here name links here []
  | dot
      {links : Nat}
      {here : Location}
      {name : Name}
      (isOpen : disk.IsOpen here)
      (isDot : name = .text ".") :
      Steps links here name links here []
  | up
      {links : Nat}
      {here : Location}
      {name : Name}
      (isOpen : disk.IsOpen here)
      (isUp : name = .text "..") :
      Steps links here name links (above here) []
  | down
      {links : Nat}
      {here : Location}
      {name : Name}
      {entry : Entry}
      (isOpen : disk.IsOpen here)
      (isPlain : name.isPlain = true)
      (stands : disk.get? (here ++ [name]) = some entry)
      (noLink : entry.isLink = false) :
      Steps links here name links (here ++ [name]) []
  | follow
      {links : Nat}
      {here : Location}
      {name : Name}
      {target : Path}
      (isOpen : disk.IsOpen here)
      (isPlain : name.isPlain = true)
      (stands : disk.get? (here ++ [name]) = some (.link target)) :
      Steps (links + 1) here name links (target.start here) target.names

/-- Names lead from a location to another one, with some links left that may be followed. -/
inductive Leads : Nat → Location → List Name → Nat → Location → Prop where
  | arrived
      (links : Nat)
      (here : Location) :
      Leads links here [] links here
  | step
      {links fewer left : Nat}
      {here next there : Location}
      {name : Name}
      {names rest : List Name}
      (steps : disk.Steps links here name fewer next names)
      (later : Leads fewer next (names ++ rest) left there) :
      Leads links here (name :: rest) left there

/-- A walk along names succeeds with what it finds. -/
inductive Walks (followLast : Bool) : Nat → Location → List Name → Found → Prop where
  | arrived
      (links : Nat)
      (here : Location) :
      Walks followLast links here [] ⟨here, disk.get? here⟩
  | missing
      {links : Nat}
      {here : Location}
      {name : Name}
      {rest : List Name}
      (isOpen : disk.IsOpen here)
      (isPlain : name.isPlain = true)
      (isMissing : disk.get? (here ++ [name]) = none)
      (isLast : rest.all (· = .text "") = true) :
      Walks followLast links here (name :: rest) ⟨here ++ [name], none⟩
  | link
      {links : Nat}
      {here : Location}
      {name : Name}
      {target : Path}
      (isOpen : disk.IsOpen here)
      (isPlain : name.isPlain = true)
      (stands : disk.get? (here ++ [name]) = some (.link target))
      (stays : followLast = false) :
      Walks followLast links here [name]
        ⟨here ++ [name], some (.link target)⟩
  | step
      {links fewer : Nat}
      {here next : Location}
      {name : Name}
      {names rest : List Name}
      {found : Found}
      (steps : disk.Steps links here name fewer next names)
      (goesOn : names = [] ∨ rest ≠ [] ∨ followLast = true)
      (later : Walks followLast fewer next (names ++ rest) found) :
      Walks followLast links here (name :: rest) found

variable {disk}

/-- A name that is not plain is one of those that stand for directories, or it is too long. -/
theorem name_cases (name : Name) :
    name = .text "" ∨ name = .text "." ∨ name = .text ".." ∨
      name.isPlain = true ∨
        (name.isHere = false ∧ name.isUp = false ∧
          name.toBytes.length > maxNameBytes) := by
  by_cases isHere : name.isHere = true
  · simp only [Name.isHere, Bool.or_eq_true, decide_eq_true_eq] at isHere
    rcases isHere with isEmpty | isDot
    · exact Or.inl isEmpty
    · exact Or.inr (Or.inl isDot)
  · by_cases isUp : name.isUp = true
    · exact Or.inr (Or.inr (Or.inl (by simpa [Name.isUp] using isUp)))
    · right; right; right
      simp only [Bool.not_eq_true] at isHere isUp
      by_cases isLong : name.toBytes.length > maxNameBytes
      · exact Or.inr ⟨isHere, isUp, isLong⟩
      · left
        simp [Name.isPlain, isHere, isUp, Nat.le_of_not_lt isLong]

/-- A plain name stands for no directory. -/
theorem not_special_of_isPlain
    {name : Name}
    (isPlain : name.isPlain = true) :
    name ≠ .text "" ∧ name ≠ .text "." ∧ name ≠ .text ".." ∧
      name.isHere = false ∧ name.isUp = false ∧
        ¬name.toBytes.length > maxNameBytes := by
  simp only [Name.isPlain, Bool.and_eq_true, Bool.not_eq_true',
    decide_eq_true_eq] at isPlain
  obtain ⟨⟨notHere, notUp⟩, isShort⟩ := isPlain
  refine ⟨?_, ?_, ?_, notHere, notUp, Nat.not_lt.mpr isShort⟩
  · rintro rfl
    simp [Name.isHere] at notHere
  · rintro rfl
    simp [Name.isHere] at notHere
  · rintro rfl
    simp [Name.isUp] at notUp

/-- What `walkWith` does with the link that a target is written in. -/
theorem follow_eq
    (follow : Location → List Name → Except Errno Found)
    (here : Location)
    (target : Path)
    (rest : List Name) :
    (if target.isAbsolute then follow [] (target.rest ++ rest)
      else follow here (target.segments ++ rest)) =
      follow (target.start here) (target.names ++ rest) := by
  unfold Path.start Path.names
  split <;> rfl

/-- The first step of a walk in a directory that may be searched, along a plain name. -/
theorem walkWith_cons_of_isPlain
    {followLast : Bool}
    {follow : Location → List Name → Except Errno Found}
    {here : Location}
    {name : Name}
    {rest : List Name}
    (isOpen : disk.IsOpen here)
    (isPlain : name.isPlain = true) :
    walkWith disk followLast follow here (name :: rest) =
      match disk.get? (here ++ [name]) with
      | none =>
          if rest.all (· = .text "") then
            .ok ⟨here ++ [name], none⟩
          else
            .error .noEntry
      | some (.link target) =>
          if rest.isEmpty && !followLast then
            .ok ⟨here ++ [name], some (.link target)⟩
          else
            follow (target.start here) (target.names ++ rest)
      | some _ =>
          walkWith disk followLast follow (here ++ [name]) rest := by
  obtain ⟨mode, stands, mayPass⟩ := isOpen
  obtain ⟨notEmpty, -, -, notHere, notUp, notLong⟩ :=
    not_special_of_isPlain isPlain
  rw [walkWith, stands]
  simp only [notEmpty, mayPass, notHere, notUp, if_neg notLong,
    Bool.not_true, Bool.false_eq_true, if_false]
  cases disk.get? (here ++ [name]) with
  | none => rfl
  | some entry =>
      cases entry with
      | link target => simp only [follow_eq]
      | _ => rfl

/-- A walk by the function succeeds as described, if the way from each link does. -/
theorem walks_of_walkWith
    {followLast : Bool}
    {follow : Location → List Name → Except Errno Found}
    {links : Nat}
    (follows :
      ∀ here names found,
        follow here names = .ok found →
        ∃ fewer, links = fewer + 1 ∧
          disk.Walks followLast fewer here names found)
    {names : List Name}
    {here : Location}
    {found : Found}
    (walks : walkWith disk followLast follow here names = .ok found) :
    disk.Walks followLast links here names found := by
  induction names generalizing here with
  | nil =>
      rw [walkWith, Except.ok.injEq] at walks
      exact walks ▸ .arrived links here
  | cons name rest inductionHypothesis =>
      rw [walkWith] at walks
      split at walks
      · rename_i mode stands
        have hasDirectory : disk.HasDirectory here := ⟨mode, stands⟩
        rcases name_cases name with
          rfl | rfl | rfl | isPlain | ⟨notHere, notUp, isLong⟩
        · exact .step (.empty hasDirectory rfl) (Or.inl rfl)
            (inductionHypothesis walks)
        · split at walks
          · simp_all
          · split at walks
            · simp at walks
            · rename_i mayPass
              have isOpen : disk.IsOpen here :=
                ⟨mode, stands, by simpa using mayPass⟩
              exact .step (.dot isOpen rfl) (Or.inl rfl)
                (inductionHypothesis walks)
        · split at walks
          · simp_all
          · split at walks
            · simp at walks
            · rename_i mayPass
              have isOpen : disk.IsOpen here :=
                ⟨mode, stands, by simpa using mayPass⟩
              exact .step (.up isOpen rfl) (Or.inl rfl)
                (inductionHypothesis walks)
        · cases mayPass : (Entry.directory mode).allows .execute with
          | false =>
              rw [if_neg (not_special_of_isPlain isPlain).1, mayPass]
                at walks
              simp at walks
          | true =>
              have isOpen : disk.IsOpen here := ⟨mode, stands, mayPass⟩
              have walked :
                  walkWith disk followLast follow here (name :: rest) =
                    .ok found := by
                rw [walkWith, stands]
                exact walks
              rw [walkWith_cons_of_isPlain isOpen isPlain] at walked
              split at walked
              · rename_i isMissing
                split at walked
                · rename_i isLast
                  rw [Except.ok.injEq] at walked
                  exact walked ▸ .missing isOpen isPlain isMissing isLast
                · simp at walked
              · rename_i target isLink
                split at walked
                · rename_i isEnd
                  simp only [Bool.and_eq_true, List.isEmpty_iff,
                    Bool.not_eq_true'] at isEnd
                  obtain ⟨rfl, stays⟩ := isEnd
                  rw [Except.ok.injEq] at walked
                  exact walked ▸ .link isOpen isPlain isLink stays
                · rename_i goesOn
                  obtain ⟨fewer, rfl, later⟩ := follows _ _ _ walked
                  refine .step (.follow isOpen isPlain isLink)
                    (Or.inr ?_) later
                  by_cases isEnd : rest = []
                  · exact Or.inr (by simpa [isEnd] using goesOn)
                  · exact Or.inl isEnd
              · rename_i entry noLink isThere
                refine .step (.down isOpen isPlain isThere ?_)
                  (Or.inl rfl) (inductionHypothesis walked)
                cases entry with
                | link target => exact absurd rfl (noLink target)
                | _ => rfl
        · split at walks
          · rename_i isEmpty
            simp [isEmpty, Name.isHere] at notHere
          · rw [notHere, notUp] at walks
            split at walks <;> simp at walks
      · simp at walks
      · simp at walks

/-- A walk by the function succeeds as described. -/
theorem walks_of_walk
    {followLast : Bool}
    {links : Nat}
    {names : List Name}
    {here : Location}
    {found : Found}
    (walks : walk disk followLast links here names = .ok found) :
    disk.Walks followLast links here names found := by
  induction links generalizing names here found with
  | zero =>
      refine walks_of_walkWith ?_ walks
      intro here names found follows
      simp at follows
  | succ links inductionHypothesis =>
      refine walks_of_walkWith ?_ walks
      intro here names found follows
      exact ⟨links, rfl, inductionHypothesis follows⟩

/-- A walk is a walk by the function that goes on with fewer links from each link. -/
theorem exists_walkWith
    (disk : Disk)
    (followLast : Bool)
    (links : Nat) :
    ∃ follow,
      walk disk followLast links = walkWith disk followLast follow ∧
        ∀ fewer,
          links = fewer + 1 →
          follow = walk disk followLast fewer := by
  cases links with
  | zero =>
      exact ⟨_, rfl, by simp⟩
  | succ links =>
      refine ⟨_, rfl, ?_⟩
      rintro _ ⟨⟩
      rfl

/-- A walk goes on from where its first name is followed to. -/
theorem walk_of_steps
    {followLast : Bool}
    {links fewer : Nat}
    {here next : Location}
    {name : Name}
    {names rest : List Name}
    (steps : disk.Steps links here name fewer next names)
    (goesOn : names = [] ∨ rest ≠ [] ∨ followLast = true) :
    walk disk followLast links here (name :: rest) =
      walk disk followLast fewer next (names ++ rest) := by
  obtain ⟨follow, isWalk, isFewer⟩ := exists_walkWith disk followLast links
  cases steps with
  | empty isDirectory isEmpty =>
      obtain ⟨mode, stands⟩ := isDirectory
      rw [isWalk, isEmpty, walkWith, stands]
      simp
  | dot isOpen isDot =>
      obtain ⟨mode, stands, mayPass⟩ := isOpen
      rw [isWalk, isDot, walkWith, stands]
      simp [mayPass, Name.isHere]
  | up isOpen isUp =>
      obtain ⟨mode, stands, mayPass⟩ := isOpen
      rw [isWalk, isUp, walkWith, stands]
      simp [mayPass, Name.isHere, Name.isUp]
  | @down _ _ _ entry isOpen isPlain stands noLink =>
      rw [isWalk, walkWith_cons_of_isPlain isOpen isPlain, stands]
      cases entry with
      | link target => simp [Entry.isLink] at noLink
      | _ => rfl
  | @follow _ _ _ target isOpen isPlain stands =>
      rw [isWalk, walkWith_cons_of_isPlain isOpen isPlain, stands,
        isFewer fewer rfl]
      have notNil := target.names_ne_nil
      have notEnd : (rest.isEmpty && !followLast) = false := by
        rcases goesOn with isNil | isMore | follows
        · exact absurd isNil notNil
        · simp [List.isEmpty_iff, isMore]
        · simp [follows]
      simp only [notEnd, Bool.false_eq_true, if_false]

/-- A walk goes on from where the first ones of its names lead. -/
theorem walk_of_leads
    {followLast : Bool}
    {links left : Nat}
    {here there : Location}
    {first later : List Name}
    (leads : disk.Leads links here first left there)
    (notNil : later ≠ []) :
    walk disk followLast links here (first ++ later) =
      walk disk followLast left there later := by
  induction leads with
  | arrived => rfl
  | @step _ _ _ _ _ _ _ names rest steps _ inductionHypothesis =>
      have goesOn : rest ++ later ≠ [] := by simp [notNil]
      rw [List.cons_append, walk_of_steps steps (Or.inr (Or.inl goesOn)),
        ← List.append_assoc]
      exact inductionHypothesis

/-- A walk that is described is one by the function. -/
theorem walk_of_walks
    {followLast : Bool}
    {links : Nat}
    {names : List Name}
    {here : Location}
    {found : Found}
    (walks : disk.Walks followLast links here names found) :
    walk disk followLast links here names = .ok found := by
  induction walks with
  | arrived links here =>
      obtain ⟨follow, isWalk, -⟩ := exists_walkWith disk followLast links
      rw [isWalk, walkWith]
  | @missing links here name rest isOpen isPlain isMissing isLast =>
      obtain ⟨follow, isWalk, -⟩ := exists_walkWith disk followLast links
      rw [isWalk, walkWith_cons_of_isPlain isOpen isPlain, isMissing]
      exact if_pos isLast
  | @link links here name target isOpen isPlain stands stays =>
      obtain ⟨follow, isWalk, -⟩ := exists_walkWith disk followLast links
      rw [isWalk, walkWith_cons_of_isPlain isOpen isPlain, stands]
      simp [stays]
  | step steps goesOn _ inductionHypothesis =>
      rw [walk_of_steps steps goesOn]
      exact inductionHypothesis

/-- A walk by the function succeeds exactly if it is described. -/
theorem walk_eq_ok_iff
    {followLast : Bool}
    {links : Nat}
    {names : List Name}
    {here : Location}
    {found : Found} :
    walk disk followLast links here names = .ok found ↔
      disk.Walks followLast links here names found :=
  ⟨walks_of_walk, walk_of_walks⟩

end Disk

end Provision
