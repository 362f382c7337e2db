import Provision.Proofs.Disk.Walking

namespace Provision.Disk

/-!
# Walks on changing disks

A walk is taken apart after its first names.  What names lead to stays the same, or is no longer
there, as long as no link on the way becomes another one or a directory, and nothing else on the way
becomes a link.  On a disk with more entries names lead to where they did.
-/

/-! ## Walks in two parts -/

section

variable {disk : Disk}

/-- A walk along names of which the last ones name something goes to where the first ones lead. -/
theorem leads_of_walks_append
    {followLast : Bool}
    {links : Nat}
    {here : Location}
    {first later : List Name}
    {found : Found}
    (walks : disk.Walks followLast links here (first ++ later) found)
    (isNamed : later.all (· = .text "") = false) :
    ∃ left there,
      disk.Leads links here first left there ∧
        disk.Walks followLast left there later found := by
  have notNil : later ≠ [] := by
    rintro rfl
    simp at isNamed
  generalize isAppend : first ++ later = names at walks
  induction walks generalizing first with
  | arrived links here =>
      exact absurd (List.append_eq_nil_iff.mp isAppend).2 notNil
  | @missing links here name rest isOpen isPlain isMissing isLast =>
      cases first with
      | nil =>
          rw [List.nil_append] at isAppend
          subst isAppend
          exact ⟨links, here, .arrived links here,
            .missing isOpen isPlain isMissing isLast⟩
      | cons head tail =>
          obtain ⟨rfl, rfl⟩ := List.cons.inj isAppend
          rw [List.append_eq, List.all_append, isNamed, Bool.and_false]
            at isLast
          simp at isLast
  | @link links here name target isOpen isPlain stands stays =>
      cases first with
      | nil =>
          rw [List.nil_append] at isAppend
          subst isAppend
          exact ⟨links, here, .arrived links here,
            .link isOpen isPlain stands stays⟩
      | cons head tail =>
          obtain ⟨rfl, isNil⟩ := List.cons.inj isAppend
          exact absurd (List.append_eq_nil_iff.mp isNil).2 notNil
  | @step links fewer here next name names rest found steps goesOn walks
      inductionHypothesis =>
      cases first with
      | nil =>
          rw [List.nil_append] at isAppend
          subst isAppend
          exact ⟨links, here, .arrived links here,
            .step steps goesOn walks⟩
      | cons head tail =>
          obtain ⟨rfl, rfl⟩ := List.cons.inj isAppend
          obtain ⟨left, there, leads, ends⟩ :=
            inductionHypothesis (List.append_assoc names tail later)
          exact ⟨left, there, .step steps leads, ends⟩

/-- A walk goes on from where its first names lead. -/
theorem Leads.walks_append
    {followLast : Bool}
    {links left : Nat}
    {here there : Location}
    {first later : List Name}
    {found : Found}
    (leads : disk.Leads links here first left there)
    (notNil : later ≠ [])
    (walks : disk.Walks followLast left there later found) :
    disk.Walks followLast links here (first ++ later) found := by
  induction leads with
  | arrived => exact walks
  | step steps _ inductionHypothesis =>
      refine .step steps (Or.inr (Or.inl ?_)) ?_
      · simp [notNil]
      · rw [List.append_eq, ← List.append_assoc]
        exact inductionHypothesis walks

/-- Names lead on from where the first ones lead. -/
theorem Leads.append
    {links middle left : Nat}
    {here between there : Location}
    {first later : List Name}
    (leads : disk.Leads links here first middle between)
    (leadsOn : disk.Leads middle between later left there) :
    disk.Leads links here (first ++ later) left there := by
  induction leads with
  | arrived => exact leadsOn
  | step steps _ inductionHypothesis =>
      refine .step steps ?_
      rw [List.append_eq, ← List.append_assoc]
      exact inductionHypothesis leadsOn

/-- The first names lead somewhere, and the later ones lead on from there. -/
theorem leads_of_leads_append
    {links left : Nat}
    {here there : Location}
    {first later : List Name}
    (leads : disk.Leads links here (first ++ later) left there) :
    ∃ middle between,
      disk.Leads links here first middle between ∧
        disk.Leads middle between later left there := by
  generalize isAppend : first ++ later = names at leads
  induction leads generalizing first with
  | arrived links here =>
      obtain ⟨rfl, rfl⟩ := List.append_eq_nil_iff.mp isAppend
      exact ⟨links, here, .arrived links here, .arrived links here⟩
  | @step links fewer left here next there name names rest steps leads
      inductionHypothesis =>
      cases first with
      | nil =>
          rw [List.nil_append] at isAppend
          subst isAppend
          exact ⟨links, here, .arrived links here, .step steps leads⟩
      | cons head tail =>
          obtain ⟨rfl, rfl⟩ := List.cons.inj isAppend
          obtain ⟨middle, between, leads, leadsOn⟩ :=
            inductionHypothesis (List.append_assoc names tail later)
          exact ⟨middle, between, .step steps leads, leadsOn⟩

/-- A walk that follows links and finds an entry has been led to it. -/
theorem Walks.leads
    {links : Nat}
    {here there : Location}
    {names : List Name}
    {entry : Entry}
    (walks : disk.Walks true links here names ⟨there, some entry⟩) :
    (∃ left, disk.Leads links here names left there) ∧
      disk.get? there = some entry := by
  generalize isFound : (⟨there, some entry⟩ : Found) = found at walks
  induction walks with
  | arrived links here =>
      rw [Found.mk.injEq] at isFound
      obtain ⟨rfl, stands⟩ := isFound
      exact ⟨⟨links, .arrived links there⟩, stands.symm⟩
  | missing =>
      simp at isFound
  | link _ _ _ stays =>
      simp at stays
  | step steps _ _ inductionHypothesis =>
      obtain ⟨⟨left, leads⟩, stands⟩ := inductionHypothesis isFound
      exact ⟨⟨left, .step steps leads⟩, stands⟩

/-- Names that lead somewhere are walked to what stands there, if links are followed. -/
theorem Leads.walks
    {links left : Nat}
    {here there : Location}
    {names : List Name}
    (leads : disk.Leads links here names left there) :
    disk.Walks true links here names ⟨there, disk.get? there⟩ := by
  induction leads with
  | arrived links here =>
      exact .arrived links here
  | step steps _ inductionHypothesis =>
      exact .step steps (Or.inr (Or.inr rfl)) inductionHypothesis

end

/-! ## Standing locations -/

/-- All that a location lies in are directories. -/
def Standing (disk : Disk) (location : Location) : Prop :=
  ∀ above, above <+: location → above ≠ location → disk.HasDirectory above

section

variable {disk : Disk}

/-- Nothing lies above the root. -/
theorem standing_root : disk.Standing [] := by
  intro above isAbove isOther
  exact absurd (List.prefix_nil.mp isAbove) isOther

/-- What lies in a directory that stands is standing. -/
theorem Standing.below
    {here : Location}
    (standing : disk.Standing here)
    (isDirectory : disk.HasDirectory here)
    (name : Name) :
    disk.Standing (here ++ [name]) := by
  intro above isAbove isOther
  rcases List.prefix_concat_iff.mp isAbove with isWhole | isAbove
  · exact absurd isWhole isOther
  · by_cases isHere : above = here
    · exact isHere ▸ isDirectory
    · exact standing above isAbove isHere

/-- What a standing location lies in is standing. -/
theorem Standing.of_prefix
    {here there : Location}
    (standing : disk.Standing there)
    (isPrefix : here <+: there) :
    disk.Standing here := by
  intro above isAbove isOther
  refine standing above (isAbove.trans isPrefix) ?_
  rintro rfl
  exact isOther (isAbove.eq_of_length_le isPrefix.length_le)

/-- A directory that may be searched is a directory. -/
theorem IsOpen.hasDirectory
    {here : Location}
    (isOpen : disk.IsOpen here) :
    disk.HasDirectory here := by
  obtain ⟨mode, stands, -⟩ := isOpen
  exact ⟨mode, stands⟩

/-- A step from a standing location leads to one. -/
theorem Steps.standing
    {links fewer : Nat}
    {here next : Location}
    {name : Name}
    {names : List Name}
    (steps : disk.Steps links here name fewer next names)
    (standing : disk.Standing here) :
    disk.Standing next := by
  cases steps with
  | empty | dot => exact standing
  | up => exact standing.of_prefix (List.dropLast_prefix here)
  | down isOpen => exact standing.below isOpen.hasDirectory _
  | @follow _ _ _ target =>
      unfold Path.start
      split
      · exact standing_root
      · exact standing

/-- Names lead from a standing location to one. -/
theorem Leads.standing
    {links left : Nat}
    {here there : Location}
    {names : List Name}
    (leads : disk.Leads links here names left there)
    (standing : disk.Standing here) :
    disk.Standing there := by
  induction leads with
  | arrived => exact standing
  | step steps _ inductionHypothesis =>
      exact inductionHypothesis (steps.standing standing)

end

/-! ## Changed disks -/

/-- A way through an entry is kept by what stands in its place later, or it is cut off. -/
def KeepsWay : Option Entry → Option Entry → Prop
  | none, _ => True
  | some (.link target), later =>
      later = some (.link target) ∨ later = none ∨
        ∃ file, later = some (.file file)
  | some _, later => ∀ target, later ≠ some (.link target)

section

variable {disk later : Disk}

/-- A step is made in a directory. -/
theorem Steps.hasDirectory
    {links fewer : Nat}
    {here next : Location}
    {name : Name}
    {names : List Name}
    (steps : disk.Steps links here name fewer next names) :
    disk.HasDirectory here := by
  cases steps with
  | empty isDirectory => exact isDirectory
  | dot isOpen | up isOpen | down isOpen | follow isOpen =>
      exact isOpen.hasDirectory

/-- Names that lead to a directory start from one. -/
theorem Leads.hasDirectory
    {links left : Nat}
    {here there : Location}
    {names : List Name}
    (leads : disk.Leads links here names left there)
    (isDirectory : disk.HasDirectory there) :
    disk.HasDirectory here := by
  cases leads with
  | arrived => exact isDirectory
  | step steps => exact steps.hasDirectory

/-- What a step does with a plain name that stands for an entry. -/
theorem Steps.cases_of_isPlain
    {links fewer : Nat}
    {here next : Location}
    {name : Name}
    {names : List Name}
    (steps : disk.Steps links here name fewer next names)
    (isPlain : name.isPlain = true) :
    (names = [] ∧ fewer = links ∧ next = here ++ [name] ∧
        ∃ entry,
          disk.get? (here ++ [name]) = some entry ∧
            entry.isLink = false) ∨
      ∃ target,
        names = target.names ∧ links = fewer + 1 ∧
          next = target.start here ∧
            disk.get? (here ++ [name]) = some (.link target) := by
  obtain ⟨notEmpty, notDot, notUp, -⟩ := not_special_of_isPlain isPlain
  cases steps with
  | empty _ isEmpty => exact absurd isEmpty notEmpty
  | dot _ isDot => exact absurd isDot notDot
  | up _ isUp => exact absurd isUp notUp
  | down _ _ stands noLink =>
      exact Or.inl ⟨rfl, rfl, rfl, _, stands, noLink⟩
  | follow _ _ stands =>
      exact Or.inr ⟨_, rfl, rfl, rfl, stands⟩

/-- A step along a name that is not plain needs nothing but the directory. -/
theorem Steps.eq_of_not_isPlain
    {links fewer fewer' : Nat}
    {here next next' : Location}
    {name : Name}
    {names names' : List Name}
    (steps : disk.Steps links here name fewer next names)
    (notPlain : name.isPlain = false)
    (steps' : later.Steps links here name fewer' next' names') :
    fewer' = fewer ∧ next' = next ∧ names' = names := by
  cases steps with
  | down _ isPlain | follow _ isPlain => simp [notPlain] at isPlain
  | empty _ isEmpty =>
      cases steps' with
      | empty => exact ⟨rfl, rfl, rfl⟩
      | dot _ isDot => simp [isEmpty] at isDot
      | up _ isUp => simp [isEmpty] at isUp
      | down _ isPlain | follow _ isPlain => simp [notPlain] at isPlain
  | dot _ isDot =>
      cases steps' with
      | empty _ isEmpty => simp [isDot] at isEmpty
      | dot => exact ⟨rfl, rfl, rfl⟩
      | up _ isUp => simp [isDot] at isUp
      | down _ isPlain | follow _ isPlain => simp [notPlain] at isPlain
  | up _ isUp =>
      cases steps' with
      | empty _ isEmpty => simp [isUp] at isEmpty
      | dot _ isDot => simp [isUp] at isDot
      | up => exact ⟨rfl, rfl, rfl⟩
      | down _ isPlain | follow _ isPlain => simp [notPlain] at isPlain

/-- Steps on a disk and on a later one agree, or the later one ends at a file. -/
theorem Steps.agree
    {links fewer fewer' : Nat}
    {here next next' : Location}
    {name : Name}
    {names names' : List Name}
    (steps : disk.Steps links here name fewer next names)
    (keeps :
      KeepsWay (disk.get? (here ++ [name])) (later.get? (here ++ [name])))
    (steps' : later.Steps links here name fewer' next' names') :
    (fewer' = fewer ∧ next' = next ∧ names' = names) ∨
      (names' = [] ∧ ∃ file, later.get? next' = some (.file file)) := by
  cases isPlain : name.isPlain with
  | false =>
      exact Or.inl (steps.eq_of_not_isPlain isPlain steps')
  | true =>
      rcases steps.cases_of_isPlain isPlain with
        ⟨rfl, rfl, rfl, entry, stands, noLink⟩ |
        ⟨target, rfl, isFewer, rfl, stands⟩
      · rw [stands] at keeps
        rcases steps'.cases_of_isPlain isPlain with
          ⟨rfl, rfl, rfl, -⟩ | ⟨target', -, -, -, stands'⟩
        · exact Or.inl ⟨rfl, rfl, rfl⟩
        · cases entry with
          | link target => simp [Entry.isLink] at noLink
          | directory mode => exact absurd stands' (keeps target')
          | file file => exact absurd stands' (keeps target')
      · rw [stands] at keeps
        rcases steps'.cases_of_isPlain isPlain with
          ⟨rfl, rfl, rfl, entry, stands', noLink⟩ |
          ⟨target', rfl, isFewer', rfl, stands'⟩
        · rw [stands'] at keeps
          rcases keeps with isSame | isNone | ⟨file, isFile⟩
          · obtain rfl := Option.some.inj isSame
            simp [Entry.isLink] at noLink
          · simp at isNone
          · exact Or.inr ⟨rfl, file, stands'.trans isFile⟩
        · rw [stands'] at keeps
          rcases keeps with isSame | isNone | ⟨file, isFile⟩
          · obtain rfl := Entry.link.inj (Option.some.inj isSame)
            exact Or.inl ⟨by omega, rfl, rfl⟩
          · simp at isNone
          · simp at isFile

/-- Nothing is looked up in a file. -/
theorem Leads.eq_of_file
    {links left : Nat}
    {here there : Location}
    {names : List Name}
    {file : File}
    (leads : disk.Leads links here names left there)
    (isFile : disk.get? here = some (.file file)) :
    there = here := by
  cases leads with
  | arrived => rfl
  | step steps =>
      obtain ⟨mode, isDirectory⟩ := steps.hasDirectory
      rw [isFile] at isDirectory
      simp at isDirectory

/--
What names lead to on a later disk is what they led to, or a file, if the way is kept wherever it may
have passed.
-/
theorem Leads.agree
    {links left left' : Nat}
    {here there there' : Location}
    {names : List Name}
    (leads : disk.Leads links here names left there)
    (standing : disk.Standing here)
    (keeps :
      ∀ location,
        disk.Standing location →
        KeepsWay (disk.get? location) (later.get? location))
    (leads' : later.Leads links here names left' there') :
    (left' = left ∧ there' = there) ∨
      ∃ file, later.get? there' = some (.file file) := by
  induction leads with
  | arrived =>
      cases leads' with
      | arrived => exact Or.inl ⟨rfl, rfl⟩
  | @step links fewer left here next there name names rest steps leads
      inductionHypothesis =>
      cases leads' with
      | @step _ fewer' left' _ next' there' _ names' _ steps' leads' =>
          rcases steps.agree
              (keeps _ (standing.below steps.hasDirectory name)) steps' with
            ⟨rfl, rfl, rfl⟩ | ⟨rfl, file, isFile⟩
          · exact inductionHypothesis (steps.standing standing) leads'
          · have isThere := leads'.eq_of_file isFile
            exact Or.inr ⟨file, isThere ▸ isFile⟩

/-- A name is followed in one way only. -/
theorem Steps.unique
    {links fewer fewer' : Nat}
    {here next next' : Location}
    {name : Name}
    {names names' : List Name}
    (steps : disk.Steps links here name fewer next names)
    (steps' : disk.Steps links here name fewer' next' names') :
    fewer' = fewer ∧ next' = next ∧ names' = names := by
  cases isPlain : name.isPlain with
  | false =>
      exact steps.eq_of_not_isPlain isPlain steps'
  | true =>
      rcases steps.cases_of_isPlain isPlain with
        ⟨rfl, rfl, rfl, entry, stands, noLink⟩ |
        ⟨target, rfl, isFewer, rfl, stands⟩
      · rcases steps'.cases_of_isPlain isPlain with
          ⟨rfl, rfl, rfl, -⟩ | ⟨target', -, -, -, stands'⟩
        · exact ⟨rfl, rfl, rfl⟩
        · obtain rfl := Option.some.inj (stands.symm.trans stands')
          simp [Entry.isLink] at noLink
      · rcases steps'.cases_of_isPlain isPlain with
          ⟨-, -, -, entry, stands', noLink⟩ |
          ⟨target', rfl, isFewer', rfl, stands'⟩
        · obtain rfl := Option.some.inj (stands.symm.trans stands')
          simp [Entry.isLink] at noLink
        · obtain rfl :=
            Entry.link.inj (Option.some.inj (stands.symm.trans stands'))
          exact ⟨by omega, rfl, rfl⟩

/-- Names lead to one location only. -/
theorem Leads.unique
    {links left left' : Nat}
    {here there there' : Location}
    {names : List Name}
    (leads : disk.Leads links here names left there)
    (leads' : disk.Leads links here names left' there') :
    left' = left ∧ there' = there := by
  induction leads with
  | arrived =>
      cases leads' with
      | arrived => exact ⟨rfl, rfl⟩
  | step steps _ inductionHypothesis =>
      cases leads' with
      | step steps' leads' =>
          obtain ⟨rfl, rfl, rfl⟩ := steps.unique steps'
          exact inductionHypothesis leads'

/-- On a disk with more entries a name is followed as before. -/
theorem Steps.mono
    {links fewer : Nat}
    {here next : Location}
    {name : Name}
    {names : List Name}
    (steps : disk.Steps links here name fewer next names)
    (isMore :
      ∀ location entry,
        disk.get? location = some entry →
        later.get? location = some entry) :
    later.Steps links here name fewer next names := by
  have staysOpen : disk.IsOpen here → later.IsOpen here := by
    rintro ⟨mode, stands, mayPass⟩
    exact ⟨mode, isMore _ _ stands, mayPass⟩
  cases steps with
  | empty isDirectory isEmpty =>
      obtain ⟨mode, stands⟩ := isDirectory
      exact .empty ⟨mode, isMore _ _ stands⟩ isEmpty
  | dot isOpen isDot => exact .dot (staysOpen isOpen) isDot
  | up isOpen isUp => exact .up (staysOpen isOpen) isUp
  | down isOpen isPlain stands noLink =>
      exact .down (staysOpen isOpen) isPlain (isMore _ _ stands) noLink
  | follow isOpen isPlain stands =>
      exact .follow (staysOpen isOpen) isPlain (isMore _ _ stands)

/-- On a disk with more entries names lead to where they did. -/
theorem Leads.mono
    {links left : Nat}
    {here there : Location}
    {names : List Name}
    (leads : disk.Leads links here names left there)
    (isMore :
      ∀ location entry,
        disk.get? location = some entry →
        later.get? location = some entry) :
    later.Leads links here names left there := by
  induction leads with
  | arrived links here => exact .arrived links here
  | step steps _ inductionHypothesis =>
      exact .step (steps.mono isMore) inductionHypothesis

/-! ## Ways without links -/

/-- Names that stand for no directory lead straight down where there is no link. -/
theorem Leads.eq_append_of_no_links
    {links left : Nat}
    {here there : Location}
    {names : List Name}
    (leads : disk.Leads links here names left there)
    (areNamed : ∀ name ∈ names, name.isHere = false ∧ name.isUp = false)
    (noLinks :
      ∀ first,
        first <+: names →
        first ≠ [] →
        ∀ target, disk.get? (here ++ first) ≠ some (.link target)) :
    there = here ++ names := by
  induction names generalizing links here with
  | nil =>
      cases leads with
      | arrived => exact (List.append_nil there).symm
  | cons name rest inductionHypothesis =>
      obtain ⟨notHere, notUp⟩ := areNamed name (.head _)
      cases leads with
      | step steps later =>
          cases steps with
          | empty _ isSpecial | dot _ isSpecial =>
              simp [isSpecial, Name.isHere] at notHere
          | up _ isUp => simp [isUp, Name.isUp] at notUp
          | follow _ _ stands =>
              exact absurd stands
                (noLinks [name] ⟨rest, rfl⟩ (List.cons_ne_nil name []) _)
          | down =>
              have isAppend :=
                inductionHypothesis later
                  (fun other member => areNamed other (.tail _ member))
                  fun first isPrefix notNil target => by
                    rw [List.append_assoc]
                    exact noLinks (name :: first)
                      (List.cons_prefix_cons.mpr ⟨rfl, isPrefix⟩)
                      (List.cons_ne_nil name first) target
              rw [isAppend, List.append_assoc]
              rfl

/-- Where there is no link, names that never go up lead straight down by those that name something. -/
theorem Leads.eq_append_filter
    {links left : Nat}
    {here there : Location}
    {names : List Name}
    (leads : disk.Leads links here names left there)
    (noUps : ∀ name ∈ names, name.isUp = false)
    (noLinks :
      ∀ first,
        first <+: names.filter (fun name => !name.isHere) →
        first ≠ [] →
        ∀ target, disk.get? (here ++ first) ≠ some (.link target)) :
    there = here ++ names.filter fun name => !name.isHere := by
  induction names generalizing links here with
  | nil =>
      cases leads with
      | arrived => exact (List.append_nil there).symm
  | cons name rest inductionHypothesis =>
      have goesOn {fewer : Nat} {next : Location}
          (later : disk.Leads fewer next rest left there) :=
        inductionHypothesis later fun other member =>
          noUps other (.tail _ member)
      cases leads with
      | step steps later =>
          cases steps with
          | empty _ isSpecial | dot _ isSpecial =>
              have isHere : name.isHere = true := by
                simp [isSpecial, Name.isHere]
              rw [List.filter_cons_of_neg (by simp [isHere])] at noLinks ⊢
              exact goesOn later noLinks
          | up _ isUp =>
              have notUp := noUps name (.head _)
              simp [isUp, Name.isUp] at notUp
          | follow _ isPlain stands =>
              have notHere := (not_special_of_isPlain isPlain).2.2.2.1
              rw [List.filter_cons_of_pos (by simp [notHere])] at noLinks
              exact absurd stands
                (noLinks [name] (List.prefix_append [name] _)
                  (List.cons_ne_nil _ _) _)
          | down _ isPlain =>
              have notHere := (not_special_of_isPlain isPlain).2.2.2.1
              rw [List.filter_cons_of_pos (by simp [notHere])] at noLinks ⊢
              rw [List.append_cons here name]
              refine goesOn later fun first isFirst _ target => ?_
              rw [List.append_assoc]
              exact noLinks (name :: first)
                ((List.prefix_cons_inj name).mpr isFirst)
                (List.cons_ne_nil _ _) target

/-- A step from a location with plain names leads to one. -/
theorem Steps.isPlain
    {links fewer : Nat}
    {here next : Location}
    {name : Name}
    {names : List Name}
    (steps : disk.Steps links here name fewer next names)
    (arePlain : ∀ name ∈ here, name.isPlain = true) :
    ∀ name ∈ next, name.isPlain = true := by
  intro other member
  cases steps with
  | empty | dot => exact arePlain other member
  | up => exact arePlain other (List.dropLast_subset here member)
  | down _ isPlain =>
      rcases List.mem_append.mp member with inHere | isName
      · exact arePlain other inHere
      · exact List.mem_singleton.mp isName ▸ isPlain
  | follow =>
      unfold Path.start at member
      split at member
      · simp at member
      · exact arePlain other member

/-- Names lead from a location with plain names to one. -/
theorem Leads.isPlain
    {links left : Nat}
    {here there : Location}
    {names : List Name}
    (leads : disk.Leads links here names left there)
    (arePlain : ∀ name ∈ here, name.isPlain = true) :
    ∀ name ∈ there, name.isPlain = true := by
  induction leads with
  | arrived => exact arePlain
  | step steps _ inductionHypothesis =>
      exact inductionHypothesis (steps.isPlain arePlain)

/-- What a name leads to from a standing location is no link. -/
theorem Steps.not_link
    {links fewer : Nat}
    {here next : Location}
    {name : Name}
    (steps : disk.Steps links here name fewer next [])
    (standing : disk.Standing here)
    (target : Path) :
    disk.get? next ≠ some (.link target) := by
  have ofDirectory
      {location : Location}
      (isDirectory : disk.HasDirectory location) :
      disk.get? location ≠ some (.link target) := by
    obtain ⟨mode, stands⟩ := isDirectory
    simp [stands]
  generalize isNil : ([] : List Name) = names at steps
  cases steps with
  | follow => exact absurd isNil.symm (Path.names_ne_nil _)
  | empty isDirectory => exact ofDirectory isDirectory
  | dot isOpen => exact ofDirectory isOpen.hasDirectory
  | up isOpen =>
      by_cases isRoot : here = []
      · subst isRoot
        exact ofDirectory isOpen.hasDirectory
      · refine ofDirectory (standing _ (List.dropLast_prefix here) ?_)
        intro isSame
        have isShorter := congrArg List.length isSame
        rw [Disk.above, List.length_dropLast] at isShorter
        have notNil := List.length_pos_iff.mpr isRoot
        omega
  | down _ _ stands noLink =>
      rw [stands]
      rintro ⟨⟩
      simp [Entry.isLink] at noLink

/-- What names lead to from a standing location is no link, if there are names. -/
theorem Leads.not_link
    {links left : Nat}
    {here there : Location}
    {names : List Name}
    (leads : disk.Leads links here names left there)
    (standing : disk.Standing here)
    (notNil : names ≠ [])
    (target : Path) :
    disk.get? there ≠ some (.link target) := by
  induction leads with
  | arrived => exact absurd rfl notNil
  | @step _ _ _ _ _ _ _ names rest steps later inductionHypothesis =>
      by_cases isLast : names ++ rest = []
      · obtain ⟨rfl, rfl⟩ := List.append_eq_nil_iff.mp isLast
        cases later with
        | arrived => exact steps.not_link standing target
      · exact inductionHypothesis (steps.standing standing) isLast

end

end Provision.Disk
