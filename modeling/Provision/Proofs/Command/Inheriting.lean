import Provision.Command.Basic
import Provision.Proofs.Text.Fields

namespace Provision

/-!
# What a child process inherits

A child process has the variables that are bound for it, of several values the last one, and inherits all others.
Its search path is put together from the directories in front and the search path that was bound for it or that it
would inherit.  When a directory in front has the separator in its name, nothing is put together, and then the child
has the inherited search path also where another one was bound.
-/

/-- The value of a variable in a child process: the last that is bound to its name, or else the inherited one. -/
def ChildProcess.valueOf?
    (child : ChildProcess)
    (inherited : List (String × String))
    (name : String) :
    Option String :=
  (child.bindings.reverse.lookup name).or (inherited.lookup name)

/-- The environment that a host makes by its bindings, one after the other, has the value of each variable. -/
theorem ChildProcess.lookup_foldl_update
    (child : ChildProcess)
    (inherited : List (String × String))
    (name : String) :
    (child.bindings.foldl
        (fun environment (key, value) => Keyed.update key value environment)
        inherited).lookup name =
      child.valueOf? inherited name := by
  rw [valueOf?, ← List.foldr_reverse]
  induction child.bindings.reverse with
  | nil => rfl
  | cons binding earlier inductionHypothesis =>
      obtain ⟨key, value⟩ := binding
      rw [List.foldr_cons, List.lookup_cons]
      by_cases isKey : name = key
      · subst isKey
        simp
      · have notKey : (name == key) = false := by simp [isKey]
        rw [notKey, Keyed.lookup_update_of_ne _ _ isKey]
        exact inductionHypothesis

namespace Command

variable {directories : List String}

/-- Directories cannot be joined exactly if one of them has the separator in its name. -/
theorem joinSearchPath_eq_none_iff :
    joinSearchPath directories = none ↔
      ∃ directory ∈ directories, ':' ∈ directory.toList := by
  rw [joinSearchPath, ite_eq_left_iff]
  simp

/-- The directories of a joined search path are those that were joined. -/
theorem splitSearchPath_of_joinSearchPath
    {path : String}
    (notNil : directories ≠ [])
    (isJoined : joinSearchPath directories = some path) :
    splitSearchPath path = directories := by
  have areApart :
      ∀ part ∈ directories.map String.toList, ':' ∉ part := by
    intro part member isHere
    obtain ⟨directory, isDirectory, rfl⟩ := List.mem_map.mp member
    have isNone := joinSearchPath_eq_none_iff.mpr ⟨directory, isDirectory, isHere⟩
    simp [isNone] at isJoined
  have isPath : ":".intercalate directories = path := by
    unfold joinSearchPath at isJoined
    split at isJoined
    · simp at isJoined
    · exact Option.some.inj isJoined
  have isSeparator : ":".toList = [':'] := rfl
  rw [← isPath, splitSearchPath, String.toList_intercalate, isSeparator,
    Text.intercalate_eq_join,
    Text.fields_join (by simpa using notNil) areApart, List.map_map]
  exact (List.map_congr_left fun _ _ => String.ofList_toList).trans
    (List.map_id directories)

/-- No directory of a search path has the separator in its name. -/
theorem not_mem_of_mem_splitSearchPath
    {directory path : String}
    (member : directory ∈ splitSearchPath path) :
    ':' ∉ directory.toList := by
  obtain ⟨field, isField, rfl⟩ := List.mem_map.mp member
  rw [String.toList_ofList]
  exact Text.not_mem_of_mem_fields isField

/-- A search path is joined from its directories. -/
theorem joinSearchPath_splitSearchPath (path : String) :
    joinSearchPath (splitSearchPath path) = some path := by
  have noSeparator :
      ¬(splitSearchPath path).any
          (fun directory => directory.toList.contains ':') = true := by
    rw [List.any_eq_true]
    rintro ⟨directory, member, isHere⟩
    exact not_mem_of_mem_splitSearchPath member (by simpa using isHere)
  rw [joinSearchPath, if_neg noSeparator]
  refine congrArg some (String.toList_inj.mp ?_)
  have isSeparator : ":".toList = [':'] := rfl
  rw [String.toList_intercalate, isSeparator, Text.intercalate_eq_join,
    splitSearchPath, List.map_map]
  have isSame : String.toList ∘ String.ofList = id :=
    funext fun _ => String.toList_ofList
  rw [isSame, List.map_id, Text.join_fields]

variable {inherited : List (String × String)}
variable {command : Command}

/-- The search path that is bound for a child is the last value of its variable. -/
theorem ownSearchPath?_eq_lookup (command : Command) :
    command.ownSearchPath? = command.bindings.reverse.lookup searchPathName := by
  unfold ownSearchPath?
  induction command.bindings.reverse with
  | nil => rfl
  | cons binding earlier inductionHypothesis =>
      obtain ⟨key, value⟩ := binding
      rw [List.lookup_cons, List.find?_cons]
      by_cases isKey : key = searchPathName
      · simp [isKey]
      · have notKey : (searchPathName == key) = false := by
          simpa using Ne.symm isKey
        simpa [isKey, notKey] using inductionHypothesis

/-- A child has the last value of a variable that is bound for it, but for the search path. -/
theorem valueOf?_child_of_ne
    {name : String}
    (isOther : name ≠ searchPathName)
    (searchPath : Option String) :
    (command.child searchPath).valueOf? inherited name =
      (command.bindings.reverse.lookup name).or (inherited.lookup name) := by
  have notPath : (name == searchPathName) = false := by simpa using isOther
  have noPath :
      (((command.childSearchPath? searchPath).toList.map fun path =>
        (searchPathName, path)).reverse).lookup name = none := by
    cases command.childSearchPath? searchPath with
    | none => rfl
    | some path => simp [List.lookup_cons, notPath]
  have isKept :
      (command.bindings.reverse.filter fun (key, _) =>
          key ≠ searchPathName).lookup name =
        command.bindings.reverse.lookup name :=
    Keyed.lookup_filter _ (fun key => decide (key ≠ searchPathName)) name
      (by simpa using isOther)
  rw [ChildProcess.valueOf?, child, List.reverse_append, List.lookup_append,
    noPath, Option.none_or, ← List.filter_reverse, isKept]

/-- A child has the search path that is put together for it, or else the inherited one. -/
theorem valueOf?_child_searchPath (searchPath : Option String) :
    (command.child searchPath).valueOf? inherited searchPathName =
      (command.childSearchPath? searchPath).or
        (inherited.lookup searchPathName) := by
  rw [ChildProcess.valueOf?, child, List.reverse_append, List.lookup_append]
  cases command.childSearchPath? searchPath with
  | some path => simp
  | none =>
      have isDropped :
          (command.bindings.reverse.filter fun (key, _) =>
              key ≠ searchPathName).lookup searchPathName =
            none :=
        Keyed.lookup_filter_dropped _
          (fun key => decide (key ≠ searchPathName)) searchPathName (by simp)
      rw [Option.toList_none, List.map_nil, List.reverse_nil,
        List.lookup_nil, Option.none_or, ← List.filter_reverse, isDropped]

/-- Nothing is put together for a child when a directory in front has the separator in its name. -/
theorem childSearchPath?_eq_none
    {path : Path}
    (member : path ∈ command.leadingPaths)
    (isHere : ':' ∈ path.display.toList)
    (searchPath : Option String) :
    command.childSearchPath? searchPath = none := by
  have notEmpty : command.leadingPaths.isEmpty = false := by
    simpa using List.ne_nil_of_mem member
  rw [childSearchPath?, notEmpty, Bool.false_and, if_neg Bool.false_ne_true,
    joinSearchPath_eq_none_iff]
  exact ⟨path.display,
    List.mem_append_left _ (List.mem_map_of_mem member), isHere⟩

/-- The directories in front come before those of the search path that is bound or inherited. -/
theorem exists_childSearchPath?
    (notEmpty : command.leadingPaths ≠ [])
    (noSeparators : ∀ path ∈ command.leadingPaths, ':' ∉ path.display.toList)
    (searchPath : Option String) :
    ∃ path,
      command.childSearchPath? searchPath = some path ∧
        splitSearchPath path =
          command.leadingPaths.map Path.display ++
            splitSearchPath ((command.ownSearchPath?.or searchPath).getD "") := by
  have isEmpty : command.leadingPaths.isEmpty = false := by simpa using notEmpty
  rw [childSearchPath?, isEmpty, Bool.false_and, if_neg Bool.false_ne_true,
    Option.orElse_eq_or]
  generalize (command.ownSearchPath?.or searchPath).getD "" = base
  cases isJoined : joinSearchPath
      (command.leadingPaths.map Path.display ++ splitSearchPath base) with
  | some path =>
      refine ⟨path, rfl, splitSearchPath_of_joinSearchPath ?_ isJoined⟩
      simp [notEmpty]
  | none =>
      obtain ⟨directory, member, isHere⟩ := joinSearchPath_eq_none_iff.mp isJoined
      refine absurd isHere ?_
      rcases List.mem_append.mp member with member | member
      · obtain ⟨path, isLeading, rfl⟩ := List.mem_map.mp member
        exact noSeparators path isLeading
      · exact not_mem_of_mem_splitSearchPath member

/--
The environment of a child.  Its search path is the one that was bound for it last, or else the inherited one, with
the directories in front before it.  If one of these has the separator in its name, it is the inherited one, and what
was bound is lost.  Every other variable has the last value that was bound to it, or else the inherited one.
-/
theorem child_variables
    (command : Command)
    (inherited : List (String × String)) :
    (command.leadingPaths = [] →
        (command.child (inherited.lookup searchPathName)).valueOf? inherited
            searchPathName =
          (command.bindings.reverse.lookup searchPathName).or
            (inherited.lookup searchPathName)) ∧
      (command.leadingPaths ≠ [] →
        (∀ path ∈ command.leadingPaths, ':' ∉ path.display.toList) →
        ∃ path,
          (command.child (inherited.lookup searchPathName)).valueOf? inherited
              searchPathName =
            some path ∧
          splitSearchPath path =
            command.leadingPaths.map Path.display ++
              splitSearchPath
                (((command.bindings.reverse.lookup searchPathName).or
                  (inherited.lookup searchPathName)).getD "")) ∧
      ((∃ path ∈ command.leadingPaths, ':' ∈ path.display.toList) →
        (command.child (inherited.lookup searchPathName)).valueOf? inherited
            searchPathName =
          inherited.lookup searchPathName) ∧
      ∀ name,
        name ≠ searchPathName →
        (command.child (inherited.lookup searchPathName)).valueOf? inherited
            name =
          (command.bindings.reverse.lookup name).or (inherited.lookup name) := by
  rw [← ownSearchPath?_eq_lookup]
  refine ⟨fun isEmpty => ?_, fun notEmpty noSeparators => ?_, ?_, fun name isOther => ?_⟩
  · rw [valueOf?_child_searchPath, childSearchPath?, isEmpty]
    cases command.ownSearchPath? with
    | none => rfl
    | some path =>
        change (joinSearchPath (splitSearchPath path)).or _ = _
        rw [joinSearchPath_splitSearchPath]
  · obtain ⟨path, isPath, isSplit⟩ :=
      exists_childSearchPath? notEmpty noSeparators (inherited.lookup searchPathName)
    exact ⟨path, by rw [valueOf?_child_searchPath, isPath, Option.some_or], isSplit⟩
  · rintro ⟨path, member, isHere⟩
    rw [valueOf?_child_searchPath, childSearchPath?_eq_none member isHere,
      Option.none_or]
  · exact valueOf?_child_of_ne isOther _

/-- A search path that was bound is lost when a directory in front of it cannot be joined. -/
example :
    let command : Command :=
      { program := "sh"
        bindings := [("PATH", "/own/bin")]
        leadingPaths := [("/opt/a:b" : String)] }
    (command.child (some "/usr/bin")).valueOf? [("PATH", "/usr/bin")] "PATH" =
      some "/usr/bin" := by
  decide +kernel

end Command

end Provision
