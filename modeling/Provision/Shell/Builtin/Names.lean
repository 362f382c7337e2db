import Provision.Shell.Builtin.Variables
import Provision.Shell.Search
import Provision.Shell.Source

namespace Provision.Shell.Builtin

/-!
# Names of commands

A name may be an alias, which stands for a text, or the name of a program that has been looked for
before.
-/

open Run

/-- An alias with its text as the shell writes it. -/
def aliasText (name value : ByteText) : ByteText :=
  name ++ '=' :: shellQuoted value

/-- Write a line about something that is missing without naming the shell. -/
def noteMissing (command : String) (name : ByteText) : Run Unit :=
  modify fun state =>
    let line := command.toList ++ ": ".toList ++ name ++ " not found\n".toList
    { state.write 2 line with status := 1 }

/-- Set the alias in an argument; otherwise the answer is the line that names the alias. -/
def setAlias (argument : ByteText) : Run (List ByteText) := do
  match Text.cut? '=' argument with
  | some (c :: name, value) => do
      modify fun state =>
        { state with aliases := Keyed.update (c :: name) value state.aliases }
      return []
  | _ =>
      match (← get).aliases.lookup argument with
      | some value => return [aliasText argument value]
      | none => do
          noteMissing "alias" argument
          return []

/-- Set aliases, or name them. -/
def setAliases (arguments : List ByteText) : Run Unit := do
  let state ← get
  finish 0
  if arguments.isEmpty then
    let sorted := ranked (fun (name, _) => tableRank 39 name) state.aliases
    print (.unlines (sorted.map fun (name, value) => aliasText name value))
  else
    let named ← arguments.mapM setAlias
    let status := (← get).status
    print (.unlines named.flatten)
    finish status

/-- Forget aliases. -/
def dropAliases (arguments : List ByteText) : Run Unit := do
  let (letters, names) ← takeOptions ['a'] arguments
  finish 0
  if letters.contains 'a' then
    modify fun state => { state with aliases := [] }
  else
    for name in names do
      if ((← get).aliases.lookup name).isNone then
        noteMissing "unalias" name
      else
        modify fun state => { state with aliases := Keyed.drop name state.aliases }

/-!
# What names stand for

The shell tells what a command would be: a word of the language, an alias, a function, a command
that the shell carries out itself, or a program.
-/

/-- Commands that the shell carries out itself and that are not special. -/
def regularCommands : List String :=
  ["alias", "bg", "cd", "chdir", "command", "echo", "false", "fg", "getopts", "hash", "jobs",
      "kill",
    "printf", "pwd", "read", "test", "true", "type", "ulimit", "umask", "unalias", "wait", "["]

/-- Whether a command is special. -/
def isSpecial (name : ByteText) : Bool :=
  specialCommands.any (·.toList = name)

/-- Whether the shell carries out a command itself. -/
def isBuiltin (name : ByteText) : Bool :=
  isSpecial name || regularCommands.any (·.toList = name)

/--
Tell what a name stands for, in words if so asked; programs are looked for in some directories.
-/
def describe (isVerbose : Bool) (path : ByteText) (name : ByteText) : Run Nat := do
  let state ← get
  let say := fun (words : String) (short : ByteText) (status : Nat) => do
    print ((if isVerbose then name ++ words.toList else short) ++ ['\n'])
    return status
  if (Token.keyword? name).isSome then
    say " is a shell keyword" name 0
  else
    match state.aliases.lookup name with
    | some value =>
        say (" is an alias for " ++ String.ofList value) ("alias ".toList ++ aliasText name value) 0
    | none =>
        if (state.functions.lookup name).isSome then
          say " is a shell function" name 0
        else if isBuiltin name then
          say (if isSpecial name then " is a special shell builtin" else " is a shell builtin")
            name 0
        else
          let found :=
            if name.contains '/' then
              if (state.disk.status state.workingDirectory true name.toPath).isOk then some name
              else none
            else
              ((state.programPaths path name).toOption.bind List.head?)
          match found with
          | some found =>
              let opening := if name ∈ state.known then " is a tracked alias for " else " is "
              if path = state.searchPath then
                remember name
              say (opening ++ String.ofList found) found 0
          | none => do
              if isVerbose then
                print (name ++ ": not found\n".toList)
              return 127

/-- Tell what names stand for. -/
def describeAll (names : List ByteText) : Run Unit := do
  let mut status := 0
  for name in names do
    status := max status (← describe true (← get).searchPath name)
  finish status

/-- List the programs that have been found, look for others, or forget them all. -/
def hash (arguments : List ByteText) : Run Unit := do
  let (letters, names) ← takeOptions ['r'] arguments
  let state ← get
  finish 0
  if letters.contains 'r' then
    set { state with known := [], status := 0 }
  else if names.isEmpty then
    let sorted := ranked (tableRank 31) state.known.reverse
    print (.unlines (sorted.filterMap fun name =>
      (state.programPaths state.searchPath name).toOption.bind List.head?))
  else
    for name in names do
      if !isBuiltin name && ((← get).functions.lookup name).isNone then
        match (← get).programPaths (← get).searchPath name with
        | .ok _ => remember name
        | .error fault => do
            complainMissing name fault
            finish 1

end Provision.Shell.Builtin
