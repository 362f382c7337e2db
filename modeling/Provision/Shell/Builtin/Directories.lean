import Provision.Shell.Mode
import Provision.Shell.State

namespace Provision.Shell.Builtin

/-!
# Directories and new files

The shell goes to directories, names the one where it is, and says which permissions new files do
not get.
-/

open Run

/-- The text of the directory to which a path leads from a place, without looking at links. -/
def placeFrom (place target : ByteText) : ByteText :=
  let text := if target.head? = some '/' then target else place ++ '/' :: target
  let names := (Text.fields '/' text).foldl
    (fun names name =>
      if name = ['.', '.'] then names.dropLast
      else if name.isEmpty || name = ['.'] then names
      else names ++ [name])
    []
  '/' :: Text.join '/' names

/-- The directory that a path leads to, if it may be entered. -/
def enterable? (state : State) (path : ByteText) : Option Location :=
  match state.disk.entryAt state.workingDirectory true path.toPath with
  | .ok (location, .directory mode) =>
      if (Entry.directory mode).allows .execute then some location else none
  | _ => none

/-- The paths that are tried to get to a target: below the usual directories, or as it is. -/
def targetsOf (state : State) (target : ByteText) : List ByteText :=
  let first := ((Text.fields '/' target).head?).getD []
  let isPlain := target.head? ≠ some '/' && first ≠ ['.'] && first ≠ ['.', '.']
  match state.valueOf? "CDPATH".toList with
  | some usual =>
      if isPlain && !usual.isEmpty then
        ((Text.fields ':' usual).map fun above =>
          if above.isEmpty then target else above ++ '/' :: target) ++ [target]
      else
        [target]
  | none => [target]

/-- Go to another directory. -/
def cd (arguments : List ByteText) : Run Unit := do
  let (letters, operands) ← takeOptions ['L', 'P'] arguments
  let state ← get
  let isPhysical := letters.getLast? = some 'P'
  let goesBack := operands.head? = some ['-']
  let target :=
    match operands with
    | [] => (state.valueOf? "HOME".toList).getD []
    | ['-'] :: _ => (state.valueOf? "OLDPWD".toList).getD []
    | target :: _ => target
  let target := if target.isEmpty then ['.'] else target
  let found := (targetsOf state target).findSome? fun path =>
    let place := placeFrom state.place path
    (enterable? state (if isPhysical then path else place)).map fun location =>
      (path, place, location)
  match found with
  | none => fail ("can't cd to ".toList ++ target)
  | some (path, place, location) => do
      let place := if isPhysical then ByteText.ofPath (Disk.pathOf location) else place
      let moved := (state.exportVariable "OLDPWD".toList state.place).exportVariable
        "PWD".toList place
      set { moved with place, workingDirectory := location, status := 0 }
      if goesBack || path ≠ target then
        print (place ++ ['\n'])

/-- Name the working directory. -/
def pwd (arguments : List ByteText) : Run Unit := do
  let (letters, _) ← takeOptions ['L', 'P'] arguments
  let state ← get
  let place :=
    if letters.getLast? = some 'P' then ByteText.ofPath (Disk.pathOf state.workingDirectory)
    else state.place
  print (place ++ ['\n'])

/-- The permissions of one kind of user as letters. -/
def permissionLetters (bits : Nat) : ByteText :=
  [('r', 4), ('w', 2), ('x', 1)].filterMap fun (letter, bit) =>
    if bits &&& bit ≠ 0 then some letter else none

/-- The mask that an argument stands for. -/
def maskOf (mask : Nat) (text : ByteText) : Run Nat := do
  if text.head?.any Char.isDigit then
    if text.all ModeChange.isOctal then return ModeChange.octalValue text &&& 0o777
    else fail (illegalNumber text)
  else
    match ModeChange.read? text with
    | some changes =>
        let allowed := ModeChange.applyAll changes false 0 (0o777 - (mask &&& 0o777))
        return 0o777 - (allowed &&& 0o777)
    | none => fail ("Illegal mode: ".toList ++ text)

/-- Set or name the permissions that new files do not get. -/
def umask (arguments : List ByteText) : Run Unit := do
  let (letters, operands) ← takeOptions ['S'] arguments
  let mask := (← get).mask
  match operands with
  | text :: _ => do
      let mask ← maskOf mask text
      modify fun state => { state with mask, status := 0 }
  | [] =>
      if letters.isEmpty then
        print (ModeChange.octal mask ++ ['\n'])
      else
        let allowed := 0o777 - (mask &&& 0o777)
        let users := [('u', allowed / 64), ('g', allowed / 8 % 8), ('o', allowed % 8)]
        let parts := users.map fun (letter, bits) => letter :: '=' :: permissionLetters bits
        print (Text.join ',' parts ++ ['\n'])

/-!
# Reading lines

A line of the input is cut at separators into as many fields as there are variables for them.
-/

/-- A character of a line, which may be protected from being a separator. -/
abbrev LineChar := Char × Bool

/-- How a separator in a line counts. -/
structure Separation where
  separators : ByteText

namespace Separation

/-- Whether a character separates fields. -/
def separates (rule : Separation) (c : LineChar) : Bool :=
  !c.2 && rule.separators.contains c.1

/-- Whether a character is a blank that separates fields. -/
def isGap (rule : Separation) (c : LineChar) : Bool :=
  rule.separates c && c.1 ∈ [' ', '\t', '\n']

/-- What is left after the separator at the start of a text: blanks, and one that is no blank. -/
def dropSeparator (rule : Separation) (text : List LineChar) : List LineChar :=
  let after := text.dropWhile rule.isGap
  if after.head?.any rule.separates then after.tail.dropWhile rule.isGap else after

/--
The last field, which is all that is left.  Blanks at its end do not count, nor does a separator at
its end if it is the only one.
-/
def lastField (rule : Separation) (text : List LineChar) : List LineChar :=
  let field := text.takeWhile fun c => !rule.separates c
  if (rule.dropSeparator (text.drop field.length)).isEmpty then
    field
  else
    (text.reverse.dropWhile rule.isGap).reverse

/-- The fields of a line, as many as there are names. -/
def fields (rule : Separation) : List ByteText → List LineChar → List (ByteText × ByteText)
  | [], _ => []
  | [name], text => [(name, (rule.lastField (text.dropWhile rule.isGap)).map Prod.fst)]
  | name :: names, text =>
      let text := text.dropWhile rule.isGap
      let field := text.takeWhile fun c => !rule.separates c
      (name, field.map Prod.fst) :: fields rule names (rule.dropSeparator (text.drop field.length))

end Separation

/--
The line at the start of a text, whether it is ended, and what is left after it.  A backslash
protects a character and joins lines unless lines are raw.
-/
def takeLine (isRaw : Bool) : ByteText → List LineChar × Bool × ByteText
  | [] => ([], false, [])
  | ['\\'] => if isRaw then ([('\\', false)], false, []) else ([], false, [])
  | '\\' :: c :: rest =>
      if isRaw then
        if c = '\n' then
          ([('\\', false)], true, rest)
        else
          let (line, isEnded, rest) := takeLine isRaw (c :: rest)
          (('\\', false) :: line, isEnded, rest)
      else
        let (line, isEnded, rest) := takeLine isRaw rest
        (if c = '\n' then line else (c, true) :: line, isEnded, rest)
  | c :: rest =>
      if c = '\n' then
        ([], true, rest)
      else
        let (line, isEnded, rest) := takeLine isRaw rest
        (if c = '\x00' then line else (c, false) :: line, isEnded, rest)
termination_by text => text.length

/-- Whether lines are raw, and the names after the options of a command that reads. -/
def readArguments : List ByteText → Run (Bool × List ByteText)
  | [] => return (false, [])
  | argument :: rest =>
      match argument with
      | ['-', '-'] => return (false, rest)
      | '-' :: first :: letters => do
          let plain := (first :: letters).takeWhile (· ≠ 'p')
          if let some letter := plain.find? (· ≠ 'r') then
            fail ("Illegal option -".toList ++ [letter])
          let (isRaw, names) ←
            match (first :: letters).drop plain.length, rest with
            | ['p'], [] => fail "No arg for -p option".toList
            | ['p'], _ :: rest => readArguments rest
            | _, rest => readArguments rest
          return (isRaw || !plain.isEmpty, names)
      | _ => return (false, argument :: rest)

/-- Read a line into variables. -/
def read (arguments : List ByteText) : Run Unit := do
  let (isRaw, names) ← readArguments arguments
  if names.isEmpty then
    fail "arg count".toList
  let state ← get
  let text := state.unread 0
  let (line, isEnded, rest) := takeLine isRaw text
  set (state.leave 0 text rest)
  for (name, value) in (Separation.mk state.separators).fields names line do
    requireName name
    assign name value
  finish (if isEnded then 0 else 1)

end Provision.Shell.Builtin
