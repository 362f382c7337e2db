import Provision.Shell.State

namespace Provision.Shell.Builtin

/-!
# Variables and arguments

Variables are shown to child processes, protected, made those of a function, forgotten and listed;
the arguments of the shell are dropped.
-/

open Run

/-- A text between quotes; the first argument bounds the number of single quotes in it. -/
def quotedParts : Nat → ByteText → ByteText
  | 0, _ => []
  | steps + 1, text =>
      let part := text.takeWhile (· ≠ '\'')
      let quotes := (text.drop part.length).takeWhile (· = '\'')
      let rest := text.drop (part.length + quotes.length)
      let opening := '\'' :: part ++ ['\'']
      if quotes.isEmpty then opening
      else opening ++ '"' :: quotes ++ '"' :: (if rest.isEmpty then [] else quotedParts steps rest)

/-- A text between quotes as the shell writes it: single quotes stand between double ones. -/
def shellQuoted (text : ByteText) : ByteText :=
  quotedParts (text.length + 1) text

/-- The number that the first argument of a command gives, or else a default. -/
def countOf (default : Nat) (arguments : List ByteText) : Run Nat :=
  match arguments with
  | [] => return default
  | argument :: _ =>
      match Text.decimal? argument with
      | some count => return count
      | none => fail (illegalNumber argument)

/-- Names in byte order. -/
def sortedNames (names : List ByteText) : List ByteText :=
  names.mergeSort fun a b => !decide (b < a)

/-- Name variables with their values, each after some word. -/
def listVariables (opening : ByteText) (names : List ByteText) : Run Unit := do
  let state ← get
  let lines := (sortedNames names).map fun name =>
    opening ++ name ++ (state.valueOf? name).elim [] fun value => '=' :: shellQuoted value
  print (.unlines lines)

/-- The name and the value in an argument. -/
def nameAndValue (argument : ByteText) : ByteText × Option ByteText :=
  match Text.cut? '=' argument with
  | some (name, value) => (name, some value)
  | none => (argument, none)

/-- Do something with the name in each argument, after the value in it if any has been set. -/
def declare
    (word : String)
    (marked : State → List ByteText)
    (mark : State → ByteText → State)
    (arguments : List ByteText) :
    Run Unit := do
  let (letters, operands) ← takeOptions ['p'] arguments
  if operands.isEmpty || letters.contains 'p' then
    listVariables (word.toList ++ [' ']) (marked (← get))
  else
    for operand in operands do
      let (name, value) := nameAndValue operand
      requireName name
      if let some value := value then
        assign name value
      modify fun state => mark state name
    finish 0

/-- Show variables to child processes. -/
def exportVariables : List ByteText → Run Unit :=
  declare "export" State.exported State.showVariable

/-- Protect variables. -/
def protect : List ByteText → Run Unit :=
  declare "readonly" State.fixed fun state name =>
    { state with fixed := name :: state.fixed.filter (· ≠ name) }

/-- Make variables those of the running function, and set them. -/
def declareLocals (arguments : List ByteText) : Run Unit := do
  if (← get).depth = 0 then
    fail "not in a function".toList
  for argument in arguments do
    let (name, value) := nameAndValue argument
    if name ≠ State.optionsName then
      requireName name
    modify fun state => state.makeLocal name
    if let some value := value then
      assign name value
  finish 0

/-- Forget variables, or functions if asked to. -/
def unset (arguments : List ByteText) : Run Unit := do
  let (letters, names) ← takeOptions ['v', 'f'] arguments
  if letters.getLast? = some 'f' then
    modify fun state =>
      { state with functions := state.functions.filter fun (name, _) => name ∉ names }
  else
    for name in names do
      requireName name
      forget name
  finish 0

/-- Drop arguments of the shell. -/
def shift (arguments : List ByteText) : Run Unit := do
  let count ← countOf 1 arguments
  let state ← get
  if count > state.arguments.length then
    fail "can't shift that many".toList
  else
    set { state with
      arguments := state.arguments.drop count, optionPlace := (1, []), status := 0 }

/-!
# Options

Options of the shell are set and listed, and the options among the arguments of a script are read
one by one.
-/

/-- The options by name, with the letters of those that have one. -/
def optionNames : List (String × Char) :=
  [("errexit", 'e'), ("noglob", 'f'), ("ignoreeof", 'I'), ("interactive", 'i'), ("monitor", 'm'),
    ("noexec", 'n'), ("stdin", 's'), ("xtrace", 'x'), ("verbose", 'v'), ("vi", 'V'), ("emacs", 'E'),
    ("noclobber", 'C'), ("allexport", 'a'), ("notify", 'b'), ("nounset", 'u'),
    ("privileged", '\x01'), ("nolog", '\x02'), ("debug", '\x03')]

/-- The option with a name. -/
def option? (name : ByteText) : Option Char :=
  (optionNames.find? fun (other, _) => other.toList = name).map Prod.snd

/-- Set or reset an option in a list of them. -/
def switch (isSet : Bool) (option : Char) (options : List Char) : List Char :=
  let others := options.filter (· ≠ option)
  if isSet then others ++ [option] else others

/-- How the options are to be listed after options have been read. -/
inductive OptionListing where
  | none
  | table
  | commands
  deriving Repr, DecidableEq

/-- What comes of reading options: those that are set, and what is left of the arguments. -/
structure OptionReading where
  options : List Char
  rest : List ByteText
  listing : OptionListing := .none

/--
Options at the start of arguments, put into a list of options, and the arguments after them; or the
option that there is not.  Further letters may be allowed.
-/
def readOptions (allowed : List Char) :
    List Char → List ByteText → Except ByteText OptionReading
  | options, [] => .ok ⟨options, [], .none⟩
  | options, ['-'] :: rest => .ok ⟨options.filter fun letter => letter ∉ ['v', 'x'], rest, .none⟩
  | options, ['+'] :: rest => readOptions allowed options rest
  | options, (sign :: first :: letters) :: rest =>
      let isSet := sign = '-'
      if !isSet && sign ≠ '+' then
        .ok ⟨options, (sign :: first :: letters) :: rest, .none⟩
      else if first :: letters = ['-'] then
        .ok ⟨options, rest, .none⟩
      else
        let letters := first :: letters
        let plain := letters.filter (· ≠ 'o')
        match plain.find? fun letter =>
          !(allowed.contains letter || (letter.isAlpha && optionNames.any (·.2 = letter))) with
        | some letter => .error ['-', letter]
        | none =>
            let options := plain.foldl (fun options letter => switch isSet letter options) options
            match letters.contains 'o', rest with
            | true, name :: rest =>
                match option? name with
                | some letter => readOptions allowed (switch isSet letter options) rest
                | none => .error ("-o ".toList ++ name)
            | true, [] => .ok ⟨options, [], if isSet then .table else .commands⟩
            | false, rest => readOptions allowed options rest
  | options, arguments => .ok ⟨options, arguments, .none⟩

/-- A list of all options. -/
def optionListing (options : List Char) : OptionListing → ByteText
  | .none => []
  | .table =>
      let lines := optionNames.map fun (name, letter) =>
        let padding := List.replicate (16 - name.length) ' '
        name.toList ++ padding ++ (if options.contains letter then "on" else "off").toList
      .unlines ("Current option settings".toList :: lines)
  | .commands =>
      .unlines (optionNames.map fun (name, letter) =>
        "set ".toList ++ (if options.contains letter then ['-'] else ['+']) ++ "o ".toList ++
          name.toList)

/-- Set options and arguments of the shell, or list its variables. -/
def setOptions (arguments : List ByteText) : Run Unit := do
  let state ← get
  if arguments.isEmpty then
    listVariables [] (state.bindings.map Prod.fst)
  else
    match readOptions [] state.options arguments with
    | .error option => fail ("Illegal option ".toList ++ option)
    | .ok reading => do
        let isGiven := !reading.rest.isEmpty || arguments.contains ['-', '-']
        set { state with
          options := reading.options
          status := 0
          arguments := if isGiven then reading.rest else state.arguments
          optionPlace := if isGiven then (1, []) else state.optionPlace }
        print (optionListing reading.options reading.listing)

/-! ## Options among arguments -/

/-- What is left of an argument with options in it. -/
inductive NextOption where
  | ended (place : Nat)
  | letter (c : Char) (letters : ByteText) (place : Nat)

/-- The next option among arguments, from the place that has been reached. -/
def nextOption (arguments : List ByteText) (place : Nat) (letters : ByteText) : NextOption :=
  match letters with
  | c :: rest => .letter c rest place
  | [] =>
      match arguments[place - 1]? with
      | some ['-', '-'] => .ended (place + 1)
      | some ('-' :: c :: rest) => .letter c rest (place + 1)
      | _ => .ended place

/-- Whether an option is in a list of letters, and whether a value belongs to it. -/
def optionUse? (letters : ByteText) (option : Char) : Option Bool :=
  match letters with
  | [] => none
  | c :: rest =>
      if c = option then some (rest.head? = some ':')
      else optionUse? rest option

/-- The option that has been found, and where the next one is looked for. -/
def noteOption (name : ByteText) (found : Char) (place : Nat) (letters : ByteText) : Run Unit := do
  assign "OPTIND".toList (.ofNat place)
  assign name [found]
  modify fun state => { state with optionPlace := (place, letters) }

/-- Read the next option of some arguments into a variable. -/
def getopts (arguments : List ByteText) : Run Unit := do
  match arguments with
  | known :: name :: given => do
      let state ← get
      let given := if given.isEmpty then state.arguments else given
      let isQuiet := known.head? = some ':'
      let (place, letters) := state.optionPlace
      let (place, letters) := if place > given.length + 1 then (1, []) else (place, letters)
      requireName name
      match nextOption given place letters with
      | .ended place => do
          noteOption name '?' place []
          finish 1
      | .letter c letters place => do
          match optionUse? (known.dropWhile (· = ':')) c with
          | none => do
              if isQuiet then
                assign "OPTARG".toList [c]
              else
                modify fun state => state.write 2 ("Illegal option -".toList ++ [c, '\n'])
                forget "OPTARG".toList
              noteOption name '?' place letters
          | some false => do
              assign "OPTARG".toList []
              noteOption name c place letters
          | some true =>
              match letters, given[place - 1]? with
              | [], none => do
                  if isQuiet then
                    assign "OPTARG".toList [c]
                  else
                    modify fun state =>
                      state.write 2 ("No arg for -".toList ++ c :: " option\n".toList)
                    forget "OPTARG".toList
                  noteOption name (if isQuiet then ':' else '?') place []
              | [], some value => do
                  assign "OPTARG".toList value
                  noteOption name c (place + 1) []
              | value, _ => do
                  assign "OPTARG".toList value
                  noteOption name c place []
          finish 0
  | _ => fail "Usage: getopts optstring var [arg...]".toList

end Provision.Shell.Builtin
