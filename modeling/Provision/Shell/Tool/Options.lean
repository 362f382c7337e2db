import Provision.Shell.Tool.Basic
import Provision.Text.Fields

namespace Provision.Shell.Tool

/-!
# Options and operands

Options are letters after a dash or words after two dashes.  They may stand among the operands,
unless the tool wants them in front; after a double dash there are only operands.  A word may be
shortened as long as no other option starts like that.
-/

/-- Whether a value belongs to an option. -/
inductive ValueUse where
  | never
  | always
  | perhaps
  deriving Repr, DecidableEq

/--
An option that a tool knows.  Options are told apart by their words, also those that can only be
given as letters.
-/
structure OptionKind where
  letters : List Char
  word : String
  value : ValueUse := .never
  isWord : Bool := true
  deriving Repr, DecidableEq

/-- An option with several letters or none. -/
def optionOf (letters : List Char) (word : String) (value : ValueUse) (isWord : Bool := true) :
    OptionKind :=
  { letters, word, value, isWord }

/-- An option without a value. -/
def flag (letter : Char) (word : String) : OptionKind :=
  { letters := [letter], word }

/-- An option with a value. -/
def valued (letter : Char) (word : String) : OptionKind :=
  { letters := [letter], word, value := .always }

/-- An option without a letter. -/
def wordOnly (word : String) : OptionKind :=
  { letters := [], word }

/-- An option that is only known by its letter. -/
def letterOnly (letter : Char) (word : String) : OptionKind :=
  { letters := [letter], word, isWord := false }

/-- Options and operands in the order in which they are given. -/
structure Arguments where
  options : List (String × ByteText) := []
  operands : List ByteText := []
  deriving Repr, DecidableEq

namespace Arguments

/-- Whether an option is given. -/
def has (arguments : Arguments) (word : String) : Bool :=
  arguments.options.any fun option => option.1 = word

/-- The values of an option. -/
def values (arguments : Arguments) (word : String) : List ByteText :=
  (arguments.options.filter fun option => option.1 = word).map Prod.snd

/-- The last value of an option. -/
def value? (arguments : Arguments) (word : String) : Option ByteText :=
  (arguments.values word).getLast?

/-- The last of some options that is given. -/
def last? (arguments : Arguments) (words : List String) : Option String :=
  ((arguments.options.filter fun option => option.1 ∈ words).map Prod.fst).getLast?

/-- Put an operand in front. -/
def withOperand (operand : ByteText) (arguments : Arguments) : Arguments :=
  { arguments with operands := operand :: arguments.operands }

/-- Put an option in front. -/
def withOption (word : String) (value : ByteText) (arguments : Arguments) : Arguments :=
  { arguments with options := (word, value) :: arguments.options }

/-- The option that a word stands for; what is wrong with the word otherwise. -/
def kindOf (kinds : List OptionKind) (word : ByteText) : Except ByteText OptionKind :=
  let written := "--".toList ++ word
  match kinds.filter fun kind => kind.isWord && word.isPrefixOf kind.word.toList with
  | [] => .error ("unrecognized option '".toList ++ written ++ ['\''])
  | [kind] => .ok kind
  | several =>
      match several.find? fun kind => kind.word.toList = word with
      | some kind => .ok kind
      | none =>
          let names := several.flatMap fun kind => " '--".toList ++ kind.word.toList ++ ['\'']
          .error ("option '".toList ++ written ++ "' is ambiguous; possibilities:".toList ++ names)

/-- The letters of one argument with their values; a value that is missing is in the next one. -/
def readLetters (kinds : List OptionKind) :
    ByteText → Except ByteText (List (String × ByteText) × Option String)
  | [] => .ok ([], none)
  | letter :: rest =>
      match kinds.find? fun kind => kind.letters.contains letter with
      | none => .error ("invalid option -- '".toList ++ [letter, '\''])
      | some { word, value := .always, .. } =>
          if rest.isEmpty then .ok ([], some word) else .ok ([(word, rest)], none)
      | some { word, value := .perhaps, .. } => .ok ([(word, rest)], none)
      | some { word, value := .never, .. } => do
          let (others, missing) ← readLetters kinds rest
          return ((word, []) :: others, missing)

/-- Read arguments; `inFront` says that there are no options after the first operand. -/
def read (kinds : List OptionKind) (inFront : Bool) : List ByteText → Except ByteText Arguments
  | [] => .ok {}
  | argument :: rest =>
      match argument with
      | ['-', '-'] => .ok { operands := rest }
      | '-' :: '-' :: text => do
          let (word, value) :=
            match Text.cut? '=' text with
            | some (word, value) => (word, some value)
            | none => (text, none)
          let kind ← kindOf kinds word
          let named := "option '--".toList ++ kind.word.toList
          match kind.value, value, rest with
          | .never, some _, _ => throw (named ++ "' doesn't allow an argument".toList)
          | .never, none, rest => return (← read kinds inFront rest).withOption kind.word []
          | .always, none, [] => throw (named ++ "' requires an argument".toList)
          | .always, none, value :: rest =>
              return (← read kinds inFront rest).withOption kind.word value
          | _, value, rest =>
              return (← read kinds inFront rest).withOption kind.word (value.getD [])
      | '-' :: letter :: letters => do
          let (options, missing) ← readLetters kinds (letter :: letters)
          let after ← match missing, rest with
            | none, rest => read kinds inFront rest
            | some _, [] =>
                let last := (letter :: letters).getLast?.getD letter
                throw ("option requires an argument -- '".toList ++ [last, '\''])
            | some word, value :: rest =>
                (read kinds inFront rest).map fun arguments => arguments.withOption word value
          return { after with options := options ++ after.options }
      | operand =>
          if inFront then .ok { operands := operand :: rest }
          else (read kinds inFront rest).map (Arguments.withOperand operand)

end Arguments

end Provision.Shell.Tool

namespace Provision.Shell.Work

open Tool

/-- Read the arguments of a call, or refuse it with a hint. -/
def arguments (kinds : List OptionKind) (inFront : Bool := false) (status : Nat := 1)
    (hint : Work Unit := pure ()) : Work Arguments := do
  match Arguments.read kinds inFront (← read).arguments with
  | .ok arguments => return arguments
  | .error text => do
      remark text
      hint
      giveUp status

/-- Refuse a call without operands. -/
def requireOperands (arguments : Arguments) (what : String := "operand") : Work Unit := do
  if arguments.operands.isEmpty then
    misuse ("missing ".toList ++ what.toList)

/-- Refuse a call with more operands than a tool takes. -/
def refuseMore (count : Nat) (arguments : Arguments) : Work Unit := do
  if let some operand := arguments.operands[count]? then
    misuse ("extra operand ".toList ++ quoted operand)

/--
The word that a value stands for, which may be shortened as long as its meaning is clear.  Words in
one group mean the same, and the first of a group is the answer.
-/
def chosenFor (groups : List (List String)) (purpose value : ByteText) : Work String := do
  let begins := fun (word : String) => (Text.after? value word.toList).isSome
  let isExact := groups.find? fun group => group.any (·.toList = value)
  match isExact, groups.filter fun group => group.any begins with
  | some group, _ => return group.head?.getD ""
  | none, [group] => return group.head?.getD ""
  | none, found => do
      let kind := if found.isEmpty then "invalid" else "ambiguous"
      remark (kind.toList ++ " argument ".toList ++ quoted value ++ " for ".toList ++
        quoted purpose)
      printError "Valid arguments are:\n".toList
      for group in groups do
        let words := group.map fun word => quoted word.toList
        printError ("  - ".toList ++ ", ".toList.intercalate words ++ ['\n'])
      giveUp

/-- The word that the value of an option stands for. -/
def chosen (groups : List (List String)) (option : String) (value : ByteText) : Work String :=
  chosenFor groups ("--" ++ option).toList value

end Provision.Shell.Work
