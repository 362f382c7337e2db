import Provision.Shell.Tool.Options
import Provision.Shell.Tool.Places

namespace Provision.Shell.Tool

/-!
# Parts of paths

The last name of a path, the directory that it stands in, and whether a path may be used, here or on
any other system.
-/

open Work

/-- A name without an ending, unless it is nothing else. -/
def withoutSuffix (ending name : ByteText) : ByteText :=
  match Text.after? ending.reverse name.reverse with
  | some (c :: rest) => (c :: rest).reverse
  | _ => name

/-- Print the last names of paths, without an ending if it is given. -/
def basename : Tool := toTool do
  let arguments ← arguments [flag 'a' "multiple", valued 's' "suffix", flag 'z' "zero"] true
  requireOperands arguments
  let takesAll := arguments.has "multiple" || arguments.has "suffix"
  let ending := if arguments.has "zero" then ['\x00'] else ['\n']
  if takesAll then
    for operand in arguments.operands do
      print (withoutSuffix ((arguments.value? "suffix").getD []) (lastName operand) ++ ending)
  else
    refuseMore 2 arguments
    let operand := arguments.operands.head?.getD []
    print (withoutSuffix ((arguments.operands[1]?).getD []) (lastName operand) ++ ending)

/-- The directory that a path stands in. -/
def directoryOf (path : ByteText) : ByteText :=
  match Text.cutLast? '/' (withoutSlashes path) with
  | some (above, _) =>
      if above.isEmpty then ['/'] else withoutSlashes above
  | none => ['.']

/-- Print the directories that paths stand in. -/
def dirname : Tool := toTool do
  let arguments ← arguments [flag 'z' "zero"]
  requireOperands arguments
  let ending := if arguments.has "zero" then ['\x00'] else ['\n']
  for operand in arguments.operands do
    print (directoryOf operand ++ ending)

/-! ## Names that can be used -/

/-- The characters that every system knows in names. -/
def isPortableChar (c : Char) : Bool :=
  c.isAlphanum || c ∈ ['.', '_', '-', '/']

/-- A character as it is told of. -/
def toldChar (c : Char) : ByteText :=
  if ' ' ≤ c && c ≤ '~' then ['\'', c, '\''] else
    let digits := Nat.toDigits 8 c.toNat
    ['\'', '\\'] ++ List.replicate (3 - digits.length) '0' ++ digits ++ ['\'']

/-- What is wrong with something that is too long. -/
def excess (limit length : Nat) (what : String) (text : ByteText) : ByteText :=
  "limit ".toList ++ ByteText.ofNat limit ++ " exceeded by length ".toList ++
    ByteText.ofNat length ++ " of file name ".toList ++ what.toList ++ quoted text

/-- The names in a path. -/
def namesOf (path : ByteText) : List ByteText :=
  (Text.fields '/' path).filter (!·.isEmpty)

/-- What is wrong with the length of a path or of a name in it. -/
def lengthFault? (pathLimit nameLimit : Nat) (path : ByteText) : Option ByteText :=
  if pathLimit < path.length then
    some (excess pathLimit path.length "" path)
  else
    ((namesOf path).find? fun name => nameLimit < name.length).map fun name =>
      excess nameLimit name.length "component " name

/-- What is wrong with a path that is to be used elsewhere. -/
def portableFault? (checksChars checksDashes : Bool) (path : ByteText) : Option ByteText :=
  if checksDashes && (namesOf path).any (·.head? = some '-') then
    some ("leading '-' in a component of file name ".toList ++ quoted path)
  else if path.isEmpty then
    some "empty file name".toList
  else if checksChars then
    match path.find? (!isPortableChar ·) with
    | some c =>
        some ("non-portable character ".toList ++ toldChar c ++ " in file name ".toList ++
          quoted path)
    | none => lengthFault? 255 14 path
  else
    none

/-- What is wrong with a path that is to be used here. -/
def localFault? (path : ByteText) : Work (Option ByteText) := do
  match ← status false path with
  | .ok _ => return none
  | .error fault =>
      if fault ≠ .refused .noEntry || path.isEmpty then
        return some (quotedIfNeeded path ++ ": ".toList ++ faultText fault)
      else
        return lengthFault? 4095 255 path

/-- Check whether paths can be used. -/
def pathchk : Tool := toTool do
  let arguments ← arguments [letterOnly 'p' "characters", letterOnly 'P' "dashes",
    wordOnly "portability"]
  requireOperands arguments
  let checksAll := arguments.has "portability"
  let checksChars := checksAll || arguments.has "characters"
  let checksDashes := checksAll || arguments.has "dashes"
  for operand in arguments.operands do
    let portable? :=
      if checksChars || checksDashes then portableFault? checksChars checksDashes operand else none
    let fault? ← if checksChars then pure none else localFault? operand
    if let some fault := portable?.or fault? then
      complain fault

/-!
# Names that are new

Files and directories are made under names that nothing has yet.  A template says what such a name
looks like: the last letters X of it, or those before an ending, are replaced.
-/

/-- A template: what stands before the letters that are replaced, their number, and the ending. -/
structure NameTemplate where
  opening : ByteText
  count : Nat
  ending : ByteText

namespace NameTemplate

/-- The template as it is written. -/
def text (template : NameTemplate) : ByteText :=
  template.opening ++ List.replicate template.count 'X' ++ template.ending

/-- The template that a text stands for, of which the last part may be a given ending. -/
def read (text ending : ByteText) : NameTemplate :=
  let after := (text.reverse.takeWhile (· ≠ 'X')).reverse
  let hasLetters := after.length < text.length
  let body := if hasLetters then text.take (text.length - after.length) else text
  let count := (body.reverse.takeWhile (· = 'X')).length
  { opening := body.take (body.length - count), count
    ending := (if hasLetters then after else []) ++ ending }

/-- The letters and digits that replace others. -/
def digits : List Char :=
  "abcdefghijklmnopqrstuvwxyzABCDEFGHIJKLMNOPQRSTUVWXYZ0123456789".toList

/-- Some letters and digits for a number, the last ones of it in front. -/
def lettersOf : Nat → Nat → ByteText
  | 0, _ => []
  | count + 1, number =>
      digits.getD (number % digits.length) 'a' :: lettersOf count (number / digits.length)

/-- The name for a number. -/
def nameFor (template : NameTemplate) (number : Nat) : ByteText :=
  template.opening ++ lettersOf template.count number ++ template.ending

/-- A name that nothing has; the first argument bounds the names that are tried. -/
def newName (template : NameTemplate) : Nat → Nat → Work ByteText
  | 0, number => return template.nameFor number
  | tries + 1, number => do
      let name := template.nameFor number
      if ← isThere name then newName template tries (number + 1) else return name

end NameTemplate

/-- The template that a call asks for. -/
def requestedTemplate (arguments : Arguments) : Work NameTemplate := do
  let text := arguments.operands.head?.getD "tmp.XXXXXXXXXX".toList
  let template ← match arguments.value? "suffix" with
    | none => pure (NameTemplate.read text [])
    | some ending =>
        if text.getLast? ≠ some 'X' then
          refuse ("with --suffix, template ".toList ++ quoted text ++ " must end in X".toList)
        else
          pure (NameTemplate.read text ending)
  if template.ending.contains '/' then
    refuse ("invalid suffix ".toList ++ quoted template.ending ++
      ", contains directory separator".toList)
  else if template.count < 3 then
    refuse ("too few X's in template ".toList ++ quoted template.text)
  else
    return template

/-- The directory in which a call wants a name, if it is not the one where the tool works. -/
def requestedPlace? (arguments : Arguments) (template : NameTemplate) :
    Work (Option ByteText) := do
  let hasPlace := arguments.operands.isEmpty || arguments.has "in-variable" ||
    arguments.has "tmpdir"
  if !hasPlace then
    return none
  else
    let filled := fun (value? : Option ByteText) => value?.filter (!·.isEmpty)
    let given := filled (arguments.value? "tmpdir")
    let usual := filled ((← read).environment.lookup "TMPDIR".toList)
    if arguments.has "in-variable" then
      if template.text.contains '/' then
        refuse ("invalid template, ".toList ++ quoted template.text ++
          ", contains directory separator".toList)
      return some ((usual.or given).getD "/tmp".toList)
    else
      if template.text.head? = some '/' then
        refuse ("invalid template, ".toList ++ quoted template.text ++
          "; with --tmpdir, it may not be absolute".toList)
      return some ((given.or usual).getD "/tmp".toList)

/-- Make a file or a directory with a new name, and print the name. -/
def mktemp : Tool := toTool do
  let arguments ← arguments [flag 'd' "directory", flag 'u' "dry-run", flag 'q' "quiet",
    optionOf [] "suffix" .always, letterOnly 't' "in-variable", optionOf [] "tmpdir" .perhaps,
    optionOf ['p'] "tmpdir" .always false]
  if arguments.operands.length > 1 then
    misuse "too many templates".toList
  let template ← requestedTemplate arguments
  let template := match ← requestedPlace? arguments template with
    | none => template
    | some place => { template with opening := pathBelow place template.opening }
  let tries ← ask fun disk _ => disk.entries.length + 1
  let name ← template.newName tries 0x1234567
  let isDirectory := arguments.has "directory"
  let fault? ←
    if arguments.has "dry-run" then pure none
    else change fun disk directory =>
      if isDirectory then disk.makeDirectory directory name.toPath 0o700
      else disk.openFile directory name.toPath { mode := 0o600, content := [] } id
  match fault? with
  | none => printLine name
  | some fault =>
      if arguments.has "quiet" then
        finish 1
      else
        let kind := if isDirectory then "directory" else "file"
        complainOf ("failed to create ".toList ++ kind.toList ++ " via template ".toList ++
          quoted template.text) fault

end Provision.Shell.Tool
