import Provision.Shell.Mode
import Provision.Shell.Tool.Options
import Provision.Shell.Tool.Places

namespace Provision.Shell.Tool

/-!
# Changing permission bits and owners

The bits of files and directories are changed, below directories too if that is asked for.  A mode
may look like an option; it is then checked that the mask has not left more than it seems.
-/

open Work

/-- How permission bits are changed, and what is said about it. -/
structure BitChange where
  changes : List ModeChange
  mask : Nat
  isDeep : Bool
  tellsAll : Bool
  tellsChanges : Bool
  isQuiet : Bool
  checksMask : Bool

/-- Bits in digits and in letters. -/
def bitsText (bits : Nat) : ByteText :=
  ModeChange.octal bits ++ " (".toList ++ ModeChange.display bits ++ [')']

/-- Say what a change of bits has come to. -/
def tellBits (setting : BitChange) (operand : ByteText) (old new : Nat) : Work Unit := do
  if old ≠ new then
    if setting.tellsAll || setting.tellsChanges then
      printLine ("mode of ".toList ++ quoted operand ++ " changed from ".toList ++
        bitsText old ++ " to ".toList ++ bitsText new)
  else if setting.tellsAll then
    printLine ("mode of ".toList ++ quoted operand ++ " retained as ".toList ++ bitsText new)

/-- Complain about something that cannot be reached. -/
def tellUnreached (setting : BitChange) (operand text : ByteText) : Work Unit := do
  if setting.isQuiet then finish 1 else complain text
  if setting.tellsAll then
    printLine (quoted operand ++ " could not be accessed".toList)

/-- Change the bits of one thing, which is given with its status. -/
def changeBits (setting : BitChange) (operand : ByteText) (status : Disk.Status) : Work Unit := do
  let isDirectory := status.kind = .directory
  let bits := ModeChange.applyAll setting.changes isDirectory setting.mask status.mode
  let expected := ModeChange.applyAll setting.changes isDirectory 0 status.mode
  let _ ← changeOr ("changing permissions of ".toList ++ quoted operand) fun disk directory =>
    disk.changeMode directory operand.toPath bits
  tellBits setting operand status.mode bits
  if setting.checksMask && ModeChange.without bits expected ≠ 0 then
    complain (quotedIfNeeded operand ++ ": new permissions are ".toList ++
      ModeChange.display bits ++ ", not ".toList ++ ModeChange.display expected)

mutual

/-- Change bits at a path and below it; the first argument bounds the steps. -/
def changeBelow (setting : BitChange) : Nat → Bool → ByteText → Work Unit
  | 0, _, _ => return ()
  | steps + 1, isOperand, operand => do
      match ← status isOperand operand with
      | .error fault =>
          let isDangling := isOperand && (← status false operand).isOk
          tellUnreached setting operand <|
            if isDangling then
              "cannot operate on dangling symlink ".toList ++ quoted operand
            else
              "cannot access ".toList ++ quoted operand ++ ": ".toList ++ faultText fault
      | .ok ⟨.link, _⟩ =>
          if setting.tellsAll then
            printLine ("neither symbolic link ".toList ++ quoted operand ++
              " nor referent has been changed".toList)
      | .ok found => do
          changeBits setting operand found
          if setting.isDeep && found.kind = .directory then
            match ← ask fun disk directory => disk.listDirectory directory operand.toPath with
            | .error fault =>
                complainOf ("cannot read directory ".toList ++ quoted operand) fault
            | .ok names =>
                changeEach setting steps (names.map fun (name, _) =>
                  pathBelow operand (.ofName name))

/-- Change bits at some paths and below them. -/
def changeEach (setting : BitChange) : Nat → List ByteText → Work Unit
  | 0, _ => return ()
  | _ + 1, [] => return ()
  | steps + 1, first :: rest => do
      changeBelow setting steps false first
      changeEach setting steps rest

end

/-- Whether an argument is a mode that looks like an option. -/
def isModeOption (argument : ByteText) : Bool :=
  match argument with
  | '-' :: c :: _ =>
      c ∈ ['r', 'w', 'x', 'X', 's', 't', 'u', 'g', 'o', 'a', ',', '+', '=', '0', '1', '2', '3', '4',
        '5', '6', '7']
  | _ => false

/-- The options of changing bits. -/
def bitOptions : List OptionKind :=
  [optionOf ['R'] "recursive" .never, flag 'c' "changes", flag 'f' "silent", wordOnly "quiet",
    flag 'v' "verbose", wordOnly "no-preserve-root", wordOnly "preserve-root",
    optionOf [] "reference" .always]

/-- The changes that a call asks for, and the paths that they are for. -/
def requestedChanges (arguments : Arguments) (modes : List ByteText) :
    Work (List ModeChange × List ByteText) := do
  let compile := fun (mode : ByteText) (operands : List ByteText) => do
    if operands.isEmpty then
      misuse (if modes.isEmpty then "missing operand after ".toList ++ quoted mode
        else "missing operand".toList)
    else
      match ModeChange.read? mode with
      | some changes => return (changes, operands)
      | none => misuse ("invalid mode: ".toList ++ quoted mode)
  match arguments.value? "reference", modes, arguments.operands with
  | some _, _ :: _, _ => misuse "cannot combine mode and --reference options".toList
  | some _, [], [] => misuse "missing operand".toList
  | some reference, [], operands =>
      match ← status true reference with
      | .ok found =>
          let all := ModeChange.allBits
          return ([⟨'=', all, .bits found.mode, all⟩], operands)
      | .error fault =>
          refuse ("failed to get attributes of ".toList ++ quoted reference ++ ": ".toList ++
            faultText fault)
  | none, _ :: _, operands => compile (Text.join ',' modes) operands
  | none, [], mode :: operands => compile mode operands
  | none, [], [] => misuse "missing operand".toList

/-- Change permission bits. -/
def chmod : Tool := toTool do
  let given := (← read).arguments
  let inFront := given.takeWhile (· ≠ ['-', '-'])
  let modes := inFront.filter isModeOption
  let others := inFront.filter (!isModeOption ·) ++ given.drop inFront.length
  match Arguments.read bitOptions false others with
  | .error text => misuse text
  | .ok arguments => do
      let (changes, operands) ← requestedChanges arguments modes
      let setting : BitChange := {
        changes, mask := (← read).mask, isDeep := arguments.has "recursive"
        tellsAll := arguments.last? ["verbose", "changes"] = some "verbose"
        tellsChanges := arguments.has "changes"
        isQuiet := arguments.has "silent" || arguments.has "quiet"
        checksMask := !modes.isEmpty }
      for operand in operands do
        let steps ← ask fun disk _ => 2 * disk.entries.length + 2
        changeBelow setting steps true operand

/-- Whether a text names the one user there is, or its group. -/
def isOwnerName (text : ByteText) : Bool :=
  text ∈ ["".toList, "root".toList, ['0']]

/-- Give files to a user or a group, which can only be the one there is. -/
def giveTo (kind : String) (names : ByteText → List ByteText) : Tool := toTool do
  let arguments ← arguments [optionOf ['R'] "recursive" .never, flag 'c' "changes",
      flag 'f' "silent",
    flag 'v' "verbose", flag 'h' "no-dereference", wordOnly "dereference"]
  match arguments.operands with
  | [] => misuse "missing operand".toList
  | [only] => misuse ("missing operand after ".toList ++ quoted only)
  | owner :: operands => do
      if !(names owner).all isOwnerName then
        refuse (("invalid " ++ kind ++ ": ").toList ++ quoted owner)
      for operand in operands do
        if let .error fault ← status (!arguments.has "no-dereference") operand then
          complainOf ("cannot access ".toList ++ quoted operand) fault

/-- Give files to a user. -/
def chown : Tool :=
  giveTo "user" (Text.fields ':')

/-- Give files to a group. -/
def chgrp : Tool :=
  giveTo "group" fun name => [name]

end Provision.Shell.Tool
