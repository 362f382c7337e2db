import Provision.Shell.Tool.Basic
import Provision.Text.Fields

namespace Provision.Shell

/-!
# What tools find at paths

Some paths lead to devices, which are not on the disk: they give nothing, or more zeros than anyone
asks for, and keep nothing of what is written to them; one of them takes nothing.
-/

/-- A device. -/
inductive Device where
  | null
  | zero
  | full
  | terminal
  deriving Repr, DecidableEq

/-- The device that a path leads to. -/
def Device.ofPath? (path : ByteText) : Option Device :=
  if path = "/dev/null".toList then some .null
  else if path = "/dev/zero".toList then some .zero
  else if path = "/dev/full".toList then some .full
  else if path = "/dev/tty".toList then some .terminal
  else none

/-- Zeros, more than anyone asks for. -/
def zeros : ByteText :=
  List.replicate 0x80000 '\x00'

/-- What a device gives. -/
def Device.content : Device → ByteText
  | .zero | .full => zeros
  | _ => []

/-- What is known of a device as of a file. -/
def Device.file : File :=
  { mode := 0o666, content := [] }

/-- The numbers of a device: that of its driver and its own. -/
def Device.numbers : Device → Nat × Nat
  | .null => (1, 3)
  | .zero => (1, 5)
  | .full => (1, 7)
  | .terminal => (5, 0)

/-- Whether a path names the input of a process. -/
def namesInput (path : ByteText) : Bool :=
  path = "/dev/stdin".toList || path = "/dev/fd/0".toList || path = "/proc/self/fd/0".toList

/-- The path of a name in a directory. -/
def pathBelow (directory name : ByteText) : ByteText :=
  if directory.getLast? = some '/' then directory ++ name else directory ++ '/' :: name

/-- A text without slashes at its end, unless it is nothing else. -/
def withoutSlashes (path : ByteText) : ByteText :=
  let trimmed := (path.reverse.dropWhile (· = '/')).reverse
  if trimmed.isEmpty then path.take 1 else trimmed

/-- The last name of a path, without slashes after it. -/
def lastName (path : ByteText) : ByteText :=
  let trimmed := withoutSlashes path
  if trimmed = ['/'] then trimmed else ((Text.fields '/' trimmed).getLast?).getD []

/-- Whether a name stands for a directory itself or for the one above. -/
def isDots (name : ByteText) : Bool :=
  name = ['.'] || name = ['.', '.']

namespace Work

/-- The status of what a path leads to. -/
def status (follow : Bool) (operand : ByteText) : Work (Except DiskFault Disk.Status) :=
  ask fun disk directory => disk.status directory follow operand.toPath

/-- Whether a path leads to a directory. -/
def isDirectory (operand : ByteText) : Work Bool := do
  return match ← status true operand with
    | .ok found => found.kind = .directory
    | .error _ => false

/-- Whether there is something at a path, be it a link that leads nowhere. -/
def isThere (operand : ByteText) : Work Bool := do
  return (← status false operand).isOk

/-- The entry that a path leads to, with its location. -/
def entry (follow : Bool) (operand : ByteText) : Work (Except DiskFault (Location × Entry)) :=
  ask fun disk directory => disk.entryAt directory follow operand.toPath

/-- The content that a path leads to, where a dash stands for the input. -/
def content (operand : ByteText) : Work (Except DiskFault ByteText) := do
  if operand = ['-'] || namesInput operand then
    match (← read).inputFault? with
    | some fault => return .error fault
    | none => return .ok (← takeInput)
  else
    match Device.ofPath? operand with
    | some device => return .ok device.content
    | none =>
        let found ← ask fun disk directory => disk.readFile directory operand.toPath
        return found.map ByteText.ofBytes

/-- Write a file, or add to it. -/
def write (isAppended : Bool) (operand content : ByteText) : Work (Option DiskFault) := do
  match Device.ofPath? operand with
  | some .full => return some (.refused .noSpace)
  | some _ => return none
  | none => do
    let mode ← masked 0o666
    change fun disk directory =>
      disk.openFile directory operand.toPath { mode, content := content.toBytes } fun file =>
        if isAppended then file.extended content.toBytes else file.rewritten content.toBytes

end Work

end Provision.Shell
