import Provision.Shell.State
import Provision.Shell.Tool.Places

namespace Provision.Shell

/-!
# Redirected descriptors

A redirection connects a descriptor with a file, with a device or with what another descriptor is
connected with.
-/

/-- The reason why a file cannot be opened. -/
def openFault (isMade : Bool) (fault : DiskFault) : ByteText :=
  match fault with
  | .refused .noEntry | .refused .notDirectory =>
      if isMade then "Directory nonexistent".toList else "No such file".toList
  | fault => faultText fault

/-- The descriptor that a path under the devices stands for. -/
def descriptorOf? (target : ByteText) : Option Nat :=
  if target = "/dev/stdin".toList then some 0
  else if target = "/dev/stdout".toList then some 1
  else if target = "/dev/stderr".toList then some 2
  else
    ((Text.after? "/dev/fd/".toList target).orElse fun _ =>
      Text.after? "/proc/self/fd/".toList target).bind Text.decimal?

/-- What an open file may be used for. -/
structure Purpose where
  reads : Bool
  writes : Bool
  empties : Bool := false
  appends : Bool := false
  mustBeNew : Bool := false

/-- What a direction asks for; the shell may be told not to overwrite files. -/
def Purpose.ofDirection (keepsFiles : Bool) : Direction → Purpose
  | .read => { reads := true, writes := false }
  | .readWrite => { reads := true, writes := true }
  | .append => { reads := false, writes := true, appends := true }
  | .write => { reads := false, writes := true, empties := true, mustBeNew := keepsFiles }
  | _ => { reads := false, writes := true, empties := true }

/-- Connect a descriptor with something that is open for a purpose. -/
def opened (state : State) (descriptor : Nat) (purpose : Purpose) (stream : Stream) : State :=
  state.connect descriptor
    { stream, appends := purpose.appends, isReadable := purpose.reads
      isWritable := purpose.writes }

/-- Open a file that is only read. -/
def openToRead (state : State) (target : ByteText) : Except DiskFault (Disk × Stream) :=
  match state.disk.entryAt state.workingDirectory true target.toPath with
  | .error fault => .error fault
  | .ok (location, entry) =>
      if !entry.allows .read then .error (.refused .permission)
      else .ok (state.disk, if entry.isDirectory then .directory else .file location)

/-- Open a file that may be written, which is made if it is missing. -/
def openToWrite (state : State) (purpose : Purpose) (target : ByteText) :
    Except DiskFault (Disk × Stream) := do
  let path := target.toPath
  let existing? := (state.disk.entryAt state.workingDirectory true path).toOption
  if purpose.mustBeNew && existing?.any fun found => found.2.isFile then
    throw (.refused .exists)
  if purpose.reads && existing?.any fun found => !found.2.allows .read then
    throw (.refused .permission)
  let mode := 0o666 - (0o666 &&& state.mask)
  let disk ← state.disk.openFile state.workingDirectory path { mode, content := [] } fun file =>
    if purpose.empties then file.rewritten [] else file
  let found ← disk.locate state.workingDirectory true path
  return (disk, .file found.location)

/-- Open a target for a descriptor. -/
def openTarget (state : State) (descriptor : Nat) (purpose : Purpose) (target : ByteText) :
    Except DiskFault State := do
  match descriptorOf? target with
  | some source =>
      match state.openFile? source with
      | none => throw (.refused .noEntry)
      | some (_, file) =>
          match file.stream with
          | .file location =>
              let disk :=
                if purpose.empties then state.disk.updateFile location fun file => file.rewritten []
                else state.disk
              return opened { state with disk } descriptor purpose (.file location)
          | stream => return opened state descriptor purpose stream
  | none =>
      match Device.ofPath? target with
      | some .zero => return opened state descriptor purpose .zeros
      | some .full => return opened state descriptor purpose .full
      | some _ => return opened state descriptor purpose .nothing
      | none => do
          let (disk, stream) ←
            if purpose.writes then openToWrite state purpose target else openToRead state target
          return opened { state with disk } descriptor purpose stream

/-- Whether a text names another descriptor, or says that one is closed. -/
def namesDescriptor (target : ByteText) : Bool :=
  match target with
  | [c] => c = '-' || c.isDigit
  | _ => false

/-- Connect a descriptor with what another one is connected with, or close it. -/
def copyTarget (state : State) (descriptor : Nat) (target : ByteText) : Except ByteText State :=
  if target = ['-'] then
    .ok (state.disconnect descriptor)
  else
    match (Text.decimal? target).bind fun source => state.descriptors.lookup source with
    | some number => .ok (state.copyDescriptor descriptor number)
    | none => .error (target ++ ": Bad file descriptor".toList)

/-- Redirect a descriptor to a target. -/
def redirect (state : State) (descriptor : Nat) (direction : Direction) (target : ByteText) :
    Except ByteText State :=
  if direction = .copy then
    copyTarget state descriptor target
  else
    let purpose := Purpose.ofDirection (state.has 'C') direction
    (openTarget state descriptor purpose target).mapError fun fault =>
      let isMade := purpose.writes
      (if isMade then "cannot create ".toList else "cannot open ".toList) ++ target ++
        ": ".toList ++ openFault isMade fault

end Provision.Shell
