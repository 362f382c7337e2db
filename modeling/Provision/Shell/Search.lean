import Provision.Shell.State
import Provision.Shell.Tool.Arranging
import Provision.Shell.Tool.Blocks
import Provision.Shell.Tool.Characters
import Provision.Shell.Tool.Copying
import Provision.Shell.Tool.Counting
import Provision.Shell.Tool.Dates
import Provision.Shell.Tool.Describing
import Provision.Shell.Tool.Digests
import Provision.Shell.Tool.Directories
import Provision.Shell.Tool.Dumping
import Provision.Shell.Tool.Environments
import Provision.Shell.Tool.Expression
import Provision.Shell.Tool.Filling
import Provision.Shell.Tool.Format
import Provision.Shell.Tool.Installing
import Provision.Shell.Tool.Joining
import Provision.Shell.Tool.Linking
import Provision.Shell.Tool.Listing
import Provision.Shell.Tool.Names
import Provision.Shell.Tool.Numbering
import Provision.Shell.Tool.Permissions
import Provision.Shell.Tool.Ranges
import Provision.Shell.Tool.Scaling
import Provision.Shell.Tool.Sorting
import Provision.Shell.Tool.Splitting
import Provision.Shell.Tool.Test

namespace Provision.Shell.Tool

/-!
# All tools

The tools by name.  A program file of a tool starts with a mark and goes on with the name.
-/

/-- The tools by name, but for those of a kind. -/
def single : List (String × Tool) := [
  ("[", bracket), ("arch", arch), ("base32", base32), ("base64", base64), ("basename", basename),
  ("basenc", basenc), ("cat", cat), ("chgrp", chgrp), ("chmod", chmod), ("chown", chown),
  ("cksum", cksum), ("comm", comm), ("cp", cp), ("csplit", csplit), ("cut", cut), ("date", date),
  ("dd", dd), ("dir", dir), ("dirname", dirname), ("echo", echo), ("env", env),
  ("expand", expand), ("expr", expr), ("factor", factor), ("false", failing), ("fmt", fmt),
  ("fold", fold), ("groups", listGroups), ("head", head), ("hostname", hostname),
  ("id", identify), ("install", installFiles), ("join", join), ("link", link), ("ln", ln),
  ("logname", logname), ("ls", ls), ("mkdir", mkdir), ("mktemp", mktemp), ("mv", mv),
  ("nice", nice), ("nl", nl), ("nohup", nohup), ("nproc", nproc), ("numfmt", numfmt), ("od", od),
  ("paste", paste), ("pathchk", pathchk), ("printenv", printenv), ("printf", printf),
  ("pwd", pwd), ("readlink", readlink), ("realpath", realpath), ("rm", rm), ("rmdir", rmdir),
  ("seq", seq), ("shuf", shuf), ("sleep", sleep), ("sort", sort), ("split", split),
  ("stat", stat), ("stdbuf", stdbuf), ("sum", sum), ("sync", succeed), ("tac", tac),
  ("tail", tail), ("tee", tee), ("test", test), ("timeout", timeout), ("touch", touch),
  ("tr", tr), ("true", succeed), ("truncate", truncate), ("tsort", tsort), ("tty", tty),
  ("uname", uname), ("unexpand", unexpand), ("uniq", uniq), ("unlink", unlink),
  ("users", succeed), ("vdir", vdir), ("wc", wc), ("who", succeed), ("whoami", whoami),
  ("yes", yes)]

/-- The tools by name. -/
def all : List (String × Tool) :=
  single ++ digestTools

/-- The names of the shell. -/
def shellNames : List String :=
  ["sh", "dash"]

/-- The tool with a name. -/
def ofName? (name : ByteText) : Option Tool :=
  (all.find? fun (other, _) => other.toList = name).map Prod.snd

/-- How the program file of a tool starts. -/
def mark : Bytes :=
  [0x7f, 0x45, 0x4c, 0x46]

/-- The program file of a tool or of the shell. -/
def programFile (name : String) : File where
  mode := 0o755
  content := mark ++ Text.Utf8.ofString name

/-- A disk with the program files of all tools, at their usual place. -/
def install (disk : Disk) : Disk :=
  let place : Location := [.text "usr", .text "bin"]
  let disk := (disk.set [.text "usr"] (.directory 0o755)).set place (.directory 0o755)
  let disk := disk.set [.text "bin"] (.link (Path.ofString "usr/bin"))
  (shellNames ++ all.map Prod.fst).foldl
    (fun disk name => disk.set (place ++ [.text name]) (.file (programFile name)))
    disk

end Provision.Shell.Tool

namespace Provision.Shell

/-!
# Program files

A file can be run if its owner may execute it, and if it is a tool or names the interpreter that
reads it on its first line.
-/

/-- What a file is that can be run. -/
inductive Program where
  | tool (name : ByteText)
  | script (interpreter : ByteText) (argument : Option ByteText)
  deriving Repr, DecidableEq

namespace Program

/-- The program in a content, if it is one. -/
def ofContent? (content : Bytes) : Option Program :=
  match Text.after? Tool.mark content with
  | some name => some (.tool (.ofBytes name))
  | none =>
      match content with
      | 0x23 :: 0x21 :: rest =>
          let line := ByteText.ofBytes (rest.takeWhile (· ≠ 0x0a))
          let isGap := fun (c : Char) => c = ' ' || c = '\t'
          let line := (line.dropWhile isGap)
          let line := (line.reverse.dropWhile isGap).reverse
          let interpreter := line.takeWhile fun c => !isGap c
          let argument := (line.drop interpreter.length).dropWhile isGap
          if interpreter.isEmpty then
            none
          else
            some (.script interpreter (if argument.isEmpty then none else some argument))
      | _ => none

/-- The program that a path leads to. -/
def load (disk : Disk) (workingDirectory : Location) (path : Path) : Except DiskFault Program :=
  match disk.entryAt workingDirectory true path with
  | .error fault => .error fault
  | .ok (_, .file file) =>
      if !(Entry.file file).allows .execute then
        .error (.refused .permission)
      else
        match ofContent? file.content with
        | some program => .ok program
        | none => .error (.refused .notExecutable)
  | .ok _ => .error (.refused .permission)

/--
The program that a path leads to, where the interpreter of a script can be run as well; scripts may
be interpreted by scripts to some depth.
-/
def loadRunnable (disk : Disk) (workingDirectory : Location) :
    Nat → ByteText → Except DiskFault Program
  | 0, _ => .error (.refused .tooManyLinks)
  | nested + 1, path =>
      match load disk workingDirectory path.toPath with
      | .ok (.script interpreter argument) =>
          match loadRunnable disk workingDirectory nested interpreter with
          | .ok _ => .ok (.script interpreter argument)
          | .error fault => .error fault
      | outcome => outcome

end Program

/-!
# Finding programs

A program is looked for by its name in the directories of a search path.  A name with a slash is a
path, which is not looked for.
-/

/-- Where programs are looked for unless something else is said. -/
def usualPath : ByteText :=
  "/usr/local/sbin:/usr/local/bin:/usr/sbin:/usr/bin:/sbin:/bin".toList

/-- The paths at which something with a name may be, in the order in which they are tried. -/
def candidates (path name : ByteText) : List ByteText :=
  (Text.fields ':' path).map fun directory =>
    if directory.isEmpty then name else directory ++ '/' :: name

namespace State

/-- Where the shell looks for programs. -/
def searchPath (state : State) : ByteText :=
  (state.valueOf? "PATH".toList).getD []

/-- The paths from the first one on that leads to a file that may be run, or why there is none. -/
def pathsFrom (state : State) : DiskFault → List ByteText → Except DiskFault (List ByteText)
  | fault, [] => .error fault
  | fault, path :: others =>
      match state.disk.entryAt state.workingDirectory true path.toPath with
      | .ok (_, entry) =>
          if entry.isFile && entry.allows .execute then .ok (path :: others)
          else state.pathsFrom (.refused .permission) others
      | .error (.refused .noEntry) => state.pathsFrom fault others
      | .error (.refused .notDirectory) => state.pathsFrom fault others
      | .error other => state.pathsFrom other others

/-- The paths at which a program may be that is looked for in some directories. -/
def programPaths (state : State) (path name : ByteText) : Except DiskFault (List ByteText) :=
  if name.contains '/' then .ok [name]
  else state.pathsFrom (.refused .noEntry) (candidates path name)

/--
Whether a content looks like a script: there are only printable characters and blanks on its first
line.
-/
def looksLikeScript (content : Bytes) : Bool :=
  (content.takeWhile (· ≠ 0x0a)).all fun byte =>
    0x20 ≤ byte && byte ≠ 0x7f || 0x09 ≤ byte && byte ≤ 0x0d || byte = 0x1b

/-- What is run at a path; a script that names no interpreter is left to the shell. -/
def startable (state : State) (path : ByteText) : Except DiskFault Program :=
  match Program.loadRunnable state.disk state.workingDirectory 5 path with
  | .error (.refused .notExecutable) =>
      match state.disk.entryAt state.workingDirectory true path.toPath with
      | .ok (_, .file file) =>
          if looksLikeScript file.content then .ok (.script "/bin/sh".toList none)
          else .error (.refused .notExecutable)
      | _ => .error (.refused .notExecutable)
  | outcome => outcome

/-- The first program that can be run at some paths, or why there is none. -/
def firstProgram (state : State) :
    DiskFault → List ByteText → Except DiskFault (ByteText × Program)
  | fault, [] => .error fault
  | fault, path :: others =>
      match state.startable path with
      | .ok program => .ok (path, program)
      | .error (.refused .noEntry) => state.firstProgram fault others
      | .error (.refused .notDirectory) => state.firstProgram fault others
      | .error other => state.firstProgram other others

end State

/-- The status and the wording of a fault that keeps a program from being run. -/
def startFault (fault : DiskFault) : Nat × ByteText :=
  match fault with
  | .refused .noEntry | .refused .notDirectory => (127, "not found".toList)
  | .refused .tooManyLinks | .refused .nameTooLong => (127, faultText fault)
  | fault => (126, faultText fault)

namespace Run

/-- Remember that a program has been found. -/
def remember (name : ByteText) : Run Unit :=
  modify fun state =>
    if name.contains '/' || name ∈ state.known then state
    else { state with known := name :: state.known }

/-- Complain that there is no program with a name. -/
def complainMissing (name : ByteText) (fault : DiskFault) : Run Unit :=
  complain 127 (name ++ ": ".toList ++ (startFault fault).2)

end Run

end Provision.Shell
