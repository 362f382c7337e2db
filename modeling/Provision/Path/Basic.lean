import Provision.Text.Fields
import Provision.Text.Utf8

namespace Provision

/-!
# File names

A file name is a byte sequence.  Nearly all are text, so a name is either a text or a byte sequence
that is none; `Name.ofBytes` and `Name.toBytes` translate without loss.
-/

/-- A file name: a text, or bytes that are not text. -/
inductive Name where
  | text (text : String)
  | raw (bytes : Bytes) (notText : Text.Utf8.toString? bytes = none)
  deriving DecidableEq

namespace Name

instance : Inhabited Name :=
  ⟨.text ""⟩

instance : Coe String Name :=
  ⟨.text⟩

/-- The name with the given bytes. -/
def ofBytes (bytes : Bytes) : Name :=
  match isText : Text.Utf8.toString? bytes with
  | some string => .text string
  | none => .raw bytes isText

/-- The bytes of a name. -/
def toBytes : Name → Bytes
  | .text string => Text.Utf8.ofString string
  | .raw bytes _ => bytes

/-- A name as text, with a replacement character for what is no text. -/
def display : Name → String
  | .text string => string
  | .raw bytes _ => String.ofList (Text.Utf8.decodeReplacing bytes)

/-- Whether a name stands before another in byte order. -/
def before (a b : Name) : Bool :=
  decide (a.toBytes < b.toBytes)

/-- Names that stand for the directory they occur in. -/
def isHere (name : Name) : Bool :=
  name = .text "" || name = .text "."

/-- The name that stands for the directory above. -/
def isUp (name : Name) : Bool :=
  name = .text ".."

/-- Whether a name holds a zero byte, which no file system call accepts. -/
def hasZero : Name → Bool
  | .text string => string.toList.contains '\x00'
  | .raw bytes _ => bytes.contains 0

end Name

/-!
# Paths

A path is its text, kept as the segments between slashes, so writing a path gives back exactly the
text that was read.  Nothing is cleaned up: empty segments, `.` and `..` stay where they are until a
path is looked up.
-/

/-- A path text, cut at its slashes; it always has a first segment. -/
structure Path where
  first : Name
  rest : List Name
  deriving DecidableEq

namespace Path

/-- All segments of a path. -/
def segments (path : Path) : List Name :=
  path.first :: path.rest

/-- The path with the given segments; no segment at all is the empty path. -/
def ofSegments : List Name → Path
  | [] => ⟨.text "", []⟩
  | first :: rest => ⟨first, rest⟩

/-- The path with the given text. -/
def ofString (text : String) : Path :=
  ofSegments ((Text.fields '/' text.toList).map fun segment => .text (String.ofList segment))

/-- The path with the given bytes. -/
def ofBytes (bytes : Bytes) : Path :=
  ofSegments ((Text.fields 0x2f bytes).map Name.ofBytes)

/-- The text of a path, with replacement characters for what is no text. -/
def display (path : Path) : String :=
  "/".intercalate (path.segments.map Name.display)

instance : Coe String Path :=
  ⟨ofString⟩

instance : Inhabited Path :=
  ⟨⟨.text "", []⟩⟩

/-- The empty path. -/
def empty : Path :=
  ⟨.text "", []⟩

/-- Whether a path starts at the root of the file system. -/
def isAbsolute (path : Path) : Bool :=
  path.first = .text "" && !path.rest.isEmpty

/-- Whether the text of a path ends with a slash or is empty. -/
def endsOpen (path : Path) : Bool :=
  path.segments.getLast? = some (.text "")

/-- Whether a path leads to a place that its last segment does not name: by dots or as the root. -/
def endsUnnamed (path : Path) : Bool :=
  match path.segments.reverse.dropWhile (· = .text "") with
  | [] => true
  | last :: _ => last.isHere || last.isUp

/--
Append a path to a directory.  An absolute path replaces the directory, and a slash is put between
the two where the directory does not end with one.
-/
def join (directory path : Path) : Path :=
  if path.isAbsolute then
    path
  else if directory.endsOpen then
    ofSegments (directory.segments.dropLast ++ path.segments)
  else
    ofSegments (directory.segments ++ path.segments)

instance : HDiv Path Path Path :=
  ⟨join⟩

instance : HDiv Path String Path :=
  ⟨fun directory text => directory.join (ofString text)⟩

/-- Append one name to a directory. -/
def child (directory : Path) (name : Name) : Path :=
  directory.join ⟨name, []⟩

/-- Drop the segments that stand for the directory they occur in from the end of a list. -/
def dropOpen (segments : List Name) : List Name :=
  (segments.reverse.dropWhile Name.isHere).reverse

/-- The last segment that names something, with the path before it. -/
def splitLast? (path : Path) : Option (Path × Name) :=
  let named := dropOpen path.rest
  match named.getLast? with
  | some last =>
      match dropOpen named.dropLast with
      | [] =>
          if path.first = .text "" then
            some (⟨.text "", [.text ""]⟩, last)
          else
            some (⟨path.first, []⟩, last)
      | before => some (⟨path.first, before⟩, last)
  | none =>
      if path.first = .text "" then none else some (empty, path.first)

/-- The directory that a path stands in: nothing for the root and for the empty path. -/
def parent? (path : Path) : Option Path :=
  path.splitLast?.map Prod.fst

/-- The last name of a path, unless it only leads elsewhere. -/
def fileName? (path : Path) : Option Name :=
  match path.splitLast? with
  | some (_, name) => if name.isHere || name.isUp then none else some name
  | none => none

/-- The last name of a path as text, empty where there is none. -/
def fileNameText (path : Path) : String :=
  match path.fileName? with
  | some name => name.display
  | none => ""

/-- Replace the last name of a path. -/
def withFileName (path : Path) (name : Name) : Path :=
  match path.fileName?, path.parent? with
  | some _, some parent => parent.child name
  | _, _ => path.child name

/-- The part of a file name after its last dot, unless that dot opens the name. -/
def extension? (path : Path) : Option String :=
  match path.fileName? with
  | some (.text text) =>
      match Text.cutLast? '.' text.toList with
      | some (_ :: _, after) => some (String.ofList after)
      | _ => none
  | _ => none

/-- The names that a path leads through; a dot counts only at the start of a relative path. -/
def steps (path : Path) : List Name :=
  let rest := path.rest.filter fun name => !name.isHere
  if path.isAbsolute || path.first ≠ .text "" then path.first :: rest else rest

/-- Whether two paths lead through the same names, however they are written. -/
def matchesPath (a b : Path) : Bool :=
  a.isAbsolute = b.isAbsolute && a.steps = b.steps

/-- The part of a path after a directory above it, or the whole path. -/
def relativeTo (directory path : Path) : Path :=
  match Text.after? directory.segments path.segments with
  | some rest => ofSegments rest
  | none => path

end Path

end Provision
