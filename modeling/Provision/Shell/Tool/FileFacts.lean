import Provision.Shell.Mode
import Provision.Shell.Tool.Basic
import Provision.Shell.Tool.Places
import Provision.Shell.Tool.TimeFormat

namespace Provision.Shell.Tool

/-!
# Styles of names

Listings write names as they are, between quotes as a shell reads them, with backslashes, or between
quotes and with backslashes.  Some styles leave names as they are that need no quotes.
-/

open Work

/-- How names are written. -/
inductive NameStyle where
  | literal
  | shell (isConstant usesCodes : Bool)
  | escaped
  | quoted (isConstant : Bool) (quote : Char)
  deriving Repr, DecidableEq

/-- The styles that have names. -/
def namedStyles : List (String × NameStyle) := [
  ("literal", .literal), ("shell", .shell false false), ("shell-always", .shell true false),
  ("shell-escape", .shell false true), ("shell-escape-always", .shell true true),
  ("c", .quoted true '"'), ("c-maybe", .quoted false '"'), ("escape", .escaped),
  ("locale", .quoted true '\''), ("clocale", .quoted true '"')]

/-- A character that is written after a backslash, or as a code if it cannot be printed. -/
def backslashed (extra : List Char) (c : Char) : ByteText :=
  if c = '\\' || extra.contains c then ['\\', c]
  else if isPrintable c then [c]
  else controlText c

/-- Whether a name needs quotes for a shell; what cannot be printed needs them if codes are used. -/
def needsShellQuotes (usesCodes : Bool) (extra : List Char) (name : ByteText) : Bool :=
  let seen := name.filter fun c => usesCodes || isPrintable c || c ∈ ['\n', '\t', '\r']
  name.any extra.contains || (if seen.isEmpty then name.isEmpty else needsQuotes seen)

/-- A name between quotes for a shell, with nothing written as a code. -/
def shellQuoted (name : ByteText) : ByteText :=
  if name.contains '\'' && !name.any isSpecialInDoubleQuotes then '"' :: name ++ ['"']
  else '\'' :: name.flatMap (fun c => if c = '\'' then "'\\''".toList else [c]) ++ ['\'']

/-- A name in a style, where some more characters than usual need quotes. -/
def NameStyle.write (style : NameStyle) (extra : List Char) (name : ByteText) : ByteText :=
  match style with
  | .literal => name
  | .shell isConstant usesCodes =>
      if !isConstant && !needsShellQuotes usesCodes extra name then name
      else if usesCodes then Tool.quoted name
      else shellQuoted name
  | .escaped => name.flatMap (backslashed extra)
  | .quoted isConstant quote =>
      let inside := fun (extra : List Char) => name.flatMap (backslashed (quote :: extra))
      let isPlain := !name.any fun c => c = quote || extra.contains c || !isPrintable c
      if isConstant then quote :: inside extra ++ [quote]
      else if isPlain then name
      else quote :: inside [] ++ [quote]

/-- Whether a style may put some names between quotes and leave others as they are. -/
def NameStyle.mayQuote : NameStyle → Bool
  | .shell false _ | .quoted false _ => true
  | _ => false

/-- Whether a style leaves characters that cannot be printed as they are. -/
def NameStyle.isRaw : NameStyle → Bool
  | .literal | .shell _ false => true
  | _ => false

/-- The style that a text names or that it alone begins to name. -/
def NameStyle.named? (text : ByteText) : Option NameStyle :=
  match namedStyles.lookup (String.ofList text) with
  | some style => some style
  | none =>
      match namedStyles.filter fun item => text.isPrefixOf item.1.toList with
      | [(_, style)] => some style
      | _ => none

/-- The style of names that the environment asks for, or a usual one. -/
def environmentStyle (usual : NameStyle) : Work NameStyle := do
  match (← read).environment.lookup "QUOTING_STYLE".toList with
  | none => return usual
  | some text =>
      match NameStyle.named? text with
      | some style => return style
      | none => do
          remark ("ignoring invalid value of environment variable QUOTING_STYLE: ".toList ++
            quoted text)
          return usual

/-!
# Facts about files

What is known of a file besides its name: what kind of thing it is, who may do what with it, how
many names lead to it, how much room it takes, and its number, by which it is told from others.
-/

/-- What is known of a file, which may be a device. -/
structure FileFacts where
  entry : Entry
  device? : Option Device := none
  links : Nat := 1
  number : Nat := 0

/-- The number of names that lead to an entry. -/
def linkCount (disk : Disk) (location : Location) : Entry → Nat
  | .directory _ =>
      2 + ((disk.children location).filter fun (_, child) => child.isDirectory).length
  | .file { group := some group, .. } =>
      (disk.entries.filter fun (_, entry) =>
        match entry with
        | .file other => other.group = some group
        | _ => false).length
  | _ => 1

/-- The number of an entry, which is the same for all its names. -/
def entryNumber (disk : Disk) (location : Location) (entry : Entry) : Nat :=
  match entry with
  | .file { group := some group, .. } => 1000000 + group
  | _ => 2000000 + disk.entries.findIdx fun (other, _) => other = location

/-- What is known of the entry at a location. -/
def FileFacts.ofEntry (disk : Disk) (location : Location) (entry : Entry) : FileFacts :=
  { entry, links := linkCount disk location entry, number := entryNumber disk location entry }

/-- What is known of a device. -/
def FileFacts.ofDevice (device : Device) : FileFacts :=
  { entry := .file Device.file, device? := some device }

/-- What is known of what a path leads to. -/
def fileFacts (follow : Bool) (path : ByteText) : Work (Except DiskFault FileFacts) := do
  match Device.ofPath? path with
  | some device => return .ok (.ofDevice device)
  | none => do
      let found ← entry follow path
      ask fun disk _ => found.map fun (location, entry) => .ofEntry disk location entry

/-- The letter of a kind of entry. -/
def kindLetter : Disk.Kind → Char
  | .directory => 'd'
  | .link => 'l'
  | .file => '-'

namespace FileFacts

/-- The letter that stands for what a file is. -/
def letter (facts : FileFacts) : Char :=
  if facts.device?.isSome then 'c' else kindLetter (Disk.kindOf facts.entry)

/-- What a file is and who may do what with it. -/
def modeText (facts : FileFacts) : ByteText :=
  facts.letter :: ModeChange.display facts.entry.mode

/-- The number of bytes that are kept for a file, which is filled up to whole blocks. -/
def room (facts : FileFacts) : Nat :=
  match facts.entry with
  | .directory _ => 4096
  | .file file => (file.content.length + 4095) / 4096 * 4096
  | .link _ => 0

/-- Whether a file is a directory. -/
def isDirectory (facts : FileFacts) : Bool :=
  facts.entry.isDirectory

end FileFacts

/-- A text with blanks in front of it up to a width. -/
def padLeft (width : Nat) (text : ByteText) : ByteText :=
  List.replicate (width - text.length) ' ' ++ text

/-- A text with blanks after it up to a width. -/
def padRight (width : Nat) (text : ByteText) : ByteText :=
  text ++ List.replicate (width - text.length) ' '

end Provision.Shell.Tool
