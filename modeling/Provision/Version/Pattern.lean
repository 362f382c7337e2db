import Provision.Text.Decimal
import Provision.Text.Fields
import Provision.Version.Basic

namespace Provision

/-!
# Version patterns

A pattern is a version of which the last components may be left open, as in a range such as `18` or
`18.2.x`.  The type has one case per number of given components, so a component never follows a
missing one and only a full triple carries a prerelease tag.
-/

/-- A version with its last components left open. -/
inductive VersionPattern where
  | any
  | ofMajor (major : UInt64)
  | ofMinor (major minor : UInt64)
  | full (major minor patch : UInt64) (prerelease : Prerelease)
  deriving DecidableEq

namespace VersionPattern

/-- Why a text is no pattern. -/
inductive Fault where
  | tooManyComponents (input : String)
  | numberAfterWildcard (input : String)
  | badComponent (component : String)
  | badTag (tag : String) (fault : TagFault)
  | tagOnPartial (input : String)
  deriving Repr, DecidableEq

namespace Fault

/-- The wording of a fault. -/
def message : Fault → String
  | .tooManyComponents input => s!"too many components in '{input}'"
  | .numberAfterWildcard input => s!"number after wildcard in '{input}'"
  | .badComponent component => s!"invalid version component '{component}'"
  | .badTag tag fault => s!"invalid prerelease '{tag}': {fault.message}"
  | .tagOnPartial input => s!"prerelease on partial version '{input}'"

end Fault

/-- The lowest version that a pattern names: open components are zero. -/
def floor : VersionPattern → Version
  | .any => Version.release 0 0 0
  | .ofMajor major => Version.release major 0 0
  | .ofMinor major minor => Version.release major minor 0
  | .full major minor patch prerelease => { major, minor, patch, prerelease }

/-- The components that stand for any number. -/
def isWildcard (component : List Char) : Bool :=
  component = ['x'] || component = ['X'] || component = ['*']

/--
The numbers among the components.  Only wildcards may follow a wildcard, so the numbers are the
first components.
-/
def readComponents
    (input : List Char)
    (wildcardSeen : Bool) :
    List (List Char) → Except Fault (List UInt64)
  | [] => .ok []
  | component :: rest =>
      if isWildcard component then
        readComponents input true rest
      else if wildcardSeen then
        .error (.numberAfterWildcard (String.ofList input))
      else
        match Text.word64? component with
        | none => .error (.badComponent (String.ofList component))
        | some value => (readComponents input false rest).map (value :: ·)

/-- The numbers of a dotted core; the empty core has none. -/
def readCore (input core : List Char) : Except Fault (List UInt64) :=
  match core with
  | [] => .ok []
  | core =>
      let components := Text.fields '.' core
      if components.length > 3 then
        .error (.tooManyComponents (String.ofList input))
      else
        readComponents input false components

/-- Give a full triple its prerelease tag; nothing else may have one. -/
def attachTag
    (input : List Char)
    (numbers : List UInt64)
    (tag? : Option (List Char)) :
    Except Fault VersionPattern :=
  match numbers, tag? with
  | major :: minor :: patch :: _, some tag =>
      match Prerelease.read tag with
      | .ok prerelease => .ok (.full major minor patch prerelease)
      | .error fault => .error (.badTag (String.ofList tag) fault)
  | _, some _ => .error (.tagOnPartial (String.ofList input))
  | major :: minor :: patch :: _, none => .ok (.full major minor patch [])
  | [major, minor], none => .ok (.ofMinor major minor)
  | [major], none => .ok (.ofMajor major)
  | [], none => .ok .any

/-- The part of a text that counts: trimmed, without one leading `v` and without build metadata. -/
def significant (input : List Char) : List Char :=
  (Text.dropOne 'v' (Text.trim input)).takeWhile (· ≠ '+')

/-- Read a pattern such as `18`, `v18.2.x` or `1.2.3-rc.1`. -/
def read (input : List Char) : Except Fault VersionPattern :=
  let text := significant input
  let (core, tag?) :=
    match Text.cut? '-' text with
    | some (core, tag) => (core, some tag)
    | none => (text, none)
  match readCore input core with
  | .ok numbers => attachTag input numbers tag?
  | .error fault => .error fault

end VersionPattern

/-!
# Reading a concrete version

A text is first read strictly.  What the strict grammar refuses is read as a pattern whose open
components are zero, so `v22` and `18.2` are versions too; build metadata is then dropped.
-/

namespace Version

/-- Why a text names no version. -/
inductive Fault where
  | pattern (fault : VersionPattern.Fault)
  | noMajor
  deriving Repr, DecidableEq

namespace Fault

/-- The wording of a fault. -/
def message : Fault → String
  | .pattern fault => fault.message
  | .noMajor => "no major version"

end Fault

/-- A number of a strict version: it has no leading zeros. -/
def strictNumber? : List Char → Option UInt64
  | '0' :: _ :: _ => none
  | digits => Text.word64? digits

/-- The triple of a strict version. -/
def strictTriple? (core : List Char) : Option (UInt64 × UInt64 × UInt64) :=
  match Text.fields '.' core with
  | [major, minor, patch] => do
      return (← strictNumber? major, ← strictNumber? minor, ← strictNumber? patch)
  | _ => none

/-- A prerelease tag that is present, and so not empty. -/
def strictTag? (tag : List Char) : Option Prerelease :=
  match tag with
  | [] => none
  | tag => (Prerelease.read tag).toOption

/-- Read a strict version: a full triple, then an optional tag, then optional build metadata. -/
def strict? (text : List Char) : Option Version := do
  let (body, build) ←
    match Text.cut? '+' text with
    | some (body, metadata) => (Build.read? metadata).map fun build => (body, build)
    | none => some (text, [])
  let (core, prerelease) ←
    match Text.cut? '-' body with
    | some (core, tag) => (strictTag? tag).map fun prerelease => (core, prerelease)
    | none => some (body, [])
  let (major, minor, patch) ← strictTriple? core
  return { major, minor, patch, prerelease, build }

/-- Read a version as a pattern whose open components are zero; the major number must be there. -/
def lenient (text : List Char) : Except Fault Version :=
  match VersionPattern.read text with
  | .error fault => .error (.pattern fault)
  | .ok .any => .error .noMajor
  | .ok pattern => .ok pattern.floor

/-- Read a version, with blanks around it and one leading `v` allowed. -/
def read (input : List Char) : Except Fault Version :=
  let text := Text.dropOne 'v' (Text.trim input)
  match strict? text with
  | some version => .ok version
  | none => lenient text

/-- Read a version from a string. -/
def ofString (input : String) : Except Fault Version :=
  read input.toList

end Version

end Provision
