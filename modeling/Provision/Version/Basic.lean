import Provision.Text.Fields

namespace Provision

/-!
# Versions

A version is a triple of 64-bit numbers with an optional prerelease tag and optional build
metadata.  Versions are totally ordered: by the triple, then by the prerelease tag (a release stands
above its prereleases), then by the build metadata (a version without it stands below the ones with
it).
-/

/-- An ASCII letter, an ASCII digit or a hyphen. -/
def isIdentifierChar (c : Char) : Bool :=
  c.isAlphanum || c = '-'

/-- A non-empty text of identifier characters that is not a number. -/
def isWord (text : List Char) : Bool :=
  !text.isEmpty && text.all isIdentifierChar && !text.all Char.isDigit

/-- A non-empty text of identifier characters. -/
def isBuildText (text : List Char) : Bool :=
  !text.isEmpty && text.all isIdentifierChar

/-- One dot-separated part of a prerelease tag: a number, or a word that is not a number. -/
inductive Identifier where
  | numeric (value : Nat)
  | word (text : List Char) (isWord : isWord text = true)
  deriving DecidableEq

/-- One dot-separated part of build metadata; digits keep their leading zeros. -/
structure BuildIdentifier where
  text : List Char
  isText : isBuildText text = true
  deriving DecidableEq

/-- A prerelease tag; the empty tag marks a release. -/
abbrev Prerelease := List Identifier

/-- Build metadata; empty when the version has none. -/
abbrev Build := List BuildIdentifier

/-- A version: a triple of numbers, a prerelease tag and build metadata. -/
structure Version where
  major : UInt64
  minor : UInt64
  patch : UInt64
  prerelease : Prerelease := []
  build : Build := []
  deriving DecidableEq

/-- Compare texts character by character; a text stands above its own beginnings. -/
def compareText : List Char → List Char → Ordering
  | [], [] => .eq
  | [], _ :: _ => .lt
  | _ :: _, [] => .gt
  | a :: restA, b :: restB => (compare a.toNat b.toNat).then (compareText restA restB)

namespace Identifier

/-- Numbers compare by value and stand below words, which compare by their characters. -/
def compare : Identifier → Identifier → Ordering
  | .numeric a, .numeric b => Ord.compare a b
  | .numeric _, .word .. => .lt
  | .word .., .numeric _ => .gt
  | .word a _, .word b _ => compareText a b

/-- The written form of an identifier. -/
def toText : Identifier → List Char
  | .numeric value => Nat.toDigits 10 value
  | .word text _ => text

end Identifier

namespace BuildIdentifier

/-- The value of a text of digits. -/
def number? (identifier : BuildIdentifier) : Option Nat :=
  if identifier.text.all Char.isDigit then
    some (identifier.text.foldl (fun value c => 10 * value + (c.toNat - '0'.toNat)) 0)
  else
    none

/--
Numbers compare by value and, when equal, by how many zeros lead them; they stand below words,
which compare by their characters.
-/
def compare (a b : BuildIdentifier) : Ordering :=
  match a.number?, b.number? with
  | some m, some n => (Ord.compare m n).then (Ord.compare a.text.length b.text.length)
  | some _, none => .lt
  | none, some _ => .gt
  | none, none => compareText a.text b.text

end BuildIdentifier

namespace Prerelease

/-- A release stands above every prerelease; tags compare part by part, the shorter first. -/
def compare : Prerelease → Prerelease → Ordering
  | [], [] => .eq
  | [], _ :: _ => .gt
  | _ :: _, [] => .lt
  | a, b => List.compareLex Identifier.compare a b

end Prerelease

namespace Build

/-- Build metadata compares part by part, the shorter first. -/
def compare (a b : Build) : Ordering :=
  List.compareLex BuildIdentifier.compare a b

end Build

namespace Version

/-- The order of versions: triple, prerelease tag, build metadata. -/
def compare (a b : Version) : Ordering :=
  (Ord.compare a.major.toNat b.major.toNat).then <|
    (Ord.compare a.minor.toNat b.minor.toNat).then <|
      (Ord.compare a.patch.toNat b.patch.toNat).then <|
        (a.prerelease.compare b.prerelease).then <|
          a.build.compare b.build

/-- A release of the given triple. -/
def release (major minor patch : UInt64) : Version :=
  { major, minor, patch }

/-- The version below every other one of its triple. -/
def lowest (major minor patch : UInt64) : Version :=
  { major, minor, patch, prerelease := [.numeric 0] }

/-- Whether two versions have the same triple. -/
def sameTriple (a b : Version) : Bool :=
  a.major = b.major && a.minor = b.minor && a.patch = b.patch

/-- The written form of a triple. -/
def tripleText (major minor patch : UInt64) : String :=
  s!"{major.toNat}.{minor.toNat}.{patch.toNat}"

/-- The written form of a prerelease tag, empty for a release. -/
def prereleaseText (version : Version) : String :=
  ".".intercalate (version.prerelease.map fun part => String.ofList part.toText)

/-- The written form of build metadata, empty when there is none. -/
def buildText (version : Version) : String :=
  ".".intercalate (version.build.map fun part => String.ofList part.text)

/-- The written form of a version. -/
def toText (version : Version) : String :=
  let triple := tripleText version.major version.minor version.patch
  let tag := if version.prerelease.isEmpty then "" else "-" ++ version.prereleaseText
  let metadata := if version.build.isEmpty then "" else "+" ++ version.buildText
  triple ++ tag ++ metadata

end Version

/-!
# Reading prerelease tags and build metadata

A tag is read from left to right, part by part, and the first fault found is the one reported: an
empty part, a number with a leading zero, or a character that no identifier holds.
-/

/-- Why a text is no prerelease tag. -/
inductive TagFault where
  | emptySegment
  | leadingZero
  | unexpectedCharacter
  deriving Repr, DecidableEq

namespace TagFault

/-- The wording of a fault. -/
def message : TagFault → String
  | .emptySegment => "empty identifier segment in pre-release identifier"
  | .leadingZero => "invalid leading zero in pre-release identifier"
  | .unexpectedCharacter => "unexpected character in pre-release identifier"

end TagFault

namespace Identifier

/-- Read one part that holds identifier characters only. -/
def read (text : List Char) : Except TagFault Identifier :=
  if text.all Char.isDigit then
    match text with
    | [] => .error .emptySegment
    | '0' :: _ :: _ => .error .leadingZero
    | digits => .ok (.numeric (digits.foldl (fun value c => 10 * value + (c.toNat - '0'.toNat)) 0))
  else if wellFormed : isWord text = true then
    .ok (.word text wellFormed)
  else
    .error .unexpectedCharacter

end Identifier

namespace Prerelease

/--
Read the parts of a tag.  A character outside every identifier ends the tag: the part before it has
to be complete, and then the character itself is the fault.
-/
def readParts : List (List Char) → Except TagFault Prerelease
  | [] => .ok []
  | part :: parts => do
      let good := part.takeWhile isIdentifierChar
      let identifier ← Identifier.read good
      if good.length < part.length then
        .error .unexpectedCharacter
      else
        return identifier :: (← readParts parts)

/-- Read a prerelease tag; the empty text is the empty tag. -/
def read (text : List Char) : Except TagFault Prerelease :=
  match text with
  | [] => .ok []
  | c :: _ =>
      if isIdentifierChar c || c = '.' then
        readParts (Text.fields '.' text)
      else
        .error .unexpectedCharacter

end Prerelease

namespace BuildIdentifier

/-- Read one part of build metadata. -/
def read? (text : List Char) : Option BuildIdentifier :=
  if isText : isBuildText text = true then some ⟨text, isText⟩ else none

end BuildIdentifier

namespace Build

/-- Read build metadata that is present, so every part has at least one character. -/
def read? (text : List Char) : Option Build :=
  (Text.fields '.' text).mapM BuildIdentifier.read?

end Build

end Provision
