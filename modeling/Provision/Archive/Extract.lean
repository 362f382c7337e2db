import Provision.Archive.Unpack
import Provision.Codec.Bzip2
import Provision.Codec.Deflate
import Provision.Codec.Xz
import Provision.Text.Fields
import Provision.Text.Lowercase

namespace Provision.Archive

/-!
# Names of archive members

A member name is untrusted text.  `isUnsafe` holds for every name that could lead out of the
directory that an archive is extracted into, under either kind of slash.  `topLevel?` is the one
directory that all members lie in, if there is one.
-/

/-- Either kind of slash as a forward slash. -/
def forwardSlash (c : Char) : Char :=
  if c = '\\' then '/' else c

/-- Whether a text starts with a drive letter and a colon. -/
def hasDrive : List Char → Bool
  | letter :: ':' :: _ => letter.isAlpha
  | _ => false

/-- Whether a member name could lead out of the directory that it is extracted into. -/
def isUnsafe (name : List Char) : Bool :=
  let normalized := name.map forwardSlash
  normalized.head? = some '/' ||
    hasDrive normalized ||
    (Text.fields '/' normalized).any fun segment => segment = ['.', '.']

/-- The part of a name before its first slash. -/
def topSegment (name : List Char) : List Char :=
  name.takeWhile (· ≠ '/')

/-- The first segment that all non-empty names share, if they do. -/
def topLevel? (names : List (List Char)) : Option (List Char) :=
  match (names.filter fun name => !name.isEmpty).map topSegment with
  | [] => none
  | first :: others => if others.all (· = first) then some first else none

/-!
# Extracting archives

The kind of an archive is told by its file name.  All member names are read and checked before
anything is written.  The answer is the one top directory of the members, if they share one, and
otherwise the target itself.
-/

/-- The compression around a tar archive. -/
inductive Wrapping where
  | none
  | gzip
  | bzip2
  | xz
  deriving Repr, DecidableEq

/-- The kinds of archives. -/
inductive Kind where
  | zip
  | tar (wrapping : Wrapping)
  deriving Repr, DecidableEq

namespace Kind

/-- The endings of file names and the kinds of archives that they announce. -/
def endings : List (String × Kind) := [
  (".zip", .zip), (".vsix", .zip), (".tar.gz", .tar .gzip), (".tgz", .tar .gzip),
  (".tar.bz2", .tar .bzip2), (".tbz2", .tar .bzip2), (".tar.xz", .tar .xz), (".txz", .tar .xz),
  (".tar", .tar .none)]

/-- The kind of archive that a file name announces. -/
def ofName? (name : String) : Option Kind :=
  let lowered := Text.lowercase name
  (endings.find? fun (ending, _) => Text.endsWith lowered ending).map Prod.snd

end Kind

namespace Wrapping

/-- Undo a compression. -/
def decode (wrapping : Wrapping) (bytes : Bytes) : Codec.Decoded :=
  match wrapping with
  | .none => ⟨bytes, .ok []⟩
  | .gzip => Codec.Gzip.decode bytes
  | .bzip2 => Codec.Bzip2.decode 1 bytes
  | .xz => Codec.Xz.decode bytes

/-- Apply a compression. -/
def encode (wrapping : Wrapping) (bytes : Bytes) : Bytes :=
  match wrapping with
  | .none => bytes
  | .gzip => Codec.Gzip.encode bytes
  | .bzip2 => Codec.Bzip2.encode bytes
  | .xz => Codec.Xz.encode bytes

end Wrapping

/-- The members of an archive, read in full. -/
inductive Contents where
  | zip (bytes : Bytes) (members : List Zip.Member)
  | tar (members : List Tar.Member)

namespace Contents

/-- Read an archive of a known kind, or nothing if it is damaged. -/
def read? (kind : Kind) (bytes : Bytes) : Option Contents :=
  match kind with
  | .zip => (Zip.read? bytes).map (.zip bytes)
  | .tar wrapping => (Tar.read? (wrapping.decode bytes)).map .tar

/-- The names of the members; a zip archive names each member once. -/
def names : Contents → List (List Char)
  | .zip _ members => (members.map Zip.Member.name).eraseDups
  | .tar members =>
      (members.filter fun member => member.kind ≠ Tar.globalKind).map fun member =>
        Text.Utf8.decodeReplacing member.name

/-- Unpack all members into a directory. -/
def unpack (archive target : Path) : Contents → Storing Unit
  | .zip bytes members => unpackZip archive target bytes members
  | .tar members => (unpackTar target members).adapt (.badArchive archive)

end Contents

/-- Read an archive; something that can be opened but not read is a bad archive. -/
def readContents (kind : Kind) (archive : Path) : Storing Contents := do
  match ← (Plan.ask (.readFile archive) : Plan (Except DiskFault Bytes)) with
  | .error (.refused .isDirectory) => throw (.badArchive archive "is a directory")
  | .error fault => throw (.file archive fault)
  | .ok bytes =>
      match Contents.read? kind bytes with
      | some contents => return contents
      | none => throw (.badArchive archive "damaged archive")

/-- Extract an archive into a directory, and tell where its members have their root. -/
def extract (archive target : Path) : Storing Path := do
  let name := archive.fileNameText
  match Kind.ofName? name with
  | none => throw (.unknownArchive name)
  | some kind => do
      let contents ← readContents kind archive
      match contents.names.filter isUnsafe with
      | first :: others => throw (.maliciousArchive ((first :: others).map String.ofList))
      | [] => do
          Files.reporting target (Files.makeDirectories target)
          contents.unpack archive target
          match topLevel? contents.names with
          | some root => return target / String.ofList root
          | none => return target

end Provision.Archive
