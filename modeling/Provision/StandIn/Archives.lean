import Provision.Archive.Extract
import Provision.Archive.Zip.Writing

namespace Provision.StandIn

/-!
# Archives for trials

Archives are built with the names as they are given, so that hostile names can be tried out.
-/

/-- A member of an archive: its name, its content and its permission bits. -/
structure Member where
  name : String
  content : Bytes
  mode : Nat
  deriving DecidableEq

/-- An archive of the given kind, unless a name is too long for it. -/
def archive? (kind : Archive.Kind) (members : List Member) : Option Bytes :=
  match kind with
  | .zip =>
      some (Archive.Zip.write
        (members.map fun member => ⟨member.name.toList, member.content, member.mode⟩))
  | .tar wrapping =>
      let named := members.map fun member =>
        (Text.Utf8.ofString member.name, member.content, member.mode)
      if named.all fun (name, _) => name.length ≤ Archive.Tar.maxName then
        some (wrapping.encode (Archive.Tar.write named))
      else
        none

end Provision.StandIn
