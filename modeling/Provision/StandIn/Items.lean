import Provision.Storage.Files

namespace Provision.StandIn

/-!
# Items on a disk

What is laid out at a path before something is tried there, whatever stood around it: directories
above it are made as needed.
-/

/-- Something that is laid out at a path. -/
inductive Item where
  | directory (mode : Option Nat)
  | file (content : Bytes) (mode : Nat)
  | link (target : Path)
  deriving DecidableEq

/-- Lay out an item. -/
def layOut (path : Path) : Item → Storing Unit
  | .directory mode => do
      Files.reporting path (Files.makeDirectories path)
      if let some mode := mode then
        Files.reporting path (Plan.ask (.changeMode path mode))
  | .file content mode => do
      Files.makeParents path
      Files.reporting path (Plan.ask (.writeFile path content))
      Files.reporting path (Plan.ask (.changeMode path mode))
  | .link target => do
      Files.makeParents path
      Files.reporting path (Plan.ask (.makeLink target path))

/-- Remove what stands at a path: a directory with everything in it. -/
def clear (path : Path) : Plan (Except DiskFault Unit) := do
  match ← Plan.ask (.linkStatus path) with
  | .ok ⟨.directory, _⟩ => Plan.ask (.removeTree path)
  | _ => Plan.ask (.removeFile path)

end Provision.StandIn
