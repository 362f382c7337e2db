import Provision.Server.Basic
import Provision.Text.Fields

namespace Provision

/-!
# Resources of packages

Resources are files that come with a package.  A resource path is a text with slashes, rooted at
`Packages/`; it is followed below one directory and cannot leave it.
-/

/-- The directory that holds the resources of all packages. -/
structure Resources where
  root : Path
  deriving DecidableEq

namespace Resources

/-- The beginning that resource paths have and need not have. -/
def opening : String := "Packages/"

/-- The resource path of a file in a package. -/
def nameIn (package name : String) : String :=
  opening ++ package ++ "/" ++ Text.withoutLeading '/' name

/-- The names that a resource path leads through. -/
def namesOf (path : String) : List String :=
  let below := (Text.afterString? opening path).getD path
  ((Text.fields '/' below.toList).map String.ofList).filter fun name => name ≠ "" && name ≠ "."

/-- The place of a resource, unless its path leads upwards. -/
def resolve (resources : Resources) (path : String) : Except ServerFault Path :=
  if ".." ∈ namesOf path then
    .error (.badConfig (.leavesPackages path))
  else
    .ok ((namesOf path).foldl (fun place name => place.child (.text name)) resources.root)

/-- Whether a resource is there. -/
def exists? (resources : Resources) (path : String) : Plan Bool :=
  match resources.resolve path with
  | .ok place => Files.exists? place
  | .error _ => return false

/-- The place of a resource that has to be there. -/
def existing (resources : Resources) (path : String) : Serving Path := do
  let place ← Serving.require (resources.resolve path)
  let isThere ← (Files.exists? place : Plan Bool)
  if isThere then return place else throw (.missingResource path)

/-- The content of a resource. -/
def readBytes (resources : Resources) (path : String) : Serving Bytes := do
  let place ← resources.existing path
  Serving.storing (Files.content place)

/-- The text of a resource, with replacement characters for what is no text. -/
def readText (resources : Resources) (path : String) : Serving String := do
  return String.ofList (Text.Utf8.decodeReplacing (← resources.readBytes path))

/-- Copy a resource to a file. -/
def copyFile (resources : Resources) (path : String) (target : Path) : Serving Unit := do
  let place ← resources.existing path
  Serving.storing do
    Files.makeParents target
    Files.reporting target (Plan.ask (.copyFile place target))

/-- Copy a directory of resources with all that it holds. -/
def copyTree (resources : Resources) (path : String) (target : Path) : Serving Unit := do
  let place ← resources.existing path
  Serving.storing (Files.copyTree place target)

end Resources

end Provision
