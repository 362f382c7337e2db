import Provision.Archive.Extract
import Provision.Server.Basic
import Provision.Storage.Download
import Provision.Text.Fields

namespace Provision

/-!
# Servers in editor extensions

An extension comes from a marketplace as one archive, which is unpacked to a cache.  Its name is the
name of its publisher and its own name with a dot between them.
-/

/-- A server that is part of an editor extension. -/
structure ExtensionServer where
  package : String
  publisher : String
  name : String
  version : String
  program : String
  cache : Path
  baseUrl : String := "https://marketplace.visualstudio.com/_apis/public/gallery"
  deriving DecidableEq

namespace ExtensionServer

/-- The publisher and the name in the name of an item. -/
def splitItem? (item : String) : Option (String × String) :=
  match Text.cut? '.' item.toList with
  | some (publisher, name) =>
      if publisher.isEmpty || name.isEmpty || name.contains '.' then
        none
      else
        some (String.ofList publisher, String.ofList name)
  | none => none

/-- The server in an extension; the path of its program is inside the extension. -/
def create
    (package item version program : String)
    (cacheRoot : Path) :
    Except ServerFault ExtensionServer :=
  if package = "" || version = "" || program = "" then
    .error (.badConfig .incompleteExtension)
  else
    match splitItem? item with
    | none => .error (.badConfig (.badItemName item))
    | some (publisher, name) =>
        .ok {
          package, publisher, name, version, program
          cache := cacheRoot / package / s!"{item}~{version}" }

/-- The address of the extension. -/
def url (server : ExtensionServer) : String :=
  Text.addressBelow server.baseUrl
    (s!"publishers/{server.publisher}/vsextensions/{server.name}/" ++
      s!"{server.version}/vspackage")

/-- The place of the downloaded archive. -/
def archive (server : ExtensionServer) : Path :=
  server.cache / "extension.vsix"

/-- The place of the program. -/
def programPlace (server : ExtensionServer) : Path :=
  server.cache / server.program

/-- Remove the unpacked extension. -/
def cleanUp (server : ExtensionServer) : Serving Unit :=
  Serving.storing (Files.removeTree server.cache)

/-- Write the archive, unpack it, and require that the program is there. -/
def unpack (server : ExtensionServer) (content : Bytes) : Serving Unit := do
  Serving.storing do
    Files.reporting server.archive (Plan.ask (.writeFile server.archive content))
    let _ ← Archive.extract server.archive server.cache
  let isThere ← (Files.isFile server.programPlace : Plan Bool)
  if !isThere then
    throw (.missingResource server.programPlace.display)

/-- Download the extension and unpack it; the archive does not stay. -/
def install (server : ExtensionServer) : Serving Unit := do
  let content ← Serving.storing (Download.content server.url)
  Serving.storing (Files.reporting server.cache (Files.makeDirectories server.cache))
  Procedure.closedBy (server.unpack content) (Files.discardFile server.archive)

instance : Server ExtensionServer where
  package := fun server => server.package
  binary := programPlace
  directory := fun server => server.cache
  isCurrent := do Procedure.within (Files.isFile (← get).programPlace : Plan Bool)
  installSteps := do Procedure.within (← get).install

end ExtensionServer

end Provision
