import Provision.Server.Basic
import Provision.Venv.Pip
import Provision.Venv.Uv

namespace Provision

/-!
# Servers installed with pip

The program of the server stands among the programs of a virtual environment, which is the storage
of its package.
-/

/-- A server that is installed with pip. -/
structure PipServer where
  package : String
  programName : String
  environment : PipEnvironment
  deriving DecidableEq

namespace PipServer

/-- The server of a package; the path of the requirements is inside the package. -/
def create
    (layout : StorageLayout)
    (package requirements programName python : String)
    (resources : Resources) :
    Except ServerFault PipServer :=
  if package = "" then
    .error (.badConfig (.missingField "package_name"))
  else if programName = "" then
    .error (.badConfig (.missingField "server_binary"))
  else
    .ok {
      package, programName
      environment := {
        directory := layout.packageStorage package
        requirements := Resources.nameIn package requirements
        python, resources } }

/-- The program of the server. -/
def program (server : PipServer) : Path :=
  server.environment.programs / Venv.programName server.programName

/-- Whether the environment is current and has the program. -/
def isCurrent (server : PipServer) : Serving Bool := do
  let isCurrent ← server.environment.isCurrent
  if isCurrent then (Files.isFile server.program : Plan Bool) else return false

instance : Server PipServer where
  package := fun server => server.package
  binary := program
  directory := fun server => server.environment.directory
  isCurrent := do Procedure.within (← get).isCurrent
  installSteps := do Procedure.within (← get).environment.install

end PipServer

end Provision

namespace Provision

/-!
# Servers installed with uv

The program of the server stands among the programs of a virtual environment that uv keeps in line
with a project file.
-/

/-- A server that is installed with uv. -/
structure UvServer where
  programName : String
  project : UvProject
  deriving DecidableEq

namespace UvServer

/-- The server of a package; the path of the project file is inside the package. -/
def create
    (layout : StorageLayout)
    (package manifest programName : String)
    (resources : Resources) :
    Serving UvServer := do
  let path := Resources.nameIn package manifest
  let project ← UvProject.create package path layout resources
  return { programName, project }

/-- The program of the server. -/
def program (server : UvServer) : Path :=
  server.project.programs / Venv.programName server.programName

/-- Let a session of the environment take place. -/
def onProject
    {α : Type}
    (session : Session UvProject ServerFault α) :
    Session UvServer ServerFault α :=
  ExceptT.mk fun server => do
    let (outcome, project) ← session.run.run server.project
    return (outcome, { server with project })

instance : Server UvServer where
  package := fun server => server.project.package
  binary := program
  directory := fun server => server.project.environment
  isCurrent := do Procedure.within (← get).project.isCurrent
  installSteps := onProject UvProject.install

end UvServer

end Provision
