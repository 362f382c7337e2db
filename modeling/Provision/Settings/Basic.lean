import Provision.Json.Value
import Provision.Storage.Files
import Provision.Text.Lowercase

namespace Provision.SettingsFile

/-!
# Settings files

A settings file is JSON, which its extension has to announce.  What is made of the JSON is up to the
reader that the caller gives.
-/

/-- The extensions of settings files, in lower case. -/
def extensions : List String :=
  ["json", "sublime-settings"]

/-- Refuse a path with an extension that no settings file has. -/
def checkFormat (path : Path) : Except StorageFault Unit :=
  let extension := Text.lowercase (path.extension?.getD "")
  if extension ∈ extensions then .ok () else .error (.unknownFormat extension)

/-- Read a settings file, which has to be there. -/
def load {α : Type} (read : Json.Term → Option α) (path : Path) : Storing α := do
  liftExcept (checkFormat path)
  let text ← Files.readText path
  match (Json.Term.ofText? text.toList).bind read with
  | some value => return value
  | none => throw (.badSettings path "not of the expected form")
where
  /-- A check as a step of a procedure. -/
  liftExcept (check : Except StorageFault Unit) : Storing Unit :=
    ExceptT.mk (pure check)

/-- Read a settings file, or take a default where there is no file. -/
def loadOr {α : Type} (read : Json.Term → Option α) (default : α) (path : Path) : Storing α := do
  let isFile ← (Files.isFile path : Plan Bool)
  if isFile then load read path else return default

end Provision.SettingsFile

namespace Provision

/-!
# Settings of the runtime selection

The settings name the sources of a Node.js runtime in the order of preference.  They are read from
an object with one member per field, or from an array of the fields in order; what is missing takes
its default, and other members are ignored.
-/

/-- The settings of the runtime selection. -/
structure Settings where
  sources : List String := ["system", "local"]
  useElectron : Bool := false
  deriving Repr, DecidableEq

namespace Settings

/-- The name of the source that takes a runtime from the search path. -/
def systemName : String := "system"

/-- The name of the source that keeps a runtime in the storage. -/
def localName : String := "local"

/-- Whether the runtime in the storage is preferred to all others. -/
def prefersLocal (settings : Settings) : Bool :=
  settings.sources.head? = some localName

/-- Read the names of sources. -/
def sourcesOf? : Json.Term → Option (List String)
  | .array items =>
      items.mapM fun
        | .string units => Json.decodeString? units
        | _ => none
  | _ => none

/-- Read a truth value. -/
def truthOf? : Json.Term → Option Bool
  | .truth value => some value
  | _ => none

/-- The value of a field: the default if it is missing, nothing if it is given twice. -/
def field? {α : Type} (read : Json.Term → Option α) (default : α) : List Json.Term → Option α
  | [] => some default
  | [term] => read term
  | _ => none

/-- Read settings. -/
def ofTerm? : Json.Term → Option Settings
  | .array fields =>
      if fields.length ≤ 2 then do
        let sources ← field? sourcesOf? ({} : Settings).sources (fields.take 1)
        let useElectron ← field? truthOf? ({} : Settings).useElectron (fields.drop 1)
        return { sources, useElectron }
      else
        none
  | .object members => do
      let members ← members.mapM fun (key, term) => do return (← Json.decodeString? key, term)
      let named := fun name => (members.filter fun (key, _) => key = name).map Prod.snd
      let sources ← field? sourcesOf? ({} : Settings).sources (named "nodejs_runtime")
      let useElectron ← field? truthOf? ({} : Settings).useElectron (named "local_use_electron")
      return { sources, useElectron }
  | _ => none

/-- Read the settings from a file; without a file all settings take their defaults. -/
def load (path : Path) : Storing Settings :=
  SettingsFile.loadOr ofTerm? {} path

end Settings

end Provision
