import Provision.Server.Extension
import Provision.Server.Npm
import Provision.Server.Python

namespace Provision

/-!
# Servers of any kind

A host that looks after servers of several kinds holds them as one type, which is a kind of server
again: each operation is that of the kind at hand.
-/

/-- A server of one of the kinds. -/
inductive AnyServer where
  | npm (server : NpmServer)
  | pip (server : PipServer)
  | uv (server : UvServer)
  | extension (server : ExtensionServer)

namespace AnyServer

/-- A question to the server, whatever its kind. -/
def answer {α : Type} (question : {σ : Type} → [Server σ] → σ → α) : AnyServer → α
  | .npm server => question server
  | .pip server => question server
  | .uv server => question server
  | .extension server => question server

/-- Let a session of one kind take place. -/
def within
    {σ α : Type}
    (kind : σ → AnyServer)
    (session : Session σ ServerFault α)
    (server : σ) :
    Plan (Except ServerFault α × AnyServer) := do
  let (outcome, server) ← session.run.run server
  return (outcome, kind server)

/-- Let a session take place that every kind has. -/
def act
    {α : Type}
    (session : {σ : Type} → [Server σ] → Session σ ServerFault α) :
    Session AnyServer ServerFault α :=
  ExceptT.mk fun
    | .npm server => within .npm session server
    | .pip server => within .pip session server
    | .uv server => within .uv session server
    | .extension server => within .extension session server

instance : Server AnyServer where
  package := answer Server.package
  binary := answer Server.binary
  directory := answer Server.directory
  isCurrent := act Server.isCurrent
  installSteps := act Server.installSteps

end AnyServer

end Provision
