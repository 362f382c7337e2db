import Provision.Codec.Deflate
import Provision.Storage.Files
import Provision.Text.Fields

namespace Provision.Download

/-!
# Downloads

A download is one request.  A server that answers with an error status refuses it; nothing is tried
again.
-/

/-- The lowest status with which a server refuses a request. -/
def refusal : Nat := 400

/-- Send a request and accept any answer that is no refusal. -/
def request (url : String) : Storing Response := do
  match ← (Plan.ask (.fetch url) : Plan (Except String Response)) with
  | .error reason => throw (.download url (.transfer reason))
  | .ok response =>
      if response.status ≥ refusal then
        throw (.download url (.refused response.address response.origin? response.status))
      else
        return response

/-- Put a body into a file that has just been opened, or tell why not all of it is there. -/
def fill (target : Path) : ResponseBody → Plan (Except String Unit)
  | .whole bytes => do
      return (← Plan.ask (.appendFile target bytes)).mapError DiskFault.message
  | .broken received => do
      let _ ← Plan.ask (.appendFile target received)
      return .error "the transfer broke off"

/-- Download to a file, which does not stay when the transfer breaks. -/
def toFile (url : String) (target : Path) : Storing Unit := do
  let response ← request url
  Files.reporting target (Plan.ask (.writeFile target []))
  match ← (fill target response.body : Plan (Except String Unit)) with
  | .ok () => return ()
  | .error reason => do
      (Files.discardFile target : Plan Unit)
      throw (.download url (.transfer reason))

/-- Download into memory, and undo a gzip encoding that the answer declares. -/
def content (url : String) : Storing Bytes := do
  let response ← request url
  match response.body with
  | .broken _ => throw (.download url (.transfer "the transfer broke off"))
  | .whole bytes =>
      if (response.header? "Content-Encoding").any (Text.sameUpToCase · "gzip") then
        let decoded := Codec.Gzip.decode bytes
        if decoded.isWhole then
          return decoded.output
        else
          throw (.download url (.transfer "the gzip stream is damaged"))
      else
        return bytes

end Provision.Download
