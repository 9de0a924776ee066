import BrowserShell.File.Path
import BrowserShell.Header
import BrowserShell.Mime

/-!
# Requests and responses

A request for a resource as the rendering engine makes it, and the response that a provider gives
in place of the network.
-/

namespace BrowserShell

/-- A part of the body of a request. -/
inductive BodyPart where
  /-- Bytes that the page sends. -/
  | bytes (content : Bytes)
  /-- A file that is sent from disk. -/
  | file (path : Path)
deriving DecidableEq, Repr

/-- A request for a resource. -/
structure Request where
  /-- The URL of the resource. -/
  url : Url
  /-- The method. -/
  method : String := "GET"
  /-- The headers. -/
  headers : Headers := []
  /-- The parts of the body, none if there is no body. -/
  body : Option (List BodyPart) := none
  /-- The MIME type that the engine sees in a URL. -/
  mimeOf : String → String := Mime.ofUrl

/-- The MIME type of the resource asked for. -/
def Request.mime (r : Request) : String := r.mimeOf r.url.render

/-- A response made in place of the network's. -/
structure Response where
  /-- The status. -/
  status : Nat
  /-- The wording of the status. -/
  statusText : String
  /-- The MIME type of the body. -/
  mime : String
  /-- The headers. -/
  headers : Headers
  /-- The body. -/
  body : Bytes
deriving DecidableEq, Repr

/-- A response with the status 200. -/
def Response.ok (mime : String) (body : Bytes) : Response := ⟨200, "OK", mime, [], body⟩

/-- The response with a header added. -/
def Response.withHeader (r : Response) (name value : String) : Response :=
  { r with headers := r.headers.append name value }

end BrowserShell
