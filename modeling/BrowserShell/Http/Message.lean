import BrowserShell.Http.Field
import BrowserShell.Http.Target
import BrowserShell.Resource
import BrowserShell.Url.Parser

/-!
# HTTP messages

Requests and responses as they are sent over HTTP, and their counterparts for resources: the URL
that a request means (`Request.url`), the request for the resource (`Request.toResource`), and the
response that a resource's response is sent as (`Response.ofResource`).
-/

namespace BrowserShell.Http

/-- A request over HTTP. -/
structure Request where
  /-- The method. -/
  method : String
  /-- What is asked for. -/
  target : Target
  /-- The header fields. -/
  fields : Fields
  /-- The body. -/
  body : Bytes
deriving DecidableEq, Repr

/-- A response over HTTP. -/
structure Response where
  /-- The status. -/
  status : Nat
  /-- The header fields. -/
  fields : Fields
  /-- The body. -/
  body : Bytes
deriving DecidableEq, Repr

namespace Request

/-- The request made of some texts, none if one of them has no place in a message. -/
def make? (method target : String) (fields : List (String × Bytes)) (body : Bytes) :
    Option Request := do
  let t ← Target.parse? target
  let fs ← fields.mapM fun (name, value) => Field.make? name value
  if isToken method then return ⟨method, t, .ofList fs, body⟩ else none

/-- The field with the scheme that a server in front was asked under. -/
def schemeField : String := "x-forwarded-proto"

/-- The URL that a request means: its target if that has a scheme, otherwise the path and query at
the host that the request names. -/
def url (r : Request) : Except UrlError Url :=
  if r.target.scheme.isSome then Url.parse r.target.render
  else
    let scheme := (r.fields.text? schemeField).getD "http"
    let host := (r.fields.text? "host").getD "localhost"
    Url.parse (scheme ++ "://" ++ host ++ r.target.origin)

/-- The request for a resource. -/
def toResource (r : Request) (url : Url) : BrowserShell.Request :=
  { url := url
    method := r.method
    headers := r.fields.toHeaders
    body := if r.body = [] then none else some [.bytes r.body] }

end Request

namespace Response

/-- The response that a resource's response is sent as. Its type comes first; a status that is no
status of HTTP becomes 200, and headers that have no place in a message are left out. -/
def ofResource (r : BrowserShell.Response) : Response :=
  let type := if r.mime = "" then none else Field.make? "content-type" (Utf8.encode r.mime)
  let fields := r.headers.filterMap fun (name, value) => Field.make? name (Utf8.encode value)
  ⟨if 100 ≤ r.status ∧ r.status < 1000 then r.status else 200,
    .ofList (type.toList ++ fields), r.body⟩

end Response

end BrowserShell.Http
