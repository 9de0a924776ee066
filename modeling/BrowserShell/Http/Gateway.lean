import BrowserShell.Context
import BrowserShell.Http.Message

/-!
# The gateway

Requests over HTTP are answered by the context or, where no provider claims them, by a backend,
whose response passes the filters. `Gateway.receive` takes a request up to its answer or to the
request for the backend, `Gateway.relay` passes the backend's response on, and `Gateway.exchange`
does both with a given backend. Bodies are limited on both ways.
-/

namespace BrowserShell.Http

/-- The settings of a gateway. -/
structure Gateway where
  /-- The greatest size of a body. -/
  maxBodySize : Nat
  /-- Where requests go that no provider claims. -/
  backend : Option BackendConfig
deriving DecidableEq, Repr

namespace Gateway

/-- The gateway of a configuration. -/
def ofConfig (c : Config) : Gateway := ⟨c.listener.maxBodySize, c.backend⟩

/-- The field with the identifier of a request. -/
def idField : String := "x-request-id"

/-- A response with a short text. -/
def notice (status : Nat) (text : String) : Response :=
  ⟨status, [⟨"content-type", Utf8.encode "text/plain; charset=utf-8"⟩], Utf8.encode text⟩

/-- The length of the body that a request declares. -/
def declaredLength? (r : Request) : Option Nat := do
  let text := (← r.fields.text? "content-length").toList
  let digits := if text.head? = some '+' then text.drop 1 else text
  if digits = [] ∨ !digits.all Char.isDigit then none
  else
    let n := digits.foldl (fun n d => n * 10 + (d.toNat - '0'.toNat)) 0
    if n < 0x10000000000000000 then some n else none

/-- What comes next for a request. -/
inductive Step where
  /-- It is answered. -/
  | answer (response : Response)
  /-- It is sent to the backend in this form; the URL is the one it means. -/
  | forward (backend : BackendConfig) (url : Url) (request : Request)

/-- The request as it is sent to a backend: without the encodings it accepts, since filters work on
plain text. None if the backend's address cannot stand in a target. -/
def forwarded? (b : BackendConfig) (r : Request) : Option Request := do
  let target ← Target.parse? ("http://" ++ b.address ++ r.target.origin)
  return { r with target := target, fields := r.fields.remove "accept-encoding" }

/-- The answer to a request whose body is within the limit, and the context afterwards. -/
def route (g : Gateway) (x : Context) (t : FileTree) (r : Request) (url : Url) : Step × Context :=
  match x.resolve t (r.toResource url) with
  | (some response, x) => (.answer (.ofResource response), x)
  | (none, x) =>
    match g.backend with
    | none => (.answer (notice 404 "No provider claimed this request"), x)
    | some b =>
      match forwarded? b r with
      | none => (.answer (notice 502 "Invalid upstream address"), x)
      | some request => (.forward b url request, x)

/-- What comes next for a request, and the context after it. A request for no path is not routed. -/
def receive (g : Gateway) (x : Context) (t : FileTree) (r : Request) : Step × Context :=
  if (declaredLength? r).any (g.maxBodySize < ·) then
    (.answer (notice 413 "length limit exceeded"), x)
  else if r.target.path.toList.head? ≠ some '/' then (.answer ⟨404, [], []⟩, x)
  else
    match r.url with
    | .error _ => (.answer (notice 400 "Invalid request URL"), x)
    | .ok url =>
      if g.maxBodySize < r.body.length then
        (.answer (notice 413 "Request body too large"), x)
      else g.route x t r url

/-- The answer made of a backend's response, none if the backend gave none, and the injection to
post. The body is filtered under the URL with the backend's scheme, if the URL can have it. -/
def relay (g : Gateway) (x : Context) (t : FileTree) (b : BackendConfig) (url : Url) :
    Option Response → Response × Option Injection
  | none => (notice 502 "Upstream request failed", none)
  | some response =>
    if g.maxBodySize < response.body.length then (notice 502 "Upstream body unreadable", none)
    else
      let mime := (response.fields.text? "content-type").getD ""
      let url := (url.withScheme? b.scheme).getD url
      match x.filterBody t url.render mime response.body with
      | (some body, injection) =>
        ({ response with fields := response.fields.remove "content-length", body := body },
          injection)
      | (none, injection) => (response, injection)

/-- What comes of a request. -/
structure Outcome where
  /-- The answer. -/
  response : Response
  /-- The requests sent to the backend. -/
  sent : List Request
  /-- The injections to post. -/
  injections : List Injection
  /-- The context afterwards. -/
  context : Context

/-- The fields with an identifier, if they have none. -/
def identified (id : Bytes) (fs : Fields) : Fields :=
  if (fs.get? idField).isSome then fs else fs.add ⟨idField, id⟩

/-- The identifier in some fields. -/
def idOf (fs : Fields) : Bytes := ((fs.get? idField).map Field.value).getD []

/-- What comes of a request with the backend `ask`. A request without an identifier gets `id`, and
the answer carries the identifier. -/
def exchange (g : Gateway) (ask : Request → Option Response) (id : Bytes) (x : Context)
    (t : FileTree) (r : Request) : Outcome :=
  let r := { r with fields := identified id r.fields }
  let finish := fun (a : Response) => { a with fields := identified (idOf r.fields) a.fields }
  match g.receive x t r with
  | (.answer a, x) => ⟨finish a, [], [], x⟩
  | (.forward b url request, x) =>
    let (a, injection) := g.relay x t b url (ask request)
    ⟨finish a, [request], injection.toList, x⟩

end Gateway

end BrowserShell.Http
