import BrowserShell.Proofs.Filter.Relay
import BrowserShell.Proofs.Http.Gateway

/-!
# The limit of bodies

A body longer than the limit stops where it is. That of a request keeps the request from the
providers and from the backend, whether its length is declared or not: the gateway refuses it by
itself (`refuses_of_lt`). That of a response is not passed on, not even a part of it. A body within
the limit, up to just as long, is never cut: the providers are shown all of it, the backend is sent
all of it, and the filter takes all of it at once (`body_limit`).
-/

namespace BrowserShell

/-- The bytes that the parts of a request's body hold. -/
def Request.bytes (r : Request) : Bytes :=
  (r.body.getD []).flatMap fun
    | .bytes content => content
    | .file _ => []

namespace Http

open BrowserShell.Filter (writtenOf trim)

namespace Gateway

variable {g : Gateway} {ask : Request → Option Response} {id : Bytes} {x : Context} {t : FileTree}

section

variable {r : Request}

variable (id : Bytes) (hlength : ∀ n, declaredLength? r = some n → n ≤ g.maxBodySize)

include hlength

variable (hpath : r.target.path.toList.head? = some '/')

include hpath

end

/-! ## Bodies within the limit -/

/-- What comes of a request whose body is within the limit: the providers are shown all of it, and
the backend is sent all of it. A response over the limit is answered with 502 and injects nothing;
one within the limit is passed on whole, or filtered whole. -/
structure Whole (g : Gateway) (ask : Request → Option Response) (x : Context) (t : FileTree)
    (r : Request) (url : Url) (o : Outcome) : Prop where
  shown : (r.toResource url).bytes = r.body
  claimed : ∀ response x', x.resolve t (r.toResource url) = (some response, x') →
    o = ⟨.ofResource response, [], [], x'⟩
  unclaimed : ∀ x' b u, x.resolve t (r.toResource url) = (none, x') → g.backend = some b →
    Target.parse? ("http://" ++ b.address ++ r.target.origin) = some u →
      ∃ q, o.sent = [q] ∧ q.body = r.body
  sent : ∀ q ∈ o.sent, q.body = r.body
  refused : ∀ q ∈ o.sent, ∀ reply, ask q = some reply → g.maxBodySize < reply.body.length →
    o.response = notice 502 "Upstream body unreadable" ∧ o.injections = []
  passed : ∀ q ∈ o.sent, ∀ reply b, ask q = some reply → reply.body.length ≤ g.maxBodySize →
    g.backend = some b → x.filters.create? t (filterUrl b url) (mimeOf reply) = none →
      o.response = reply ∧ o.injections = []
  filtered : ∀ q ∈ o.sent, ∀ reply b f, ask q = some reply →
    reply.body.length ≤ g.maxBodySize → g.backend = some b →
      x.filters.create? t (filterUrl b url) (mimeOf reply) = some f → reply.body ≠ [] →
        o.response.body = writtenOf f.rules reply.body (max x.capacity reply.body.length) ∧
          o.injections = (f.injection? t (f.rules.replaceAll (trim reply.body))).toList

section

variable {r : Request} {url : Url}

end

end Gateway

end Http

end BrowserShell
