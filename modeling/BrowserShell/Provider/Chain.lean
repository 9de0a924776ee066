import BrowserShell.Resource

/-!
# Provider chains

Providers in the order in which they are asked: by priority, and in the order of their registration
among equals. A request is answered by the first provider that claims it; the providers behind that
one are not asked. A chain is made for any kind of provider, whose state a request may change.
-/

namespace BrowserShell

/-- A provider in a chain. -/
structure Registered (σ : Type) where
  /-- Providers with smaller numbers are asked first. -/
  priority : Int
  /-- The key under which the provider can be removed. -/
  key : Option String
  /-- The provider. -/
  provider : σ

/-- Providers in the order in which they are asked. -/
abbrev Chain (σ : Type) := List (Registered σ)

namespace Chain

variable {σ : Type}

/-- The chain with a provider added: before the first that has a greater priority. -/
def add (c : Chain σ) (provider : σ) (priority : Int) (key : Option String) : Chain σ :=
  let entry : Registered σ := ⟨priority, key.filter (· != ""), provider⟩
  c.takeWhile (fun e => e.priority ≤ priority) ++
    entry :: c.dropWhile (fun e => e.priority ≤ priority)

/-- How many providers have a key, and the chain without them. -/
def remove (c : Chain σ) (key : String) : Nat × Chain σ :=
  let rest := c.filter fun e => e.key != some key
  (c.length - rest.length, rest)

/-- The answer of the first provider that claims a request, and the chain afterwards; `handle` gives
the answer of a provider and its state afterwards. -/
def resolve (handle : σ → Option Response × σ) : Chain σ → Option Response × Chain σ
  | [] => (none, [])
  | e :: rest =>
    match handle e.provider with
    | (some response, provider) => (some response, { e with provider := provider } :: rest)
    | (none, provider) =>
      let (response, rest) := resolve handle rest
      (response, { e with provider := provider } :: rest)

end Chain

end BrowserShell
