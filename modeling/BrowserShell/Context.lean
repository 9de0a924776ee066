import BrowserShell.Config
import BrowserShell.Filter
import BrowserShell.Provider

/-!
# The context of requests

What answers the messages of the engine: a chain of providers for requests, and filters for the
bodies that pass. `Context.ofConfig` sets it up, and `Context.step` answers one message; the
injections of filters go to an outbox.
-/

namespace BrowserShell

/-- The priority of the pages and of the dumps. -/
def pagesPriority : Int := 0

/-- The priority of the data directory. -/
def directoryPriority : Int := 100

/-- The providers of a configuration. -/
def Config.chain (c : Config) (t : FileTree) : Chain Provider :=
  let pages := Pages.new t c.content.pagesPath c.content.debug (Rules.ofTexts c.rules.redirect)
  let directory := Directory.new c.content.dataPrefix c.content.dataPath
  (Chain.add (Chain.add (Chain.add [] (.pages pages) pagesPriority none)
    .dump pagesPriority none) (.directory directory) directoryPriority none)

/-- The filters of a configuration. -/
def Config.filters (c : Config) : FilterFactory :=
  ⟨Rules.ofTexts c.rules.replace, c.content.pagesPath⟩

/-- What answers the messages of the engine. -/
structure Context where
  /-- The providers. -/
  chain : Chain Provider
  /-- What filters are made from. -/
  filters : FilterFactory
  /-- The least size of the buffer for a changed body. -/
  capacity : Nat

/-- A message of the engine. -/
inductive Message where
  /-- A request is made. -/
  | resolve (request : Request)
  /-- A body passes. -/
  | filter (url mime : String) (body : Bytes)

/-- The answer to a message. -/
inductive Reply where
  /-- The response of a provider, none if no provider claims the request. -/
  | resolved (response : Option Response)
  /-- The body as it goes on, none if it is not filtered. -/
  | filtered (body : Option Bytes)
deriving DecidableEq, Repr

namespace Context

/-- The context of a configuration. -/
def ofConfig (c : Config) (t : FileTree) : Context :=
  ⟨c.chain t, c.filters, c.filter.outputCapacity⟩

/-- The response to a request, and the context afterwards. -/
def resolve (x : Context) (t : FileTree) (r : Request) : Option Response × Context :=
  let (response, chain) := Chain.resolve (Provider.handle t r) x.chain
  (response, { x with chain := chain })

/-- The body that goes on in place of one that passes, none if it is not filtered, and the injection
to post. -/
def filterBody (x : Context) (t : FileTree) (url mime : String) (body : Bytes) :
    Option Bytes × Option Injection :=
  match x.filters.create? t url mime with
  | none => (none, none)
  | some f =>
    let (body, injection) := f.relay t body x.capacity
    (some body, injection)

/-- The answer to a message, the injections that it posts, and the context afterwards. -/
def step (t : FileTree) (x : Context) : Message → Reply × List Injection × Context
  | .resolve r =>
    let (response, x) := x.resolve t r
    (.resolved response, [], x)
  | .filter url mime body =>
    let (body, injection) := x.filterBody t url mime body
    (.filtered body, injection.toList, x)

/-- The answers to messages one after the other, the outbox with their injections, and the context
afterwards. -/
def run (t : FileTree) (x : Context) (o : Outbox) : List Message → List Reply × Outbox × Context
  | [] => ([], o, x)
  | m :: ms =>
    let (reply, injections, x) := x.step t m
    let (replies, o, x) := run t x (o.post injections) ms
    (reply :: replies, o, x)

end Context

end BrowserShell
