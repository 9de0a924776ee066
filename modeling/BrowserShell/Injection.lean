import BrowserShell.Text.JsonString

/-!
# Injections

Code that is run in a page after one of its responses has passed: the script of the site, or a call
that reports the body of a response. `Injection.code` is the code, and an `Outbox` collects the
injections for the context that runs them, as long as it is open.
-/

namespace BrowserShell

/-- Code to be run in a page. -/
inductive Injection where
  /-- The script of a site. -/
  | script (url source : String)
  /-- The report of a body, given as a JSON string. -/
  | event (url payload : String)
deriving DecidableEq, Repr, Inhabited

namespace Injection

/-- The function that reports are passed to. -/
def entryPoint : String := "eventCall"

/-- The report of a body. -/
def ofBody (url body : String) : Injection := .event url (JsonString.literal body)

/-- The URL of the response. -/
def url : Injection → String
  | .script url _ | .event url _ => url

/-- The code of an injection. -/
def code : Injection → String
  | .script _ source => source
  | .event url payload => entryPoint ++ "(" ++ JsonString.literal url ++ "," ++ payload ++ ");"

end Injection

/-- Code as it is run, with the URL of the response that it belongs to. -/
structure Execution where
  /-- The URL of the response. -/
  url : String
  /-- The code. -/
  code : String
deriving DecidableEq, Repr

/-- What is run for injections, in their order. -/
def Injection.executions (is : List Injection) : List Execution :=
  is.map fun i => ⟨i.url, i.code⟩

/-- Where injections wait for the context that runs them. -/
structure Outbox where
  /-- Whether the context still takes injections. -/
  isOpen : Bool
  /-- The injections, in the order in which they were posted. -/
  posted : List Injection
deriving DecidableEq, Repr

namespace Outbox

/-- An outbox without injections. -/
def empty : Outbox := ⟨true, []⟩

/-- The outbox with some injections posted; once closed it takes none. -/
def post (o : Outbox) (is : List Injection) : Outbox :=
  if o.isOpen then { o with posted := o.posted ++ is } else o

/-- The outbox closed. -/
def close (o : Outbox) : Outbox := { o with isOpen := false }

end Outbox

end BrowserShell
