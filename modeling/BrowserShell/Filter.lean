import BrowserShell.File.Access
import BrowserShell.Injection
import BrowserShell.Resource
import BrowserShell.Rule
import BrowserShell.Site

/-!
# Response filters

A filter is attached to a response that passes: it changes the body by the replace rules and posts
an injection, the script of the site for a page and a report of the body for data. What a response
gets is decided when the filter is made; the text of the script is read when a body passes.
-/

namespace BrowserShell

/-- The parts of MIME types that are filtered. -/
def Filter.types : List String := ["html", "json", "xml", "javascript", "text"]

/-- Whether a response is filtered: one over HTTP whose type names text of some kind. -/
def Filter.applies (url mime : String) : Bool :=
  Text.sameLetters (String.ofList (url.toList.take 4)) "http" &&
    Filter.types.any (Text.contains mime)

/-- A filter attached to a response. -/
structure Filter where
  /-- The URL of the response. -/
  url : String
  /-- The MIME type of the response. -/
  mime : String
  /-- Where the script of the site is, or would be. -/
  script : Option Path
  /-- Whether the script was there when the filter was made. -/
  hasScript : Bool
  /-- The replace rules. -/
  rules : Rules

namespace Filter

/-- The host of a URL, empty where there is none. -/
def hostOf (url : String) : String :=
  match Url.parse url with
  | .ok u => u.hostText?.getD ""
  | .error _ => ""

/-- The making of the filter for a response. Its script is the first of the places of the site's
script that is a file, and the last place where none is. -/
def make (scriptRoot : Path) (rules : Rules) (url mime : String) : Access Filter := do
  let places := Site.scripts scriptRoot (hostOf url)
  let found ← .firstFile places
  return ⟨url, mime, found.or places.getLast?, found.isSome, rules⟩

/-- The filter for a response, made where the files are those of a tree. -/
def attach (t : FileTree) (scriptRoot : Path) (rules : Rules) (url mime : String) : Filter :=
  (make scriptRoot rules url mime).run t

/-- Whether a byte is a blank that is dropped around a body. -/
def isBlank (b : UInt8) : Bool := b == 0x0D || b == 0x0A || b == 0x09 || b == 0x20

/-- The body without the blanks around it. -/
def trim (body : Bytes) : Bytes :=
  ((body.dropWhile isBlank).reverse.dropWhile isBlank).reverse

/-- The injection for a body: the script for a page, a report for JSON and XML. -/
def injection? (f : Filter) (t : FileTree) (content : Bytes) : Option Injection :=
  if !f.hasScript then none
  else if Text.contains f.mime "html" then do
    match t.readText (← f.script) with
    | .ok source => return .script f.url source
    | .error _ => none
  else if Text.contains f.mime "json" || Text.contains f.mime "xml" then
    some (.ofBody f.url (Utf8.lossy content))
  else none

/-- What a filter wants of its host after a call. -/
inductive Status where
  /-- Nothing: the chunk is done with. -/
  | done
  /-- More room for what is written. -/
  | needMoreOutput
  /-- An end of the response. -/
  | error
deriving DecidableEq, Repr

/-- What comes of passing a chunk of a body. -/
structure Outcome where
  /-- What is wanted of the host. -/
  status : Status
  /-- How many bytes of the chunk are done with. -/
  consumed : Nat
  /-- How many bytes were written. -/
  written : Nat
  /-- The buffer after the call. -/
  output : Bytes
  /-- The injection to post. -/
  injection : Option Injection
deriving DecidableEq, Repr

/-- Passes a chunk into a buffer. Of the chunk as much is taken as the buffer holds; without rules
it is copied, otherwise it is trimmed and changed and cut off where the buffer ends. -/
def pass (f : Filter) (t : FileTree) (chunk buffer : Bytes) : Outcome :=
  let taken := chunk.take buffer.length
  if taken = [] then ⟨.done, chunk.length, 0, buffer, none⟩
  else
    let content := f.rules.replaceAll (trim taken)
    let written := if f.rules.isEmpty then taken else content.take buffer.length
    { status := .done
      consumed := chunk.length
      written := written.length
      output := written ++ buffer.drop written.length
      injection := f.injection? t content }

/-- Passes a whole body, and gives what is written of it: the buffer holds at least `capacity` bytes
and the body. -/
def relay (f : Filter) (t : FileTree) (body : Bytes) (capacity : Nat) :
    Bytes × Option Injection :=
  let o := f.pass t body (List.replicate (max capacity body.length) 0)
  (o.output.take o.written, o.injection)

end Filter

/-- What filters are made from. -/
structure FilterFactory where
  /-- The replace rules. -/
  rules : Rules
  /-- Where the scripts of sites are. -/
  scriptRoot : Path

/-- The filter for a response, none if the response is not filtered. -/
def FilterFactory.create? (ff : FilterFactory) (t : FileTree) (url mime : String) :
    Option Filter :=
  if Filter.applies url mime then some (.attach t ff.scriptRoot ff.rules url mime) else none

end BrowserShell
