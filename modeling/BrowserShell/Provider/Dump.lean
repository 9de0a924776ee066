import BrowserShell.Resource
import BrowserShell.Text.JsonString
import BrowserShell.Text.Utf8

/-!
# Request dumps

Two pages that show the request for them: one lists its headers as JSON, the other shows all of it
as text in a page of HTML.
-/

namespace BrowserShell.Dump

/-- What the path of the header dump ends with. -/
def headerPath : String := "/_/dump/header.html"

/-- What the path of the request dump ends with. -/
def requestPath : String := "/_/dump/request.html"

/-- The header that a page of another origin may send. -/
def customHeader : String := "My-Custom-Header"

/-- A part of a body as it is shown. -/
def partText : BodyPart → String
  | .bytes [] => "\n\tBytes: (empty)"
  | .bytes content => "\n\tBytes: " ++ Utf8.lossy content
  | .file path => "\n\tFile: " ++ path

/-- A request as text. -/
def text (r : Request) : String :=
  let headers :=
    if r.headers.isEmpty then ""
    else "\nHeaders:" ++ String.join (r.headers.map fun h => "\n\t" ++ h.1 ++ ": " ++ h.2)
  let body :=
    match r.body with
    | none | some [] => ""
    | some parts => "\nPost Data:" ++ String.join (parts.map partText)
  "URL: " ++ r.url.render ++ "\nMethod: " ++ r.method ++ headers ++ body

/-- How a character stands in HTML. -/
def escape (c : Char) : List Char :=
  if c = '&' then "&amp;".toList
  else if c = '<' then "&lt;".toList
  else if c = '>' then "&gt;".toList
  else [c]

/-- What stands before the text in the page. -/
def pageStart : String := "<html><body bgcolor=\"white\"><pre>"

/-- What stands after the text in the page. -/
def pageEnd : String := "</pre></body></html>"

/-- The page of a text. -/
def page (s : String) : String :=
  pageStart ++ String.ofList (s.toList.flatMap escape) ++ pageEnd

/-- Headers as a JSON array of objects with one member each. -/
def headersJson (hs : Headers) : String :=
  let member := fun h : String × String =>
    "\x7b" ++ JsonString.literal h.1 ++ ":" ++ JsonString.literal h.2 ++ "\x7d"
  "[" ++ Text.join ',' (hs.map fun h => member h) ++ "]"

/-- The answer with the headers of a request, empty if it has none. -/
def headerDump (r : Request) : Response :=
  let body := if r.headers.isEmpty then "" else headersJson r.headers
  (Response.ok "application/json" (Utf8.encode body)).withHeader "Access-Control-Allow-Origin" "*"

/-- The answer with the text of a request. A page of another origin may read it. -/
def requestDump (r : Request) : Response :=
  let response := Response.ok "text/html" (Utf8.encode (page (text r)))
  match r.headers.get? "origin" with
  | none | some "" => response
  | some origin =>
    (response.withHeader "Access-Control-Allow-Origin" origin).withHeader
      "Access-Control-Allow-Headers" customHeader

/-- The answer to a request. -/
def handle (r : Request) : Option Response :=
  if Text.hasEnd r.url.path headerPath then some (headerDump r)
  else if Text.hasEnd r.url.path requestPath then some (requestDump r)
  else none

end BrowserShell.Dump
