import BrowserShell.Url.Parser

/-!
# MIME types by extension

The type of a resource whose host names none: read off the extension of the last name in its path. A
name without extension, and the empty name of a folder, is a page.
-/

namespace BrowserShell.Mime

/-- The known extensions. -/
def table : List (String × String) := [
  ("html", "text/html"),
  ("htm", "text/html"),
  ("css", "text/css"),
  ("js", "application/javascript"),
  ("mjs", "application/javascript"),
  ("json", "application/json"),
  ("map", "application/json"),
  ("xml", "text/xml"),
  ("txt", "text/plain"),
  ("svg", "image/svg+xml"),
  ("png", "image/png"),
  ("jpg", "image/jpeg"),
  ("jpeg", "image/jpeg"),
  ("gif", "image/gif"),
  ("webp", "image/webp"),
  ("ico", "image/x-icon"),
  ("woff", "font/woff"),
  ("woff2", "font/woff2"),
  ("ttf", "font/ttf"),
  ("wasm", "application/wasm"),
  ("pdf", "application/pdf")]

/-- The type of a page. -/
def page : String := "text/html"

/-- The type of a resource with an unknown extension. -/
def unknown : String := "application/octet-stream"

/-- The type of an extension, in any case. -/
def ofExtension (extension : String) : String :=
  ((table.find? fun e => Text.sameLetters e.1 extension).map Prod.snd).getD unknown

/-- The last name of a path. -/
def lastName (path : List Char) : List Char :=
  match Text.cutLast? '/' path with
  | some (_, name) => name
  | none => path

/-- The type of the resource at a path. -/
def ofPath (path : String) : String :=
  match Text.cutLast? '.' (lastName path.toList) with
  | some (_, extension) => ofExtension (String.ofList extension)
  | none => page

/-- The path of a URL; of a text that is no URL, what stands before its query and fragment. -/
def pathOf (url : String) : String :=
  match Url.parse url with
  | .ok u => u.path
  | .error _ => String.ofList (url.toList.takeWhile fun c => c != '?' && c != '#')

/-- The type of the resource at a URL. -/
def ofUrl (url : String) : String := ofPath (pathOf url)

end BrowserShell.Mime
