import BrowserShell.Site
import BrowserShell.Url

/-!
# Page paths

The path, below the pages directory, of the page that a URL names: the host and the path of the URL,
with the name of an index page where the path names a folder. `isContained` tells the paths that
stay below the directory they are joined to.
-/

namespace BrowserShell.Page

/-- The page of a folder. -/
def indexName : String := "index.html"

/-- The path of the page that a URL names. -/
def ofUrl (u : Url) : String :=
  let path := u.path.toList
  let cs :=
    match u.hostText? with
    | some host => host.toList ++ path
    | none => path.dropWhile (· == '/')
  String.ofList <|
    if cs.getLast? = some '/' then cs ++ indexName.toList
    else if cs.contains '/' then cs
    else cs ++ '/' :: indexName.toList

/-- Whether a relative path is a row of plain names: no backslash, and no piece between slashes that
is empty or made of one or two dots. -/
def isContained (relative : String) : Bool :=
  let cs := relative.toList
  !cs.isEmpty && !cs.contains '\\' &&
    (Text.pieces '/' cs).all (fun p => p != [] && p != ['.'] && p != ['.', '.']) &&
    (Path.components relative).all fun
      | .normal _ => true
      | _ => false

/-- The paths tried for a page: the page's own and, where the first segment has another site key,
the one below the key. -/
def candidates (page : String) : List String :=
  match Text.cut? '/' page.toList with
  | none => [page]
  | some (host, rest) =>
    let key := (Site.key (String.ofList host)).toList
    if key = [] ∨ key = host then [page] else [page, String.ofList (key ++ '/' :: rest)]

end BrowserShell.Page
