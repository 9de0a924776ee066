import BrowserShell.Provider.Pages

/-!
# A directory under a URL

The provider of a data directory: URLs that begin with its prefix name the files below it.
-/

namespace BrowserShell

/-- The provider of a directory under a prefix. -/
structure Directory where
  /-- What the URLs of its files begin with; it ends with a slash. -/
  start : String
  /-- The directory. -/
  dir : Path
deriving DecidableEq, Repr

namespace Directory

/-- The provider of a directory under a prefix, to which a slash is added if it has none at its
end. -/
def new (start : String) (dir : Path) : Directory :=
  ⟨if Text.hasEnd start "/" then start else start ++ "/", dir⟩

/-- The path of the file that a URL names: what follows its beginning, up to query and fragment. -/
def relative? (d : Directory) (url : String) : Option String := do
  let rest ← Text.after? d.start.toList url.toList
  let path := String.ofList (rest.takeWhile fun c => c != '?' && c != '#')
  if Page.isContained path then some path else none

/-- The answer to a request. -/
def answer (d : Directory) (r : Request) : Access (Option Response) :=
  match d.relative? r.url.render with
  | none => return none
  | some path => do
    if ← .isFile (d.dir.join path) then
      return some (.ok r.mime (orPlaceholder (← .content (d.dir.join path))))
    else return none

/-- The answer to a request where the files are those of a tree. -/
def handle (d : Directory) (t : FileTree) (r : Request) : Option Response := (d.answer r).run t

end Directory

end BrowserShell
