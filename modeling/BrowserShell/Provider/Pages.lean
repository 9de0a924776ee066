import BrowserShell.File.Access
import BrowserShell.Page
import BrowserShell.Provider.Cache
import BrowserShell.Provider.Index
import BrowserShell.Resource
import BrowserShell.Rule

/-!
# Static pages

The provider of the pages directory: a request is answered with the file at the page path of its
URL, after the redirect rules, or at the one below the site key. While debugging, files are looked
up when they are asked for; otherwise an index taken at the beginning says which pages there are,
and what was read once is kept. An answer is worked out as an `Access`, which shows the paths that
it asks about.
-/

namespace BrowserShell

/-- The body of a response that would have none. -/
def placeholder : Bytes := [0x20]

/-- A body, or a blank for an empty one. -/
def orPlaceholder (body : Bytes) : Bytes := if body = [] then placeholder else body

/-- How pages are looked up. -/
inductive Lookup where
  /-- On disk, for every request. -/
  | disk
  /-- In an index, what was read being kept. -/
  | indexed (index : PageIndex) (cache : Cache)
deriving DecidableEq, Repr

/-- The provider of a pages directory. -/
structure Pages where
  /-- The directory. -/
  base : Path
  /-- The redirect rules. -/
  redirect : Rules
  /-- How pages are looked up. -/
  lookup : Lookup

namespace Pages

/-- The provider of the pages below `base`; an index is taken unless `debug` holds. -/
def new (t : FileTree) (base : Path) (debug : Bool) (redirect : Rules) : Pages :=
  ⟨base, redirect, if debug then .disk else .indexed (.build t base) .empty⟩

/-- Whether pages are looked up on disk. -/
def isDebug (p : Pages) : Bool :=
  match p.lookup with
  | .disk => true
  | .indexed _ _ => false

/-- The index, if there is one. -/
def index? (p : Pages) : Option PageIndex :=
  match p.lookup with
  | .disk => none
  | .indexed index _ => some index

/-- What was read and kept, if anything is kept. -/
def cache? (p : Pages) : Option Cache :=
  match p.lookup with
  | .disk => none
  | .indexed _ cache => some cache

/-- The path of the page that a URL leads to. -/
def pagePath (p : Pages) (u : Url) : String := p.redirect.redirected (Page.ofUrl u)

/-- The first of some pages that is a file's below `base`. -/
def firstFile (base : Path) : (pages : List String) → Access (Option String)
  | [] => return none
  | c :: cs => do
    if ← .isFile (base.join c) then return some c else firstFile base cs

/-- The content found for a page, and the provider afterwards. -/
def find (p : Pages) (page : String) : Access (Option Bytes × Pages) :=
  match p.lookup with
  | .disk => do
    match ← firstFile p.base (Page.candidates page) with
    | none => return (none, p)
    | some c => return (some (← .content (p.base.join c)), p)
  | .indexed index cache =>
    match (Page.candidates page).find? index.contains with
    | none => return (none, p)
    | some c =>
      match cache.get? c with
      | some content => return (some content, p)
      | none => do
        match ← .read (p.base.join c) with
        | .ok content =>
          return (some content, { p with lookup := .indexed index (cache.insert c content) })
        | .error _ => return (some [], p)

/-- The answer to a request, and the provider afterwards. Requests of the developer tools and page
paths that lead out of the directory are declined. -/
def answer (p : Pages) (r : Request) : Access (Option Response × Pages) :=
  if r.url.scheme = "devtools" then return (none, p)
  else
    let page := p.pagePath r.url
    if !Page.isContained page then return (none, p)
    else do
      let (body, p) ← p.find page
      return (body.map fun body => .ok r.mime (orPlaceholder body), p)

/-- The answer to a request where the files are those of a tree, and the provider afterwards. -/
def handle (p : Pages) (t : FileTree) (r : Request) : Option Response × Pages := (p.answer r).run t

end Pages

end BrowserShell
