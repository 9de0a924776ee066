import BrowserShell.File.Tree

/-!
# The page index

The paths of all files below a directory, taken at one time.
-/

namespace BrowserShell

/-- A set of page paths. -/
structure PageIndex where
  /-- The paths, each once, in increasing order. -/
  pages : List String
deriving DecidableEq, Repr

namespace PageIndex

/-- The index of the given paths. -/
def ofList (paths : List String) : PageIndex :=
  ⟨(paths.mergeSort fun a b => decide (a ≤ b)).foldr
    (fun p ps => if ps.head? = some p then ps else p :: ps) []⟩

/-- The index of the files below a directory; empty where the path is no directory's. -/
def build (t : FileTree) (base : Path) : PageIndex :=
  ofList ((t.filesBelow base).map fun names => String.ofList (Text.joined '/' names))

/-- Whether a path is in the index. -/
def contains (i : PageIndex) (path : String) : Bool := i.pages.contains path

end PageIndex

end BrowserShell
