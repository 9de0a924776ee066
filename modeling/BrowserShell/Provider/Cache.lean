import BrowserShell.Text.Utf8

/-!
# The content cache

Contents that were read, by page path. The first content kept for a path stays.
-/

namespace BrowserShell

/-- Contents by path, the path of each entry being different. -/
structure Cache where
  /-- The entries, in the order in which they were made. -/
  entries : List (String × Bytes)
deriving DecidableEq, Repr

namespace Cache

/-- A cache without entries. -/
def empty : Cache := ⟨[]⟩

/-- The content kept for a path. -/
def get? (c : Cache) (path : String) : Option Bytes :=
  (c.entries.find? fun e => e.1 = path).map Prod.snd

/-- The cache with a content kept for a path that has none yet. -/
def insert (c : Cache) (path : String) (content : Bytes) : Cache :=
  if (c.get? path).isSome then c else ⟨c.entries ++ [(path, content)]⟩

/-- How many paths have a content. -/
def size (c : Cache) : Nat := c.entries.length

end Cache

end BrowserShell
