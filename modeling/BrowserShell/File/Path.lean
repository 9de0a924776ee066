import BrowserShell.Text.Split

/-!
# Paths

A path is a text of names between slashes, kept exactly as it was put together: `Path.join` adds a
slash where one is missing and nothing else, and an absolute second part replaces the first. What a
path means is told by its components, in which repeated slashes and inner dots are gone.
-/

namespace BrowserShell

/-- A path as text. -/
abbrev Path := String

namespace Path

/-- `base` followed by `rest`: a slash is put between them where `base` lacks one at its end, and
an absolute `rest` stands alone. -/
def join (base rest : Path) : Path :=
  let b := base.toList
  if rest.toList.head? = some '/' then rest
  else if b.isEmpty ∨ b.getLast? = some '/' then base ++ rest
  else base ++ "/" ++ rest

/-- A step of a path. -/
inductive Component where
  /-- The slash at the beginning of an absolute path. -/
  | root
  /-- A dot at the beginning of a relative path. -/
  | here
  /-- Two dots. -/
  | up
  /-- A name. -/
  | normal (name : List Char)
deriving DecidableEq, Repr

/-- The component that a piece between slashes stands for, none for an empty one and for a dot. -/
def component? (piece : List Char) : Option Component :=
  if piece = [] ∨ piece = ['.'] then none
  else if piece = ['.', '.'] then some .up
  else some (.normal piece)

/-- The components of a path, given as characters. -/
def componentsOf (cs : List Char) : List Component :=
  let steps := (Text.pieces '/' cs).filterMap component?
  if cs.head? = some '/' then .root :: steps
  else if (Text.pieces '/' cs).head? = some ['.'] then .here :: steps
  else steps

/-- The components of a path. -/
def components (p : Path) : List Component := componentsOf p.toList

/-- Whether two paths have the same components. -/
def same (p q : Path) : Bool := p.components == q.components

end Path

end BrowserShell
