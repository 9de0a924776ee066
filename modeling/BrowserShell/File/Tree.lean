import BrowserShell.File.Folder
import BrowserShell.File.Path

/-!
# The file tree

The files below the current directory as a value. A path is followed name by name: a dot stays, two
dots go back to the directory before, and a file has nothing below it. On the way from the root to
the current directory nothing else stands, so that an absolute path leads to a file only through the
current directory, which may be the root itself. The names in the tree are names that files can
have: a path that spells another one is not written to.
-/

namespace BrowserShell

/-- The files that a program started in some directory can reach. -/
structure FileTree where
  /-- The current directory. -/
  top : Folder
  /-- The names on the way from the root to the current directory. -/
  here : List (List Char)
  /-- It can stand on disk. -/
  wellFormed : top.WellFormed
  /-- So can the directories on the way to it. -/
  names : here.all Folder.isName

namespace FileTree

/-- No files at all, in a directory below the root. -/
def empty : FileTree := ⟨.empty, ["start".toList], trivial, by decide⟩

/-- The root directory. -/
def root (t : FileTree) : Folder := t.here.foldr (fun n d => .folder n d .empty) t.top

/-- Why a file cannot be read. -/
inductive ReadError where
  /-- Nothing has the path. -/
  | missing
  /-- A name on the way is a file's. -/
  | notFolder
  /-- The path is a directory's. -/
  | isFolder
  /-- A name is longer than a file's name can be. -/
  | nameTooLong
  /-- The path holds a character that no path can hold. -/
  | nulByte
  /-- The content is no text. -/
  | notText
deriving DecidableEq, Repr

/-- The wording of a reason. -/
def ReadError.message : ReadError → String
  | .missing => "No such file or directory (os error 2)"
  | .notFolder => "Not a directory (os error 20)"
  | .isFolder => "Is a directory (os error 21)"
  | .nameTooLong => "File name too long (os error 36)"
  | .nulByte => "file name contained an unexpected NUL byte"
  | .notText => "stream did not contain valid UTF-8"

/-- The longest path, in bytes, with the byte that ends it. -/
def maxPath : Nat := 4096

/-- Follows the pieces of a path from the directory `d`, whose ancestors are `above`, innermost
first. Above the root is the root again. -/
def walk : (above : List Folder) → Folder → (pieces : List (List Char)) →
    Except ReadError Folder.Entry
  | _, d, [] => .ok (.folder d)
  | above, d, p :: ps =>
    if p = [] ∨ p = ['.'] then walk above d ps
    else if p = ['.', '.'] then
      match above with
      | [] => walk [] d ps
      | up :: above => walk above up ps
    else if Text.byteCount p > Folder.maxName then .error .nameTooLong
    else
      match d.get? p, ps with
      | none, _ => .error .missing
      | some (.folder inner), ps => walk (d :: above) inner ps
      | some (.file content), [] => .ok (.file content)
      | some (.file _), _ :: _ => .error .notFolder

/-- The names on the way from the root to where the path begins. -/
def start (t : FileTree) (p : Path) : List (List Char) :=
  if p.toList.head? = some '/' then [] else t.here

/-- What the path stands for. -/
def resolve (t : FileTree) (p : Path) : Except ReadError Folder.Entry :=
  let cs := p.toList
  if cs.contains '\x00' then .error .nulByte
  else if cs = [] then .error .missing
  else if Text.byteCount cs ≥ maxPath then .error .nameTooLong
  else walk [] t.root (t.start p ++ Text.pieces '/' cs)

/-- Whether the path is a file's. -/
def isFile (t : FileTree) (p : Path) : Bool :=
  match t.resolve p with
  | .ok (.file _) => true
  | _ => false

/-- Whether the path is a directory's. -/
def isFolder (t : FileTree) (p : Path) : Bool :=
  match t.resolve p with
  | .ok (.folder _) => true
  | _ => false

/-- The content of the file at the path. -/
def read (t : FileTree) (p : Path) : Except ReadError Bytes :=
  match t.resolve p with
  | .ok (.file content) => .ok content
  | .ok (.folder _) => .error .isFolder
  | .error e => .error e

/-- The content of the file at the path, as text. -/
def readText (t : FileTree) (p : Path) : Except ReadError String := do
  match Utf8.decode? (← t.read p) with
  | some s => .ok s
  | none => .error .notText

/-- Whether the directory that the names lead to below the path can be listed: its path is not too
long. -/
def canList (p : Path) (names : List (List Char)) : Bool :=
  names.isEmpty ||
    Text.byteCount (p.join (String.ofList (Text.joined '/' names))).toList < maxPath

/-- The files below the directory at the path: the names on the way to each from there. What stands
in a directory that cannot be listed is left out. -/
def filesBelow (t : FileTree) (p : Path) : List (List (List Char)) :=
  match t.resolve p with
  | .ok (.folder d) => (d.files.map Prod.fst).filter fun names => canList p names.dropLast
  | _ => []

/-- The names that a path spells, where `names` are those before it, last first: dots are left out
and two dots take the last name back. -/
def spelled (names : List (List Char)) : (pieces : List (List Char)) → List (List Char)
  | [] => names.reverse
  | p :: ps =>
    if p = [] ∨ p = ['.'] then spelled names ps
    else if p = ['.', '.'] then spelled names.tail ps
    else spelled (p :: names) ps

/-- The names on the way from the current directory that a path spells. -/
def namesOf (p : Path) : List (List Char) := spelled [] (Text.pieces '/' p.toList)

/-- The tree with a file written at the path; where the path ends with a slash a directory is made
instead. Nothing is written where the path is absolute or spells what is no name. -/
def write (t : FileTree) (p : Path) (content : Bytes) : FileTree :=
  if h : p.toList.head? ≠ some '/' ∧ (namesOf p).all Folder.isName then
    if p.toList.getLast? = some '/' then
      { t with top := t.top.make (namesOf p), wellFormed := t.wellFormed.make _ h.2 }
    else
      { t with
        top := t.top.write content (namesOf p)
        wellFormed := t.wellFormed.write content _ h.2 }
  else t

/-- The tree without the file or directory at the path; unchanged where the path is absolute or
spells what is no name. -/
def remove (t : FileTree) (p : Path) : FileTree :=
  if h : p.toList.head? ≠ some '/' ∧ (namesOf p).all Folder.isName then
    { t with top := t.top.remove (namesOf p), wellFormed := t.wellFormed.remove _ h.2 }
  else t

end FileTree

end BrowserShell
