import BrowserShell.Toml.Number
import BrowserShell.Toml.Table
import BrowserShell.Toml.Text

/-!
# TOML documents

A document is a row of statements, one a line: pairs of a key and a value, and headers that say
which table the pairs after them belong to. `Document.statements?` reads them and `Document.table?`
puts them together. A reader takes a text and gives what it reads and the text after that.
-/

namespace BrowserShell.Toml

/-- The text after a comment, given the text after its mark; a comment ends with its line. -/
def comment? (cs : List Char) : Option (List Char) :=
  let rest := cs.dropWhile isPlain
  if rest = [] then some [] else lineEnd? rest

/-- The text after a line's rest: blanks, and a comment or none. -/
def restOfLine? (cs : List Char) : Option (List Char) :=
  match blanks cs with
  | [] => some []
  | '#' :: cs => comment? cs
  | cs => lineEnd? cs

/-- The text after blanks, line ends and comments, after its first `skip` characters. -/
def spaceFrom? : (skip : Nat) → List Char → Option (List Char)
  | _, [] => some []
  | skip + 1, _ :: cs => spaceFrom? skip cs
  | 0, c :: cs =>
    if c = ' ' ∨ c = '\t' then spaceFrom? 0 cs
    else
      match (if c = '#' then comment? cs else lineEnd? (c :: cs)) with
      | some rest => spaceFrom? (cs.length - rest.length) cs
      | none => if c = '#' then none else some (c :: cs)

/-- The text after blanks, line ends and comments. -/
def space? (cs : List Char) : Option (List Char) := spaceFrom? 0 cs

/-! ### Keys -/

/-- Keys have fewer parts than this, and values nest less deep. -/
def nestingLimit : Nat := 80

/-- Whether a character may stand in a key without quotes. -/
def isBare (c : Char) : Bool := c.isAlphanum || c = '_' || c = '-'

/-- A part of a key. -/
def keyPart? (cs : List Char) : Option (String × List Char) :=
  match lineString? cs with
  | some found => some found
  | none =>
    let bare := cs.takeWhile isBare
    if bare = [] then none else some (String.ofList bare, cs.dropWhile isBare)

/-- At most `count` parts of a key with points between them, and blanks around them. -/
def keyParts? : (count : Nat) → List Char → Option (List String × List Char)
  | 0, _ => none
  | count + 1, cs => do
    let (k, cs) ← keyPart? (blanks cs)
    match blanks cs with
    | '.' :: cs =>
      let (ks, cs) ← keyParts? count cs
      return (k :: ks, cs)
    | cs => return ([k], cs)

/-- A key: its parts before the last, and the last. -/
def key? (cs : List Char) : Option ((List String × String) × List Char) := do
  let (ks, cs) ← keyParts? (nestingLimit - 1) cs
  return ((ks.dropLast, ← ks.getLast?), cs)

/-! ### Values -/

/-- A reader of values. -/
abbrev ValueReader := List Char → Option (Value × List Char)

/-- The values of an array, given the text after its opening bracket or after a comma in it: at most
`count`, and up to the closing bracket. -/
def items? (value? : ValueReader) : (count : Nat) → List Char → Option (List Value × List Char)
  | 0, _ => none
  | count + 1, cs => do
    match ← space? cs with
    | ']' :: cs => return ([], cs)
    | cs =>
      let (v, cs) ← value? cs
      match ← space? cs with
      | ']' :: cs => return ([v], cs)
      | ',' :: cs =>
        let (vs, cs) ← items? value? count cs
        return (v :: vs, cs)
      | _ => none

/-- A key, an equals sign and a value, with blanks around each. -/
def pair? (value? : ValueReader) (cs : List Char) : Option (Table.Pair × List Char) := do
  let ((path, key), cs) ← key? cs
  let (v, cs) ← value? (blanks (← char? '=' cs))
  return (⟨path, key, v⟩, blanks cs)

/-- The pairs of a table in braces, given the text before the first or after a comma: at most
`count`, and up to the closing brace. -/
def pairs? (value? : ValueReader) : (count : Nat) → List Char →
    Option (List Table.Pair × List Char)
  | 0, _ => none
  | count + 1, cs => do
    let (p, cs) ← pair? value? cs
    match cs with
    | '\x7d' :: cs => return ([p], cs)
    | ',' :: cs =>
      let (ps, cs) ← pairs? value? count cs
      return (p :: ps, cs)
    | _ => none

/-- A table in braces, given the text after the opening one. -/
def braced? (value? : ValueReader) (cs : List Char) : Option (Value × List Char) := do
  match blanks cs with
  | '\x7d' :: cs => return (.table .braced [], cs)
  | _ =>
    let (ps, rest) ← pairs? value? cs.length cs
    return (.table .braced (← Table.addPairs? ps []), rest)

/-- A value that is no array and no table. -/
def scalar? : ValueReader
  | '"' :: cs => (string? ('"' :: cs)).map fun (s, cs) => (.string s, cs)
  | '\'' :: cs => (string? ('\'' :: cs)).map fun (s, cs) => (.string s, cs)
  | 't' :: 'r' :: 'u' :: 'e' :: cs => some (.boolean true, cs)
  | 'f' :: 'a' :: 'l' :: 's' :: 'e' :: cs => some (.boolean false, cs)
  | cs => number? cs

/-- A value in which arrays and tables nest at most `depth` deep. -/
def value? : (depth : Nat) → ValueReader
  | 0 => scalar?
  | depth + 1 => fun
    | '[' :: cs => (items? (value? depth) (cs.length + 1) cs).map fun (vs, cs) => (.array vs, cs)
    | '\x7b' :: cs => braced? (value? depth) cs
    | cs => scalar? cs

/-! ### Statements -/

/-- A line of a document. -/
inductive Statement where
  /-- A pair of a key and a value. -/
  | pair (p : Table.Pair)
  /-- The header of a table: the parts of its name before the last, and the last. -/
  | header (path : List String) (key : String)
  /-- The header of an element of an array of tables. -/
  | element (path : List String) (key : String)
deriving Repr

/-- A statement, given the text from its first character on, and the text after its line. -/
def statement? : List Char → Option (Statement × List Char)
  | '[' :: '[' :: cs => do
    let ((path, key), cs) ← key? cs
    let cs ← char? ']' (← char? ']' cs)
    return (.element path key, ← restOfLine? cs)
  | '[' :: cs => do
    let ((path, key), cs) ← key? cs
    return (.header path key, ← restOfLine? (← char? ']' cs))
  | cs => do
    let (p, cs) ← pair? (value? (nestingLimit - 1)) cs
    return (.pair p, ← restOfLine? cs)

namespace Document

/-- At most `count` statements, up to the end of the text. -/
def statementsFrom? : (count : Nat) → List Char → Option (List Statement)
  | 0, _ => none
  | count + 1, cs => do
    match ← space? cs with
    | [] => return []
    | cs =>
      let (s, cs) ← statement? cs
      return s :: (← statementsFrom? count cs)

/-- The statements of a document. A byte order mark at its beginning is left out. -/
def statements? (s : String) : Option (List Statement) :=
  let cs := match s.toList with
    | '\uFEFF' :: cs => cs
    | cs => cs
  statementsFrom? (cs.length + 1) cs

/-- A header and the pairs after it. -/
structure Section where
  /-- The header. -/
  header : Statement
  /-- The pairs. -/
  pairs : List Table.Pair
deriving Repr

/-- The pairs before the first header, and the headers with the pairs after them. -/
def sections : List Statement → List Table.Pair × List Section
  | [] => ([], [])
  | .pair p :: ss =>
    let (ps, rest) := sections ss
    (p :: ps, rest)
  | h :: ss =>
    let (ps, rest) := sections ss
    ([], ⟨h, ps⟩ :: rest)

/-- The table with what a header and its pairs say. -/
def addSection? (t : Table) (s : Section) : Option Table :=
  match s.header with
  | .header path key => Table.change? (Table.define? key s.pairs) path t
  | .element path key => Table.change? (Table.addElement? key s.pairs) path t
  | .pair _ => some t

/-- The table that statements make, none if they contradict each other. -/
def table? (ss : List Statement) : Option Table := do
  let (ps, rest) := sections ss
  rest.foldlM addSection? (← Table.addPairs? ps [])

/-- The table that a text says. -/
def parse? (s : String) : Option Table := do table? (← statements? s)

end Document

end BrowserShell.Toml
