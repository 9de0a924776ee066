import BrowserShell.Text.Utf8

/-!
# Templates

The text that takes the place of a match: a dollar sign before a number or name stands for what the
group took, and two of them for one. A name without braces runs as far as letters, digits and
underscores go. `Template.braced` puts braces around every number without them, so that `$1a` means
the first group and a letter.
-/

namespace BrowserShell.Pattern

namespace Template

/-- A piece of a template. -/
inductive Piece where
  /-- A character that stands for itself. -/
  | char (c : Char)
  /-- The group of this number. -/
  | number (n : Nat)
  /-- The group of this name. -/
  | name (cs : List Char)
deriving DecidableEq, Repr

/-- Whether a character may stand in a name without braces. -/
def isNameChar (c : Char) : Bool := c.isAlphanum || c == '_'

/-- The greatest number of a group. -/
def maxNumber : Nat := 0xFFFFFFFFFFFFFFFF

/-- The number that some characters write, behind a plus sign or not. -/
def number? (cs : List Char) : Option Nat :=
  let digits := match cs with
    | '+' :: ds => ds
    | ds => ds
  let n := digits.foldl (fun n d => n * 10 + (d.toNat - '0'.toNat)) 0
  if digits.isEmpty || !digits.all Char.isDigit || maxNumber < n then none else some n

/-- The piece that refers to a group. -/
def reference (cs : List Char) : Piece :=
  match number? cs with
  | some n => .number n
  | none => .name cs

/-- The piece that a dollar sign begins, and how many of the characters after it belong to it. -/
def dollar : List Char → Piece × Nat
  | '$' :: _ => (.char '$', 1)
  | '\x7b' :: rest =>
    let name := rest.takeWhile (· != '\x7d')
    if name.length < rest.length then (reference name, name.length + 2) else (.char '$', 0)
  | cs =>
    let name := cs.takeWhile isNameChar
    if name.isEmpty then (.char '$', 0) else (reference name, name.length)

/-- The pieces of a template; `skip` characters belong to the piece before. -/
def piecesFrom : (skip : Nat) → List Char → List Piece
  | _, [] => []
  | skip + 1, _ :: cs => piecesFrom skip cs
  | 0, c :: cs =>
    let (piece, used) := if c = '$' then dollar cs else (.char c, 0)
    piece :: piecesFrom used cs

/-- The pieces of a template. -/
def pieces (cs : List Char) : List Piece := piecesFrom 0 cs

/-- What a template stands for, where `group` gives what a group took and `index?` the number of a
name; a group that took nothing or does not exist stands for nothing. -/
def expand (group : Nat → Bytes) (index? : List Char → Option Nat) (ps : List Piece) : Bytes :=
  ps.flatMap fun
    | .char c => String.utf8EncodeChar c
    | .number n => group n
    | .name cs => ((index? cs).map group).getD []

/-- Where a template is while braces are put around its numbers. -/
inductive Place where
  /-- Outside references. -/
  | plain
  /-- Behind a dollar sign that may begin a reference. -/
  | dollar
  /-- In a number, whose brace is open. -/
  | number
deriving DecidableEq, Repr

/-- The rest of a template with braces around its numbers, from a place in it on. -/
def bracedFrom : Place → List Char → List Char
  | .plain, [] => []
  | .dollar, [] => ['$']
  | .number, [] => ['\x7d']
  | .plain, c :: cs => if c = '$' then bracedFrom .dollar cs else c :: bracedFrom .plain cs
  | .dollar, c :: cs =>
    if c = '$' then '$' :: '$' :: bracedFrom .plain cs
    else if c.isDigit then '$' :: '\x7b' :: c :: bracedFrom .number cs
    else '$' :: c :: bracedFrom .plain cs
  | .number, c :: cs =>
    if c.isDigit then c :: bracedFrom .number cs
    else if c = '$' then '\x7d' :: bracedFrom .dollar cs
    else '\x7d' :: c :: bracedFrom .plain cs

/-- The template with braces around its numbers. -/
def braced (cs : List Char) : List Char := bracedFrom .plain cs

end Template

end BrowserShell.Pattern
