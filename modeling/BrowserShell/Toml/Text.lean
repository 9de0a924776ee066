import BrowserShell.Text.JsonString

/-!
# TOML strings

The four kinds of strings: in double quotes with escapes or in single quotes without, on one line
or, between three quotes, on several. A reader takes the text after the opening quotes and gives the
string and what follows the closing ones.
-/

namespace BrowserShell.Toml

/-- The text after a blank, a space or tab, as long as there is one. -/
def blanks (cs : List Char) : List Char := cs.dropWhile fun c => c = ' ' || c = '\t'

/-- The text after a line end. -/
def lineEnd? : List Char → Option (List Char)
  | '\n' :: cs => some cs
  | '\r' :: '\n' :: cs => some cs
  | _ => none

/-- Whether a character may stand in a comment and, unless it is special there, in a string. -/
def isPlain (c : Char) : Bool := c = '\t' || (' ' ≤ c && c != '\x7F')

/-- A kind of string. -/
structure Quotes where
  /-- The quote. -/
  mark : Char
  /-- Whether there are escapes. -/
  escapes : Bool
  /-- Whether there may be several lines. -/
  lines : Bool
deriving DecidableEq, Repr

namespace Quotes

/-- The number that hexadecimal digits spell. -/
def hexNumber? (cs : List Char) : Option Nat :=
  (cs.mapM JsonString.hexValue?).map fun ds => ds.foldl (fun n d => n * 16 + d) 0

/-- The character with the number that the first `count` characters spell, and the text after it. -/
def numbered? (count : Nat) (cs : List Char) : Option (Char × List Char) := do
  if cs.length < count then none
  else
    let n ← hexNumber? (cs.take count)
    if n.isValidChar then some (Char.ofNat n, cs.drop count) else none

/-- The character of an escape, given the text after the backslash, and the text after it. -/
def escape? : List Char → Option (Char × List Char)
  | [] => none
  | c :: cs =>
    match c with
    | 'b' => some ('\x08', cs)
    | 't' => some ('\t', cs)
    | 'n' => some ('\n', cs)
    | 'f' => some ('\x0c', cs)
    | 'r' => some ('\r', cs)
    | '"' => some ('"', cs)
    | '\\' => some ('\\', cs)
    | 'u' => numbered? 4 cs
    | 'U' => numbered? 8 cs
    | _ => none

/-- The text after blanks and line ends, and after its first `skip` characters. -/
def gapFrom : (skip : Nat) → List Char → List Char
  | _, [] => []
  | skip + 1, _ :: cs => gapFrom skip cs
  | 0, c :: cs =>
    match lineEnd? (c :: cs) with
    | some rest => gapFrom (cs.length - rest.length) cs
    | none => if c = ' ' ∨ c = '\t' then gapFrom 0 cs else c :: cs

/-- The text after a break: blanks, a line end, and all blanks and line ends after that. -/
def break? (cs : List Char) : Option (List Char) := (lineEnd? (blanks cs)).map (gapFrom 0)

/-- The quotes that belong to the string at its end, given the text from the closing quotes on, and
the text after those; there are at most two. None if fewer than three quotes stand there. -/
def closing? (mark : Char) (cs : List Char) : Option (List Char × List Char) :=
  let count := (cs.takeWhile (· = mark)).length
  if count < 3 then none
  else some (List.replicate (min (count - 3) 2) mark, cs.drop (3 + min (count - 3) 2))

/-- The string, given the text after the opening quotes, without its first `skip` characters, and
the text after the closing ones. -/
def contentFrom (q : Quotes) : (skip : Nat) → List Char → Option (List Char × List Char)
  | _, [] => none
  | skip + 1, _ :: cs => contentFrom q skip cs
  | 0, c :: cs =>
    let withFirst := fun (d : Char) (r : Option (List Char × List Char)) =>
      r.map fun (text, rest) => (d :: text, rest)
    if c = q.mark then
      if q.lines then
        match closing? q.mark (c :: cs) with
        | some found => some found
        | none => withFirst c (contentFrom q 0 cs)
      else some ([], cs)
    else if q.escapes ∧ c = '\\' then
      match (if q.lines then break? cs else none), escape? cs with
      | some rest, _ => contentFrom q (cs.length - rest.length) cs
      | none, some (d, rest) => withFirst d (contentFrom q (cs.length - rest.length) cs)
      | none, none => none
    else if isPlain c then withFirst c (contentFrom q 0 cs)
    else
      match (if q.lines then lineEnd? (c :: cs) else none) with
      | some rest => withFirst '\n' (contentFrom q (cs.length - rest.length) cs)
      | none => none

/-- The string, given the text after the opening quotes, and the text after the closing ones. A line
end right after the opening quotes is left out where there may be several lines. -/
def content? (q : Quotes) (cs : List Char) : Option (String × List Char) :=
  let start := if q.lines then (lineEnd? cs).getD cs else cs
  (contentFrom q 0 start).map fun (text, rest) => (String.ofList text, rest)

end Quotes

/-- The string on one line at the beginning of a text, and the text after it. -/
def lineString? : List Char → Option (String × List Char)
  | '"' :: cs => Quotes.content? ⟨'"', true, false⟩ cs
  | '\'' :: cs => Quotes.content? ⟨'\'', false, false⟩ cs
  | _ => none

/-- The string at the beginning of a text, and the text after it. -/
def string? : List Char → Option (String × List Char)
  | '"' :: '"' :: '"' :: cs => Quotes.content? ⟨'"', true, true⟩ cs
  | '\'' :: '\'' :: '\'' :: cs => Quotes.content? ⟨'\'', false, true⟩ cs
  | cs => lineString? cs

end BrowserShell.Toml
