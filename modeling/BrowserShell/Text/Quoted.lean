import BrowserShell.Text.JsonString
import BrowserShell.Unicode.Category
import BrowserShell.Unicode.Property

/-!
# Quoted text

Text between quotes for a reader to look at: quotes, backslashes and line ends are escaped by a
letter, and characters that do not show, or that attach to the one before them, by their number in
braces.
-/

namespace BrowserShell.Quoted

open Unicode

/-- The characters that attach to the one before them. -/
def attaching : RangeMap Unit :=
  ⟨((Range.ofText Property.graphemeExtend).map fun r => (r, ())).toArray⟩

/-- Whether a character shows by itself. -/
def isShown (c : Char) : Bool :=
  if c.toNat < 0x80 then 0x20 ≤ c.toNat && c.toNat < 0x7F
  else
    (attaching.find? c.toNat).isNone &&
      match Category.of? c.toNat with
      | none | some .control | some .format | some .surrogate | some .privateUse
      | some .lineSeparator | some .paragraphSeparator | some .spaceSeparator => false
      | _ => true

/-- How a character stands between the quotes. -/
def escape (c : Char) : List Char :=
  if c = '"' then ['\\', '"']
  else if c = '\\' then ['\\', '\\']
  else if c = '\n' then ['\\', 'n']
  else if c = '\r' then ['\\', 'r']
  else if c = '\t' then ['\\', 't']
  else if c = '\x00' then ['\\', '0']
  else if isShown c then [c]
  else ['\\', 'u', '\x7b'] ++ Nat.toDigits 16 c.toNat ++ ['\x7d']

/-- The text in quotes. -/
def quote (s : String) : String := String.ofList ('"' :: s.toList.flatMap escape ++ ['"'])

end BrowserShell.Quoted
