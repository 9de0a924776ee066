import BrowserShell.Header
import BrowserShell.Text.Utf8

/-!
# Header fields of HTTP messages

A field has a name in lower case and any bytes as its value but controls. `Fields` keeps the fields
of a message; those of one name stand together, where the first of them arrived.
-/

namespace BrowserShell.Http

/-- Whether a character may stand in the name of a field and in a method. -/
def isTokenChar (c : Char) : Bool := c.isAlphanum || "!#$%&'*+-.^_\x60|~".toList.contains c

/-- Whether a text is a token. -/
def isToken (s : String) : Bool := s != "" && s.toList.all isTokenChar

/-- A field of a message. -/
structure Field where
  /-- The name, in lower case. -/
  name : String
  /-- The value. -/
  value : Bytes
deriving DecidableEq, Repr

namespace Field

/-- The longest name, in bytes. -/
def maxName : Nat := 65535

/-- Whether a byte may stand in a value. -/
def isValueByte (b : UInt8) : Bool := b = 0x09 || (0x20 ≤ b && b != 0x7F)

/-- The field with a name and a value, none if they are no such. -/
def make? (name : String) (value : Bytes) : Option Field :=
  if isToken name ∧ Text.byteCount name.toList ≤ maxName ∧ value.all isValueByte then
    some ⟨Text.lowered name, value⟩
  else none

/-- The value as text, none if it holds anything but visible ASCII, blanks and tabs. -/
def text? (f : Field) : Option String :=
  if f.value.all fun b => b = 0x09 || (0x20 ≤ b && b < 0x7F) then Utf8.decode? f.value else none

end Field

/-- The fields of a message, those of one name together. -/
abbrev Fields := List Field

namespace Fields

/-- The fields with one more, behind the last of its name. -/
def add : Fields → Field → Fields
  | [], f => [f]
  | g :: gs, f =>
    if g.name = f.name then g :: (gs.takeWhile fun h => h.name = f.name) ++ f ::
      (gs.dropWhile fun h => h.name = f.name)
    else g :: add gs f

/-- The fields in the order of their arrival put together by name. -/
def ofList (fs : List Field) : Fields := fs.foldl add []

/-- The first field of a name. -/
def get? (fs : Fields) (name : String) : Option Field := fs.find? fun f => f.name = name

/-- The text of the first field of a name. -/
def text? (fs : Fields) (name : String) : Option String := (get? fs name).bind Field.text?

/-- The fields without those of a name. -/
def remove (fs : Fields) (name : String) : Fields := fs.filter fun f => f.name ≠ name

/-- The fields as headers of a resource, those left out whose value is no text. -/
def toHeaders (fs : Fields) : Headers := fs.filterMap fun f => f.text?.map fun v => (f.name, v)

end Fields

end BrowserShell.Http
