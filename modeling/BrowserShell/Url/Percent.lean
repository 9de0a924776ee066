import BrowserShell.Text.JsonString
import BrowserShell.Text.Utf8

/-!
# Percent encoding

A URL writes the characters that would be read as something else by their bytes, each as a percent
sign and two hexadecimal digits. Which characters these are depends on the part of the URL; a part
is named by its predicate on ASCII characters. Other characters are always written by their bytes.
-/

namespace BrowserShell.Percent

/-- Controls, encoded in every part. -/
def control (c : Char) : Bool := c.toNat < 0x20 || c.toNat == 0x7F

/-- Encoded in a fragment. -/
def fragment (c : Char) : Bool := control c || [' ', '"', '<', '>', '\x60'].contains c

/-- Encoded in a path. -/
def path (c : Char) : Bool := fragment c || ['#', '?', '\x7b', '\x7d'].contains c

/-- Encoded in the name and password before a host. -/
def userInfo (c : Char) : Bool :=
  path c || ['/', ':', ';', '=', '@', '[', '\\', ']', '^', '|'].contains c

/-- Encoded in a query. -/
def query (c : Char) : Bool := control c || [' ', '"', '#', '<', '>'].contains c

/-- Encoded in the query of a URL with a special scheme. -/
def specialQuery (c : Char) : Bool := query c || c == '\''

/-- A hexadecimal digit, in upper case. -/
def hexDigit (n : Nat) : Char :=
  if n < 10 then Char.ofNat ('0'.toNat + n) else Char.ofNat ('A'.toNat + (n - 10))

/-- A byte as a percent sign and two digits. -/
def encodeByte (b : UInt8) : List Char :=
  ['%', hexDigit (b.toNat / 16), hexDigit (b.toNat % 16)]

/-- How a character stands in a part. -/
def encodeChar (isEncoded : Char → Bool) (c : Char) : List Char :=
  if c.toNat < 0x80 && !isEncoded c then [c] else (String.utf8EncodeChar c).flatMap encodeByte

/-- How a text stands in a part. -/
def encode (isEncoded : Char → Bool) (cs : List Char) : List Char :=
  cs.flatMap (encodeChar isEncoded)

/-- The bytes of a text in which percent signs with two digits stand for bytes. -/
def decode : List Char → Bytes
  | '%' :: a :: b :: cs =>
    match JsonString.hexValue? a, JsonString.hexValue? b with
    | some x, some y => UInt8.ofNat (x * 16 + y) :: decode cs
    | _, _ => 0x25 :: decode (a :: b :: cs)
  | c :: cs => String.utf8EncodeChar c ++ decode cs
  | [] => []

end BrowserShell.Percent
