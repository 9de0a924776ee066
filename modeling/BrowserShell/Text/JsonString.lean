import BrowserShell.Text.Split

/-!
# JSON strings

`JsonString.encode` writes a text as a JSON string literal and `JsonString.decode` reads one at the
beginning of a text, giving the rest after the closing quote. Quotes, backslashes and the controls
below the space are escaped and nothing else: five controls by a letter, the others by their code.
-/

namespace BrowserShell.JsonString

/-- A hexadecimal digit, in lower case. -/
def hexDigit (n : Nat) : Char :=
  if n < 10 then Char.ofNat ('0'.toNat + n) else Char.ofNat ('a'.toNat + (n - 10))

/-- How a character stands between the quotes. -/
def escape (c : Char) : List Char :=
  if c = '"' then ['\\', '"']
  else if c = '\\' then ['\\', '\\']
  else if c = '\x08' then ['\\', 'b']
  else if c = '\x0C' then ['\\', 'f']
  else if c = '\n' then ['\\', 'n']
  else if c = '\r' then ['\\', 'r']
  else if c = '\t' then ['\\', 't']
  else if c.toNat < 0x20 then
    ['\\', 'u', '0', '0', hexDigit (c.toNat / 16), hexDigit (c.toNat % 16)]
  else [c]

/-- The literal of some characters. -/
def encode (cs : List Char) : List Char := '"' :: cs.flatMap escape ++ ['"']

/-- The literal of a text. -/
def literal (s : String) : String := String.ofList (encode s.toList)

/-- The value of a hexadecimal digit of either case. -/
def hexValue? (c : Char) : Option Nat :=
  if '0' ≤ c ∧ c ≤ '9' then some (c.toNat - '0'.toNat)
  else if 'a' ≤ c ∧ c ≤ 'f' then some (c.toNat - 'a'.toNat + 10)
  else if 'A' ≤ c ∧ c ≤ 'F' then some (c.toNat - 'A'.toNat + 10)
  else none

/-- The value of four hexadecimal digits. -/
def hexValue4? (a b c d : Char) : Option Nat := do
  return ((← hexValue? a) * 16 + (← hexValue? b)) * 256 + (← hexValue? c) * 16 + (← hexValue? d)

/-- The character that a letter stands for after a backslash. -/
def letter? (c : Char) : Option Char :=
  match c with
  | '"' => some '"'
  | '\\' => some '\\'
  | '/' => some '/'
  | 'b' => some '\x08'
  | 'f' => some '\x0C'
  | 'n' => some '\n'
  | 'r' => some '\r'
  | 't' => some '\t'
  | _ => none

/-- The characters up to the closing quote, and the rest after it. A code names a character outside
the surrogates; two codes that are a pair of surrogates name one character together. -/
def decodeFrom : List Char → Option (List Char × List Char)
  | [] => none
  | '"' :: rest => some ([], rest)
  | '\\' :: 'u' :: a :: b :: c :: d :: '\\' :: 'u' :: e :: f :: g :: h :: rest => do
    let n ← hexValue4? a b c d
    if 0xD800 ≤ n ∧ n < 0xDC00 then
      let m ← hexValue4? e f g h
      if 0xDC00 ≤ m ∧ m < 0xE000 then
        let (cs, rest) ← decodeFrom rest
        return (Char.ofNat (0x10000 + (n - 0xD800) * 0x400 + (m - 0xDC00)) :: cs, rest)
      else none
    else if n.isValidChar then
      let (cs, rest) ← decodeFrom ('\\' :: 'u' :: e :: f :: g :: h :: rest)
      return (Char.ofNat n :: cs, rest)
    else none
  | '\\' :: 'u' :: a :: b :: c :: d :: rest => do
    let n ← hexValue4? a b c d
    if n.isValidChar then
      let (cs, rest) ← decodeFrom rest
      return (Char.ofNat n :: cs, rest)
    else none
  | '\\' :: c :: rest => do
    let c ← letter? c
    let (cs, rest) ← decodeFrom rest
    return (c :: cs, rest)
  | c :: rest =>
    if c.toNat < 0x20 then none
    else (decodeFrom rest).map fun (cs, rest) => (c :: cs, rest)

/-- The text of the literal at the beginning of some characters, and the rest after it. -/
def decode? : List Char → Option (List Char × List Char)
  | '"' :: rest => decodeFrom rest
  | _ => none

end BrowserShell.JsonString
