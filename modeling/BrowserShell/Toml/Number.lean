import BrowserShell.Text.JsonString
import BrowserShell.Toml.Value

/-!
# TOML numbers and dates

The values that begin with a digit or sign. Digits may have single underscores between them, whole
numbers are those of 64 bits, and a date is one of the calendar. A reader gives a value and the text
after it.
-/

namespace BrowserShell.Toml

/-! ### Digits -/

/-- The digits after a first one, single underscores between them left out, and the text after
them. -/
def moreDigits (isDigit : Char → Bool) : List Char → List Char × List Char
  | [] => ([], [])
  | '_' :: c :: cs =>
    if isDigit c then
      let (ds, rest) := moreDigits isDigit cs
      (c :: ds, rest)
    else ([], '_' :: c :: cs)
  | c :: cs =>
    if isDigit c then
      let (ds, rest) := moreDigits isDigit cs
      (c :: ds, rest)
    else ([], c :: cs)

/-- The digits at the beginning of a text, at least one, and the text after them. -/
def digits? (isDigit : Char → Bool) : List Char → Option (List Char × List Char)
  | [] => none
  | c :: cs =>
    if isDigit c then
      let (ds, rest) := moreDigits isDigit cs
      some (c :: ds, rest)
    else none

/-- The number that digits of a base spell. -/
def numberOf (base : Nat) (ds : List Char) : Nat :=
  ds.foldl (fun n d => n * base + (JsonString.hexValue? d).getD 0) 0

/-- The sign at the beginning of a text, if there is one, and the text after it. -/
def sign : List Char → List Char × List Char
  | '+' :: cs => (['+'], cs)
  | '-' :: cs => (['-'], cs)
  | cs => ([], cs)

/-- The digits of a whole number without zeros before it, and the text after them. -/
def wholeDigits? : List Char → Option (List Char × List Char)
  | '0' :: cs => some (['0'], cs)
  | cs => digits? Char.isDigit cs

/-! ### Whole numbers -/

/-- The value of a whole number, if it is one of 64 bits. -/
def integerOf? (n : Int) : Option Value :=
  if -0x8000000000000000 ≤ n ∧ n < 0x8000000000000000 then some (.integer n) else none

/-- Whether a character is a digit of the base. -/
def isDigitOf (base : Nat) (c : Char) : Bool := (JsonString.hexValue? c).any (· < base)

/-- The whole number in a base other than ten, given the text after its mark. -/
def based? (base : Nat) (cs : List Char) : Option (Value × List Char) := do
  let (ds, rest) ← digits? (isDigitOf base) cs
  return (← integerOf? (numberOf base ds), rest)

/-- A whole number. -/
def integer? : List Char → Option (Value × List Char)
  | '0' :: 'x' :: cs => based? 16 cs
  | '0' :: 'o' :: cs => based? 8 cs
  | '0' :: 'b' :: cs => based? 2 cs
  | cs => do
    let (s, rest) := sign cs
    let (ds, rest) ← wholeDigits? rest
    let n : Int := numberOf 10 ds
    return (← integerOf? (if s = ['-'] then -n else n), rest)

/-! ### Numbers with a fraction or an exponent -/

/-- The least number above the greatest float that does not round to it. -/
def floatBound : Nat := Nat.pow 2 1024 - Nat.pow 2 970

/-- Whether the number `m · 10 ^ e` rounds to a float. -/
def isFinite (m : Nat) (e : Int) : Bool :=
  let magnitude := (m.repr.length : Int) + e
  m = 0 || magnitude < 300 ||
    (magnitude < 320 &&
      if e < 0 then m < floatBound * Nat.pow 10 e.natAbs else m * Nat.pow 10 e.natAbs < floatBound)

/-- The digits after a point, and the text after them. -/
def fraction? : List Char → Option (List Char × List Char)
  | '.' :: cs => digits? Char.isDigit cs
  | _ => none

/-- The sign and digits of an exponent, and the text after them. -/
def exponent? : List Char → Option ((List Char × List Char) × List Char)
  | c :: cs =>
    if c = 'e' ∨ c = 'E' then do
      let (s, rest) := sign cs
      let (ds, rest) ← digits? Char.isDigit rest
      return ((s, ds), rest)
    else none
  | [] => none

/-- A number with a fraction, an exponent, or both. A positive one that is too great is refused. -/
def decimal? (cs : List Char) : Option (Value × List Char) := do
  let (s, rest) := sign cs
  let (whole, rest) ← wholeDigits? rest
  let withFraction := fraction? rest
  let (part, rest) := withFraction.getD ([], rest)
  let withExponent := exponent? rest
  let ((es, eds), rest) := withExponent.getD (([], []), rest)
  if withFraction.isNone ∧ withExponent.isNone then none
  else
    let e : Int := numberOf 10 eds
    let e := (if es = ['-'] then -e else e) - part.length
    if s = ['-'] ∨ isFinite (numberOf 10 (whole ++ part)) e then
      return (.float (String.ofList (cs.take (cs.length - rest.length))), rest)
    else none

/-- The texts of infinity and of no number, with a sign or without. -/
def special? (cs : List Char) : Option (Value × List Char) :=
  let (s, rest) := sign cs
  match rest with
  | 'i' :: 'n' :: 'f' :: rest => some (.float (String.ofList (s ++ "inf".toList)), rest)
  | 'n' :: 'a' :: 'n' :: rest => some (.float (String.ofList (s ++ "nan".toList)), rest)
  | _ => none

/-! ### Dates and times -/

/-- A number of exactly `count` digits between two bounds, and the text after it. -/
def part? (count low high : Nat) (cs : List Char) : Option (Nat × List Char) :=
  let ds := cs.take count
  let n := numberOf 10 ds
  if ds.length = count ∧ ds.all Char.isDigit ∧ low ≤ n ∧ n ≤ high then some (n, cs.drop count)
  else none

/-- The text after a character. -/
def char? (c : Char) : List Char → Option (List Char)
  | d :: cs => if d = c then some cs else none
  | [] => none

/-- How many days a month has. -/
def daysIn (year month : Nat) : Nat :=
  if month = 2 then
    if year % 4 = 0 ∧ (year % 100 ≠ 0 ∨ year % 400 = 0) then 29 else 28
  else if month = 4 ∨ month = 6 ∨ month = 9 ∨ month = 11 then 30
  else 31

/-- The text after a date. -/
def afterDate? (cs : List Char) : Option (List Char) := do
  let (year, cs) ← part? 4 0 9999 cs
  let (month, cs) ← part? 2 1 12 (← char? '-' cs)
  let (_, cs) ← part? 2 1 (daysIn year month) (← char? '-' cs)
  return cs

/-- The text after a time of day, whose seconds may have a fraction. -/
def afterTime? (cs : List Char) : Option (List Char) := do
  let (_, cs) ← part? 2 0 23 cs
  let (_, cs) ← part? 2 0 59 (← char? ':' cs)
  let (_, cs) ← part? 2 0 60 (← char? ':' cs)
  match cs with
  | '.' :: d :: rest => if d.isDigit then return rest.dropWhile Char.isDigit else return cs
  | cs => return cs

/-- The text after the distance from universal time, of at most a day. -/
def afterOffset? : List Char → Option (List Char)
  | c :: cs =>
    if c = 'Z' ∨ c = 'z' then some cs
    else if c = '+' ∨ c = '-' then do
      let (_, cs) ← part? 2 0 23 cs
      let (_, cs) ← part? 2 0 59 (← char? ':' cs)
      return cs
    else none
  | [] => none

/-- The text after a time that follows a date, if one does. -/
def afterDateTime (cs : List Char) : List Char :=
  match cs with
  | c :: rest =>
    if c = 'T' ∨ c = 't' ∨ c = ' ' then
      match afterTime? rest with
      | some rest => (afterOffset? rest).getD rest
      | none => cs
    else cs
  | [] => []

/-- A date, a time, or both. -/
def time? (cs : List Char) : Option (Value × List Char) := do
  let rest ← ((afterDate? cs).map afterDateTime).or (afterTime? cs)
  return (.time (String.ofList (cs.take (cs.length - rest.length))), rest)

/-- A value that begins with a digit or sign, or a special number. -/
def number? (cs : List Char) : Option (Value × List Char) :=
  (((time? cs).or (decimal? cs)).or (special? cs)).or (integer? cs)

end BrowserShell.Toml
