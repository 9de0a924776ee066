import BrowserShell.Pattern.CharSet
import BrowserShell.Unicode.Category
import BrowserShell.Unicode.Property
import BrowserShell.Unicode.Script

/-!
# Named classes of characters

The classes that a pattern names: the shorthands for digits, blanks and word characters, the ASCII
classes in brackets, and the Unicode properties. The names of properties are compared without regard
to case, blanks, hyphens and underscores, and a leading `is` is dropped.
-/

namespace BrowserShell.Pattern

open Unicode (Range Category)

/-- A class with a letter of its own. -/
inductive Shorthand where
  | digit
  | blank
  | word
deriving DecidableEq, Repr, Inhabited

/-- What stands between the braces of a property. -/
inductive PropertyQuery where
  /-- A name alone. -/
  | name (name : String)
  /-- A name and a value. -/
  | value (name value : String)
deriving DecidableEq, Repr, Inhabited

namespace Class

/-- Decimal digits. -/
def digits : CharSet := .ofRanges (Category.ranges .decimalNumber)

/-- Blanks. -/
def blanks : CharSet := .ofRanges (Range.ofText Unicode.Property.whiteSpace)

/-- Letters. -/
def letters : CharSet := .ofRanges (Range.ofText Unicode.Property.alphabetic)

/-- Numbers of every kind. -/
def numbers : CharSet :=
  .ofRanges ([Category.decimalNumber, .letterNumber, .otherNumber].flatMap Category.ranges)

/-- Word characters: letters, marks, digits, connecting punctuation and the controls of joining. -/
def words : CharSet :=
  .ofRanges (letters.ranges ++
    [Category.nonspacingMark, .spacingMark, .enclosingMark, .decimalNumber,
      .connectorPunctuation].flatMap Category.ranges ++
    Range.ofText Unicode.Property.joinControl)

/-- Whether a character is a blank. -/
def isBlank (c : Char) : Bool :=
  if c.toNat < 0x80 then c == ' ' || (0x09 ≤ c.toNat && c.toNat ≤ 0x0D) else blanks.has c.toNat

/-- Whether a character is a letter. -/
def isLetter (c : Char) : Bool :=
  if c.toNat < 0x80 then c.isAlpha else letters.has c.toNat

/-- Whether a character is a letter or number. -/
def isLetterOrNumber (c : Char) : Bool :=
  if c.toNat < 0x80 then c.isAlphanum else letters.has c.toNat || numbers.has c.toNat

/-- Whether an ASCII character belongs to words. -/
def isAsciiWord (n : Nat) : Bool :=
  (0x30 ≤ n && n ≤ 0x39) || (0x41 ≤ n && n ≤ 0x5A) || (0x61 ≤ n && n ≤ 0x7A) || n == 0x5F

/-- Whether a character belongs to words. -/
def isWord (c : Char) : Bool :=
  if c.toNat < 0x80 then isAsciiWord c.toNat else words.has c.toNat

/-- The characters of a shorthand. -/
def ofShorthand : Shorthand → CharSet
  | .digit => digits
  | .blank => blanks
  | .word => words

/-- The ASCII characters of a class in brackets. -/
def ascii? : (name : String) → Option (List Range)
  | "alnum" => some [⟨0x30, 0x39⟩, ⟨0x41, 0x5A⟩, ⟨0x61, 0x7A⟩]
  | "alpha" => some [⟨0x41, 0x5A⟩, ⟨0x61, 0x7A⟩]
  | "ascii" => some [⟨0, 0x7F⟩]
  | "blank" => some [⟨0x09, 0x09⟩, ⟨0x20, 0x20⟩]
  | "cntrl" => some [⟨0, 0x1F⟩, ⟨0x7F, 0x7F⟩]
  | "digit" => some [⟨0x30, 0x39⟩]
  | "graph" => some [⟨0x21, 0x7E⟩]
  | "lower" => some [⟨0x61, 0x7A⟩]
  | "print" => some [⟨0x20, 0x7E⟩]
  | "punct" => some [⟨0x21, 0x2F⟩, ⟨0x3A, 0x40⟩, ⟨0x5B, 0x60⟩, ⟨0x7B, 0x7E⟩]
  | "space" => some [⟨0x09, 0x0D⟩, ⟨0x20, 0x20⟩]
  | "upper" => some [⟨0x41, 0x5A⟩]
  | "word" => some [⟨0x30, 0x39⟩, ⟨0x41, 0x5A⟩, ⟨0x5F, 0x5F⟩, ⟨0x61, 0x7A⟩]
  | "xdigit" => some [⟨0x30, 0x39⟩, ⟨0x41, 0x46⟩, ⟨0x61, 0x66⟩]
  | _ => none

/-- The ASCII characters of a shorthand. -/
def asciiShorthand (s : Shorthand) : CharSet :=
  let name := match s with
    | .digit => "digit"
    | .blank => "space"
    | .word => "word"
  ⟨(ascii? name).getD []⟩

/-- A property's name as it is compared. -/
def plainName (name : String) : String :=
  let cs := (name.toList.map fun c => if c.isUpper then c.toLower else c)
  let hasIs := cs.take 2 = ['i', 's']
  let plain := ((if hasIs then cs.drop 2 else cs).filter fun c =>
    c.toNat < 0x80 && !(c == ' ' || c == '_' || c == '-'))
  -- `isc` is a property of its own, not `c` behind `is`
  String.ofList (if hasIs && plain = ['c'] then ['i', 's', 'c'] else plain)

/-- The code points of a general category or a group of them, or of one of three sets besides. -/
def category? (name : String) : Option CharSet :=
  match name with
  | "any" => some ⟨[⟨0, CharSet.maxPoint⟩]⟩
  | "assigned" => some (.ofRanges Category.assigned)
  | "ascii" => some ⟨[⟨0, 0x7F⟩]⟩
  | name => (Category.named? name).map fun cs =>
    .ofRanges (cs.flatMap fun
      | some c => c.ranges
      | none => CharSet.gaps CharSet.maxPoint 0 (CharSet.ofRanges Category.assigned).ranges)

/-- The code points that a script uses, shared ones among them. -/
def scriptExtended? (name : String) : Option CharSet :=
  (Unicode.Script.find? name).map fun e =>
    (CharSet.ofRanges (Range.ofText e.own ++ Range.ofText e.more)).diff CharSet.maxPoint
      (.ofRanges (Range.ofText e.less))

/-- The code points that a property holds of. -/
def property? : PropertyQuery → Option CharSet
  | .name name =>
    let name := plainName name
    let binary :=
      if name = "cf" ∨ name = "sc" ∨ name = "lc" then none else Unicode.Property.named? name
    (binary.map CharSet.ofRanges).or
      ((category? name).or ((Unicode.Script.named? name).map CharSet.ofRanges))
  | .value name value =>
    let value := plainName value
    match plainName name with
    | "gc" | "generalcategory" => category? value
    | "sc" | "script" => (Unicode.Script.named? value).map CharSet.ofRanges
    | "scx" | "scriptextensions" => scriptExtended? value
    | _ => none

end Class

end BrowserShell.Pattern
