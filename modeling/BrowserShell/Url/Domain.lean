import BrowserShell.Text.Utf8
import BrowserShell.Unicode.Category
import BrowserShell.Unicode.Direction
import BrowserShell.Unicode.DomainMap
import BrowserShell.Unicode.Normal
import BrowserShell.Url.Punycode

/-!
# Domain names

A domain name in the form that a URL keeps: its characters mapped and composed, its labels checked,
and each label with other than ASCII characters written in ASCII behind the mark `xn--`. A label
that came with the mark is decoded and checked as what it decodes to. `Domain.toAscii?` refuses a
name with a character that may not occur, and one whose labels break a rule on their characters'
order.
-/

namespace BrowserShell.Domain

open Unicode

/-- The mark of a label in ASCII writing. -/
def mark : List Char := ['x', 'n', '-', '-']

/-- The ASCII characters that no domain name may hold. -/
def isForbidden (c : Char) : Bool :=
  c.toNat ≤ 0x20 || c.toNat == 0x7F || "%#/:<>?@[\\]^|".toList.contains c

/-- The characters after mapping and composing. -/
def mapped? (cs : List Char) : Option (List Char) := do
  let ns ← cs.mapM fun c => domainMap? c.toNat
  return (normal ns.flatten).map Char.ofNat

/-- Whether the character attaches to the one before it. -/
def isMark (c : Char) : Bool :=
  (Category.of? c.toNat).any fun k =>
    [Category.nonspacingMark, .spacingMark, .enclosingMark].contains k

/-- The combining class of the sign that mutes a vowel. -/
def viramaClass : Nat := 9

/-- Whether a joiner after `before`, last character first, and before `after` stands where it has an
effect: after a muting sign, or, for the one that parts letters, between letters that would join. -/
def joinerFits (joiner : Char) (before after : List Char) : Bool :=
  let types := fun cs : List Char =>
    (cs.map fun c => joining c.toNat).dropWhile fun j => j == Joining.transparent
  match before with
  | [] => false
  | c :: _ =>
    combiningClass c.toNat == viramaClass ||
      joiner == '\u200C' &&
        ((types before).head? == some Joining.left || (types before).head? == some Joining.dual) &&
        ((types after).head? == some Joining.right || (types after).head? == some Joining.dual)

/-- Whether every joiner of a label stands where it has an effect. -/
def joinersFit (before : List Char) : List Char → Bool
  | [] => true
  | c :: cs =>
    (!(c == '\u200C' || c == '\u200D') || joinerFits c before cs) && joinersFit (c :: before) cs

/-- Whether a character runs from right to left. -/
def runsLeft (c : Char) : Bool :=
  [Direction.rightToLeft, .arabicLetter, .arabicNumber].contains (direction c.toNat)

/-- The directions of the characters of a label, nonspacing marks at its end left out. -/
def directionsOf (label : List Char) : List Direction :=
  ((label.map fun c => direction c.toNat).reverse.dropWhile
    fun d => d == .nonspacingMark).reverse

/-- Whether a label keeps to the order of a name that has characters from right to left: it begins
with a letter and stays in the direction of that letter. -/
def directionFits (label : List Char) : Bool :=
  let ds := directionsOf label
  match label.map (fun c => direction c.toNat) with
  | [] => true
  | .leftToRight :: _ =>
    ds.all (fun d => [.leftToRight, .europeanNumber, .europeanSeparator, .commonSeparator,
      .europeanTerminator, .otherNeutral, .boundaryNeutral, .nonspacingMark].contains d) &&
      [some .leftToRight, some .europeanNumber].contains ds.getLast?
  | .rightToLeft :: _ | .arabicLetter :: _ =>
    ds.all (fun d => [.rightToLeft, .arabicLetter, .arabicNumber, .europeanNumber,
      .europeanSeparator, .commonSeparator, .europeanTerminator, .otherNeutral, .boundaryNeutral,
      .nonspacingMark].contains d) &&
      [some .rightToLeft, some .arabicLetter, some .europeanNumber, some .arabicNumber].contains
        ds.getLast? &&
      !(ds.contains .europeanNumber && ds.contains .arabicNumber)
  | _ => false

/-- Whether the characters of a label may stand together: none is forbidden, the first attaches to
nothing, and joiners stand where they have an effect. -/
def labelFits (label : List Char) : Bool :=
  label.all (fun c => !isForbidden c) && !(label.head?.any isMark) && joinersFit [] label

/-- A label as checked: decoded where it came with the mark. -/
def label? (label : List Char) : Option (List Char) :=
  match Text.after? mark label with
  | none => if labelFits label then some label else none
  | some text => do
    let label ← Punycode.decode? text
    if labelFits label && mapped? label == some label && !label.all (fun c => c.toNat < 0x80) then
      some label
    else none

/-- A label as the URL keeps it. -/
def written (label : List Char) : List Char :=
  if label.all fun c => c.toNat < 0x80 then label else mark ++ Punycode.encode label

/-- The form of a domain name that a URL keeps. -/
def toAscii? (name : Bytes) : Option String := do
  let cs ← (Utf8.decode? name).map String.toList
  let labels ← (Text.pieces '.' (← mapped? cs)).mapM label?
  if labels.any (fun l => l.any runsLeft) && !labels.all directionFits then none
  else return String.ofList (Text.joined '.' (labels.map written))

end BrowserShell.Domain
