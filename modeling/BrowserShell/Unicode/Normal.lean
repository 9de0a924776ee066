import BrowserShell.Unicode.Composition

/-!
# Composed normal form

`normal` brings text into the composed normal form: every character is decomposed, each run of marks
is put into the order of their combining classes, and then characters compose again as far as no
mark stands in the way. Syllables of Hangul decompose and compose by arithmetic.
-/

namespace BrowserShell.Unicode

namespace Hangul

/-- The first syllable, leading consonant, vowel and trailing consonant; the trailing one counts
from the code point before the first, which stands for none. -/
def syllable : Nat := 0xAC00
def leading : Nat := 0x1100
def vowel : Nat := 0x1161
def trailing : Nat := 0x11A7

/-- The letters of a syllable. -/
def decompose? (n : Nat) : Option (List Nat) :=
  if syllable ≤ n ∧ n < syllable + 11172 then
    let k := n - syllable
    let letters := [leading + k / 588, vowel + k % 588 / 28]
    some (if k % 28 = 0 then letters else letters ++ [trailing + k % 28])
  else none

/-- The syllable of two letters, or of a syllable without trailing consonant and one. -/
def compose? (a b : Nat) : Option Nat :=
  if leading ≤ a ∧ a < leading + 19 ∧ vowel ≤ b ∧ b < vowel + 21 then
    some (syllable + ((a - leading) * 21 + (b - vowel)) * 28)
  else if syllable ≤ a ∧ a < syllable + 11172 ∧ (a - syllable) % 28 = 0 ∧
      trailing < b ∧ b < trailing + 28 then
    some (a + (b - trailing))
  else none

end Hangul

/-- The full decomposition of a character. -/
def decompose (n : Nat) : List Nat :=
  if n < 0xC0 then [n] else (Hangul.decompose? n).getD (decompositions.getD n [n])

/-- The character that two characters compose to. -/
def compose? (a b : Nat) : Option Nat :=
  if b < 0x300 then none else (Hangul.compose? a b).or compositions[(a, b)]?

/-- The text with each run of marks in the order of their classes; `marks` is the run before the
rest, last first. -/
def ordered (marks : List Nat) : List Nat → List Nat
  | [] => sorted marks
  | n :: ns =>
    if combiningClass n = 0 then sorted marks ++ n :: ordered [] ns else ordered (n :: marks) ns
where
  /-- The run in the order of the classes, those of one class in the order of the text. -/
  sorted (marks : List Nat) : List Nat :=
    marks.reverse.mergeSort fun a b => combiningClass a ≤ combiningClass b

/-- Composes the rest of a text with `start`, the last character of class zero, behind which the
marks `kept` stand, last first. -/
def composed (start : Option Nat) (kept : List Nat) : List Nat → List Nat
  | [] => start.toList ++ kept.reverse
  | n :: ns =>
    let isFree := match kept with
      | [] => true
      | k :: _ => combiningClass k < combiningClass n
    let joined := if isFree then start.bind fun s => compose? s n else none
    if joined.isSome then composed joined kept ns
    else if combiningClass n = 0 then start.toList ++ kept.reverse ++ composed (some n) [] ns
    else composed start (n :: kept) ns

/-- The composed normal form of a text. -/
def normal (ns : List Nat) : List Nat := composed none [] (ordered [] (ns.flatMap decompose))

end BrowserShell.Unicode
