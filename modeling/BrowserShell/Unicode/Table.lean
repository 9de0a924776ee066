/-!
# Tables of code point ranges

A property of characters is stored as text: a row of numbers in base 26, each written with
lower-case letters for its leading digits and one upper-case letter for its last. A range of code
points takes two numbers, the gap since the end of the range before it and the count of further
code points; a table that maps ranges to values adds a third. `Range.ofText` and `RangeMap.ofText`
read such a row, and `RangeMap.find?` looks a code point up by bisection.
-/

namespace BrowserShell.Unicode

/-- A non-empty interval of code points, both ends included. -/
structure Range where
  /-- The least code point. -/
  first : Nat
  /-- The greatest code point. -/
  last : Nat
deriving DecidableEq, Repr, Inhabited

/-- Whether the interval holds the code point `n`. -/
def Range.holds (r : Range) (n : Nat) : Bool := r.first ≤ n && n ≤ r.last

/-- The numbers of a row, `acc` being the value of the digits read since the last complete one. -/
def numbersFrom (acc : Nat) : List Char → List Nat
  | [] => []
  | c :: cs =>
    if 'a' ≤ c ∧ c ≤ 'z' then numbersFrom (acc * 26 + (c.toNat - 'a'.toNat)) cs
    else if 'A' ≤ c ∧ c ≤ 'Z' then
      (acc * 26 + (c.toNat - 'A'.toNat)) :: numbersFrom 0 cs
    else numbersFrom acc cs

/-- The numbers of a row of text. -/
def numbers (text : String) : List Nat := numbersFrom 0 text.toList

/-- Pairs of gap and further count as ranges, the first gap counted from `start`. -/
def rangesFrom (start : Nat) : List Nat → List Range
  | gap :: more :: rest =>
    ⟨start + gap, start + gap + more⟩ :: rangesFrom (start + gap + more + 1) rest
  | _ => []

/-- The ranges that a row of text lists, in increasing order. -/
def Range.ofText (text : String) : List Range := rangesFrom 0 (numbers text)

/-- A map from ranges of code points, in increasing order, to values. -/
structure RangeMap (α : Type) where
  /-- The ranges with their values. -/
  entries : Array (Range × α)

namespace RangeMap

variable {α : Type}

/-- Bisection of the entries from `lo` up to `hi` (excluded), at most `fuel` halvings. -/
def search (entries : Array (Range × α)) (n : Nat) : (fuel lo hi : Nat) → Option α
  | 0, _, _ => none
  | fuel + 1, lo, hi =>
    if lo < hi then
      let mid := (lo + hi) / 2
      match entries[mid]? with
      | none => none
      | some (r, a) =>
        if n < r.first then search entries n fuel lo mid
        else if r.last < n then search entries n fuel (mid + 1) hi
        else some a
    else none

/-- The value of the range that holds `n`. -/
def find? (m : RangeMap α) (n : Nat) : Option α :=
  search m.entries n (m.entries.size.log2 + 2) 0 m.entries.size

/-- Triples of gap, further count and value as a map, the first gap counted from `start`. -/
def entriesFrom (start : Nat) : List Nat → List (Range × Nat)
  | gap :: more :: value :: rest =>
    (⟨start + gap, start + gap + more⟩, value) :: entriesFrom (start + gap + more + 1) rest
  | _ => []

/-- The map that a row of text lists. -/
def ofText (text : String) : RangeMap Nat := ⟨(entriesFrom 0 (numbers text)).toArray⟩

/-- The ranges whose value passes `p`. -/
def ranges (m : RangeMap α) (p : α → Bool) : List Range :=
  (m.entries.toList.filter fun e => p e.2).map Prod.fst

end RangeMap

end BrowserShell.Unicode
