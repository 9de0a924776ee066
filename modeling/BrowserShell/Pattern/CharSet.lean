import BrowserShell.Unicode.Fold

/-!
# Character sets

The characters, or bytes, that one step of a pattern takes: a list of ranges of code points, in
increasing order and with a gap between any two. `CharSet.ofRanges` brings any list of ranges into
this order, and the operations of classes keep it.
-/

namespace BrowserShell.Pattern

open Unicode (Range)

/-- A set of code points. -/
structure CharSet where
  /-- The ranges, in increasing order and apart from each other. -/
  ranges : List Range
deriving DecidableEq, Repr, Inhabited

namespace CharSet

/-- The greatest code point. -/
def maxPoint : Nat := 0x10FFFF

/-- The greatest byte. -/
def maxByte : Nat := 0xFF

/-- The empty set. -/
def empty : CharSet := ⟨[]⟩

/-- Ranges in the order of their first points, joined where they touch; `r` comes before them. -/
def merged (r : Range) : List Range → List Range
  | [] => [r]
  | s :: rest =>
    if s.first ≤ r.last + 1 then merged ⟨r.first, max r.last s.last⟩ rest
    else r :: merged s rest

/-- The set of the code points in the ranges. -/
def ofRanges (rs : List Range) : CharSet :=
  match rs.mergeSort fun a b => a.first ≤ b.first with
  | [] => empty
  | r :: rest => ⟨merged r rest⟩

/-- The set of one code point. -/
def single (n : Nat) : CharSet := ⟨[⟨n, n⟩]⟩

/-- Whether ranges in increasing order hold a code point. -/
def rangesHold (n : Nat) : List Range → Bool
  | [] => false
  | r :: rest => if n < r.first then false else n ≤ r.last || rangesHold n rest

/-- Whether the set has a code point. -/
def has (s : CharSet) (n : Nat) : Bool := rangesHold n s.ranges

/-- The code points of either set. -/
def union (s t : CharSet) : CharSet := ofRanges (s.ranges ++ t.ranges)

/-- The gaps between ranges in increasing order, from `start` up to `top`. -/
def gaps (top start : Nat) : List Range → List Range
  | [] => if start ≤ top then [⟨start, top⟩] else []
  | r :: rest =>
    if start < r.first then ⟨start, r.first - 1⟩ :: gaps top (r.last + 1) rest
    else gaps top (r.last + 1) rest

/-- The code points up to `top` that the set lacks. -/
def complement (top : Nat) (s : CharSet) : CharSet := ⟨gaps top 0 s.ranges⟩

/-- The code points up to `top` that both sets have. -/
def inter (top : Nat) (s t : CharSet) : CharSet :=
  ((s.complement top).union (t.complement top)).complement top

/-- The code points up to `top` that the first set has and the second lacks. -/
def diff (top : Nat) (s t : CharSet) : CharSet := s.inter top (t.complement top)

/-- The code points up to `top` that exactly one of the sets has. -/
def symmDiff (top : Nat) (s t : CharSet) : CharSet := (s.union t).diff top (s.inter top t)

/-- The points of ranges that end below `bound`. -/
def points (rs : List Range) : List Nat :=
  rs.flatMap fun r => (List.range (r.last + 1 - r.first)).map (r.first + ·)

/-- Whether all code points are ASCII. -/
def isAscii (s : CharSet) : Bool := s.ranges.all fun r => r.last < 0x80

/-- The set with the other cases of its letters. -/
def fold (s : CharSet) : CharSet :=
  let others :=
    if s.isAscii then (points s.ranges).flatMap Unicode.foldClass
    else (Unicode.foldTable.filter fun e => s.has e.1).flatMap Prod.snd
  ofRanges (s.ranges ++ others.map fun n => ⟨n, n⟩)

/-- The set with the other cases of its ASCII letters. -/
def foldAscii (s : CharSet) : CharSet :=
  let letters := (List.range 26).flatMap fun i =>
    (if s.has (0x41 + i) then [0x61 + i] else []) ++ (if s.has (0x61 + i) then [0x41 + i] else [])
  ofRanges (s.ranges ++ letters.map fun n => ⟨n, n⟩)

end CharSet

end BrowserShell.Pattern
