import BrowserShell.Pattern.Node

/-!
# The size of a pattern

A pattern is refused if its automaton over bytes would need more than ten mebibytes. `Node.cost` is
the memory of that automaton: a fixed amount for each state and more for the transitions of states
with several. A class of characters beyond ASCII becomes a tree of byte ranges, one for each way in
which the UTF-8 forms of its ranges begin.
-/

namespace BrowserShell.Pattern

open Unicode (Range)

namespace Size

/-- The memory of a state. -/
def state : Nat := 32

/-- The memory of a transition on a range of bytes. -/
def transition : Nat := 8

/-- The memory of a transition that takes nothing. -/
def link : Nat := 4

/-- The greatest memory of an automaton. -/
def limit : Nat := 10 * 1024 * 1024

/-- The least code point with UTF-8 forms of two, three and four bytes, and the end of all. -/
def widths : List Nat := [0x80, 0x800, 0x10000, 0x110000]

/-- Cuts a range where `bound` begins. -/
def cutAt (bound : Nat) (r : Range) : List Range :=
  if r.first < bound ∧ bound ≤ r.last then [⟨r.first, bound - 1⟩, ⟨bound, r.last⟩] else [r]

/-- A range without surrogates, in parts whose UTF-8 forms have one width. -/
def evenParts (r : Range) : List Range :=
  let parts := (widths ++ [0xD800, 0xE000]).foldl
    (fun (rs : List Range) b => rs.flatMap (cutAt b)) [r]
  parts.filter fun r => !(0xD800 ≤ r.first && r.last < 0xE000)

/-- The bytes of a code point's UTF-8 form. -/
def form (n : Nat) : List Nat :=
  if n < 0x80 then [n]
  else if n < 0x800 then [0xC0 + n / 64, 0x80 + n % 64]
  else if n < 0x10000 then [0xE0 + n / 4096, 0x80 + n / 64 % 64, 0x80 + n % 64]
  else [0xF0 + n / 262144, 0x80 + n / 4096 % 64, 0x80 + n / 64 % 64, 0x80 + n % 64]

/-- A range whose forms have one width, as rows of byte ranges: at most `fuel` cuts are made until
the last bytes of each part run over all their values. -/
def rows : (fuel : Nat) → Range → List (List (Nat × Nat))
  | 0, r => [(form r.first).zip (form r.last)]
  | fuel + 1, r =>
    let uneven := [1, 2, 3].find? fun i =>
      let m := 64 ^ i
      r.first / m != r.last / m && (r.first % m != 0 || r.last % m != m - 1)
    match uneven with
    | none => [(form r.first).zip (form r.last)]
    | some i =>
      let m := 64 ^ i
      let bound := if r.first % m != 0 then (r.first / m + 1) * m else r.last / m * m
      rows fuel ⟨r.first, bound - 1⟩ ++ rows fuel ⟨bound, r.last⟩

/-- How many items two rows have in common at their beginning. -/
def common : List (Nat × Nat) → List (Nat × Nat) → Nat
  | a :: as, b :: bs => if a = b then common as bs + 1 else 0
  | _, _ => 0

/-- The beginnings of rows that are not beginnings of the row before. -/
def beginnings (before : List (Nat × Nat)) : List (List (Nat × Nat)) → Nat
  | [] => 0
  | row :: rest => row.length - common before row + beginnings row rest

/-- The memory of a set of characters. -/
def scalars (s : CharSet) : Nat :=
  if s.isAscii then
    match s.ranges with
    | [] => state
    | [r] => if r.first = r.last then state else 2 * state + transition
    | rs => 2 * state + transition * rs.length
  else
    match s.ranges with
    | [r] =>
      if r.first = r.last then state * (form r.first).length else tree s
    | _ => tree s
where
  /-- The memory of a tree of byte ranges. -/
  tree (s : CharSet) : Nat :=
    let rs := (s.ranges.flatMap evenParts).flatMap (rows 8)
    state * (beginnings [] rs + 2) + link * rs.length

/-- The memory of a choice between two. -/
def fork : Nat := state + 2 * link

end Size

/-- The memory of a pattern's automaton. -/
def Node.cost : Node → Nat
  | .empty | .assertion _ => Size.state
  | .scalar s => Size.scalars s
  | .byte s => 2 * Size.state + Size.transition * s.ranges.length
  | .group _ n => n.cost + 2 * Size.state
  | .cat a b => a.cost + b.cost
  | .alt a b => a.cost + b.cost + Size.fork + Size.state
  | .repeated least none _ n =>
    if least = 0 then n.cost + 2 * Size.fork + Size.state else least * n.cost + Size.fork
  | .repeated least (some most) _ n =>
    if least = most then least * n.cost
    else most * n.cost + (most - least) * Size.fork + Size.state

/-- Whether a pattern is small enough. -/
def Node.fits (n : Node) : Bool := n.cost ≤ Size.limit

end BrowserShell.Pattern
