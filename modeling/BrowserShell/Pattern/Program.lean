import BrowserShell.Pattern.Node

/-!
# Programs of patterns

A pattern as a row of instructions. The code of a part takes up the places from a given one on, and
what follows the part stands right behind it; `Node.length_code` says how many places there are.
-/

namespace BrowserShell.Pattern

/-- An instruction; unless it says otherwise the next one follows it. -/
inductive Instruction where
  /-- Take one character of a set. -/
  | scalar (set : CharSet)
  /-- Take one byte of a set. -/
  | byte (set : CharSet)
  /-- Go on where the condition holds. -/
  | assertion (a : Assertion)
  /-- Keep the position in a slot. -/
  | save (slot : Nat)
  /-- Go on at another place. -/
  | jump (target : Nat)
  /-- Go on at two places, the first preferred. -/
  | split (first second : Nat)
  /-- The match is complete. -/
  | accept
deriving DecidableEq, Repr, Inhabited

/-- A choice between two places, `first` preferred if `greedy` holds. -/
def Instruction.choice (greedy : Bool) (first second : Nat) : Instruction :=
  if greedy then .split first second else .split second first

namespace Node

/-- How many places the code of a pattern takes up. -/
def size : Node → Nat
  | .empty => 0
  | .scalar _ | .byte _ | .assertion _ => 1
  | .group _ n => n.size + 2
  | .cat a b => a.size + b.size
  | .alt a b => a.size + b.size + 2
  | .repeated least none _ n => if least = 0 then n.size + 2 else least * n.size + 1
  | .repeated least (some most) _ n => least * n.size + (most - least) * (n.size + 1)

/-- The code of `count` copies, `one` giving that of a single one of `size` places. -/
def copies (one : Nat → List Instruction) (size : Nat) : (count at_ : Nat) → List Instruction
  | 0, _ => []
  | count + 1, at_ => one at_ ++ copies one size count (at_ + size)

/-- The code of up to `count` copies, before each of which one may stop and go on at `exit`. -/
def options (one : Nat → List Instruction) (size : Nat) (greedy : Bool) (exit : Nat) :
    (count at_ : Nat) → List Instruction
  | 0, _ => []
  | count + 1, at_ =>
    .choice greedy (at_ + 1) exit :: one (at_ + 1) ++
      options one size greedy exit count (at_ + 1 + size)

/-- The code of a pattern from the place `at_` on. A part that is repeated without bound comes back
to itself; where it may take nothing it is passed at most once more at each position. -/
def code : Node → (at_ : Nat) → List Instruction
  | .empty, _ => []
  | .scalar s, _ => [.scalar s]
  | .byte s, _ => [.byte s]
  | .assertion a, _ => [.assertion a]
  | .group i n, at_ => .save (2 * i) :: n.code (at_ + 1) ++ [.save (2 * i + 1)]
  | .cat a b, at_ => a.code at_ ++ b.code (at_ + a.size)
  | .alt a b, at_ =>
    .split (at_ + 1) (at_ + a.size + 2) :: a.code (at_ + 1) ++
      .jump (at_ + a.size + b.size + 2) :: b.code (at_ + a.size + 2)
  | .repeated least none greedy n, at_ =>
    if least = 0 then
      let end_ := at_ + n.size + 2
      .choice greedy (at_ + 1) end_ :: n.code (at_ + 1) ++
        [if (n.least?.getD 0) > 0 then .jump at_ else .choice greedy (at_ + 1) end_]
    else
      let last := at_ + (least - 1) * n.size
      copies n.code n.size least at_ ++ [.choice greedy last (last + n.size + 1)]
  | .repeated least (some most) greedy n, at_ =>
    let first := at_ + least * n.size
    copies n.code n.size least at_ ++
      options n.code n.size greedy (first + (most - least) * (n.size + 1)) (most - least) first

/-- The program of a pattern: it keeps the span of the match in the first two slots. -/
def program (n : Node) : Array Instruction :=
  ((Node.group 0 n).code 0 ++ [Instruction.accept]).toArray

end Node

end BrowserShell.Pattern
