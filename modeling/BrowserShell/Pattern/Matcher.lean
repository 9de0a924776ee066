import BrowserShell.Pattern.Parser
import BrowserShell.Pattern.Search
import BrowserShell.Pattern.Size
import BrowserShell.Pattern.Template

/-!
# Matchers

A pattern ready for use. `Matcher.ofChars?` reads a pattern without regard to case and refuses one
that is malformed, asks for what the kind of subject does not allow, or is too large.
`Matcher.find?` gives the leftmost match from a position on, and `Matcher.replaceAll` puts a
template in the place of every match.
-/

namespace BrowserShell.Pattern

/-- A pattern ready for use. -/
structure Matcher where
  /-- Its program. -/
  program : Array Instruction
  /-- How many groups keep their match. -/
  groups : Nat
  /-- The names of groups with their numbers. -/
  names : List (List Char × Nat)
deriving Repr

/-- A match: the slots, in which the span of the match comes first. -/
structure Match where
  /-- The positions kept. -/
  slots : Slots
deriving DecidableEq, Repr

namespace Match

/-- The span of a group. -/
def span? (m : Match) (group : Nat) : Option (Nat × Nat) := do
  return (← ← m.slots[2 * group]?, ← ← m.slots[2 * group + 1]?)

/-- Where the match begins. -/
def first (m : Match) : Nat := ((m.span? 0).getD (0, 0)).1

/-- Where the match ends. -/
def last (m : Match) : Nat := ((m.span? 0).getD (0, 0)).2

/-- What a group took; the subject from `offset` on is `after`. -/
def group (m : Match) (offset : Nat) (after : Bytes) (n : Nat) : Bytes :=
  match m.span? n with
  | some (a, b) => (after.drop (a - offset)).take (b - a)
  | none => []

end Match

namespace Matcher

/-- The flags that a pattern is read with: case does not matter. -/
def flags : Flags := { ignoreCase := true }

/-- The matcher of a pattern for a kind of subject. -/
def ofChars? (subject : Subject) (pattern : List Char) : Option Matcher := do
  let parsed ← parse? pattern
  let (node, _) ← Node.ofSyntax? subject flags parsed.tree
  if node.fits then return ⟨node.program, parsed.groups, parsed.names⟩ else none

/-- The leftmost match from a position on, `offset` bytes into the subject. -/
def find? (m : Matcher) (p : Position) (offset : Nat) : Option Match :=
  (search m.program (2 * (m.groups + 1)) p offset).map Match.mk

/-- The number of a group's name. -/
def index? (m : Matcher) (name : List Char) : Option Nat :=
  (m.names.find? fun n => n.1 = name).map Prod.snd

/-- What a template stands for with the groups of a match. -/
def expand (m : Matcher) (t : List Template.Piece) (offset : Nat) (after : Bytes) (found : Match) :
    Bytes :=
  Template.expand (found.group offset after) m.index? t

/-- The rest of a subject with the template in the place of every match. An empty match right behind
the one before, which is where `barred` holds, does not count. At most `fuel` steps are made. -/
def replaceFrom (m : Matcher) (t : List Template.Piece) :
    (fuel : Nat) → (before : Bytes) → (offset : Nat) → (barred : Bool) → (after : Bytes) → Bytes
  | 0, _, _, _, after => after
  | fuel + 1, before, offset, barred, after =>
    match m.find? ⟨before, after⟩ offset with
    | none => after
    | some found =>
      if barred && found.last == offset then
        match after with
        | [] => []
        | b :: rest => b :: replaceFrom m t fuel (b :: before) (offset + 1) false rest
      else
        let length := found.last - offset
        after.take (found.first - offset) ++ m.expand t offset after found ++
          replaceFrom m t fuel ((after.take length).reverse ++ before) found.last true
            (after.drop length)

/-- The subject with the template in the place of every match. -/
def replaceAll (m : Matcher) (t : List Template.Piece) (subject : Bytes) : Bytes :=
  replaceFrom m t (2 * subject.length + 2) [] 0 false subject

/-- The subject with the template in the place of its first match, none if there is no match. -/
def replaceFirst? (m : Matcher) (t : List Template.Piece) (subject : Bytes) : Option Bytes :=
  (m.find? ⟨[], subject⟩ 0).map fun found =>
    subject.take found.first ++ m.expand t 0 subject found ++ subject.drop found.last

end Matcher

end BrowserShell.Pattern
