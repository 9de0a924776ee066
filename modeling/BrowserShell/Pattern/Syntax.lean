import BrowserShell.Pattern.Class

/-!
# Patterns as written

The tree of a pattern's text, before flags are applied to it. `Syntax.height` counts how deep
operators are nested in each other, which is limited.
-/

namespace BrowserShell.Pattern

/-- A letter that switches how the rest of a group is read. -/
inductive Flag where
  | ignoreCase
  | multiLine
  | dotMatchesLineEnd
  | swapGreed
  | unicode
  | crlf
  | verbose
deriving DecidableEq, Repr, Inhabited

/-- The flag with this letter. -/
def Flag.ofLetter? : Char → Option Flag
  | 'i' => some .ignoreCase
  | 'm' => some .multiLine
  | 's' => some .dotMatchesLineEnd
  | 'U' => some .swapGreed
  | 'u' => some .unicode
  | 'R' => some .crlf
  | 'x' => some .verbose
  | _ => none

/-- Flags that are switched, each on or off. -/
abbrev FlagChanges := List (Flag × Bool)

/-- A condition on a position, as written. -/
inductive Mark where
  | lineStart
  | lineEnd
  | textStart
  | textEnd
  | wordBoundary
  | noWordBoundary
  | wordStart
  | wordEnd
  | wordStartHalf
  | wordEndHalf
deriving DecidableEq, Repr, Inhabited

/-- A character as written; `isByte` holds of two hexadecimal digits behind `\x`, which name a byte
where Unicode is switched off. -/
structure Literal where
  /-- The character. -/
  char : Char
  /-- Whether the character may name a byte. -/
  isByte : Bool
deriving DecidableEq, Repr, Inhabited

/-- The three operators between sets. -/
inductive SetOperator where
  | intersection
  | difference
  | symmetricDifference
deriving DecidableEq, Repr, Inhabited

/-- A class in brackets. -/
inductive SetSyntax where
  /-- A character. -/
  | literal (l : Literal)
  /-- The characters from one to another. -/
  | range (first last : Literal)
  /-- A class of ASCII characters by its name. -/
  | ascii (negated : Bool) (ranges : List Unicode.Range)
  /-- A shorthand. -/
  | shorthand (negated : Bool) (s : Shorthand)
  /-- A property. -/
  | property (negated : Bool) (q : PropertyQuery)
  /-- A class in brackets of its own. -/
  | bracketed (negated : Bool) (inner : SetSyntax)
  /-- Several items one after the other. -/
  | items (items : List SetSyntax)
  /-- Two sets with an operator between them. -/
  | operation (op : SetOperator) (left right : SetSyntax)
deriving Repr, Inhabited

/-- What a group is opened with. -/
inductive GroupKind where
  /-- A group whose match is kept under its number. -/
  | capturing (index : Nat)
  /-- A group that switches flags, if any, and keeps nothing. -/
  | plain (changes : FlagChanges)
deriving DecidableEq, Repr, Inhabited

/-- A pattern as written. -/
inductive Syntax where
  /-- Nothing. -/
  | empty
  /-- A character. -/
  | literal (l : Literal)
  /-- The dot. -/
  | dot
  /-- A condition on the position. -/
  | mark (m : Mark)
  /-- A shorthand. -/
  | shorthand (negated : Bool) (s : Shorthand)
  /-- A property. -/
  | property (negated : Bool) (q : PropertyQuery)
  /-- A class in brackets. -/
  | bracketed (negated : Bool) (set : SetSyntax)
  /-- Flags switched for the rest of the group. -/
  | flags (changes : FlagChanges)
  /-- A group. -/
  | group (kind : GroupKind) (inner : Syntax)
  /-- A pattern repeated at least `least` and at most `most` times, without bound if that is none;
  `reluctant` asks for as few times as possible. -/
  | repeated (least : Nat) (most : Option Nat) (reluctant : Bool) (inner : Syntax)
  /-- Patterns one after the other. -/
  | sequence (parts : List Syntax)
  /-- Patterns to choose from, the first preferred. -/
  | choice (branches : List Syntax)
deriving Repr, Inhabited

mutual

/-- How deep the operators of a class are nested. -/
def SetSyntax.height : SetSyntax → Nat
  | .bracketed _ inner => inner.height + 1
  | .items [] => 0
  | .items (p :: parts) => max p.height (SetSyntax.heights parts) + 1
  | .operation _ left right => max left.height right.height + 1
  | _ => 0

/-- The greatest height among some classes. -/
def SetSyntax.heights : List SetSyntax → Nat
  | [] => 0
  | s :: rest => max s.height (SetSyntax.heights rest)

end

mutual

/-- How deep the operators of a pattern are nested. -/
def Syntax.height : Syntax → Nat
  | .bracketed _ set => set.height + 1
  | .group _ inner => inner.height + 1
  | .repeated _ _ _ inner => inner.height + 1
  | .sequence parts => Syntax.heights parts + 1
  | .choice branches => Syntax.heights branches + 1
  | _ => 0

/-- The greatest height among some patterns. -/
def Syntax.heights : List Syntax → Nat
  | [] => 0
  | s :: rest => max s.height (Syntax.heights rest)

end

/-- Patterns one after the other; one alone stands for itself. -/
def Syntax.inSequence : List Syntax → Syntax
  | [] => .empty
  | [s] => s
  | parts => .sequence parts

/-- Patterns to choose from; one alone stands for itself. -/
def Syntax.inChoice : List Syntax → Syntax
  | [] => .empty
  | [s] => s
  | branches => .choice branches

/-- Items of a class one after the other; one alone stands for itself. -/
def SetSyntax.inItems : List SetSyntax → SetSyntax
  | [s] => s
  | parts => .items parts

end BrowserShell.Pattern
