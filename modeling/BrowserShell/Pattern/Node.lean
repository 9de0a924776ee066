import BrowserShell.Pattern.Syntax

/-!
# Patterns with their flags applied

`Node` is a pattern in which every letter, class and condition says what it means by itself. A
pattern is read for one of two kinds of subject: text, where only whole characters are taken, or
bytes, where parts with Unicode switched off may take any byte. `Node.ofSyntax?` applies the flags;
it refuses what the kind of subject does not allow.
-/

namespace BrowserShell.Pattern

/-- What a pattern is matched against. -/
inductive Subject where
  /-- Text: no part may take bytes that are no characters. -/
  | text
  /-- Any bytes. -/
  | bytes
deriving DecidableEq, Repr, Inhabited

/-- A condition on a position. -/
inductive Assertion where
  | textStart
  | textEnd
  /-- At the beginning or after a line feed. -/
  | lineStart
  /-- At the end or before a line feed. -/
  | lineEnd
  /-- At the beginning or after a line end, a carriage return with a line feed being one. -/
  | lineStartCrlf
  /-- At the end or before a line end, a carriage return with a line feed being one. -/
  | lineEndCrlf
  /-- Between a word character and something else. -/
  | wordBoundary (unicode : Bool)
  /-- Between two word characters or two other ones. -/
  | noWordBoundary (unicode : Bool)
  /-- Before a word character and not after one. -/
  | wordStart (unicode : Bool)
  /-- After a word character and not before one. -/
  | wordEnd (unicode : Bool)
  /-- Not after a word character. -/
  | wordStartHalf (unicode : Bool)
  /-- Not before a word character. -/
  | wordEndHalf (unicode : Bool)
deriving DecidableEq, Repr, Inhabited

/-- A pattern with its flags applied. -/
inductive Node where
  /-- Takes nothing. -/
  | empty
  /-- Takes one character of a set, in UTF-8. -/
  | scalar (set : CharSet)
  /-- Takes one byte of a set. -/
  | byte (set : CharSet)
  /-- Takes nothing, where the condition holds. -/
  | assertion (a : Assertion)
  /-- Takes what `inner` takes and keeps it under a number. -/
  | group (index : Nat) (inner : Node)
  /-- Takes what `first` takes and then what `second` takes. -/
  | cat (first second : Node)
  /-- Takes what `first` takes or, as a second choice, what `second` takes. -/
  | alt (first second : Node)
  /-- Takes what `inner` takes, `least` times or more, up to `most` times; many times by preference
  if `greedy` holds, else few times. -/
  | repeated (least : Nat) (most : Option Nat) (greedy : Bool) (inner : Node)
deriving DecidableEq, Repr, Inhabited

/-- Which flags are on. -/
structure Flags where
  ignoreCase : Bool := false
  multiLine : Bool := false
  dotMatchesLineEnd : Bool := false
  swapGreed : Bool := false
  unicode : Bool := true
  crlf : Bool := false
deriving DecidableEq, Repr, Inhabited

/-- The flags with one of them switched. -/
def Flags.switch (f : Flags) : Flag × Bool → Flags
  | (.ignoreCase, b) => { f with ignoreCase := b }
  | (.multiLine, b) => { f with multiLine := b }
  | (.dotMatchesLineEnd, b) => { f with dotMatchesLineEnd := b }
  | (.swapGreed, b) => { f with swapGreed := b }
  | (.unicode, b) => { f with unicode := b }
  | (.crlf, b) => { f with crlf := b }
  | (.verbose, _) => f

/-- The flags with some of them switched. -/
def Flags.apply (f : Flags) (changes : FlagChanges) : Flags := changes.foldl Flags.switch f

namespace Node

/-- The least count of bytes or characters that a pattern takes, none if it never matches; a
character counts as one. -/
def least? : Node → Option Nat
  | .empty | .assertion _ => some 0
  | .scalar s | .byte s => if s.ranges.isEmpty then none else some 1
  | .group _ n => n.least?
  | .cat a b => do return (← a.least?) + (← b.least?)
  | .alt a b => do return min (← a.least?) (← b.least?)
  | .repeated least _ _ n => n.least?.map (· * least)

/-- Whether a pattern takes nothing wherever it matches. -/
def takesNothing : Node → Bool
  | .empty | .assertion _ => true
  | .scalar _ | .byte _ => false
  | .group _ n => n.takesNothing
  | .cat a b | .alt a b => a.takesNothing && b.takesNothing
  | .repeated _ _ _ n => n.takesNothing

/-- A repetition. What takes nothing is repeated at most once, and one repetition and none are
simpler patterns. -/
def repeat_ (least : Nat) (most : Option Nat) (greedy : Bool) (n : Node) : Node :=
  let (least, most) :=
    if n.takesNothing then (min least 1, some (min (most.getD 1) 1)) else (least, most)
  if most = some 0 then .empty
  else if least = 1 ∧ most = some 1 then n
  else .repeated least most greedy n

/-! ### Letters and classes -/

/-- The character that a literal stands for, or the byte above ASCII that it names. -/
def literalValue? (subject : Subject) (flags : Flags) (l : Literal) : Option (Char ⊕ Nat) :=
  if flags.unicode || !l.isByte || l.char.toNat ≤ 0x7F then some (.inl l.char)
  else if subject = .text then none
  else some (.inr l.char.toNat)

/-- The pattern of a literal. -/
def ofLiteral? (subject : Subject) (flags : Flags) (l : Literal) : Option Node := do
  match ← literalValue? subject flags l with
  | .inr b => return .byte (.single b)
  | .inl c =>
    if !flags.ignoreCase then return .scalar (.single c.toNat)
    else if flags.unicode then return .scalar (CharSet.single c.toNat).fold
    else return .scalar (CharSet.single c.toNat).foldAscii

/-- The set of a class with other cases added and negated as asked. -/
def foldAndNegate (flags : Flags) (negated : Bool) (s : CharSet) : CharSet :=
  if flags.unicode then
    let s := if flags.ignoreCase then s.fold else s
    if negated then s.complement CharSet.maxPoint else s
  else
    let s := if flags.ignoreCase then s.foldAscii else s
    if negated then s.complement CharSet.maxByte else s

/-- A class of bytes, which for text has to be ASCII. -/
def bytesAllowed? (subject : Subject) (flags : Flags) (s : CharSet) : Option CharSet :=
  if !flags.unicode && subject = .text && !s.isAscii then none else some s

/-- The set of a shorthand. -/
def ofShorthand? (subject : Subject) (flags : Flags) (negated : Bool) (s : Shorthand) :
    Option CharSet :=
  if flags.unicode then
    let s := Class.ofShorthand s
    some (if negated then s.complement CharSet.maxPoint else s)
  else
    let s := Class.asciiShorthand s
    bytesAllowed? subject flags (if negated then s.complement CharSet.maxByte else s)

/-- The set of a property, which needs Unicode. -/
def ofProperty? (flags : Flags) (negated : Bool) (q : PropertyQuery) : Option CharSet :=
  if flags.unicode then (Class.property? q).map (foldAndNegate flags negated) else none

/-- The point of a literal in a class, which without Unicode has to be a byte. -/
def point? (subject : Subject) (flags : Flags) (l : Literal) : Option Nat := do
  match ← literalValue? subject flags l with
  | .inr b => return b
  | .inl c => if flags.unicode || c.toNat ≤ 0x7F then return c.toNat else none

/-- The result of an operator on two sets. -/
def operate (flags : Flags) (op : SetOperator) (s t : CharSet) : CharSet :=
  let top := if flags.unicode then CharSet.maxPoint else CharSet.maxByte
  let cased := fun s : CharSet =>
    if !flags.ignoreCase then s else if flags.unicode then s.fold else s.foldAscii
  match op with
  | .intersection => (cased s).inter top (cased t)
  | .difference => (cased s).diff top (cased t)
  | .symmetricDifference => (cased s).symmDiff top (cased t)

mutual

/-- The set of what stands in the brackets of a class. -/
def ofSet? (subject : Subject) (flags : Flags) : SetSyntax → Option CharSet
  | .literal l => (point? subject flags l).map CharSet.single
  | .range a b => do
    let first ← point? subject flags a
    let last ← point? subject flags b
    return .ofRanges [⟨first, last⟩]
  | .ascii negated ranges =>
    bytesAllowed? subject flags (foldAndNegate flags negated (.ofRanges ranges))
  | .shorthand negated s => ofShorthand? subject flags negated s
  | .property negated q => ofProperty? flags negated q
  | .bracketed negated inner => do
    bytesAllowed? subject flags (foldAndNegate flags negated (← ofSet? subject flags inner))
  | .items items => ofSets? subject flags items
  | .operation op left right => do
    return operate flags op (← ofSet? subject flags left) (← ofSet? subject flags right)

/-- The set of items one after the other. -/
def ofSets? (subject : Subject) (flags : Flags) : List SetSyntax → Option CharSet
  | [] => some .empty
  | s :: rest => do return (← ofSet? subject flags s).union (← ofSets? subject flags rest)

end

/-- The pattern that takes one point of a set. -/
def ofCharSet (flags : Flags) (s : CharSet) : Node := if flags.unicode then .scalar s else .byte s

/-- The pattern of the dot. -/
def ofDot? (subject : Subject) (flags : Flags) : Option Node :=
  if subject = .text && !flags.unicode then none
  else
    let top := if flags.unicode then CharSet.maxPoint else CharSet.maxByte
    let lineEnds : CharSet :=
      if flags.dotMatchesLineEnd then .empty
      else if flags.crlf then ⟨[⟨0x0A, 0x0A⟩, ⟨0x0D, 0x0D⟩]⟩
      else .single 0x0A
    some (ofCharSet flags (lineEnds.complement top))

/-- The condition of a mark. -/
def ofMark (flags : Flags) : Mark → Assertion
  | .lineStart =>
    if !flags.multiLine then .textStart else if flags.crlf then .lineStartCrlf else .lineStart
  | .lineEnd =>
    if !flags.multiLine then .textEnd else if flags.crlf then .lineEndCrlf else .lineEnd
  | .textStart => .textStart
  | .textEnd => .textEnd
  | .wordBoundary => .wordBoundary flags.unicode
  | .noWordBoundary => .noWordBoundary flags.unicode
  | .wordStart => .wordStart flags.unicode
  | .wordEnd => .wordEnd flags.unicode
  | .wordStartHalf => .wordStartHalf flags.unicode
  | .wordEndHalf => .wordEndHalf flags.unicode

/-! ### The whole -/

mutual

/-- A pattern with the flags in force applied, and the flags in force after it. -/
def ofSyntax? (subject : Subject) (flags : Flags) : Syntax → Option (Node × Flags)
  | .empty => some (.empty, flags)
  | .literal l => do return (← ofLiteral? subject flags l, flags)
  | .dot => do return (← ofDot? subject flags, flags)
  | .mark m => some (.assertion (ofMark flags m), flags)
  | .shorthand negated s => do
    return (ofCharSet flags (← ofShorthand? subject flags negated s), flags)
  | .property negated q => do return (.scalar (← ofProperty? flags negated q), flags)
  | .bracketed negated set => do
    let s := foldAndNegate flags negated (← ofSet? subject flags set)
    return (ofCharSet flags (← bytesAllowed? subject flags s), flags)
  | .flags changes => some (.empty, flags.apply changes)
  | .group (.capturing index) inner => do
    return (.group index (← ofSyntax? subject flags inner).1, flags)
  | .group (.plain changes) inner => do
    return ((← ofSyntax? subject (flags.apply changes) inner).1, flags)
  | .repeated least most reluctant inner => do
    let (n, flags) ← ofSyntax? subject flags inner
    return (repeat_ least most (reluctant == flags.swapGreed) n, flags)
  | .sequence parts => ofSequence? subject flags parts
  | .choice branches => ofChoice? subject flags branches

/-- Patterns one after the other, each under the flags that the one before leaves. -/
def ofSequence? (subject : Subject) (flags : Flags) : List Syntax → Option (Node × Flags)
  | [] => some (.empty, flags)
  | [s] => ofSyntax? subject flags s
  | s :: rest => do
    let (a, flags) ← ofSyntax? subject flags s
    let (b, flags) ← ofSequence? subject flags rest
    return (.cat a b, flags)

/-- Patterns to choose from, each under the flags that the one before leaves. -/
def ofChoice? (subject : Subject) (flags : Flags) : List Syntax → Option (Node × Flags)
  | [] => some (.empty, flags)
  | [s] => ofSyntax? subject flags s
  | s :: rest => do
    let (a, flags) ← ofSyntax? subject flags s
    let (b, flags) ← ofChoice? subject flags rest
    return (.alt a b, flags)

end

end Node

end BrowserShell.Pattern
