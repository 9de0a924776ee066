import BrowserShell.Pattern.Syntax
import BrowserShell.Text.Split

/-!
# Reading patterns

`Syntax.parse?` reads the text of a pattern. The reader goes through the text once and keeps the
open groups on a stack; what a backslash, a brace or a bracket begins is read by functions of their
own, each of which gives the rest of the text. Where blanks are ignored, comments run from a number
sign to the end of the line.
-/

namespace BrowserShell.Pattern

namespace Parser

/-! ### Blanks -/

/-- The text after the blanks and comments at its beginning. -/
def skipFrom (inComment : Bool) : List Char → List Char
  | [] => []
  | c :: cs =>
    if inComment then skipFrom (c != '\n') cs
    else if Class.isBlank c then skipFrom false cs
    else if c = '#' then skipFrom true cs
    else c :: cs

/-- The text as it is read on: without blanks and comments at its beginning where they are
ignored. -/
def skip (verbose : Bool) (cs : List Char) : List Char := if verbose then skipFrom false cs else cs

/-! ### Escapes -/

/-- What a backslash begins. -/
inductive Escape where
  | literal (l : Literal)
  | shorthand (negated : Bool) (s : Shorthand)
  | property (negated : Bool) (q : PropertyQuery)
  | mark (m : Mark)

/-- The characters with a meaning of their own. -/
def isMeta (c : Char) : Bool := "\\.+*?()|[]\x7b\x7d^$#&-~".toList.contains c

/-- Whether the backslash before a character may be left out or must not: ASCII characters other
than letters, digits and angle brackets. -/
def isEscapable (c : Char) : Bool :=
  isMeta c || c.toNat < 0x80 && !c.isAlphanum && c != '<' && c != '>'

/-- The value of hexadecimal digits. -/
def hexNumber? (cs : List Char) : Option Nat :=
  cs.foldlM (fun n c => (hexValue? c).map fun d => n * 16 + d) 0
where
  /-- The value of one digit. -/
  hexValue? (c : Char) : Option Nat :=
    if c.isDigit then some (c.toNat - '0'.toNat)
    else if 'a' ≤ c ∧ c ≤ 'f' then some (c.toNat - 'a'.toNat + 10)
    else if 'A' ≤ c ∧ c ≤ 'F' then some (c.toNat - 'A'.toNat + 10)
    else none

/-- The character with this number. -/
def character? (n : Nat) : Option Char := if n.isValidChar then some (Char.ofNat n) else none

/-- The characters up to a closing brace and the rest after it; at most `fuel` are read. -/
def untilBrace? (verbose : Bool) : (fuel : Nat) → List Char → Option (List Char × List Char)
  | 0, _ => none
  | fuel + 1, cs =>
    match skip verbose cs with
    | [] => none
    | '\x7d' :: rest => some ([], rest)
    | c :: rest => (untilBrace? verbose fuel rest).map fun (name, rest) => (c :: name, rest)

/-- The next `count` characters and the rest after them. -/
def take? (verbose : Bool) : (count : Nat) → List Char → Option (List Char × List Char)
  | 0, cs => some ([], cs)
  | count + 1, cs =>
    match skip verbose cs with
    | [] => none
    | c :: rest => (take? verbose count rest).map fun (ds, rest) => (c :: ds, rest)

/-- A character by its number: in braces, or in `digits` digits. -/
def hex? (verbose : Bool) (digits : Nat) (cs : List Char) : Option (Literal × List Char) :=
  match skip verbose cs with
  | '\x7b' :: rest => do
    let (ds, rest) ← untilBrace? verbose (rest.length + 1) rest
    if ds = [] then none
    else
      let n ← hexNumber? ds
      return (⟨← character? n, false⟩, rest)
  | cs => do
    let (ds, rest) ← take? verbose digits cs
    let n ← hexNumber? ds
    return (⟨← character? n, digits = 2⟩, rest)

/-- What stands between the braces of a property. -/
def query (name : List Char) : PropertyQuery :=
  match splitAtNotEqual name with
  | some (a, b) => .value (String.ofList a) (String.ofList b)
  | none =>
    match (Text.cut? ':' name).or (Text.cut? '=' name) with
    | some (a, b) => .value (String.ofList a) (String.ofList b)
    | none => .name (String.ofList name)
where
  /-- What stands before the first `!=` and after it. -/
  splitAtNotEqual : List Char → Option (List Char × List Char)
    | '!' :: '=' :: rest => some ([], rest)
    | c :: rest => (splitAtNotEqual rest).map fun (a, b) => (c :: a, b)
    | [] => none

/-- A property: its name in braces, or one letter. -/
def property? (verbose negated : Bool) (cs : List Char) : Option (Escape × List Char) :=
  match skip verbose cs with
  | [] => none
  | '\x7b' :: rest => do
    let (name, rest) ← untilBrace? verbose (rest.length + 1) rest
    let isUnequal := Text.occursIn ['!', '='] name
    return (.property (negated != isUnequal) (query name), rest)
  | c :: rest =>
    if c = '\\' then none else some (.property negated (.name (String.singleton c)), rest)

/-- The letters and hyphens at the beginning of a text and the rest; at most `fuel` are read. -/
def letters (verbose : Bool) : (fuel : Nat) → List Char → List Char × List Char
  | 0, cs => ([], cs)
  | fuel + 1, cs =>
    match cs with
    | c :: rest =>
      if c.isAlpha || c == '-' then
        let (name, rest) := letters verbose fuel (skip verbose rest)
        (c :: name, rest)
      else ([], cs)
    | [] => ([], cs)

/-- A word boundary, behind which braces may name one of its four kinds; braces with anything but a
name in them count repetitions. -/
def wordMark? (verbose : Bool) (cs : List Char) : Option (Escape × List Char) :=
  match cs with
  | '\x7b' :: rest =>
    match skip verbose rest with
    | [] => none
    | c :: rest =>
      if c.isAlpha || c == '-' then
        let (name, rest) := letters verbose (rest.length + 2) (c :: rest)
        match rest with
        | '\x7d' :: rest =>
          match String.ofList name with
          | "start" => some (.mark .wordStart, rest)
          | "end" => some (.mark .wordEnd, rest)
          | "start-half" => some (.mark .wordStartHalf, rest)
          | "end-half" => some (.mark .wordEndHalf, rest)
          | _ => none
        | _ => none
      else some (.mark .wordBoundary, cs)
  | cs => some (.mark .wordBoundary, cs)

/-- What the text after a backslash says. -/
def escape? (verbose : Bool) : List Char → Option (Escape × List Char)
  | [] => none
  | c :: rest =>
    match c with
    | 'x' => (hex? verbose 2 rest).map fun (l, rest) => (.literal l, rest)
    | 'u' => (hex? verbose 4 rest).map fun (l, rest) => (.literal l, rest)
    | 'U' => (hex? verbose 8 rest).map fun (l, rest) => (.literal l, rest)
    | 'p' => property? verbose false rest
    | 'P' => property? verbose true rest
    | 'd' => some (.shorthand false .digit, rest)
    | 's' => some (.shorthand false .blank, rest)
    | 'w' => some (.shorthand false .word, rest)
    | 'D' => some (.shorthand true .digit, rest)
    | 'S' => some (.shorthand true .blank, rest)
    | 'W' => some (.shorthand true .word, rest)
    | 'a' => some (.literal ⟨'\x07', false⟩, rest)
    | 'f' => some (.literal ⟨'\x0C', false⟩, rest)
    | 't' => some (.literal ⟨'\t', false⟩, rest)
    | 'n' => some (.literal ⟨'\n', false⟩, rest)
    | 'r' => some (.literal ⟨'\r', false⟩, rest)
    | 'v' => some (.literal ⟨'\x0B', false⟩, rest)
    | 'A' => some (.mark .textStart, rest)
    | 'z' => some (.mark .textEnd, rest)
    | 'b' => wordMark? verbose rest
    | 'B' => some (.mark .noWordBoundary, rest)
    | '<' => some (.mark .wordStart, rest)
    | '>' => some (.mark .wordEnd, rest)
    | c => if isEscapable c then some (.literal ⟨c, false⟩, rest) else none

/-! ### Classes in brackets -/

/-- What is open while a class is read: a bracket, with the items before it, or an operator, with
the set to its left. -/
inductive SetFrame where
  | bracket (before : List SetSyntax) (negated : Bool)
  | operator (op : SetOperator) (left : SetSyntax)

/-- The set of an operator waiting for it, or the set alone. -/
def closeOperator (set : SetSyntax) : List SetFrame → SetSyntax × List SetFrame
  | .operator op left :: stack => (.operation op left set, stack)
  | stack => (set, stack)

/-- The name of an ASCII class behind its bracket and colon, and the rest after its end. -/
def asciiClass? (cs : List Char) : Option (SetSyntax × List Char) :=
  match cs with
  | ':' :: rest =>
    let (negated, rest) := match rest with
      | '^' :: rest => (true, rest)
      | rest => (false, rest)
    match Text.cut? ':' rest with
    | some (name, ']' :: rest) =>
      (Class.ascii? (String.ofList name)).map fun ranges => (.ascii negated ranges, rest)
    | _ => none
  | _ => none

/-- The hyphens at the beginning of a class, last first, and the rest. -/
def hyphens (verbose : Bool) (read : List SetSyntax) :
    (fuel : Nat) → List Char → List SetSyntax × List Char
  | 0, cs => (read, cs)
  | fuel + 1, cs =>
    match skip verbose cs with
    | '-' :: rest => hyphens verbose (.literal ⟨'-', false⟩ :: read) fuel rest
    | cs => (read, cs)

/-- The beginning of a class after its bracket: whether it is negated, the items that stand for
themselves there, last first, and the rest, which is not empty. -/
def openSet? (verbose : Bool) (cs : List Char) : Option (Bool × List SetSyntax × List Char) :=
  let (negated, cs) := match skip verbose cs with
    | '^' :: rest => (true, rest)
    | cs => (false, cs)
  match hyphens verbose [] (cs.length + 1) cs with
  | (_, []) => none
  | ([], ']' :: rest) =>
    if skip verbose rest = [] then none else some (negated, [.literal ⟨']', false⟩], rest)
  | (items, cs) => some (negated, items, cs)

/-- One item of a class: a character or what a backslash begins. -/
def setItem? (verbose : Bool) : List Char → Option (Escape × List Char)
  | [] => none
  | '\\' :: rest => escape? verbose rest
  | c :: rest => some (.literal ⟨c, false⟩, rest)

/-- An item that stands alone. -/
def alone? : Escape → Option SetSyntax
  | .literal l => some (.literal l)
  | .shorthand negated s => some (.shorthand negated s)
  | .property negated q => some (.property negated q)
  | .mark _ => none

/-- An item, or the range of two characters with a hyphen between them. -/
def setRange? (verbose : Bool) (cs : List Char) : Option (SetSyntax × List Char) := do
  let (item, rest) ← setItem? verbose cs
  match skip verbose rest with
  | [] => none
  | '-' :: rest =>
    match skip verbose rest with
    | [] => none
    | c :: cs =>
      if c = ']' ∨ c = '-' then return (← alone? item, '-' :: rest)
      else
        let (last, rest) ← setItem? verbose (c :: cs)
        match item, last with
        | .literal a, .literal b =>
          if a.char ≤ b.char then return (.range a b, rest) else none
        | _, _ => none
  | rest => return (← alone? item, rest)

/-- Reads a class to its last bracket; `items` are those of the innermost open bracket, last first.
At most `fuel` items are read. -/
def set? (verbose : Bool) : (fuel : Nat) → (stack : List SetFrame) → (items : List SetSyntax) →
    List Char → Option (Bool × SetSyntax × List Char)
  | 0, _, _, _ => none
  | fuel + 1, stack, items, cs =>
    let operator := fun (op : SetOperator) (rest : List Char) =>
      let (left, stack) := closeOperator (.inItems items.reverse) stack
      set? verbose fuel (.operator op left :: stack) [] rest
    match skip verbose cs with
    | [] => none
    | '[' :: rest =>
      match asciiClass? rest with
      | some (item, rest) => set? verbose fuel stack (item :: items) rest
      | none => do
        let (negated, inner, rest) ← openSet? verbose rest
        set? verbose fuel (.bracket items negated :: stack) inner rest
    | ']' :: rest =>
      match closeOperator (.inItems items.reverse) stack with
      | (set, [.bracket _ negated]) => some (negated, set, rest)
      | (set, .bracket before negated :: stack) =>
        set? verbose fuel stack (.bracketed negated set :: before) rest
      | _ => none
    | '&' :: '&' :: rest => operator .intersection rest
    | '-' :: '-' :: rest => operator .difference rest
    | '~' :: '~' :: rest => operator .symmetricDifference rest
    | cs => do
      let (item, rest) ← setRange? verbose cs
      set? verbose fuel stack (item :: items) rest

/-- Reads a class after its first bracket. -/
def bracketed? (verbose : Bool) (cs : List Char) : Option (Syntax × List Char) := do
  let (negated, items, rest) ← openSet? verbose cs
  let (negated, set, rest) ← set? verbose (cs.length + 1) [.bracket [] negated] items rest
  return (.bracketed negated set, rest)

/-! ### Repetitions -/

/-- The greatest count of repetitions. -/
def maxCount : Nat := 0xFFFFFFFF

/-- The decimal digits at the beginning of a text and the rest; at most `fuel` are read. -/
def digits (verbose : Bool) : (fuel : Nat) → List Char → List Char × List Char
  | 0, cs => ([], cs)
  | fuel + 1, cs =>
    match cs with
    | c :: rest =>
      if c.isDigit then
        let (ds, rest) := digits verbose fuel (skip verbose rest)
        (c :: ds, rest)
      else ([], cs)
    | [] => ([], [])

/-- A count with blanks around it; none where there are no digits or too many. -/
def count (verbose : Bool) (cs : List Char) : Option Nat × List Char :=
  let (ds, rest) := digits verbose (cs.length + 1) (cs.dropWhile Class.isBlank)
  let rest := skip verbose (rest.dropWhile Class.isBlank)
  let n := ds.foldl (fun n d => n * 10 + (d.toNat - '0'.toNat)) 0
  (if ds = [] ∨ maxCount < n then none else some n, rest)

/-- The bounds of a counted repetition after its brace. -/
def bounds? (verbose : Bool) (cs : List Char) : Option (Nat × Option Nat × List Char) := do
  let (least, rest) := count verbose (skip verbose cs)
  match rest with
  | ',' :: rest =>
    match skip verbose rest with
    | '\x7d' :: rest => return (← least, none, rest)
    | rest =>
      let least ← least
      let (most, rest) := count verbose rest
      let most ← most
      match rest with
      | '\x7d' :: rest => if least ≤ most then return (least, some most, rest) else none
      | _ => none
  | '\x7d' :: rest =>
    let n ← least
    return (n, some n, rest)
  | _ => none

/-! ### Groups -/

/-- Reads the letters of flags up to a colon or parenthesis, which is given too; `read` are those so
far, last first. -/
def flagLetters? (read : List Char) : List Char → Option (List Char × Char × List Char)
  | [] => none
  | c :: rest =>
    if c = ':' ∨ c = ')' then
      if read.head? = some '-' then none else some (read.reverse, c, rest)
    else if read.contains c then none
    else if c = '-' ∨ (Flag.ofLetter? c).isSome then flagLetters? (c :: read) rest
    else none

/-- The changes that letters say: on before the hyphen, off after it. -/
def changes (letters : List Char) : FlagChanges :=
  let on := letters.takeWhile (· != '-')
  let off := letters.dropWhile (· != '-')
  on.filterMap (fun c => (Flag.ofLetter? c).map (·, true)) ++
    off.filterMap (fun c => (Flag.ofLetter? c).map (·, false))

/-- Whether a character may stand in the name of a group, at its beginning or later. -/
def isNameChar (isFirst : Bool) (c : Char) : Bool :=
  c == '_' ||
    if isFirst then Class.isLetter c
    else c == '.' || c == '[' || c == ']' || Class.isLetterOrNumber c

/-- Reads the name of a group up to its angle bracket, `read` being its characters so far, last
first. -/
def groupName? (read : List Char) : List Char → Option (List Char × List Char)
  | [] => none
  | c :: rest =>
    if c = '>' then if read = [] then none else some (read.reverse, rest)
    else if isNameChar read.isEmpty c then groupName? (c :: read) rest
    else none

/-- What a parenthesis opens. -/
inductive Opening where
  /-- A group that keeps its match, under a name if it has one. -/
  | capturing (name : Option (List Char))
  /-- A group that switches flags. -/
  | plain (changes : FlagChanges)
  /-- Flags for the rest of the group around. -/
  | flags (changes : FlagChanges)

/-- What a parenthesis opens, read from the text after it. -/
def opening? (verbose : Bool) (cs : List Char) : Option (Opening × List Char) :=
  match skip verbose cs with
  | '?' :: '=' :: _ | '?' :: '!' :: _ | '?' :: '<' :: '=' :: _ | '?' :: '<' :: '!' :: _ => none
  | '?' :: 'P' :: '<' :: rest | '?' :: '<' :: rest =>
    (groupName? [] rest).map fun (name, rest) => (.capturing (some name), rest)
  | '?' :: rest => do
    let (letters, close, rest) ← flagLetters? [] rest
    if close = ')' then if letters = [] then none else return (.flags (changes letters), rest)
    else return (.plain (changes letters), rest)
  | rest => some (.capturing none, rest)

/-! ### The whole -/

/-- An open group with what stood before it in the group around. -/
structure Frame where
  kind : GroupKind
  parts : List Syntax
  branches : List Syntax
  verbose : Bool

/-- What is read of a pattern: the parts of the innermost branch and the branches before it, last
first; the open groups; whether blanks are ignored; and the groups that keep their match, with their
names. -/
structure State where
  parts : List Syntax := []
  branches : List Syntax := []
  stack : List Frame := []
  verbose : Bool := false
  groups : Nat := 0
  names : List (List Char × Nat) := []

/-- The innermost group's content. -/
def State.content (st : State) : Syntax :=
  .inChoice ((.inSequence st.parts.reverse :: st.branches).reverse)

/-- The state with a part added. -/
def State.add (st : State) (s : Syntax) : State := { st with parts := s :: st.parts }

/-- Whether flags switch the ignoring of blanks, and how. -/
def verboseOf (verbose : Bool) (changes : FlagChanges) : Bool :=
  ((changes.find? fun c => c.1 = .verbose).map Prod.snd).getD verbose

/-- The state with a group opened. -/
def State.open_ (st : State) (kind : GroupKind) (verbose : Bool) : State :=
  { st with
    parts := []
    branches := []
    stack := ⟨kind, st.parts, st.branches, st.verbose⟩ :: st.stack
    verbose := verbose }

/-- The state after the opening of a parenthesis. -/
def State.opened? (st : State) : Opening → Option State
  | .flags changes =>
    some { st.add (.flags changes) with verbose := verboseOf st.verbose changes }
  | .plain changes => some (st.open_ (.plain changes) (verboseOf st.verbose changes))
  | .capturing name =>
    let index := st.groups + 1
    match name with
    | none => some { st.open_ (.capturing index) st.verbose with groups := index }
    | some name =>
      if st.names.any fun n => n.1 = name then none
      else
        some { st.open_ (.capturing index) st.verbose with
          groups := index
          names := (name, index) :: st.names }

/-- The state after a closing parenthesis. -/
def State.closed? (st : State) : Option State :=
  match st.stack with
  | [] => none
  | f :: stack =>
    some { st with
      parts := .group f.kind st.content :: f.parts
      branches := f.branches
      stack := stack
      verbose := f.verbose }

/-- The state with its last part repeated; flags cannot be. -/
def State.repeated? (st : State) (least : Nat) (most : Option Nat) (reluctant : Bool) :
    Option State :=
  match st.parts with
  | [] | .flags _ :: _ => none
  | s :: parts => some { st with parts := .repeated least most reluctant s :: parts }

/-- Whether a question mark follows, and the rest after it. -/
def reluctant : List Char → Bool × List Char
  | '?' :: rest => (true, rest)
  | rest => (false, rest)

/-- The part that a backslash begins. -/
def ofEscape : Escape → Syntax
  | .literal l => .literal l
  | .shorthand negated s => .shorthand negated s
  | .property negated q => .property negated q
  | .mark m => .mark m

/-- Reads a pattern to its end, at most `fuel` parts. -/
def run : (fuel : Nat) → State → List Char → Option State
  | 0, _, _ => none
  | fuel + 1, st, cs =>
    let verbose := st.verbose
    let repeated := fun (least : Nat) (most : Option Nat) (rest : List Char) => do
      let (isReluctant, rest) := reluctant rest
      run fuel (← st.repeated? least most isReluctant) rest
    match skip verbose cs with
    | [] => some st
    | c :: rest =>
      match c with
      | '(' => do
        let (opening, rest) ← opening? verbose rest
        run fuel (← st.opened? opening) rest
      | ')' => do run fuel (← st.closed?) rest
      | '|' =>
        run fuel
          { st with parts := [], branches := .inSequence st.parts.reverse :: st.branches } rest
      | '[' => do
        let (s, rest) ← bracketed? verbose rest
        run fuel (st.add s) rest
      | '?' => repeated 0 (some 1) rest
      | '*' => repeated 0 none rest
      | '+' => repeated 1 none rest
      | '\x7b' => do
        let (least, most, rest) ← bounds? verbose rest
        repeated least most (skip verbose rest)
      | '\\' => do
        let (e, rest) ← escape? verbose rest
        run fuel (st.add (ofEscape e)) rest
      | '.' => run fuel (st.add .dot) rest
      | '^' => run fuel (st.add (.mark .lineStart)) rest
      | '$' => run fuel (st.add (.mark .lineEnd)) rest
      | c => run fuel (st.add (.literal ⟨c, false⟩)) rest

end Parser

/-- A pattern as read: its tree, the count of its groups, and the names of groups. -/
structure Parsed where
  /-- The tree. -/
  tree : Syntax
  /-- How many groups keep their match. -/
  groups : Nat
  /-- The names of groups with their numbers. -/
  names : List (List Char × Nat)

/-- How deep operators may be nested. -/
def maxHeight : Nat := 250

/-- Reads the text of a pattern. -/
def parse? (cs : List Char) : Option Parsed := do
  let st ← Parser.run (cs.length + 1) {} cs
  if st.stack.isEmpty && st.content.height ≤ maxHeight then
    return ⟨st.content, st.groups, st.names⟩
  else none

end BrowserShell.Pattern
