import BrowserShell.Pattern.Program
import BrowserShell.Text.Utf8

/-!
# Searching

A program is run on a subject byte by byte. At each position there is a row of threads in the order
of preference, no two at the same place: of two threads at one place the less preferred can never
give another match. A thread that takes a character waits at the place behind it until the bytes of
the character are passed. `search` gives the slots of the leftmost match that preference selects.
-/

namespace BrowserShell.Pattern

/-- A position in a subject: the bytes before it, last first, and those from it on. -/
structure Position where
  /-- The bytes before, last first. -/
  before : Bytes
  /-- The bytes from here on. -/
  after : Bytes

namespace Position

/-- The character that begins here. -/
def next? (p : Position) : Option Char :=
  match p.after with
  | [] => none
  | b :: r => (Utf8.first b r).1

/-- The character that the bytes `read` begin with, at most `fuel` more bytes before them being
added until a byte begins a character. -/
def lastFrom (fuel : Nat) (read : Bytes) : (before : Bytes) → Option Char
  | [] =>
    match read with
    | [] => none
    | b :: r => (Utf8.first b r).1
  | b :: before =>
    match fuel with
    | 0 => (Utf8.first b read).1
    | fuel + 1 =>
      if Utf8.isTail b && !before.isEmpty then lastFrom fuel (b :: read) before
      else (Utf8.first b read).1

/-- The character before: that which begins at the nearest of the last four bytes that can begin
one. -/
def last? (p : Position) : Option Char := lastFrom 3 [] p.before

/-- Whether a word character comes next. -/
def nextIsWord (p : Position) (unicode : Bool) : Bool :=
  if unicode then p.next?.any Class.isWord
  else p.after.head?.any fun b => Class.isAsciiWord b.toNat

/-- Whether a word character comes before. -/
def lastIsWord (p : Position) (unicode : Bool) : Bool :=
  if unicode then p.last?.any Class.isWord
  else p.before.head?.any fun b => Class.isAsciiWord b.toNat

/-- Whether what comes next is the end or a whole character. -/
def nextIsWhole (p : Position) (unicode : Bool) : Bool :=
  !unicode || p.after.isEmpty || p.next?.isSome

/-- Whether what comes before is the beginning or a whole character. -/
def lastIsWhole (p : Position) (unicode : Bool) : Bool :=
  !unicode || p.before.isEmpty || p.last?.isSome

/-- Whether a condition holds here. The conditions on words that could hold inside a character ask
for whole characters around. -/
def meets (p : Position) : Assertion → Bool
  | .textStart => p.before.isEmpty
  | .textEnd => p.after.isEmpty
  | .lineStart => p.before.isEmpty || p.before.head? == some 0x0A
  | .lineEnd => p.after.isEmpty || p.after.head? == some 0x0A
  | .lineStartCrlf =>
    p.before.isEmpty || p.before.head? == some 0x0A ||
      p.before.head? == some 0x0D && p.after.head? != some 0x0A
  | .lineEndCrlf =>
    p.after.isEmpty || p.after.head? == some 0x0D ||
      p.after.head? == some 0x0A && p.before.head? != some 0x0D
  | .wordBoundary u => p.lastIsWord u != p.nextIsWord u
  | .noWordBoundary u =>
    p.lastIsWhole u && p.nextIsWhole u && p.lastIsWord u == p.nextIsWord u
  | .wordStart u => !p.lastIsWord u && p.nextIsWord u
  | .wordEnd u => p.lastIsWord u && !p.nextIsWord u
  | .wordStartHalf u => p.lastIsWhole u && !p.lastIsWord u
  | .wordEndHalf u => p.nextIsWhole u && !p.nextIsWord u

end Position

/-- The positions kept by a thread, each as the count of bytes before it. -/
abbrev Slots := List (Option Nat)

/-- A way in which the pattern may go on. -/
structure Thread where
  /-- The place in the program. -/
  place : Nat
  /-- How many bytes have to be passed first. -/
  wait : Nat
  /-- The positions kept. -/
  slots : Slots
deriving DecidableEq, Repr

/-- The number of a thread's place and wait, which tells the threads of one position apart. -/
def Thread.key (t : Thread) : Nat := 4 * t.place + t.wait

/-- A row of threads at one position, with the slots of the match found behind the last of them. -/
structure Row where
  /-- The threads that take something next, in the order of preference. -/
  threads : List Thread
  /-- The slots of a complete match, less preferred than all the threads. -/
  accepted : Option Slots

/-- The row that threads lead to without taking anything; `seen` has the bit of each key met and
`row` the threads found so far, last first. The threads after a complete match are dropped. At most
`fuel` threads are followed. -/
def follow (program : Array Instruction) (p : Position) (offset : Nat) :
    (fuel : Nat) → (seen : Nat) → (row : List Thread) → List Thread → Row
  | 0, _, row, _ => ⟨row.reverse, none⟩
  | _, _, row, [] => ⟨row.reverse, none⟩
  | fuel + 1, seen, row, t :: rest =>
    if seen.testBit t.key then follow program p offset fuel seen row rest
    else
      let seen := seen ||| 1 <<< t.key
      if t.wait > 0 then follow program p offset fuel seen (t :: row) rest
      else
        match program[t.place]? with
        | none => follow program p offset fuel seen row rest
        | some i =>
          match i with
          | .scalar _ | .byte _ => follow program p offset fuel seen (t :: row) rest
          | .assertion a =>
            if p.meets a then
              follow program p offset fuel seen row ({ t with place := t.place + 1 } :: rest)
            else follow program p offset fuel seen row rest
          | .save slot =>
            follow program p offset fuel seen row
              (⟨t.place + 1, 0, t.slots.set slot (some offset)⟩ :: rest)
          | .jump target =>
            follow program p offset fuel seen row ({ t with place := target } :: rest)
          | .split first second =>
            follow program p offset fuel seen row
              ({ t with place := first } :: { t with place := second } :: rest)
          | .accept => ⟨row.reverse, some t.slots⟩

/-- The thread after the byte `b`, with which a subject goes on as `b :: rest`. -/
def Thread.pass? (program : Array Instruction) (b : UInt8) (rest : Bytes) (t : Thread) :
    Option Thread :=
  match t.wait with
  | wait + 1 => some { t with wait := wait }
  | 0 =>
    match program[t.place]? with
    | some (.scalar set) =>
      match Utf8.first b rest with
      | (some c, width) =>
        if set.has c.toNat then some ⟨t.place + 1, width - 1, t.slots⟩ else none
      | (none, _) => none
    | some (.byte set) => if set.has b.toNat then some ⟨t.place + 1, 0, t.slots⟩ else none
    | _ => none

/-- The row at a position that `threads` come to; a new thread starts there as the least preferred
one unless a match is found already. -/
def rowAt (program : Array Instruction) (slots : Nat) (p : Position) (offset : Nat)
    (threads : List Thread) (found : Option Slots) : Row :=
  let starts := if found.isNone then [⟨0, 0, List.replicate slots none⟩] else []
  follow program p offset (2 * program.size + threads.length + 2) 0 [] (threads ++ starts)

/-- Runs a program from a position on: `threads` come to it and `found` is the match so far. -/
def run (program : Array Instruction) (slots : Nat) :
    (before : Bytes) → (offset : Nat) → (threads : List Thread) → (found : Option Slots) →
    (after : Bytes) → Option Slots
  | before, offset, threads, found, [] =>
    (rowAt program slots ⟨before, []⟩ offset threads found).accepted.or found
  | before, offset, threads, found, b :: rest =>
    let row := rowAt program slots ⟨before, b :: rest⟩ offset threads found
    let found := row.accepted.or found
    if row.threads.isEmpty && found.isSome then found
    else
      run program slots (b :: before) (offset + 1)
        (row.threads.filterMap (Thread.pass? program b rest)) found rest

/-- The slots of the match that a program finds from a position on, `offset` bytes into the subject;
there are `slots` of them. -/
def search (program : Array Instruction) (slots : Nat) (p : Position) (offset : Nat) :
    Option Slots :=
  run program slots p.before offset [] none p.after

end BrowserShell.Pattern
