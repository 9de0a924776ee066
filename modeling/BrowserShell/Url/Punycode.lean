import BrowserShell.Text.Split

/-!
# Punycode

The writing of a domain label in ASCII: the ASCII characters come first, and after a hyphen the
others follow in increasing order, each as the distance from the one before in a row of base-36
digits. `encode` writes a label and `decode?` reads one; neither knows of the mark that labels in
this writing begin with.
-/

namespace BrowserShell.Punycode

/-- A base-36 digit: the letters, then the decimal digits. -/
def digit (n : Nat) : Char :=
  if n < 26 then Char.ofNat ('a'.toNat + n) else Char.ofNat ('0'.toNat + (n - 26))

/-- The value of a digit, a letter of either case. -/
def value? (c : Char) : Option Nat :=
  if 'a' ≤ c ∧ c ≤ 'z' then some (c.toNat - 'a'.toNat)
  else if 'A' ≤ c ∧ c ≤ 'Z' then some (c.toNat - 'A'.toNat)
  else if '0' ≤ c ∧ c ≤ '9' then some (c.toNat - '0'.toNat + 26)
  else none

/-- The least digit that is not the last of its row, at the place `place` (36, 72, …). -/
def threshold (bias place : Nat) : Nat :=
  if place ≤ bias then 1 else if bias + 26 ≤ place then 26 else place - bias

/-- The bias that a scaled distance leads to, `bias` counting the scaling steps. -/
def scaled (distance bias : Nat) : Nat :=
  if 455 < distance then scaled (distance / 35) (bias + 36)
  else bias + 36 * distance / (distance + 38)
termination_by distance
decreasing_by omega

/-- The bias for the next row: after the distance `distance`, with `count` characters so far. -/
def adapted (distance count : Nat) (isFirst : Bool) : Nat :=
  let d := if isFirst then distance / 700 else distance / 2
  scaled (d + d / count) 0

/-- The row of digits of a distance, at most `fuel` of them, from the place `place` on. -/
def digits (bias : Nat) : (fuel place distance : Nat) → List Char
  | 0, _, _ => []
  | fuel + 1, place, distance =>
    let t := threshold bias place
    if distance < t then [digit distance]
    else
      digit (t + (distance - t) % (36 - t)) ::
        digits bias fuel (place + 36) ((distance - t) / (36 - t))

/-- What is carried from row to row while writing. -/
structure Writer where
  /-- The distance so far to the next character to write. -/
  distance : Nat
  /-- The bias of the next row. -/
  bias : Nat
  /-- How many characters are written. -/
  count : Nat
  /-- The rows written, last first. -/
  rows : List (List Char)

/-- Passes one character of the label while the code point `n` is being written. -/
def Writer.pass (basic n : Nat) (w : Writer) (c : Nat) : Writer :=
  if c < n then { w with distance := w.distance + 1 }
  else if c = n then
    { distance := 0
      bias := adapted w.distance (w.count + 1) (w.count == basic)
      count := w.count + 1
      rows := digits w.bias (w.distance + 1) 36 w.distance :: w.rows }
  else w

/-- Writes the code points `ns`, in increasing order, `last` being the least one not yet passed. -/
def Writer.run (label : List Nat) (basic : Nat) : (last : Nat) → (ns : List Nat) → Writer → Writer
  | _, [], w => w
  | last, n :: ns, w =>
    let w := label.foldl (pass basic n)
      { w with distance := w.distance + (n - last) * (w.count + 1) }
    run label basic (n + 1) ns { w with distance := w.distance + 1 }

/-- A list in increasing order without repetitions. -/
def distinct (ns : List Nat) : List Nat :=
  (ns.mergeSort fun a b => a ≤ b).foldr
    (fun n ms => if ms.head? = some n then ms else n :: ms) []

/-- The ASCII writing of a label. -/
def encode (label : List Char) : List Char :=
  let cs := label.map Char.toNat
  let basic := label.filter fun c => c.toNat < 0x80
  let w := Writer.run cs basic.length 0x80 (distinct (cs.filter fun c => 0x80 ≤ c))
    ⟨0, 72, basic.length, []⟩
  basic ++ (if basic = [] then [] else ['-']) ++ w.rows.reverse.flatten

/-- What is carried from digit to digit while reading. -/
structure Reader where
  /-- The characters read. -/
  label : List Char
  /-- The last code point read. -/
  point : Nat
  /-- The place where the next character goes, as far as the row tells. -/
  index : Nat
  /-- The index when the row began. -/
  rowIndex : Nat
  /-- The bias of the row. -/
  bias : Nat
  /-- What the next digit counts. -/
  weight : Nat
  /-- The place of the next digit. -/
  place : Nat

/-- Reads the digits to the end; a row that breaks off and a code point that is no character are
refused. -/
def Reader.run : (digits : List Char) → Reader → Option (List Char)
  | [], r => if r.place = 36 then some r.label else none
  | c :: cs, r =>
    match value? c with
    | none => none
    | some d =>
      let index := r.index + d * r.weight
      let t := threshold r.bias r.place
      if d < t then
        let count := r.label.length + 1
        let point := r.point + index / count
        let at_ := index % count
        if point.isValidChar then
          run cs
            { label := r.label.take at_ ++ Char.ofNat point :: r.label.drop at_
              point := point
              index := at_ + 1
              rowIndex := at_ + 1
              bias := adapted (index - r.rowIndex) count (r.rowIndex == 0)
              weight := 1
              place := 36 }
        else none
      else run cs { r with index := index, weight := r.weight * (36 - t), place := r.place + 36 }

/-- The label with this ASCII writing. -/
def decode? (text : List Char) : Option (List Char) :=
  let (basic, rows) :=
    match Text.cutLast? '-' text with
    | none | some ([], _) => ([], text)
    | some cut => cut
  Reader.run rows ⟨basic, 0x80, 0, 0, 72, 1, 36⟩

end BrowserShell.Punycode
