import BrowserShell.Text.Split

/-!
# Socket addresses

The texts that are an address and a port: a version 4 address in four decimal numbers, or a version
6 address in brackets, a colon, and a port below 65536. Names are not looked up.
-/

namespace BrowserShell.SocketAddress

/-- The digits of a base at the beginning of a text, and the rest. -/
def digits (base : Nat) (cs : List Char) : List Nat × List Char :=
  let isDigit := fun c : Char => (value? c).any (· < base)
  ((cs.takeWhile isDigit).filterMap value?, cs.dropWhile isDigit)
where
  /-- The value of a digit up to base 16. -/
  value? (c : Char) : Option Nat :=
    if c.isDigit then some (c.toNat - '0'.toNat)
    else if 'a' ≤ c ∧ c ≤ 'f' then some (c.toNat - 'a'.toNat + 10)
    else if 'A' ≤ c ∧ c ≤ 'F' then some (c.toNat - 'A'.toNat + 10)
    else none

/-- A number at the beginning of a text, and the rest: of at most `most` digits if there is a bound,
below `bound`, and with leading zeros only where `zeros` allows them. -/
def number? (base : Nat) (most : Option Nat) (bound : Nat) (zeros : Bool) (cs : List Char) :
    Option (Nat × List Char) :=
  let (ds, rest) := digits base cs
  let n := ds.foldl (fun n d => n * base + d) 0
  if ds = [] ∨ (most.any (· < ds.length)) ∨ bound ≤ n ∨ (!zeros ∧ ds.head? = some 0 ∧ 1 < ds.length)
  then none
  else some (n, rest)

/-- The text after a version 4 address. -/
def ipv4? (cs : List Char) : Option (List Char) := do
  let byte := number? 10 (some 3) 256 false
  let (_, cs) ← byte cs
  let '.' :: cs := cs | none
  let (_, cs) ← byte cs
  let '.' :: cs := cs | none
  let (_, cs) ← byte cs
  let '.' :: cs := cs | none
  let (_, cs) ← byte cs
  return cs

/-- Reads groups of a version 6 address with colons between them, at most `limit` of them, a version
4 address counting as two at the end; gives their count and the rest, and whether the last was a
version 4 address. -/
def groups (first : Bool) : (limit : Nat) → List Char → Nat × List Char × Bool
  | 0, cs => (0, cs, false)
  | limit + 1, cs =>
    let start := if first then some cs else
      match cs with
      | ':' :: cs => some cs
      | _ => none
    match start with
    | none => (0, cs, false)
    | some text =>
      let v4 := if limit ≥ 1 then ipv4? text else none
      match v4 with
      | some rest => (2, rest, true)
      | none =>
        match number? 16 (some 4) 65536 true text with
        | none => (0, cs, false)
        | some (_, rest) =>
          let (n, rest, isV4) := groups false limit rest
          (n + 1, rest, isV4)

/-- The text after a version 6 address. -/
def ipv6? (cs : List Char) : Option (List Char) :=
  let (n, rest, isV4) := groups true 8 cs
  if n = 8 then some rest
  else if isV4 then none
  else
    match rest with
    | ':' :: ':' :: rest => some (groups true (8 - (n + 1)) rest).2.1
    | _ => none

/-- The text after a colon and a port. -/
def port? : List Char → Option (List Char)
  | ':' :: cs => (number? 10 none 65536 true cs).map Prod.snd
  | _ => none

/-- The text after a scope, if there is one: a percent sign and a number below 2³². -/
def scope (cs : List Char) : List Char :=
  match cs with
  | '%' :: rest => ((number? 10 none 0x100000000 true rest).map Prod.snd).getD cs
  | cs => cs

/-- Whether a text is a socket address. -/
def isValid (s : String) : Bool :=
  let cs := s.toList
  let v4 := do port? (← ipv4? cs)
  let v6 := do
    let '[' :: cs := cs | none
    let ']' :: cs := scope (← ipv6? cs) | none
    port? cs
  v4 == some [] || v6 == some []

end BrowserShell.SocketAddress
