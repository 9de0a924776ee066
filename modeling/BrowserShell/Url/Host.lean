import BrowserShell.Url.Domain
import BrowserShell.Url.Percent

/-!
# Hosts

The host of a URL: a name, or an address of version 4 or 6. `Host.parse` reads the host of a special
URL, in which a name is a domain name and a name that ends in a number is an address;
`Host.parseOpaque` reads that of any other, in which a name is only checked for characters that
would end it. `Host.render` writes the form that a URL keeps.
-/

namespace BrowserShell

/-- Why a text is no URL. -/
inductive UrlError where
  /-- A host is needed and missing. -/
  | emptyHost
  /-- The name is no domain name. -/
  | badDomain
  /-- The port is no number below 65536. -/
  | badPort
  /-- The name ends in a number and is no version 4 address. -/
  | badIpv4
  /-- The text in brackets is no version 6 address. -/
  | badIpv6
  /-- A character may not occur in a host. -/
  | badDomainChar
  /-- The text has no scheme. -/
  | noScheme
deriving DecidableEq, Repr, Inhabited

/-- The wording of a reason. -/
def UrlError.message : UrlError → String
  | .emptyHost => "empty host"
  | .badDomain => "invalid international domain name"
  | .badPort => "invalid port number"
  | .badIpv4 => "invalid IPv4 address"
  | .badIpv6 => "invalid IPv6 address"
  | .badDomainChar => "invalid domain character"
  | .noScheme => "relative URL without a base"

/-- The host of a URL. -/
inductive Host where
  /-- A name. -/
  | name (s : String)
  /-- An address of version 4. -/
  | ipv4 (n : Nat)
  /-- An address of version 6, in eight pieces. -/
  | ipv6 (pieces : List Nat)
deriving DecidableEq, Repr, Inhabited

/-! ### Version 4 -/

namespace Ipv4

/-- The value of a digit in bases up to 16. -/
def digit? (base : Nat) (c : Char) : Option Nat :=
  (JsonString.hexValue? c).filter fun d => d < base

/-- The number with these digits. -/
def number? (base : Nat) (cs : List Char) : Option Nat :=
  cs.foldlM (fun n c => (digit? base c).map fun d => n * base + d) 0

/-- A part of an address: in base 16 behind `0x`, in base 8 behind `0`, else in base 10. -/
def part? : List Char → Option Nat
  | [] => none
  | '0' :: 'x' :: cs | '0' :: 'X' :: cs => number? 16 cs
  | ['0'] => some 0
  | '0' :: cs => number? 8 cs
  | cs => number? 10 cs

/-- Whether the last label of a name, an empty one after a final dot aside, is a number. -/
def endsInNumber (name : List Char) : Bool :=
  let isNumber := fun l : List Char =>
    (!l.isEmpty && l.all Char.isDigit) || (part? l).isSome
  match (Text.pieces '.' name).reverse with
  | [] :: l :: _ => isNumber l
  | [] :: [] => false
  | l :: _ => isNumber l
  | [] => false

/-- The parts of an address in one number: all but the last are single bytes and the last fills the
bytes that are left. -/
def assemble? (parts : List Nat) : Option Nat :=
  match parts.reverse with
  | [] => none
  | last :: heads =>
    if parts.length ≤ 4 ∧ last < Nat.pow 256 (4 - heads.length) ∧ heads.all (fun n => n < 256) then
      some (heads.reverse.zipIdx.foldr (fun (n, i) m => n * Nat.pow 256 (3 - i) + m) last)
    else none

/-- The address that a name writes. -/
def parse? (name : List Char) : Option Nat := do
  let labels := Text.pieces '.' name
  let labels := if labels.getLast? = some [] then labels.dropLast else labels
  if labels.length > 4 then none else assemble? (← labels.mapM part?)

/-- The four bytes of an address with dots between them. -/
def render (n : Nat) : String :=
  Text.join '.' ([n / 0x1000000, n / 0x10000 % 256, n / 256 % 256, n % 256].map Nat.repr)

end Ipv4

/-! ### Version 6 -/

namespace Ipv6

/-- A decimal byte without leading zeros and the rest of the text. -/
def byte? (cs : List Char) : Option (Nat × List Char) :=
  let ds := cs.takeWhile Char.isDigit
  match ds, number? ds with
  | [], _ => none
  | '0' :: _ :: _, _ => none
  | _, some n => if n < 256 then some (n, cs.drop ds.length) else none
  | _, none => none
where
  /-- The number with these decimal digits. -/
  number? (ds : List Char) : Option Nat := Ipv4.number? 10 ds

/-- The two last pieces, written as a version 4 address. -/
def tail4? (cs : List Char) : Option (List Nat) := do
  let (a, cs) ← byte? cs
  let '.' :: cs := cs | none
  let (b, cs) ← byte? cs
  let '.' :: cs := cs | none
  let (c, cs) ← byte? cs
  let '.' :: cs := cs | none
  let (d, cs) ← byte? cs
  if cs = [] then some [a * 256 + b, c * 256 + d] else none

/-- The pieces of the text from here on; `before` are those read, last first, and `gap` the count of
them before the double colon. -/
def pieces? : (fuel : Nat) → (before : List Nat) → (gap : Option Nat) → List Char →
    Option (List Nat × Option Nat)
  | 0, _, _, _ => none
  | _, before, gap, [] => some (before.reverse, gap)
  | fuel + 1, before, gap, cs =>
    if before.length = 8 then none
    else
      match cs with
      | ':' :: cs =>
        if gap.isSome then none else pieces? fuel before (some before.length) cs
      | cs =>
        let ds := (cs.take 4).takeWhile fun c => (Ipv4.digit? 16 c).isSome
        let n := (Ipv4.number? 16 ds).getD 0
        match cs.drop ds.length with
        | [] => some ((n :: before).reverse, gap)
        | ':' :: [] => none
        | ':' :: rest => pieces? fuel (n :: before) gap rest
        | '.' :: _ =>
          if ds = [] ∨ before.length > 6 then none
          else (tail4? cs).map fun ps => (before.reverse ++ ps, gap)
        | _ => none

/-- The eight pieces of the address that a text writes. -/
def parse? (cs : List Char) : Option (List Nat) := do
  let (ps, gap) ←
    match cs with
    | ':' :: ':' :: rest => pieces? (cs.length + 1) [] (some 0) rest
    | ':' :: _ => none
    | [] | [_] => none
    | cs => pieces? (cs.length + 1) [] none cs
  match gap with
  | none => if ps.length = 8 then some ps else none
  | some k =>
    if ps.length < 8 then some (ps.take k ++ List.replicate (8 - ps.length) 0 ++ ps.drop k)
    else none

/-- The length of the run of zeros that a list begins with. -/
def zeros (ps : List Nat) : Nat := (ps.takeWhile (· = 0)).length

/-- Where the longest run of at least two zeros begins and how long it is; the first of several. -/
def gap (ps : List Nat) : Nat × Nat :=
  (List.range ps.length).foldl
    (fun best i => if best.2 < zeros (ps.drop i) ∧ 2 ≤ zeros (ps.drop i) then
      (i, zeros (ps.drop i)) else best) (0, 0)

/-- Pieces in base 16 with colons between them. -/
def renderPieces (ps : List Nat) : List Char := Text.joined ':' (ps.map (Nat.toDigits 16))

/-- The address with a double colon in place of its longest run of zeros. -/
def render (ps : List Nat) : String :=
  let (i, n) := gap ps
  String.ofList <|
    if n = 0 then renderPieces ps
    else renderPieces (ps.take i) ++ [':', ':'] ++ renderPieces (ps.drop (i + n))

end Ipv6

namespace Host

/-- The characters that no host outside brackets may hold. -/
def isForbidden (c : Char) : Bool := "\x00\t\n\r #/:<>?@[\\]^|".toList.contains c

/-- The host in brackets, if the text begins with one. -/
def bracketed? (cs : List Char) : Option (Except UrlError Host) :=
  match cs with
  | '[' :: inner =>
    some <|
      if cs.getLast? = some ']' then
        match Ipv6.parse? inner.dropLast with
        | some ps => .ok (.ipv6 ps)
        | none => .error .badIpv6
      else .error .badIpv6
  | _ => none

/-- The host of a URL with a special scheme. -/
def parse (cs : List Char) : Except UrlError Host :=
  (bracketed? cs).getD <|
    match Domain.toAscii? (Percent.decode cs) with
    | none => .error .badDomain
    | some "" => .error .emptyHost
    | some s =>
      if Ipv4.endsInNumber s.toList then
        match Ipv4.parse? s.toList with
        | some n => .ok (.ipv4 n)
        | none => .error .badIpv4
      else .ok (.name s)

/-- The host of a URL with another scheme. -/
def parseOpaque (cs : List Char) : Except UrlError Host :=
  (bracketed? cs).getD <|
    if cs.any isForbidden then .error .badDomainChar
    else .ok (.name (String.ofList (Percent.encode Percent.control cs)))

/-- The host as it stands in a URL. -/
def render : Host → String
  | .name s => s
  | .ipv4 n => Ipv4.render n
  | .ipv6 ps => "[" ++ Ipv6.render ps ++ "]"

end Host

end BrowserShell
