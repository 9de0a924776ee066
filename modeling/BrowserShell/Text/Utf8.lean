/-!
# Bytes and UTF-8

Bodies, files and header values are byte strings; text is `String`. `Utf8.encode` and the strict
`Utf8.decode?` pass between them, and `Utf8.lossy` reads any bytes as text, with one replacement
character for each longest start of a character that breaks off. Reading is by `Utf8.first`, which
says what a byte string begins with.
-/

namespace BrowserShell

/-- A byte string: a body, a file's content, a header value. -/
abbrev Bytes := List UInt8

namespace Utf8

/-- The UTF-8 form of a text. -/
def encode (s : String) : Bytes := s.toList.flatMap String.utf8EncodeChar

/-- A byte of a character after its first: the top bits are `10`. -/
def isTail (b : UInt8) : Bool := 0x80 ≤ b && b ≤ 0xBF

/-- How many bytes a character has that begins with `b`, zero if none does. -/
def width (b : UInt8) : Nat :=
  if b < 0x80 then 1
  else if b < 0xC2 then 0
  else if b < 0xE0 then 2
  else if b < 0xF0 then 3
  else if b < 0xF5 then 4
  else 0

/-- Whether `c` can follow the first byte `b`: longer forms of shorter characters, surrogates and
values above the last code point are refused here. -/
def canFollow (b c : UInt8) : Bool :=
  if b = 0xE0 then 0xA0 ≤ c && c ≤ 0xBF
  else if b = 0xED then 0x80 ≤ c && c ≤ 0x9F
  else if b = 0xF0 then 0x90 ≤ c && c ≤ 0xBF
  else if b = 0xF4 then 0x80 ≤ c && c ≤ 0x8F
  else isTail c

/-- The six low bits of a byte. -/
def low6 (b : UInt8) : Nat := b.toNat % 64

/-- What the byte string `b :: r` begins with: a character and its width, or none and the count of
bytes, at least one, in the longest start of a character that breaks off. -/
def first (b : UInt8) (r : Bytes) : Option Char × Nat :=
  match width b, r with
  | 1, _ => (some (Char.ofNat b.toNat), 1)
  | 2, c :: _ =>
    if canFollow b c then (some (Char.ofNat (b.toNat % 32 * 64 + low6 c)), 2) else (none, 1)
  | 3, c :: r =>
    if canFollow b c then
      match r with
      | d :: _ =>
        if isTail d then
          (some (Char.ofNat ((b.toNat % 16 * 64 + low6 c) * 64 + low6 d)), 3)
        else (none, 2)
      | [] => (none, 2)
    else (none, 1)
  | 4, c :: r =>
    if canFollow b c then
      match r with
      | d :: r =>
        if isTail d then
          match r with
          | e :: _ =>
            if isTail e then
              (some (Char.ofNat (((b.toNat % 8 * 64 + low6 c) * 64 + low6 d) * 64 + low6 e)), 4)
            else (none, 3)
          | [] => (none, 3)
        else (none, 2)
      | [] => (none, 2)
    else (none, 1)
  | _, _ => (none, 1)

/-- The characters of a byte string after its first `skip` bytes, none where a character breaks
off. -/
def charsFrom : (skip : Nat) → Bytes → List (Option Char)
  | _, [] => []
  | skip + 1, _ :: r => charsFrom skip r
  | 0, b :: r => (first b r).1 :: charsFrom ((first b r).2 - 1) r

/-- The text whose UTF-8 form the bytes are. -/
def decode? (bs : Bytes) : Option String :=
  ((charsFrom 0 bs).mapM id).map String.ofList

/-- Whether the bytes are the UTF-8 form of a text. -/
def isValid (bs : Bytes) : Bool := (charsFrom 0 bs).all Option.isSome

/-- The bytes as text, with U+FFFD wherever a character breaks off. -/
def lossy (bs : Bytes) : String :=
  String.ofList ((charsFrom 0 bs).map fun c => c.getD '\uFFFD')

end Utf8

end BrowserShell
