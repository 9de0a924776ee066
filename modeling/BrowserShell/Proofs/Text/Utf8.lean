import BrowserShell.Proofs.Result
import BrowserShell.Text.Utf8
import Mathlib.Tactic.SplitIfs

/-!
# Reading UTF-8

`Utf8.first` finds a character exactly where the bytes begin with the UTF-8 form of one
(`exists_of_first`, `readsAs_encodeChar`), so that the valid byte strings are the UTF-8 forms of
texts (`isValid_iff`). A character's first byte is no tail and the others are, and this lets a valid
byte string be cut in one way only: what stands before a byte that begins a character is valid
(`isValid_of_append_cons`), and what is put between two valid byte strings keeps them valid exactly
if it is valid (`isValid_append`). The offsets at which it can be cut are its boundaries.
-/

namespace BrowserShell.Utf8

/-! ## Bytes by their numbers -/

/-- The width that a first byte announces, by the byte's number. -/
theorem width_eq (b : UInt8) : width b =
    if b.toNat < 0x80 then 1 else if b.toNat < 0xC2 then 0 else if b.toNat < 0xE0 then 2
    else if b.toNat < 0xF0 then 3 else if b.toNat < 0xF5 then 4 else 0 := by
  unfold width
  simp only [UInt8.lt_iff_toNat_lt, UInt8.reduceToNat]

theorem width_eq_one_iff (b : UInt8) : width b = 1 ↔ b.toNat < 0x80 := by
  rw [width_eq]
  grind

theorem width_eq_two_iff (b : UInt8) : width b = 2 ↔ 0xC2 ≤ b.toNat ∧ b.toNat < 0xE0 := by
  rw [width_eq]
  grind

theorem width_eq_three_iff (b : UInt8) : width b = 3 ↔ 0xE0 ≤ b.toNat ∧ b.toNat < 0xF0 := by
  rw [width_eq]
  grind

theorem width_eq_four_iff (b : UInt8) : width b = 4 ↔ 0xF0 ≤ b.toNat ∧ b.toNat < 0xF5 := by
  rw [width_eq]
  grind

/-- Tails by their numbers. -/
theorem isTail_iff (b : UInt8) : isTail b = true ↔ 0x80 ≤ b.toNat ∧ b.toNat < 0xC0 := by
  simp only [isTail, UInt8.le_iff_toNat_le, UInt8.reduceToNat, Bool.and_eq_true, decide_eq_true_eq]
  omega

/-- The second bytes of characters by their numbers. -/
theorem canFollow_iff (b c : UInt8) : canFollow b c = true ↔
    0x80 ≤ c.toNat ∧ c.toNat < 0xC0 ∧ (b.toNat = 0xE0 → 0xA0 ≤ c.toNat) ∧
      (b.toNat = 0xED → c.toNat < 0xA0) ∧ (b.toNat = 0xF0 → 0x90 ≤ c.toNat) ∧
      (b.toNat = 0xF4 → c.toNat < 0x90) := by
  unfold canFollow
  simp only [← UInt8.toNat_inj, UInt8.reduceToNat]
  split_ifs <;> simp [isTail_iff, UInt8.le_iff_toNat_le] <;> omega

/-- A byte is known by its number. -/
theorem eq_ofNat_of_toNat {b : UInt8} {n : Nat} (h : b.toNat = n) : UInt8.ofNat n = b := by
  rw [← h, UInt8.ofNat_toNat]

/-! ## Forms of characters -/

/-- The character of a number that is no surrogate and not beyond the last code point. -/
theorem toNat_ofNat_of_valid {n : Nat} (h : n < 0xD800 ∨ 0xDFFF < n ∧ n < 0x110000) :
    (Char.ofNat n).val.toNat = n := by
  have hvalid : n.isValidChar := h
  rw [Char.ofNat, dif_pos hvalid]
  rfl

/-- A single byte is the form of its character. -/
theorem encodeChar_one {b : UInt8} (hb : width b = 1) :
    String.utf8EncodeChar (Char.ofNat b.toNat) = [b] := by
  rw [width_eq_one_iff] at hb
  unfold String.utf8EncodeChar
  rw [toNat_ofNat_of_valid (by omega), if_pos (by omega), eq_ofNat_of_toNat rfl]

/-- Two bytes that belong together are the form of their character. -/
theorem encodeChar_two {b c : UInt8} (hb : width b = 2) (hc : canFollow b c = true) :
    String.utf8EncodeChar (Char.ofNat (b.toNat % 32 * 64 + low6 c)) = [b, c] := by
  rw [width_eq_two_iff] at hb
  rw [canFollow_iff] at hc
  unfold String.utf8EncodeChar low6
  rw [toNat_ofNat_of_valid (by omega), if_neg (by omega), if_pos (by omega),
    eq_ofNat_of_toNat (b := b) (by omega), eq_ofNat_of_toNat (b := c) (by omega)]

/-- Three bytes that belong together are the form of their character. -/
theorem encodeChar_three {b c d : UInt8} (hb : width b = 3) (hc : canFollow b c = true)
    (hd : isTail d = true) :
    String.utf8EncodeChar (Char.ofNat ((b.toNat % 16 * 64 + low6 c) * 64 + low6 d)) =
      [b, c, d] := by
  rw [width_eq_three_iff] at hb
  rw [canFollow_iff] at hc
  rw [isTail_iff] at hd
  unfold String.utf8EncodeChar low6
  rw [toNat_ofNat_of_valid (by omega), if_neg (by omega), if_neg (by omega), if_pos (by omega),
    eq_ofNat_of_toNat (b := b) (by omega), eq_ofNat_of_toNat (b := c) (by omega),
    eq_ofNat_of_toNat (b := d) (by omega)]

/-- Four bytes that belong together are the form of their character. -/
theorem encodeChar_four {b c d e : UInt8} (hb : width b = 4) (hc : canFollow b c = true)
    (hd : isTail d = true) (he : isTail e = true) :
    String.utf8EncodeChar
        (Char.ofNat (((b.toNat % 8 * 64 + low6 c) * 64 + low6 d) * 64 + low6 e)) =
      [b, c, d, e] := by
  rw [width_eq_four_iff] at hb
  rw [canFollow_iff] at hc
  rw [isTail_iff] at hd he
  unfold String.utf8EncodeChar low6
  rw [toNat_ofNat_of_valid (by omega), if_neg (by omega), if_neg (by omega), if_neg (by omega),
    eq_ofNat_of_toNat (b := b) (by omega), eq_ofNat_of_toNat (b := c) (by omega),
    eq_ofNat_of_toNat (b := d) (by omega), eq_ofNat_of_toNat (b := e) (by omega)]

/-- A character that is found is the one whose form the bytes begin with. -/
theorem exists_of_first {b : UInt8} {r : Bytes} {c : Char} {w : Nat}
    (h : first b r = (some c, w)) :
    ∃ s, b :: r = String.utf8EncodeChar c ++ s ∧ w = (String.utf8EncodeChar c).length := by
  unfold first at h
  -- The cases are those of `first`: the width of `b`, and of the bytes after it as many as it asks.
  split at h
  · rename_i hb
    obtain ⟨hc, rfl⟩ := Prod.mk.inj h
    rw [← Option.some.inj hc, encodeChar_one hb]
    exact ⟨_, rfl, rfl⟩
  · rename_i hb
    split at h
    · rename_i hf
      obtain ⟨hc, rfl⟩ := Prod.mk.inj h
      rw [← Option.some.inj hc, encodeChar_two hb hf]
      exact ⟨_, rfl, rfl⟩
    · cases h
  · rename_i hb
    split at h
    · rename_i hf
      split at h
      · split at h
        · rename_i hd
          obtain ⟨hc, rfl⟩ := Prod.mk.inj h
          rw [← Option.some.inj hc, encodeChar_three hb hf hd]
          exact ⟨_, rfl, rfl⟩
        · cases h
      · cases h
    · cases h
  · rename_i hb
    split at h
    · rename_i hf
      split at h
      · split at h
        · rename_i hd
          split at h
          · split at h
            · rename_i he
              obtain ⟨hc, rfl⟩ := Prod.mk.inj h
              rw [← Option.some.inj hc, encodeChar_four hb hf hd he]
              exact ⟨_, rfl, rfl⟩
            · cases h
          · cases h
        · cases h
      · cases h
    · cases h
  · cases h

/-- Bytes that are read as a character whatever follows them, the first no tail and the others
tails. -/
def ReadsAs (bs : Bytes) (c : Char) : Prop :=
  ∃ b r, bs = b :: r ∧ isTail b = false ∧ (∀ d ∈ r, isTail d = true) ∧
    ∀ s, first b (r ++ s) = (some c, r.length + 1)

/-- A byte that a character can begin with is no tail. -/
theorem isTail_eq_false {b : UInt8} (hb : width b ≠ 0) : isTail b = false := by
  rw [width_eq] at hb
  rw [Bool.eq_false_iff, ne_eq, isTail_iff]
  grind

/-- A byte that can follow the first one is a tail. -/
theorem isTail_of_canFollow {b c : UInt8} (hc : canFollow b c = true) : isTail c = true := by
  rw [canFollow_iff] at hc
  rw [isTail_iff]
  omega

/-- A byte that is a character by itself. -/
theorem first_of_width_eq_one {b : UInt8} (hb : width b = 1) (r : Bytes) :
    first b r = (some (Char.ofNat b.toNat), 1) := by
  unfold first
  rw [hb]
  rfl

/-- Reading a single byte. -/
theorem readsAs_one {b : UInt8} (hb : width b = 1) : ReadsAs [b] (Char.ofNat b.toNat) :=
  ⟨b, [], rfl, isTail_eq_false (by omega), by simp, first_of_width_eq_one hb⟩

/-- Reading two bytes that belong together. -/
theorem readsAs_two {b c : UInt8} (hb : width b = 2) (hc : canFollow b c = true) :
    ReadsAs [b, c] (Char.ofNat (b.toNat % 32 * 64 + low6 c)) := by
  refine ⟨b, [c], rfl, isTail_eq_false (by omega), by simp [isTail_of_canFollow hc], fun s => ?_⟩
  unfold first
  rw [hb]
  exact if_pos hc

/-- Reading three bytes that belong together. -/
theorem readsAs_three {b c d : UInt8} (hb : width b = 3) (hc : canFollow b c = true)
    (hd : isTail d = true) :
    ReadsAs [b, c, d] (Char.ofNat ((b.toNat % 16 * 64 + low6 c) * 64 + low6 d)) := by
  refine ⟨b, [c, d], rfl, isTail_eq_false (by omega), by simp [isTail_of_canFollow hc, hd],
    fun s => ?_⟩
  unfold first
  rw [hb]
  simp only [List.cons_append, hc, hd, if_true]
  rfl

/-- Reading four bytes that belong together. -/
theorem readsAs_four {b c d e : UInt8} (hb : width b = 4) (hc : canFollow b c = true)
    (hd : isTail d = true) (he : isTail e = true) :
    ReadsAs [b, c, d, e]
      (Char.ofNat (((b.toNat % 8 * 64 + low6 c) * 64 + low6 d) * 64 + low6 e)) := by
  refine ⟨b, [c, d, e], rfl, isTail_eq_false (by omega), by simp [isTail_of_canFollow hc, hd, he],
    fun s => ?_⟩
  unfold first
  rw [hb]
  simp only [List.cons_append, hc, hd, he, if_true]
  rfl

/-- The form of a character is read as the character. -/
theorem readsAs_encodeChar (c : Char) : ReadsAs (String.utf8EncodeChar c) c := by
  have hvalid : c.val.toNat < 0xD800 ∨ 0xDFFF < c.val.toNat ∧ c.val.toNat < 0x110000 := c.valid
  have hchar : Char.ofNat c.val.toNat = c := Char.ofNat_toNat c
  have hbyte : ∀ n < 256, (UInt8.ofNat n).toNat = n := fun n => UInt8.toNat_ofNat_of_lt
  unfold String.utf8EncodeChar
  dsimp only
  generalize c.val.toNat = v at hvalid hchar
  -- In each case the bytes are known by their numbers, and these make up that of the character.
  split_ifs with h1 h2 h3
  · have hb := hbyte v (by omega)
    have hreads := readsAs_one ((width_eq_one_iff (UInt8.ofNat v)).2 (by omega))
    rw [hb, hchar] at hreads
    exact hreads
  · have hb := hbyte (v / 64 % 32 + 192) (by omega)
    have hc := hbyte (v % 64 + 128) (by omega)
    have hv : (v / 64 % 32 + 192) % 32 * 64 + (v % 64 + 128) % 64 = v := by omega
    have hreads := readsAs_two
      ((width_eq_two_iff (UInt8.ofNat (v / 64 % 32 + 192))).2 (by omega))
      ((canFollow_iff _ (UInt8.ofNat (v % 64 + 128))).2 (by omega))
    rw [low6, hb, hc, hv, hchar] at hreads
    exact hreads
  · have hb := hbyte (v / 4096 % 16 + 224) (by omega)
    have hc := hbyte (v / 64 % 64 + 128) (by omega)
    have hd := hbyte (v % 64 + 128) (by omega)
    have hv : ((v / 4096 % 16 + 224) % 16 * 64 + (v / 64 % 64 + 128) % 64) * 64 +
        (v % 64 + 128) % 64 = v := by omega
    have hreads := readsAs_three
      ((width_eq_three_iff (UInt8.ofNat (v / 4096 % 16 + 224))).2 (by omega))
      ((canFollow_iff _ (UInt8.ofNat (v / 64 % 64 + 128))).2 (by omega))
      ((isTail_iff (UInt8.ofNat (v % 64 + 128))).2 (by omega))
    rw [low6, low6, hb, hc, hd, hv, hchar] at hreads
    exact hreads
  · have hb := hbyte (v / 262144 % 8 + 240) (by omega)
    have hc := hbyte (v / 4096 % 64 + 128) (by omega)
    have hd := hbyte (v / 64 % 64 + 128) (by omega)
    have he := hbyte (v % 64 + 128) (by omega)
    have hv : (((v / 262144 % 8 + 240) % 8 * 64 + (v / 4096 % 64 + 128) % 64) * 64 +
        (v / 64 % 64 + 128) % 64) * 64 + (v % 64 + 128) % 64 = v := by omega
    have hreads := readsAs_four
      ((width_eq_four_iff (UInt8.ofNat (v / 262144 % 8 + 240))).2 (by omega))
      ((canFollow_iff _ (UInt8.ofNat (v / 4096 % 64 + 128))).2 (by omega))
      ((isTail_iff (UInt8.ofNat (v / 64 % 64 + 128))).2 (by omega))
      ((isTail_iff (UInt8.ofNat (v % 64 + 128))).2 (by omega))
    rw [low6, low6, low6, hb, hc, hd, he, hv, hchar] at hreads
    exact hreads

/-! ## Valid byte strings -/

/-- The bytes that belong to a character read before are dropped. -/
theorem charsFrom_eq (skip : Nat) (bs : Bytes) :
    charsFrom skip bs = charsFrom 0 (bs.drop skip) := by
  induction skip generalizing bs with
  | zero => rfl
  | succ skip ih =>
    cases bs with
    | nil => rfl
    | cons b bs => exact ih bs

/-- Reading the form of a character and then the rest. -/
theorem charsFrom_encodeChar (c : Char) (bs : Bytes) :
    charsFrom 0 (String.utf8EncodeChar c ++ bs) = some c :: charsFrom 0 bs := by
  obtain ⟨b, r, hc, -, -, hfirst⟩ := readsAs_encodeChar c
  rw [hc, List.cons_append, charsFrom, hfirst, Nat.add_sub_cancel, charsFrom_eq, List.drop_left]

/-- Reading the forms of characters gives the characters. -/
theorem charsFrom_encode (cs : List Char) (bs : Bytes) :
    charsFrom 0 (cs.flatMap String.utf8EncodeChar ++ bs) = cs.map some ++ charsFrom 0 bs := by
  induction cs with
  | nil => rfl
  | cons c cs ih =>
    rw [List.flatMap_cons, List.append_assoc, charsFrom_encodeChar, ih]
    rfl

/-- Reading the form of a text gives the text. -/
theorem decode?_encode (s : String) : decode? (encode s) = some s := by
  have hchars : charsFrom 0 (encode s) = s.toList.map some := by
    have hread := charsFrom_encode s.toList []
    rw [List.append_nil] at hread
    rw [encode, hread]
    exact List.append_nil _
  have hall : (s.toList.map some).mapM id = some s.toList := by
    rw [List.mapM_map, mapM_eq_some_map (f := id ∘ some) (g := id) fun c _ => rfl, List.map_id]
  rw [decode?, hchars, hall, Option.map_some, String.ofList_toList]

/-- The forms of characters are valid in front of just the valid byte strings. -/
theorem isValid_encode_append (cs : List Char) (bs : Bytes) :
    isValid (cs.flatMap String.utf8EncodeChar ++ bs) = isValid bs := by
  unfold isValid
  rw [charsFrom_encode, List.all_append, List.all_map]
  simp

/-- The valid byte strings are the UTF-8 forms of texts. -/
theorem isValid_iff {bs : Bytes} :
    isValid bs = true ↔ ∃ cs : List Char, bs = cs.flatMap String.utf8EncodeChar := by
  constructor
  · intro h
    induction hn : bs.length using Nat.strongRecOn generalizing bs with
    | ind n ih =>
      cases bs with
      | nil => exact ⟨[], rfl⟩
      | cons b r =>
        unfold isValid at h
        rw [charsFrom, List.all_cons, Bool.and_eq_true] at h
        obtain ⟨c, hc⟩ := Option.isSome_iff_exists.1 h.1
        obtain ⟨s, hs, -⟩ := exists_of_first (Prod.ext hc rfl : first b r = (some c, _))
        have hvalid : isValid s = true := by
          rw [← isValid_encode_append [c] s, List.flatMap_singleton, ← hs]
          unfold isValid
          rw [charsFrom, List.all_cons, h.1, h.2]
          rfl
        have hlt : s.length < n := by
          have hlen := congrArg List.length hs
          rw [List.length_append, String.length_utf8EncodeChar] at hlen
          have hpos := c.utf8Size_pos
          omega
        obtain ⟨cs, rfl⟩ := ih s.length hlt hvalid rfl
        exact ⟨c :: cs, hs⟩
  · rintro ⟨cs, rfl⟩
    rw [← List.append_nil (cs.flatMap _), isValid_encode_append]
    rfl

/-- A valid byte string is valid in front of just the valid ones. -/
theorem isValid_append {x : Bytes} (hx : isValid x = true) (y : Bytes) :
    isValid (x ++ y) = isValid y := by
  obtain ⟨cs, rfl⟩ := isValid_iff.1 hx
  exact isValid_encode_append cs y

/-- A byte that begins a character is no tail. -/
theorem isTail_of_first {b : UInt8} {r : Bytes} {c : Char} {w : Nat}
    (h : first b r = (some c, w)) : isTail b = false := by
  obtain ⟨s, hs, -⟩ := exists_of_first h
  obtain ⟨b', r', hc, hb', -⟩ := readsAs_encodeChar c
  rw [hc, List.cons_append] at hs
  rw [(List.cons.inj hs).1, hb']

/-- A character has a byte at least. -/
theorem width_pos_of_first {b : UInt8} {r : Bytes} {c : Char} {w : Nat}
    (h : first b r = (some c, w)) : 0 < w := by
  obtain ⟨s, -, rfl⟩ := exists_of_first h
  rw [String.length_utf8EncodeChar]
  exact c.utf8Size_pos

/-- A valid byte string is cut at a byte that is no tail into what is valid before it and the
rest. -/
theorem isValid_of_append_cons {x y : Bytes} {b : UInt8} (h : isValid (x ++ b :: y) = true)
    (hb : isTail b = false) : isValid x = true := by
  obtain ⟨cs, hcs⟩ := isValid_iff.1 h
  clear h
  induction cs generalizing x with
  | nil => simp at hcs
  | cons c cs ih =>
    obtain ⟨d, r, hc, -, hr, -⟩ := readsAs_encodeChar c
    rw [List.flatMap_cons, List.append_eq_append_iff] at hcs
    rcases hcs with ⟨z, hz, hy⟩ | ⟨z, rfl, hz⟩
    · -- The byte lies in the form of `c`, and can only be its first one.
      cases x with
      | nil => rfl
      | cons e x =>
        rw [hc, List.cons_append] at hz
        obtain ⟨-, rfl⟩ := List.cons.inj hz
        cases z with
        | nil =>
          rw [List.append_nil] at hc
          have hx : isValid (e :: x) = isValid (String.utf8EncodeChar c ++ []) := by
            rw [List.append_nil, hc, (List.cons.inj hz).1]
          rw [hx, ← List.flatMap_singleton (String.utf8EncodeChar) c, isValid_encode_append]
          rfl
        | cons z zs =>
          obtain ⟨rfl, -⟩ := List.cons.inj hy
          rw [hr b (by simp)] at hb
          cases hb
    · rw [← List.flatMap_singleton (String.utf8EncodeChar) c, isValid_encode_append]
      exact ih hz.symm

/-- A valid byte string does not begin with a tail. -/
theorem isTail_of_isValid_cons {b : UInt8} {bs : Bytes} (h : isValid (b :: bs) = true) :
    isTail b = false := by
  obtain ⟨cs, hcs⟩ := isValid_iff.1 h
  cases cs with
  | nil => cases hcs
  | cons c cs =>
    obtain ⟨d, r, hc, hd, -⟩ := readsAs_encodeChar c
    rw [List.flatMap_cons, hc, List.cons_append] at hcs
    rw [(List.cons.inj hcs).1, hd]

/-- A character read behind a valid byte string can be added to it. -/
theorem isValid_append_take {x r : Bytes} {b : UInt8} {c : Char} {w : Nat}
    (hx : isValid x = true) (h : first b r = (some c, w)) :
    isValid (x ++ (b :: r).take w) = true := by
  obtain ⟨s, hs, hw⟩ := exists_of_first h
  rw [isValid_append hx, hs, hw, List.take_left]
  exact isValid_iff.2 ⟨[c], (List.flatMap_singleton _ c).symm⟩

/-- Nothing is lost where valid bytes are read as text. -/
theorem encode_lossy {bs : Bytes} (h : isValid bs = true) : encode (lossy bs) = bs := by
  obtain ⟨cs, rfl⟩ := isValid_iff.1 h
  have hread : charsFrom 0 (cs.flatMap String.utf8EncodeChar) = cs.map some := by
    have hchars := charsFrom_encode cs []
    rwa [List.append_nil, charsFrom, List.append_nil] at hchars
  have hid : ((fun c : Option Char => c.getD '\uFFFD') ∘ some) = id := rfl
  rw [encode, lossy, String.toList_ofList, hread, List.map_map, hid, List.map_id]

/-- The UTF-8 form of a text is valid. -/
theorem isValid_encode (s : String) : isValid (encode s) = true := isValid_iff.2 ⟨s.toList, rfl⟩

/-- Texts with one UTF-8 form are one text. -/
theorem encode_injective {s s' : String} (h : encode s = encode s') : s = s' := by
  have hread := congrArg decode? h
  rw [decode?_encode, decode?_encode] at hread
  exact Option.some.inj hread

/-- A text is read from its UTF-8 form. -/
theorem lossy_encode (s : String) : lossy (encode s) = s :=
  encode_injective (encode_lossy (isValid_encode s))

/-! ## Boundaries -/

/-- Whether an offset into a valid byte string lies at its ends or between two characters. -/
def IsBoundary (bs : Bytes) (offset : Nat) : Prop := isValid (bs.take offset) = true

instance (bs : Bytes) (offset : Nat) : Decidable (IsBoundary bs offset) :=
  inferInstanceAs (Decidable (isValid (bs.take offset) = true))

/-- A character begins at boundaries only. -/
theorem isBoundary_of_first {bs rest : Bytes} {offset w : Nat} {b : UInt8} {c : Char}
    (hvalid : isValid bs = true) (hrest : bs.drop offset = b :: rest)
    (h : first b rest = (some c, w)) : IsBoundary bs offset := by
  rw [← List.take_append_drop offset bs, hrest] at hvalid
  exact isValid_of_append_cons hvalid (isTail_of_first h)

/-- Behind a character that begins at a boundary there is one again. -/
theorem isBoundary_add_of_first {bs rest : Bytes} {offset w : Nat} {b : UInt8} {c : Char}
    (hboundary : IsBoundary bs offset) (hrest : bs.drop offset = b :: rest)
    (h : first b rest = (some c, w)) : IsBoundary bs (offset + w) := by
  have htake : bs.take (offset + w) = bs.take offset ++ (b :: rest).take w := by
    rw [List.take_add, hrest]
  rw [IsBoundary, htake]
  exact isValid_append_take hboundary h

/-- What lies between two boundaries is valid. -/
theorem isValid_between {bs : Bytes} {a b : Nat} (ha : IsBoundary bs a) (hb : IsBoundary bs b) :
    isValid ((bs.drop a).take (b - a)) = true := by
  rcases Nat.le_total a b with hle | hle
  · have htake : bs.take a ++ (bs.drop a).take (b - a) = bs.take b := by
      rw [← List.take_add, Nat.add_sub_cancel' hle]
    rw [← isValid_append ha, htake]
    exact hb
  · rw [Nat.sub_eq_zero_of_le hle, List.take_zero]
    rfl

end BrowserShell.Utf8
