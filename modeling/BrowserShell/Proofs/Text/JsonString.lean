import BrowserShell.Text.JsonString
import Mathlib.Data.List.Basic

/-!
# JSON string literals

The grammar of literals: a character stands between the quotes as itself, as a letter behind a
backslash, or as its code in hexadecimal digits, of which a pair of surrogates is one form
(`JsonString.Writes`); a literal is a row of such writings in quotes (`JsonString.Literal`).
Reading agrees with the grammar (`decode?_eq_some_iff`): what is read is a literal, and a literal is
read up to its closing quote, whatever follows. Writing gives a literal of the text
(`literal_encode`).
-/

namespace BrowserShell.JsonString

/-- Whether characters between the quotes of a literal are a writing of a character. -/
inductive Writes : List Char → Char → Prop where
  /-- The character itself, unless it is a control, a quote or a backslash. -/
  | plain {c : Char} (hc : 0x20 ≤ c.toNat) (hq : c ≠ '"') (hb : c ≠ '\\') : Writes [c] c
  /-- A letter that stands for the character, behind a backslash. -/
  | letter {l c : Char} (h : letter? l = some c) : Writes ['\\', l] c
  /-- The code of the character. -/
  | code {a b c d : Char} {n : Nat} (h : hexValue4? a b c d = some n) (hn : n.isValidChar) :
      Writes ['\\', 'u', a, b, c, d] (Char.ofNat n)
  /-- The codes of a leading and a trailing surrogate. -/
  | pair {a b c d e f g h : Char} {n m : Nat} (hn : hexValue4? a b c d = some n)
      (hm : hexValue4? e f g h = some m) (hlead : 0xD800 ≤ n ∧ n < 0xDC00)
      (htrail : 0xDC00 ≤ m ∧ m < 0xE000) :
      Writes ['\\', 'u', a, b, c, d, '\\', 'u', e, f, g, h]
        (Char.ofNat (0x10000 + (n - 0xD800) * 0x400 + (m - 0xDC00)))

/-- Whether what stands between the quotes of a literal spells a text. -/
inductive Spells : List Char → List Char → Prop where
  | nil : Spells [] []
  | cons {w inner cs : List Char} {c : Char} (hw : Writes w c) (hs : Spells inner cs) :
      Spells (w ++ inner) (c :: cs)

/-- Whether some characters are a literal of a text. -/
def Literal (literal cs : List Char) : Prop :=
  ∃ inner, literal = '"' :: inner ++ ['"'] ∧ Spells inner cs

/-! ## Reading -/

/-- Surrogates are the codes of no characters. -/
theorem not_isValidChar_of_surrogate {n : Nat} (h : 0xD800 ≤ n ∧ n < 0xDC00) : ¬ n.isValidChar := by
  unfold Nat.isValidChar
  omega

/-- The code of a character is read as the character, whatever follows. -/
theorem decodeFrom_code {a b c d : Char} {n : Nat} (h : hexValue4? a b c d = some n)
    (hn : n.isValidChar) (text : List Char) :
    decodeFrom ('\\' :: 'u' :: a :: b :: c :: d :: text) =
      (decodeFrom text).map fun (cs, rest) => (Char.ofNat n :: cs, rest) := by
  -- The reader looks whether another code follows, which matters to a leading surrogate alone.
  by_cases hnext : ∃ e f g h rest, text = '\\' :: 'u' :: e :: f :: g :: h :: rest
  · obtain ⟨e, f, g, h', rest, rfl⟩ := hnext
    have hlead : ¬ (0xD800 ≤ n ∧ n < 0xDC00) := fun hs => not_isValidChar_of_surrogate hs hn
    rw [decodeFrom, h]
    dsimp only [Option.bind_eq_bind, Option.bind_some]
    rw [if_neg hlead, if_pos hn]
    cases decodeFrom ('\\' :: 'u' :: e :: f :: g :: h' :: rest) <;> rfl
  · rw [decodeFrom, h]
    · dsimp only [Option.bind_eq_bind, Option.bind_some]
      rw [if_pos hn]
      cases decodeFrom text <;> rfl
    · exact fun e f g h' rest ht => hnext ⟨e, f, g, h', rest, ht⟩

/-- A writing is read as its character, whatever follows. -/
theorem decodeFrom_append {w : List Char} {c : Char} (hw : Writes w c) (text : List Char) :
    decodeFrom (w ++ text) = (decodeFrom text).map fun (cs, rest) => (c :: cs, rest) := by
  cases hw with
  | plain hc hq hb =>
    rw [List.singleton_append, decodeFrom, if_neg (by omega)]
    · exact hq
    · exact fun _ _ _ _ _ _ _ _ _ h => absurd h hb
    · exact fun _ _ _ _ _ h => absurd h hb
    · exact fun _ _ h => absurd h hb
  | @letter l _ h =>
    have hu : l ≠ 'u' := by
      rintro rfl
      cases h
    show decodeFrom ('\\' :: l :: text) = _
    -- The letter is none that begins a code.
    rw [decodeFrom, h]
    · cases decodeFrom text <;> rfl
    · exact fun _ _ _ _ _ _ _ _ _ h => absurd h hu
    · exact fun _ _ _ _ _ h => absurd h hu
  | code h hn => exact decodeFrom_code h hn text
  | @pair a b c d e f g h n m hn hm hlead htrail =>
    show decodeFrom ('\\' :: 'u' :: a :: b :: c :: d :: '\\' :: 'u' :: e :: f :: g :: h :: text) = _
    rw [decodeFrom, hn]
    dsimp only [Option.bind_eq_bind, Option.bind_some]
    rw [if_pos hlead, hm]
    dsimp only [Option.bind_some]
    rw [if_pos htrail]
    cases decodeFrom text <;> rfl

/-- What spells a text is read as it, up to the quote. -/
theorem decodeFrom_of_spells {inner cs : List Char} (h : Spells inner cs) (rest : List Char) :
    decodeFrom (inner ++ '"' :: rest) = some (cs, rest) := by
  induction h with
  | nil => simp [decodeFrom]
  | cons hw _ ih => rw [List.append_assoc, decodeFrom_append hw, ih]; rfl

/-- What comes of a reading that goes on behind a character. -/
theorem eq_cons_of_read {c : Char} {text cs rest : List Char}
    (h : (do let (cs, rest) ← decodeFrom text; return (c :: cs, rest)) = some (cs, rest)) :
    ∃ cs', cs = c :: cs' ∧ decodeFrom text = some (cs', rest) := by
  obtain ⟨⟨cs', rest'⟩, hr, h⟩ := Option.bind_eq_some_iff.1 h
  cases h
  exact ⟨cs', rfl, hr⟩

/-- A writing in front of what was spelled up to a quote is spelled with it. -/
theorem exists_spells_append {w text rest cs : List Char} {c : Char} (hw : Writes w c)
    (h : ∃ inner, text = inner ++ '"' :: rest ∧ Spells inner cs) :
    ∃ inner, w ++ text = inner ++ '"' :: rest ∧ Spells inner (c :: cs) := by
  obtain ⟨inner, rfl, hs⟩ := h
  exact ⟨w ++ inner, (List.append_assoc ..).symm, .cons hw hs⟩

/-- What is read up to a quote was spelled before it. -/
theorem spells_of_decodeFrom {text cs rest : List Char} (h : decodeFrom text = some (cs, rest)) :
    ∃ inner, text = inner ++ '"' :: rest ∧ Spells inner cs := by
  -- Each case of the reader takes one writing and goes on behind it.
  induction text using decodeFrom.induct generalizing cs with
  | case1 => simp [decodeFrom] at h
  | case2 text =>
    rw [decodeFrom] at h
    cases h
    exact ⟨[], rfl, .nil⟩
  | case3 a b c d e f g h' text ih ih' =>
    rw [decodeFrom] at h
    obtain ⟨n, hn, h⟩ := Option.bind_eq_some_iff.1 h
    dsimp only at h
    split at h
    · rename_i hlead
      obtain ⟨m, hm, h⟩ := Option.bind_eq_some_iff.1 h
      split at h
      · rename_i htrail
        obtain ⟨cs', rfl, hr⟩ := eq_cons_of_read h
        exact exists_spells_append (.pair hn hm hlead htrail) (ih hr)
      · cases h
    · split at h
      · rename_i hvalid
        obtain ⟨cs', rfl, hr⟩ := eq_cons_of_read h
        exact exists_spells_append (.code hn hvalid) (ih' hr)
      · cases h
  | case4 a b c d text hnext ih =>
    rw [decodeFrom.eq_4 _ _ _ _ _ hnext] at h
    obtain ⟨n, hn, h⟩ := Option.bind_eq_some_iff.1 h
    split at h
    · rename_i hvalid
      obtain ⟨cs', rfl, hr⟩ := eq_cons_of_read h
      exact exists_spells_append (.code hn hvalid) (ih hr)
    · cases h
  | case5 l text hlong hcode ih =>
    rw [decodeFrom.eq_5 _ _ hlong hcode] at h
    obtain ⟨c, hc, h⟩ := Option.bind_eq_some_iff.1 h
    obtain ⟨cs', rfl, hr⟩ := eq_cons_of_read h
    exact exists_spells_append (.letter hc) (ih hr)
  | case6 c text hq hlong hcode hletter hcontrol =>
    rw [decodeFrom.eq_6 _ _ hq hlong hcode hletter, if_pos hcontrol] at h
    cases h
  | case7 c text hq hlong hcode hletter hcontrol ih =>
    rw [decodeFrom.eq_6 _ _ hq hlong hcode hletter, if_neg hcontrol] at h
    obtain ⟨⟨cs', rest'⟩, hr, h⟩ := Option.map_eq_some_iff.1 h
    cases h
    have hb : c ≠ '\\' := by
      rintro rfl
      -- A backslash at the end of the text stands before no quote.
      cases text with
      | nil => simp [decodeFrom] at hr
      | cons d text => exact hletter d text rfl rfl
    exact exists_spells_append (.plain (by omega) hq hb) (ih hr)

/-- Reading gives a text and what follows exactly if a literal of the text stands before that. -/
theorem decode?_eq_some_iff {text cs rest : List Char} :
    decode? text = some (cs, rest) ↔ ∃ literal, text = literal ++ rest ∧ Literal literal cs := by
  constructor
  · intro h
    unfold decode? at h
    split at h
    · obtain ⟨inner, rfl, hs⟩ := spells_of_decodeFrom h
      exact ⟨'"' :: inner ++ ['"'], by simp, inner, rfl, hs⟩
    · cases h
  · rintro ⟨_, rfl, inner, rfl, hs⟩
    show decodeFrom (inner ++ ['"'] ++ rest) = _
    rw [List.append_assoc]
    exact decodeFrom_of_spells hs rest

/-- A literal is read as its text, wherever it stands. -/
theorem Literal.decode? {literal cs : List Char} (h : Literal literal cs) (rest : List Char) :
    decode? (literal ++ rest) = some (cs, rest) :=
  decode?_eq_some_iff.2 ⟨literal, rfl, h⟩

/-! ## Writing -/

/-- The digits below 16 have their values. -/
theorem hexValue?_hexDigit : ∀ n < 16, hexValue? (hexDigit n) = some n := by decide

/-- A character that a letter stands for may be written by the letter. -/
theorem writes_letter {c d l : Char} (h : c = d) (hl : letter? l = some d) :
    Writes ['\\', l] c := by
  subst h
  exact .letter hl

/-- A control may be written by its code. -/
theorem writes_code {c : Char} (h : c.toNat < 0x20) :
    Writes ['\\', 'u', '0', '0', hexDigit (c.toNat / 16), hexDigit (c.toNat % 16)] c := by
  have hzero : hexValue? '0' = some 0 := rfl
  have hvalue : hexValue4? '0' '0' (hexDigit (c.toNat / 16)) (hexDigit (c.toNat % 16)) =
      some c.toNat := by
    unfold hexValue4?
    rw [hzero, hexValue?_hexDigit _ (by omega), hexValue?_hexDigit _ (by omega)]
    show some ((0 * 16 + 0) * 256 + c.toNat / 16 * 16 + c.toNat % 16) = some c.toNat
    rw [Option.some.injEq]
    omega
  have hw := Writes.code hvalue c.valid
  rwa [Char.ofNat_toNat] at hw

/-- A character is escaped as one of its writings. -/
theorem writes_escape (c : Char) : Writes (escape c) c := by
  unfold escape
  split_ifs with hquote hback hbackspace hfeed hline hreturn htab hcontrol
  · exact writes_letter hquote rfl
  · exact writes_letter hback rfl
  · exact writes_letter hbackspace rfl
  · exact writes_letter hfeed rfl
  · exact writes_letter hline rfl
  · exact writes_letter hreturn rfl
  · exact writes_letter htab rfl
  · exact writes_code hcontrol
  · exact .plain (by omega) hquote hback

/-- Characters one after the other are escaped to what spells them. -/
theorem spells_flatMap_escape (cs : List Char) : Spells (cs.flatMap escape) cs := by
  induction cs with
  | nil => exact .nil
  | cons c cs ih => exact .cons (writes_escape c) ih

/-- What is written for a text is a literal of it. -/
theorem literal_encode (cs : List Char) : Literal (encode cs) cs :=
  ⟨cs.flatMap escape, rfl, spells_flatMap_escape cs⟩

end BrowserShell.JsonString
