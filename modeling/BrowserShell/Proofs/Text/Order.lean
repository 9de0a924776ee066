import BrowserShell.Proofs.Text.Utf8

/-!
# Sorted texts, each once

A row of texts is put in order and the second of two equal neighbours is dropped. The result has
the texts of the row (`mem_distinct`), each once and in increasing order (`sorted_distinct`). The
order of texts, which is that of their characters, is also that of their bytes (`encode_lt`).
-/

namespace BrowserShell.Text

/-- Dropping a text before the same text loses none. -/
theorem mem_distinct {s : String} (ss : List String) :
    s ∈ ss.foldr (fun t ts => if ts.head? = some t then ts else t :: ts) [] ↔ s ∈ ss := by
  induction ss with
  | nil => rfl
  | cons t ss ih =>
    rw [List.foldr_cons, List.mem_cons]
    split
    · rename_i h
      rw [ih]
      constructor
      · exact Or.inr
      · rintro (rfl | hs)
        · exact ih.1 (List.mem_of_mem_head? h)
        · exact hs
    · rw [List.mem_cons, ih]

/-- In an ordered row, dropping a text before the same text leaves each text once. -/
theorem sorted_distinct {ss : List String} (h : ss.Pairwise (· ≤ ·)) :
    (ss.foldr (fun t ts => if ts.head? = some t then ts else t :: ts) []).Pairwise (· < ·) := by
  induction ss with
  | nil => exact List.Pairwise.nil
  | cons t ss ih =>
    rw [List.pairwise_cons] at h
    have hss := ih h.2
    rw [List.foldr_cons]
    split
    · exact hss
    · rename_i hhead
      refine List.pairwise_cons.2 ⟨fun s hs => ?_, hss⟩
      have hle : ∀ u, u ∈ ss.foldr (fun t ts => if ts.head? = some t then ts else t :: ts) [] →
          t ≤ u := fun u hu => h.1 u ((mem_distinct ss).1 hu)
      -- The only text that could equal `t` is the first of the rest, and that one does not.
      obtain ⟨d, ds, hds⟩ := List.exists_cons_of_ne_nil (List.ne_nil_of_mem hs)
      rw [hds] at hs hss hhead hle
      have hne : t ≠ d := fun heq => hhead (by rw [heq]; rfl)
      have htd : t < d := Std.lt_of_le_of_ne (hle d List.mem_cons_self) hne
      rcases List.mem_cons.1 hs with rfl | hs
      · exact htd
      · exact String.lt_trans htd ((List.pairwise_cons.1 hss).1 s hs)

/-- Putting texts in order gives an ordered row. -/
theorem pairwise_le_mergeSort (ss : List String) :
    (ss.mergeSort fun a b => decide (a ≤ b)).Pairwise (· ≤ ·) := by
  have htrans : ∀ a b c : String, decide (a ≤ b) = true → decide (b ≤ c) = true →
      decide (a ≤ c) = true := by
    intro a b c hab hbc
    exact decide_eq_true (String.le_trans (of_decide_eq_true hab) (of_decide_eq_true hbc))
  have htotal : ∀ a b : String, (decide (a ≤ b) || decide (b ≤ a)) = true := by
    intro a b
    simpa using String.le_total a b
  exact (List.pairwise_mergeSort htrans htotal ss).imp of_decide_eq_true

end BrowserShell.Text

namespace BrowserShell.Utf8

/-- Of two numbers the smaller one is told by the first of four digits in base 64 in which they
differ. -/
theorem digits_lt {v w : Nat} (h : v < w) :
    v / 262144 < w / 262144 ∨ v / 262144 = w / 262144 ∧
      (v / 4096 % 64 < w / 4096 % 64 ∨ v / 4096 % 64 = w / 4096 % 64 ∧
        (v / 64 % 64 < w / 64 % 64 ∨ v / 64 % 64 = w / 64 % 64 ∧ v % 64 < w % 64)) := by
  have hdigit : ∀ a b : Nat, a < b → a / 64 < b / 64 ∨ a / 64 = b / 64 ∧ a % 64 < b % 64 := by
    omega
  have hdiv : ∀ a : Nat, a / 64 / 64 = a / 4096 ∧ a / 4096 / 64 = a / 262144 := by omega
  obtain ⟨hv1, hv2⟩ := hdiv v
  obtain ⟨hw1, hw2⟩ := hdiv w
  rcases hdigit v w h with h1 | ⟨heq1, h1⟩
  · have h2 := hdigit _ _ h1
    rw [hv1, hw1] at h2
    rcases h2 with h2 | ⟨heq2, h2⟩
    · have h3 := hdigit _ _ h2
      rw [hv2, hw2] at h3
      rcases h3 with h3 | ⟨heq3, h3⟩
      · exact .inl h3
      · exact .inr ⟨heq3, .inl h3⟩
    · refine .inr ⟨by omega, .inr ⟨by omega, .inl h2⟩⟩
  · refine .inr ⟨by omega, .inr ⟨by omega, .inr ⟨by omega, h1⟩⟩⟩

/-- Of two characters the smaller one has the smaller form, whatever follows. -/
theorem encodeChar_lt {c d : Char} (h : c < d) (x y : Bytes) :
    String.utf8EncodeChar c ++ x < String.utf8EncodeChar d ++ y := by
  have hlt : c.val.toNat < d.val.toNat := h
  have hd : d.val.toNat < 0xD800 ∨ 0xDFFF < d.val.toNat ∧ d.val.toNat < 0x110000 := d.valid
  have hbyte : ∀ n < 256, (UInt8.ofNat n).toNat = n := fun n => UInt8.toNat_ofNat_of_lt
  have hcons : ∀ {m n : Nat} {x y : Bytes}, n < 256 → m < n ∨ m = n ∧ x < y →
      UInt8.ofNat m :: x < UInt8.ofNat n :: y := by
    intro m n x y hn hmn
    rw [List.cons_lt_cons_iff, UInt8.lt_iff_toNat_lt, hbyte m (by omega), hbyte n hn]
    rcases hmn with hmn | ⟨rfl, hxy⟩
    · exact .inl hmn
    · exact .inr ⟨rfl, hxy⟩
  unfold String.utf8EncodeChar
  dsimp only
  generalize c.val.toNat = v at hlt
  generalize d.val.toNat = w at hlt hd
  have hdigits := digits_lt hlt
  -- The bytes from the last, the last two and the last three digits on.
  have hlast : v % 64 < w % 64 →
      UInt8.ofNat (v % 64 + 128) :: x < UInt8.ofNat (w % 64 + 128) :: y :=
    fun h => hcons (by omega) (.inl (by omega))
  have htwo : (v / 64 % 64 < w / 64 % 64 ∨ v / 64 % 64 = w / 64 % 64 ∧ v % 64 < w % 64) →
      UInt8.ofNat (v / 64 % 64 + 128) :: UInt8.ofNat (v % 64 + 128) :: x <
        UInt8.ofNat (w / 64 % 64 + 128) :: UInt8.ofNat (w % 64 + 128) :: y := by
    rintro (h | ⟨heq, h⟩)
    · exact hcons (by omega) (.inl (by omega))
    · exact hcons (by omega) (.inr ⟨by omega, hlast h⟩)
  have hthree : (v / 4096 % 64 < w / 4096 % 64 ∨ v / 4096 % 64 = w / 4096 % 64 ∧
        (v / 64 % 64 < w / 64 % 64 ∨ v / 64 % 64 = w / 64 % 64 ∧ v % 64 < w % 64)) →
      UInt8.ofNat (v / 4096 % 64 + 128) :: UInt8.ofNat (v / 64 % 64 + 128) ::
          UInt8.ofNat (v % 64 + 128) :: x <
        UInt8.ofNat (w / 4096 % 64 + 128) :: UInt8.ofNat (w / 64 % 64 + 128) ::
          UInt8.ofNat (w % 64 + 128) :: y := by
    rintro (h | ⟨heq, h⟩)
    · exact hcons (by omega) (.inl (by omega))
    · exact hcons (by omega) (.inr ⟨by omega, htwo h⟩)
  split_ifs with hv1 hw1 hw2 hw3 hv2 hw1' hw2' hw3' hv3
  all_goals simp only [List.cons_append, List.nil_append]
  -- A longer form begins with a greater byte, and no smaller character has one.
  all_goals try exact hcons (by omega) (.inl (by omega))
  · have hfirst : v / 64 < w / 64 ∨ v / 64 = w / 64 ∧ v % 64 < w % 64 := by omega
    rcases hfirst with h | ⟨heq, h⟩
    · exact hcons (by omega) (.inl (by omega))
    · exact hcons (by omega) (.inr ⟨by omega, hlast h⟩)
  · rcases hdigits with h | ⟨-, h | ⟨heq, h⟩⟩
    · omega
    · exact hcons (by omega) (.inl (by omega))
    · exact hcons (by omega) (.inr ⟨by omega, htwo h⟩)
  · have hv8 : v / 262144 % 8 = v / 262144 := Nat.mod_eq_of_lt (by omega)
    have hw8 : w / 262144 % 8 = w / 262144 := Nat.mod_eq_of_lt (by omega)
    rw [hv8, hw8]
    rcases hdigits with h | ⟨heq, h⟩
    · exact hcons (by omega) (.inl (by omega))
    · exact hcons (by omega) (.inr ⟨by omega, hthree h⟩)

/-- The order of texts is that of their bytes. -/
theorem encode_lt {s s' : String} (h : s < s') : encode s < encode s' := by
  have hchars : s.toList < s'.toList := h
  have hlex : List.Lex (· < ·) s.toList s'.toList := hchars
  unfold encode
  generalize s.toList = cs at hlex
  generalize s'.toList = ds at hlex
  clear h hchars
  induction hlex with
  | @nil c cs =>
    obtain ⟨b, bs, hform⟩ := List.exists_cons_of_ne_nil (String.utf8EncodeChar_ne_nil (c := c))
    rw [List.flatMap_nil, List.flatMap_cons, hform]
    exact List.Lex.nil
  | rel h => exact encodeChar_lt h _ _
  | cons h ih => exact List.append_left_lt ih

end BrowserShell.Utf8
