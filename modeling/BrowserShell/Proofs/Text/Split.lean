import BrowserShell.Text.Split

/-!
# Pieces of text

`Text.pieces` and `Text.joined` undo each other on pieces that hold no separator, and cutting at a
separator cuts the row of pieces there (`pieces_append_cons`). `Text.cut?` finds the first separator
(`cut?_eq_some_iff`). A run of characters of a kind ends where one of another kind follows
(`takeWhile_append_of_head?`).
-/

namespace BrowserShell.Text

variable {α : Type} {sep : α}

/-- One more piece in front is joined by a separator. -/
theorem joined_cons {ps : List (List α)} (p : List α) (h : ps ≠ []) :
    joined sep (p :: ps) = p ++ sep :: joined sep ps := by
  cases ps with
  | nil => exact absurd rfl h
  | cons q qs => rfl

/-- Joining all pieces but the last gives a beginning of what all give. -/
theorem joined_dropLast_isPrefix (sep : α) (ps : List (List α)) :
    joined sep ps.dropLast <+: joined sep ps := by
  induction ps with
  | nil => exact List.prefix_rfl
  | cons p ps ih =>
    match ps, ih with
    | [], _ => exact List.nil_prefix
    | [q], _ => exact List.prefix_append p (sep :: q)
    | q :: r :: rs, ih =>
      rw [List.dropLast_cons_cons, joined_cons p (by simp), joined_cons p (by simp)]
      exact (List.prefix_append_right_inj p).2 (List.prefix_cons_inj sep |>.2 ih)

/-- Joining the last pieces gives an end of what all give. -/
theorem joined_isSuffix {ps qs : List (List α)} (h : qs <:+ ps) :
    joined sep qs <:+ joined sep ps := by
  induction ps with
  | nil =>
    cases List.suffix_nil.1 h
    exact List.suffix_rfl
  | cons p ps ih =>
    rcases List.suffix_cons_iff.1 h with rfl | h
    · exact List.suffix_rfl
    · by_cases hps : ps = []
      · subst hps
        rw [List.suffix_nil.1 h]
        exact List.nil_suffix
      · rw [joined_cons p hps]
        exact (ih h).trans ⟨p ++ [sep], by simp⟩

/-- What is in the text is in a piece or is a separator. -/
theorem mem_joined {ps : List (List α)} {c : α} (hc : c ∈ joined sep ps) :
    c = sep ∨ ∃ p ∈ ps, c ∈ p := by
  induction ps with
  | nil => simp [joined] at hc
  | cons p ps ih =>
    by_cases hps : ps = []
    · subst hps
      exact Or.inr ⟨p, List.mem_cons_self, hc⟩
    · rw [joined_cons p hps, List.mem_append, List.mem_cons] at hc
      rcases hc with hc | hc | hc
      · exact Or.inr ⟨p, List.mem_cons_self, hc⟩
      · exact Or.inl hc
      · rcases ih hc with h | ⟨q, hq, hcq⟩
        · exact Or.inl h
        · exact Or.inr ⟨q, List.mem_cons_of_mem p hq, hcq⟩

/-- What is in a piece is in the text. -/
theorem mem_joined_of_mem {ps : List (List α)} {p : List α} {c : α} (hp : p ∈ ps) (hc : c ∈ p) :
    c ∈ joined sep ps := by
  induction ps with
  | nil => simp at hp
  | cons q qs ih =>
    by_cases hqs : qs = []
    · subst hqs
      rw [List.mem_singleton] at hp
      exact hp ▸ hc
    · rw [joined_cons q hqs, List.mem_append, List.mem_cons]
      rw [List.mem_cons] at hp
      rcases hp with rfl | hp
      · exact Or.inl hc
      · exact Or.inr (Or.inr (ih hp))

/-- Nothing is dropped from a text that begins with a character of another kind. -/
theorem dropWhile_of_head? {p : α → Bool} {cs : List α} (h : ∀ c ∈ cs.head?, p c = false) :
    cs.dropWhile p = cs := by
  cases cs with
  | nil => rfl
  | cons c cs => exact List.dropWhile_cons_of_neg (by simp [h c rfl])

/-- A run of characters of a kind is all that is taken before one of another kind. -/
theorem takeWhile_append_of_head? {p : α → Bool} {run rest : List α} (hrun : ∀ c ∈ run, p c = true)
    (hrest : ∀ c ∈ rest.head?, p c = false) : (run ++ rest).takeWhile p = run := by
  rw [List.takeWhile_append_of_pos hrun]
  cases rest with
  | nil => exact List.append_nil run
  | cons c rest => rw [List.takeWhile_cons_of_neg (by simp [hrest c rfl]), List.append_nil]

/-- A run of characters of a kind is all that is dropped before one of another kind. -/
theorem dropWhile_append_of_head? {p : α → Bool} {run rest : List α} (hrun : ∀ c ∈ run, p c = true)
    (hrest : ∀ c ∈ rest.head?, p c = false) : (run ++ rest).dropWhile p = rest := by
  rw [List.dropWhile_append_of_pos hrun, dropWhile_of_head? hrest]

variable [DecidableEq α]

/-- There is always a piece. -/
theorem pieces_ne_nil (sep : α) (cs : List α) : pieces sep cs ≠ [] := by
  cases cs with
  | nil => simp [pieces]
  | cons c cs =>
    unfold pieces
    split
    · simp
    · split <;> simp

/-- A separator begins a new piece. -/
@[simp] theorem pieces_cons_self (sep : α) (cs : List α) :
    pieces sep (sep :: cs) = [] :: pieces sep cs := by
  simp [pieces]

/-- Another element goes to the first piece. -/
theorem pieces_cons_of_ne {c : α} (hc : c ≠ sep) {cs p : List α} {ps : List (List α)}
    (h : pieces sep cs = p :: ps) : pieces sep (c :: cs) = (c :: p) :: ps := by
  rw [pieces, if_neg hc, h]

/-- Text without a separator is one piece. -/
theorem pieces_of_not_mem {cs : List α} (h : sep ∉ cs) : pieces sep cs = [cs] := by
  induction cs with
  | nil => rfl
  | cons c cs ih =>
    simp only [List.mem_cons, not_or] at h
    exact pieces_cons_of_ne (Ne.symm h.1) (ih h.2)

/-- The pieces of a text cut at a separator are those before and those after it. -/
theorem pieces_append_cons (sep : α) (a b : List α) :
    pieces sep (a ++ sep :: b) = pieces sep a ++ pieces sep b := by
  induction a with
  | nil => simp [pieces]
  | cons c a ih =>
    by_cases hc : c = sep
    · subst hc
      rw [List.cons_append, pieces_cons_self, pieces_cons_self, ih, List.cons_append]
    · obtain ⟨p, ps, ha⟩ := List.exists_cons_of_ne_nil (pieces_ne_nil sep a)
      rw [ha] at ih
      rw [List.cons_append, pieces_cons_of_ne hc ih, pieces_cons_of_ne hc ha]
      rfl

/-- The first piece is what stands before the first separator. -/
theorem head?_pieces (sep : α) (cs : List α) :
    (pieces sep cs).head? = some (cs.takeWhile (· ≠ sep)) := by
  induction cs with
  | nil => rfl
  | cons c cs ih =>
    by_cases hc : c = sep
    · subst hc
      simp
    · obtain ⟨p, ps, hp⟩ := List.exists_cons_of_ne_nil (pieces_ne_nil sep cs)
      rw [hp, List.head?_cons, Option.some.injEq] at ih
      rw [pieces_cons_of_ne hc hp, List.head?_cons, List.takeWhile_cons_of_pos (by simpa using hc),
        ih]

/-- No piece holds a separator. -/
theorem not_mem_of_mem_pieces {cs p : List α} (hp : p ∈ pieces sep cs) : sep ∉ p := by
  induction cs generalizing p with
  | nil =>
    simp only [pieces, List.mem_singleton] at hp
    simp [hp]
  | cons c cs ih =>
    obtain ⟨q, qs, hq⟩ := List.exists_cons_of_ne_nil (pieces_ne_nil sep cs)
    by_cases hc : c = sep
    · subst hc
      rw [pieces_cons_self, List.mem_cons] at hp
      rcases hp with rfl | hp
      · simp
      · exact ih hp
    · rw [pieces_cons_of_ne hc hq, List.mem_cons] at hp
      rw [hq] at ih
      rcases hp with rfl | hp
      · rw [List.mem_cons, not_or]
        exact ⟨Ne.symm hc, ih List.mem_cons_self⟩
      · exact ih (List.mem_cons_of_mem q hp)

/-- The pieces put together again are the text. -/
@[simp] theorem joined_pieces (sep : α) (cs : List α) : joined sep (pieces sep cs) = cs := by
  induction cs with
  | nil => rfl
  | cons c cs ih =>
    by_cases hc : c = sep
    · subst hc
      rw [pieces_cons_self, joined_cons _ (pieces_ne_nil c cs), ih, List.nil_append]
    · obtain ⟨p, ps, hp⟩ := List.exists_cons_of_ne_nil (pieces_ne_nil sep cs)
      rw [pieces_cons_of_ne hc hp]
      rw [hp] at ih
      cases ps with
      | nil => exact congrArg (c :: ·) ih
      | cons q qs => exact congrArg (c :: ·) ih

/-- A text of one piece is that piece. -/
theorem eq_of_pieces_eq_singleton {cs p : List α} (h : pieces sep cs = [p]) : p = cs := by
  rw [← joined_pieces sep cs, h]
  rfl

/-- Pieces without a separator are found again in what they make up. -/
theorem pieces_joined {ps : List (List α)} (hne : ps ≠ []) (h : ∀ p ∈ ps, sep ∉ p) :
    pieces sep (joined sep ps) = ps := by
  induction ps with
  | nil => exact absurd rfl hne
  | cons p ps ih =>
    have hp : sep ∉ p := h p List.mem_cons_self
    by_cases hps : ps = []
    · subst hps
      exact pieces_of_not_mem hp
    · rw [joined_cons p hps, pieces_append_cons, pieces_of_not_mem hp,
        ih hps fun q hq => h q (List.mem_cons_of_mem p hq)]
      rfl

/-- The pieces of a text are the one row of pieces without a separator that makes it up. -/
theorem eq_pieces_iff {cs : List α} {ps : List (List α)} :
    ps = pieces sep cs ↔ ps ≠ [] ∧ (∀ p ∈ ps, sep ∉ p) ∧ joined sep ps = cs := by
  constructor
  · rintro rfl
    exact ⟨pieces_ne_nil sep cs, fun p hp => not_mem_of_mem_pieces hp, joined_pieces sep cs⟩
  · rintro ⟨hne, hps, rfl⟩
    exact (pieces_joined hne hps).symm

/-- Different texts have different pieces. -/
theorem pieces_injective {a b : List α} (h : pieces sep a = pieces sep b) : a = b := by
  rw [← joined_pieces sep a, h, joined_pieces]

/-- What is in a piece of a text is in the text. -/
theorem mem_of_mem_pieces {cs p : List α} {c : α} (hp : p ∈ pieces sep cs) (hc : c ∈ p) :
    c ∈ cs := by
  rw [← joined_pieces sep cs]
  exact mem_joined_of_mem hp hc

/-- A text is cut at its first separator. -/
theorem cut?_eq_some_iff {cs a b : List α} :
    cut? sep cs = some (a, b) ↔ cs = a ++ sep :: b ∧ sep ∉ a := by
  induction cs generalizing a with
  | nil => simp [cut?]
  | cons c cs ih =>
    by_cases hc : c = sep
    · subst hc
      cases a with
      | nil => simp [cut?, eq_comm]
      | cons d a =>
        simp only [cut?, if_true, List.cons_append, List.cons.injEq, List.mem_cons, not_or]
        constructor
        · simp
        · rintro ⟨⟨hd, -⟩, hn, -⟩
          exact absurd hd hn
    · simp only [cut?, if_neg hc, Option.map_eq_some_iff, Prod.exists, Prod.mk.injEq]
      constructor
      · rintro ⟨a', b', h, rfl, rfl⟩
        obtain ⟨rfl, hn⟩ := ih.1 h
        exact ⟨rfl, by simp [Ne.symm hc, hn]⟩
      · rintro ⟨h, hn⟩
        cases a with
        | nil => exact absurd (List.cons.inj h).1 hc
        | cons d a =>
          obtain ⟨rfl, rfl⟩ := List.cons.inj h
          exact ⟨a, b, ih.2 ⟨rfl, fun hm => hn (List.mem_cons_of_mem _ hm)⟩, rfl, rfl⟩

/-- A text without a separator is not cut. -/
theorem cut?_eq_none_iff {cs : List α} :
    cut? sep cs = none ↔ sep ∉ cs := by
  rw [Option.eq_none_iff_forall_ne_some]
  constructor
  · intro h hmem
    obtain ⟨a, b, hsplit, hnot⟩ := List.eq_append_cons_of_mem hmem
    exact h (a, b) (cut?_eq_some_iff.2 ⟨hsplit, hnot⟩)
  · rintro h ⟨a, b⟩ hcut
    apply h
    rw [(cut?_eq_some_iff.1 hcut).1]
    simp

/-- A text that is cut at its last separator is put together from the two parts. -/
theorem eq_of_cutLast? {cs a b : List α} (h : cutLast? sep cs = some (a, b)) :
    cs = a ++ sep :: b := by
  simp only [cutLast?, Option.map_eq_some_iff, Prod.exists, Prod.mk.injEq] at h
  obtain ⟨b', a', hcut, rfl, rfl⟩ := h
  rw [← List.reverse_reverse cs, (cut?_eq_some_iff.1 hcut).1]
  simp

/-- A text is cut at a separator that no other follows. -/
theorem cutLast?_append {a b : List α} (h : sep ∉ b) :
    cutLast? sep (a ++ sep :: b) = some (a, b) := by
  have hrev : (a ++ sep :: b).reverse = b.reverse ++ sep :: a.reverse := by simp
  have hcut : cut? sep (a ++ sep :: b).reverse = some (b.reverse, a.reverse) :=
    cut?_eq_some_iff.2 ⟨hrev, by simpa using h⟩
  rw [cutLast?, hcut]
  simp

/-- What follows the beginning of a text. -/
theorem after?_append (start text : List α) : after? start (start ++ text) = some text := by
  induction start with
  | nil => rfl
  | cons c start ih => simpa [after?] using ih

/-- What follows the beginning of a text makes up the text with it. -/
theorem eq_append_of_after? {start text rest : List α}
    (h : after? start text = some rest) : text = start ++ rest := by
  fun_induction after? start text with
  | case1 cs =>
    cases h
    rfl
  | case2 => cases h
  | case3 p ps cs ih => rw [ih h, List.cons_append]
  | case4 => cases h

/-- A text has a part exactly if the part occurs in it. -/
theorem occursIn_iff {part cs : List α} : occursIn part cs = true ↔ part <:+: cs := by
  induction cs with
  | nil => rw [occursIn, List.isEmpty_iff, List.infix_nil]
  | cons c cs ih =>
    have hstart : (after? part (c :: cs)).isSome = true ↔ part <+: c :: cs := by
      constructor
      · intro h
        obtain ⟨rest, hrest⟩ := Option.isSome_iff_exists.1 h
        exact ⟨rest, (eq_append_of_after? hrest).symm⟩
      · rintro ⟨rest, hrest⟩
        rw [← hrest, after?_append]
        rfl
    rw [occursIn, Bool.or_eq_true, hstart, ih, List.infix_cons_iff]

/-- The bytes of two texts one after the other add up. -/
@[simp] theorem byteCount_append (a b : List Char) :
    byteCount (a ++ b) = byteCount a + byteCount b := by
  induction a with
  | nil => simp [byteCount]
  | cons c a ih => simp only [List.cons_append, byteCount, ih]; omega

end BrowserShell.Text
