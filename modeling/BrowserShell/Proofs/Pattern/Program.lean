import BrowserShell.Pattern.Program

/-!
# The code of patterns

The code of a pattern takes up as many places as the pattern's size says (`length_code`), is left
only at its end, takes whole characters if the pattern does, and keeps no group under the number of
the match if the pattern numbers its groups from one on (`fitsIn_of_mem_code`). A program is such
code between the instructions that keep the span of the match (`cases_program`).
-/

namespace BrowserShell.Pattern

/-- Where an instruction may go on besides the next place. -/
def Instruction.targets : Instruction → List Nat
  | .jump target => [target]
  | .split first second => [first, second]
  | _ => []

namespace Node

/-- Whether a pattern takes whole characters only; a byte below 128 is one. -/
def TakesCharacters : Node → Prop
  | .byte s => s.isAscii = true
  | .group _ n | .repeated _ _ _ n => n.TakesCharacters
  | .cat a b | .alt a b => a.TakesCharacters ∧ b.TakesCharacters
  | _ => True

/-- Whether a pattern numbers its groups from one on. -/
def Numbered : Node → Prop
  | .group i n => 0 < i ∧ n.Numbered
  | .repeated _ _ _ n => n.Numbered
  | .cat a b | .alt a b => a.Numbered ∧ b.Numbered
  | _ => True

end Node

/-- What holds of the instructions of a pattern whose code ends before a place: none ends the
program or leads behind that place, none takes a byte above ASCII if the pattern takes whole
characters, and none keeps the span of the match if the pattern numbers its groups from one on. -/
structure Instruction.FitsIn (i : Instruction) (n : Node) (bound : Nat) : Prop where
  ne_accept : i ≠ .accept
  le_bound : ∀ target ∈ i.targets, target ≤ bound
  isAscii : n.TakesCharacters → ∀ s, i = .byte s → s.isAscii = true
  two_le : n.Numbered → ∀ slot, i = .save slot → 2 ≤ slot

/-- An instruction of a part is one of the whole. -/
theorem Instruction.FitsIn.of_part {i : Instruction} {n part : Node} {bound bound' : Nat}
    (h : i.FitsIn part bound) (hle : bound ≤ bound')
    (htakes : n.TakesCharacters → part.TakesCharacters) (hnumbered : n.Numbered → part.Numbered) :
    i.FitsIn n bound' where
  ne_accept := h.ne_accept
  le_bound target ht := Nat.le_trans (h.le_bound target ht) hle
  isAscii hn := h.isAscii (htakes hn)
  two_le hn := h.two_le (hnumbered hn)

/-- Keeping an offset of a group leads nowhere else. -/
theorem Instruction.FitsIn.save {n : Node} {slot : Nat} (hslot : n.Numbered → 2 ≤ slot)
    (bound : Nat) : (Instruction.save slot).FitsIn n bound where
  ne_accept := by simp
  le_bound := by simp [targets]
  isAscii := by simp
  two_le hn s hs := Instruction.save.inj hs ▸ hslot hn

/-- A jump leads to its place. -/
theorem Instruction.FitsIn.jump {n : Node} {target bound : Nat} (h : target ≤ bound) :
    (Instruction.jump target).FitsIn n bound :=
  ⟨by simp, by simp [targets, h], by simp, by simp⟩

/-- A split leads to its two places. -/
theorem Instruction.FitsIn.split {n : Node} {first second bound : Nat} (hfirst : first ≤ bound)
    (hsecond : second ≤ bound) : (Instruction.split first second).FitsIn n bound :=
  ⟨by simp, by simp [targets, hfirst, hsecond], by simp, by simp⟩

/-- A choice leads to its two places. -/
theorem Instruction.FitsIn.choice {n : Node} {greedy : Bool} {first second bound : Nat}
    (hfirst : first ≤ bound) (hsecond : second ≤ bound) :
    (Instruction.choice greedy first second).FitsIn n bound := by
  unfold Instruction.choice
  split
  · exact .split hfirst hsecond
  · exact .split hsecond hfirst

namespace Node

/-! ## Copies -/

theorem length_copies {one : Nat → List Instruction} {size : Nat}
    (hone : ∀ at_, (one at_).length = size) (count at_ : Nat) :
    (copies one size count at_).length = count * size := by
  induction count generalizing at_ with
  | zero => simp [copies]
  | succ count ih => rw [copies, List.length_append, hone, ih, Nat.succ_mul, Nat.add_comm]

theorem length_options {one : Nat → List Instruction} {size : Nat}
    (hone : ∀ at_, (one at_).length = size) (greedy : Bool) (exit count at_ : Nat) :
    (options one size greedy exit count at_).length = count * (size + 1) := by
  induction count generalizing at_ with
  | zero => simp [options]
  | succ count ih =>
    rw [options, List.cons_append, List.length_cons, List.length_append, hone, ih, Nat.succ_mul]
    omega

/-- What stands in a row of copies stands in one of them. -/
theorem exists_of_mem_copies {one : Nat → List Instruction} {size count at_ : Nat}
    {i : Instruction} (h : i ∈ copies one size count at_) :
    ∃ k < count, i ∈ one (at_ + k * size) := by
  induction count generalizing at_ with
  | zero => simp [copies] at h
  | succ count ih =>
    rw [copies, List.mem_append] at h
    rcases h with h | h
    · exact ⟨0, Nat.succ_pos count, by simpa using h⟩
    · obtain ⟨k, hk, hi⟩ := ih h
      refine ⟨k + 1, by omega, ?_⟩
      rwa [Nat.succ_mul, ← Nat.add_assoc, Nat.add_right_comm]

/-- What stands in a row of optional copies stands in one of them or is the choice before it. -/
theorem exists_of_mem_options {one : Nat → List Instruction} {size : Nat} {greedy : Bool}
    {exit count at_ : Nat} {i : Instruction} (h : i ∈ options one size greedy exit count at_) :
    ∃ k < count, i = .choice greedy (at_ + k * (size + 1) + 1) exit ∨
      i ∈ one (at_ + k * (size + 1) + 1) := by
  induction count generalizing at_ with
  | zero => simp [options] at h
  | succ count ih =>
    rw [options, List.cons_append, List.mem_cons, List.mem_append] at h
    rcases h with h | h | h
    · exact ⟨0, Nat.succ_pos count, Or.inl (by simpa using h)⟩
    · exact ⟨0, Nat.succ_pos count, Or.inr (by simpa using h)⟩
    · obtain ⟨k, hk, hi⟩ := ih h
      have hat : at_ + 1 + size + k * (size + 1) + 1 = at_ + (k + 1) * (size + 1) + 1 := by
        rw [Nat.succ_mul]
        omega
      rw [hat] at hi
      exact ⟨k + 1, by omega, hi⟩

/-! ## Code -/

/-- The code of a pattern takes up as many places as its size says. -/
theorem length_code (n : Node) (at_ : Nat) : (n.code at_).length = n.size := by
  induction n generalizing at_ with
  | empty | scalar | byte | assertion => rfl
  | group i n ih => simp [code, size, ih]
  | cat a b iha ihb => simp [code, size, iha, ihb]
  | alt a b iha ihb =>
    simp only [code, size, List.cons_append, List.length_cons, List.length_append, iha, ihb]
    omega
  | repeated least most greedy n ih =>
    cases most with
    | none =>
      rw [code, size]
      split
      · simp [ih]
      · rw [List.length_append, length_copies ih]
        rfl
    | some most => rw [code, List.length_append, length_copies ih, length_options ih, size]

/-- The code of a repetition fits if the code of what is repeated does. -/
theorem fitsIn_of_mem_repeated {n : Node} {i : Instruction}
    (hn : ∀ {at_ : Nat}, i ∈ n.code at_ → i.FitsIn n (at_ + n.size))
    {least : Nat} {most : Option Nat} {greedy : Bool} {at_ : Nat}
    (h : i ∈ (repeated least most greedy n).code at_) :
    i.FitsIn (repeated least most greedy n) (at_ + (repeated least most greedy n).size) := by
  cases most with
  | none =>
    rw [code] at h
    rw [size]
    split at h
    · rename_i hleast
      rw [if_pos hleast]
      simp only [List.cons_append, List.mem_cons, List.mem_append, List.not_mem_nil,
        or_false] at h
      rcases h with rfl | h | rfl
      · exact .choice (by omega) (by omega)
      · exact (hn h).of_part (by omega) id id
      · -- The way back leads before the choice or, past it, into the loop.
        split
        · exact .jump (by omega)
        · exact .choice (by omega) (by omega)
    · rename_i hleast
      rw [if_neg hleast]
      -- The last of the copies is the one that the choice behind them leads back to.
      obtain ⟨k, rfl⟩ : ∃ k, least = k + 1 := ⟨least - 1, by omega⟩
      rw [List.mem_append, List.mem_singleton] at h
      rcases h with h | rfl
      · obtain ⟨j, hj, hi⟩ := exists_of_mem_copies h
        have hle : (j + 1) * n.size ≤ (k + 1) * n.size := Nat.mul_le_mul_right _ hj
        rw [Nat.succ_mul] at hle
        exact (hn hi).of_part (by omega) id id
      · have hsucc : (k + 1) * n.size = k * n.size + n.size := Nat.succ_mul k n.size
        rw [Nat.add_sub_cancel]
        exact .choice (by omega) (by omega)
  | some most =>
    rw [code, List.mem_append] at h
    rw [size]
    rcases h with h | h
    · obtain ⟨j, hj, hi⟩ := exists_of_mem_copies h
      have hle : (j + 1) * n.size ≤ least * n.size := Nat.mul_le_mul_right _ hj
      rw [Nat.succ_mul] at hle
      exact (hn hi).of_part (by omega) id id
    · obtain ⟨j, hj, hi⟩ := exists_of_mem_options h
      have hle : (j + 1) * (n.size + 1) ≤ (most - least) * (n.size + 1) :=
        Nat.mul_le_mul_right _ hj
      rw [Nat.succ_mul] at hle
      rcases hi with rfl | hi
      · exact .choice (by omega) (by omega)
      · exact (hn hi).of_part (by omega) id id

/-- The code of a pattern is left at its end only, does not end the program, takes no bytes above
ASCII if the pattern takes whole characters, and keeps no span of the match if the pattern numbers
its groups from one on. -/
theorem fitsIn_of_mem_code (n : Node) {at_ : Nat} {i : Instruction} (h : i ∈ n.code at_) :
    i.FitsIn n (at_ + n.size) := by
  induction n generalizing at_ with
  | empty => simp [code] at h
  | scalar s | assertion a =>
    rw [code, List.mem_singleton] at h
    exact h ▸ ⟨by simp, by simp [Instruction.targets], by simp, by simp⟩
  | byte s =>
    rw [code, List.mem_singleton] at h
    subst h
    exact ⟨by simp, by simp [Instruction.targets], fun hn t ht => Instruction.byte.inj ht ▸ hn,
      by simp⟩
  | group k n ih =>
    simp only [code, List.cons_append, List.mem_cons, List.mem_append, List.not_mem_nil,
      or_false] at h
    have hpos : (Node.group k n).Numbered → 2 ≤ 2 * k := fun hn => Nat.mul_le_mul_left 2 hn.1
    rcases h with rfl | h | rfl
    · exact .save hpos _
    · exact (ih h).of_part (by rw [size]; omega) id And.right
    · exact .save (fun hn => Nat.le_succ_of_le (hpos hn)) _
  | cat a b iha ihb =>
    rw [code, List.mem_append] at h
    rcases h with h | h
    · exact (iha h).of_part (by rw [size]; omega) And.left And.left
    · exact (ihb h).of_part (by rw [size]; omega) And.right And.right
  | alt a b iha ihb =>
    simp only [code, List.cons_append, List.mem_cons, List.mem_append] at h
    rcases h with rfl | h | rfl | h
    · exact .split (by rw [size]; omega) (by rw [size]; omega)
    · exact (iha h).of_part (by rw [size]; omega) And.left And.left
    · exact .jump (by rw [size]; omega)
    · exact (ihb h).of_part (by rw [size]; omega) And.right And.right
  | repeated least most greedy n ih => exact fitsIn_of_mem_repeated ih h

/-! ## Programs -/

/-- The instructions of a program: the beginning of the match is kept, the code of the pattern
follows, the end of the match is kept, and the program is at its end. -/
theorem cases_program {n : Node} {place : Nat} {i : Instruction}
    (h : n.program[place]? = some i) :
    place = 0 ∧ i = .save 0 ∨ 1 ≤ place ∧ place ≤ n.size ∧ i ∈ n.code 1 ∨
      place = n.size + 1 ∧ i = .save 1 ∨ place = n.size + 2 ∧ i = .accept := by
  have hprogram : n.program = (.save 0 :: (n.code 1 ++ [.save 1, .accept])).toArray := by
    simp [program, code]
  rw [hprogram, List.getElem?_toArray] at h
  cases place with
  | zero => exact Or.inl ⟨rfl, by simpa using h.symm⟩
  | succ k =>
    rw [List.getElem?_cons_succ] at h
    rcases Nat.lt_or_ge k n.size with hk | hk
    · rw [List.getElem?_append_left (by rw [length_code]; exact hk)] at h
      exact Or.inr (Or.inl ⟨by omega, by omega, List.mem_of_getElem? h⟩)
    · rw [List.getElem?_append_right (by rw [length_code]; exact hk), length_code] at h
      rcases Nat.lt_trichotomy k (n.size + 1) with hlt | rfl | hgt
      · obtain rfl : k = n.size := by omega
        rw [Nat.sub_self] at h
        exact Or.inr (Or.inr (Or.inl ⟨rfl, by simpa using h.symm⟩))
      · rw [Nat.add_sub_cancel_left] at h
        exact Or.inr (Or.inr (Or.inr ⟨rfl, by simpa using h.symm⟩))
      · obtain ⟨j, hj⟩ : ∃ j, k - n.size = j + 2 := ⟨k - n.size - 2, by omega⟩
        rw [hj] at h
        simp at h

end Node

end BrowserShell.Pattern
