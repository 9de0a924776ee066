import BrowserShell.Pattern.Matcher
import BrowserShell.Proofs.Pattern.Program
import BrowserShell.Proofs.Pattern.Search
import BrowserShell.Proofs.Text.Utf8

/-!
# Where matches lie

A match of a pattern has a span, which begins at or behind the offset the search begins at and lies
within the subject (`spans_of_find?`). If the pattern takes whole characters and the subject is
valid, then either all that is kept lies at boundaries of characters, or the match is empty and all
that is kept lies at one place (`onBoundaries_or_empty_of_find?`). Both are read off invariants of
threads, which every step of a program keeps.
-/

namespace BrowserShell.Pattern

open Utf8 (IsBoundary)

variable {n : Node} {slots start offset : Nat} {subject : Bytes} {t : Thread}

/-! ## Threads -/

/-- A slot that is set holds the offset or what it held before. -/
theorem kept_of_set {kept : Slots} {slot v : Nat} (h : some v ∈ kept.set slot (some offset)) :
    v = offset ∨ some v ∈ kept := by
  rcases List.mem_or_eq_of_mem_set h with h | h
  · exact Or.inr h
  · exact Or.inl (Option.some.inj h)

/-- A thread of a pattern's program that keeps offsets from `start` up to the one it is at: the
beginning of the match behind its first instruction, the end as well once it is at the last. -/
structure Thread.Spans (t : Thread) (n : Node) (slots start offset : Nat) : Prop where
  length_eq : t.slots.length = slots
  kept : ∀ v, some v ∈ t.slots → start ≤ v ∧ v ≤ offset
  first : t.place = 0 ∨ ∃ v, t.slots[0]? = some (some v)
  last : t.place = n.size + 2 → t.wait = 0 ∧ t.slots[1]? = some (some offset)

/-- A thread inside the pattern goes on inside it or right behind it. -/
theorem Thread.Spans.goOn (h : t.Spans n slots start offset) (hplace : t.place ≠ 0) {target : Nat}
    (htarget : target ≤ n.size + 1) :
    Thread.Spans { t with place := target } n slots start offset where
  length_eq := h.length_eq
  kept := h.kept
  first := Or.inr (h.first.resolve_left hplace)
  last := fun heq => absurd heq (by simp only; omega)

/-- What the instructions of a program that neither keep an offset nor end it lead to: they stand
inside the pattern. -/
theorem place_of_program {place : Nat} {i : Instruction} (hi : n.program[place]? = some i)
    (hsave : ∀ slot, i ≠ .save slot) (haccept : i ≠ .accept) :
    place ≠ 0 ∧ place ≤ n.size ∧ ∀ target ∈ i.targets, target ≤ n.size + 1 := by
  rcases Node.cases_program hi with ⟨-, rfl⟩ | ⟨hpos, hle, hmem⟩ | ⟨-, rfl⟩ | ⟨-, rfl⟩
  · exact absurd rfl (hsave 0)
  · have hfits := Node.fitsIn_of_mem_code n hmem
    refine ⟨by omega, hle, fun target ht => ?_⟩
    have hbound := hfits.le_bound target ht
    omega
  · exact absurd rfl (hsave 1)
  · exact absurd rfl haccept

/-- A thread that goes on where its instruction leads has its span. -/
theorem Thread.Spans.goTo (h : t.Spans n slots start offset) {i : Instruction}
    (hi : n.program[t.place]? = some i) (hsave : ∀ slot, i ≠ .save slot) (haccept : i ≠ .accept)
    {target : Nat} (htarget : target ∈ i.targets) :
    Thread.Spans { t with place := target } n slots start offset := by
  obtain ⟨hpos, -, htargets⟩ := place_of_program hi hsave haccept
  exact h.goOn hpos (htargets target htarget)

/-- Keeping an offset leaves a thread with its span. -/
theorem Thread.Spans.save (h : t.Spans n slots start offset) (hslots : 2 ≤ slots)
    (hoffset : start ≤ offset) {slot : Nat} (hi : n.program[t.place]? = some (.save slot)) :
    Thread.Spans ⟨t.place + 1, 0, t.slots.set slot (some offset)⟩ n slots start offset := by
  have hlength := h.length_eq
  refine ⟨by rw [List.length_set, hlength], fun v hv => ?_, Or.inr ?_, fun hplace => ⟨rfl, ?_⟩⟩
  · rcases kept_of_set hv with rfl | hv
    · exact ⟨hoffset, Nat.le_refl v⟩
    · exact h.kept v hv
  · rw [List.getElem?_set]
    split
    · exact ⟨offset, if_pos (by omega)⟩
    · rename_i hslot
      refine h.first.resolve_left fun hplace => ?_
      -- At the first place stands the instruction that sets the first slot.
      rcases Node.cases_program hi with ⟨-, heq⟩ | ⟨hpos, -⟩ | ⟨hpos, -⟩ | ⟨hpos, -⟩
      · cases heq
        exact hslot rfl
      all_goals omega
  · have hlast : slot = 1 := by
      simp only at hplace
      rcases Node.cases_program hi with ⟨hzero, -⟩ | ⟨-, hle, -⟩ | ⟨-, heq⟩ | ⟨-, heq⟩
      · omega
      · omega
      · cases heq
        rfl
      · cases heq
    rw [hlast, List.getElem?_set_self (by omega)]

/-- The threads of a pattern's program have their spans. -/
theorem spans_of_reaches (hslots : 2 ≤ slots)
    (h : Reaches n.program slots subject start offset t) :
    start ≤ offset ∧ offset ≤ subject.length ∧ t.Spans n slots start offset := by
  -- Only keeping an offset changes what is kept, and only passing a byte changes the offset.
  induction h with
  | start hstart hend =>
    refine ⟨hstart, hend, List.length_replicate, fun v hv => ?_, Or.inl rfl, fun hplace => ?_⟩
    · cases (List.mem_replicate.1 hv).2
    · simp at hplace
  | assertion _ _ hi _ ih =>
    obtain ⟨hstart, hend, hspans⟩ := ih
    obtain ⟨hpos, hle, -⟩ := place_of_program hi (by simp) (by simp)
    exact ⟨hstart, hend, hspans.goOn hpos (by omega)⟩
  | save _ _ hi ih =>
    obtain ⟨hstart, hend, hspans⟩ := ih
    exact ⟨hstart, hend, hspans.save hslots hstart hi⟩
  | jump _ _ hi ih =>
    obtain ⟨hstart, hend, hspans⟩ := ih
    exact ⟨hstart, hend, hspans.goTo hi (by simp) (by simp) (by simp [Instruction.targets])⟩
  | first _ _ hi ih =>
    obtain ⟨hstart, hend, hspans⟩ := ih
    exact ⟨hstart, hend, hspans.goTo hi (by simp) (by simp) (by simp [Instruction.targets])⟩
  | second _ _ hi ih =>
    obtain ⟨hstart, hend, hspans⟩ := ih
    exact ⟨hstart, hend, hspans.goTo hi (by simp) (by simp) (by simp [Instruction.targets])⟩
  | @pass offset t t' b rest _ hrest hpass ih =>
    obtain ⟨hstart, hend, hspans⟩ := ih
    have hlt : offset + 1 ≤ subject.length := lt_of_drop_eq_cons hrest
    have hkept : ∀ v, some v ∈ t.slots → start ≤ v ∧ v ≤ offset + 1 := fun v hv => by
      have hv := hspans.kept v hv
      omega
    refine ⟨by omega, hlt, ?_⟩
    rcases cases_of_pass hpass with ⟨wait, hwait, rfl⟩ | ⟨set, c, w, -, hi, -, rfl⟩ |
      ⟨set, -, hi, -, rfl⟩
    · refine ⟨hspans.length_eq, hkept, hspans.first, fun hplace => ?_⟩
      have hzero := (hspans.last hplace).1
      omega
    all_goals
      obtain ⟨hpos, hle, -⟩ := place_of_program hi (by simp) (by simp)
      refine ⟨hspans.length_eq, hkept, Or.inr (hspans.first.resolve_left hpos), fun hplace => ?_⟩
      simp only at hplace
      omega

/-- Whether the offset that a thread waits for is a boundary, as is all that it keeps; or else it
has taken nothing, so that all it keeps is the offset it is at. -/
def Thread.OnBoundaries (t : Thread) (subject : Bytes) (offset : Nat) : Prop :=
  IsBoundary subject (offset + t.wait) ∧ (∀ v, some v ∈ t.slots → IsBoundary subject v) ∨
    t.wait = 0 ∧ ∀ v, some v ∈ t.slots → v = offset

/-- A thread that takes a character comes to the boundary behind it. -/
theorem Thread.OnBoundaries.take (h : t.OnBoundaries subject offset)
    (hvalid : Utf8.isValid subject = true) {b : UInt8} {rest : Bytes} {c : Char} {width : Nat}
    (hrest : subject.drop offset = b :: rest) (hfirst : Utf8.first b rest = (some c, width))
    (place : Nat) : Thread.OnBoundaries ⟨place, width - 1, t.slots⟩ subject (offset + 1) := by
  -- The character that is taken shows that the offset is a boundary, even at the start.
  have hboundary := Utf8.isBoundary_of_first hvalid hrest hfirst
  have hadd : offset + 1 + (width - 1) = offset + width := by
    have hpos := Utf8.width_pos_of_first hfirst
    omega
  refine Or.inl ⟨hadd ▸ Utf8.isBoundary_add_of_first hboundary hrest hfirst, fun v hv => ?_⟩
  rcases h with ⟨-, hkept⟩ | ⟨-, hkept⟩
  · exact hkept v hv
  · exact hkept v hv ▸ hboundary

/-- What a set of ASCII characters has is below 128. -/
theorem CharSet.lt_of_has {s : CharSet} (hs : s.isAscii = true) {k : Nat} (h : s.has k = true) :
    k < 0x80 := by
  obtain ⟨ranges⟩ := s
  replace hs : (ranges.all fun r => decide (r.last < 0x80)) = true := hs
  replace h : rangesHold k ranges = true := h
  induction ranges with
  | nil => cases h
  | cons r rest ih =>
    simp only [List.all_cons, Bool.and_eq_true, decide_eq_true_eq] at hs
    rw [rangesHold] at h
    split at h
    · cases h
    · rcases Bool.or_eq_true_iff.1 h with hle | hrest
      · have hle := of_decide_eq_true hle
        omega
      · exact ih hs.2 hrest

/-- The threads of a pattern that takes whole characters take them from boundary to boundary. -/
theorem onBoundaries_of_reaches (hn : n.TakesCharacters) (hvalid : Utf8.isValid subject = true)
    (h : Reaches n.program slots subject start offset t) : t.OnBoundaries subject offset := by
  -- A thread may start inside a character, but then it can take nothing.
  induction h with
  | start =>
    refine Or.inr ⟨rfl, fun v hv => ?_⟩
    cases (List.mem_replicate.1 hv).2
  | assertion _ _ _ _ ih => exact ih
  | @save offset slot t _ hwait _ ih =>
    rcases ih with ⟨hboundary, hkept⟩ | ⟨-, hkept⟩
    · rw [hwait] at hboundary
      refine Or.inl ⟨hboundary, fun v hv => ?_⟩
      rcases kept_of_set hv with rfl | hv
      · exact hboundary
      · exact hkept v hv
    · exact Or.inr ⟨rfl, fun v hv => (kept_of_set hv).elim id (hkept v)⟩
  | jump _ _ _ ih => exact ih
  | first _ _ _ ih => exact ih
  | second _ _ _ ih => exact ih
  | @pass offset t t' b rest _ hrest hpass ih =>
    rcases cases_of_pass hpass with ⟨wait, hwait, rfl⟩ | ⟨set, c, w, -, -, hfirst, rfl⟩ |
      ⟨set, -, hi, hhas, rfl⟩
    · rcases ih with ⟨hboundary, hkept⟩ | ⟨hzero, -⟩
      · have hadd : offset + 1 + wait = offset + t.wait := by omega
        exact Or.inl ⟨hadd ▸ hboundary, hkept⟩
      · omega
    · exact ih.take hvalid hrest hfirst _
    · -- The bytes that such a pattern takes are characters.
      have hascii : set.isAscii = true := by
        rcases Node.cases_program hi with ⟨-, heq⟩ | ⟨-, -, hmem⟩ | ⟨-, heq⟩ | ⟨-, heq⟩
        · cases heq
        · exact (Node.fitsIn_of_mem_code n hmem).isAscii hn set rfl
        · cases heq
        · cases heq
      have hwidth := (Utf8.width_eq_one_iff b).2 (CharSet.lt_of_has hascii hhas)
      exact ih.take hvalid hrest (Utf8.first_of_width_eq_one hwidth rest) _

/-! ## Matches -/

/-- A match with a span, all that it keeps lying between `start` and its end. -/
structure Match.Spans (found : Match) (subject : Bytes) (start : Nat) : Prop where
  span : found.span? 0 = some (found.first, found.last)
  kept : ∀ v, some v ∈ found.slots → start ≤ v ∧ v ≤ found.last
  start_le : start ≤ found.first
  first_le : found.first ≤ found.last
  last_le : found.last ≤ subject.length

/-- What the span of a group consists of is kept. -/
theorem Match.mem_slots_of_span {found : Match} {k a b : Nat} (h : found.span? k = some (a, b)) :
    some a ∈ found.slots ∧ some b ∈ found.slots := by
  unfold span? at h
  simp only [Option.bind_eq_bind, Option.bind_eq_some_iff, Option.pure_def, Option.some.injEq,
    Prod.mk.injEq] at h
  obtain ⟨_, hfirst, _, rfl, _, hlast, _, rfl, rfl, rfl⟩ := h
  exact ⟨List.mem_of_getElem? hfirst, List.mem_of_getElem? hlast⟩

namespace Matcher

variable {m : Matcher} {found : Match}

/-- A match that is found has a span, behind the offset the search begins at. -/
theorem spans_of_find? (hm : m.program = n.program) (hend : offset ≤ subject.length)
    (h : m.find? (.behind subject offset) offset = some found) : found.Spans subject offset := by
  obtain ⟨kept, hsearch, rfl⟩ := Option.map_eq_some_iff.1 h
  obtain ⟨place, t, hreaches, -, haccept, rfl⟩ := accepts_of_search hend hsearch
  rw [hm] at hreaches haccept
  obtain ⟨-, hplace, hspans⟩ := spans_of_reaches (by omega) hreaches
  have hlast : t.place = n.size + 2 := by
    rcases Node.cases_program haccept with ⟨-, heq⟩ | ⟨-, -, hmem⟩ | ⟨-, heq⟩ | ⟨heq, -⟩
    · cases heq
    · exact absurd rfl (Node.fitsIn_of_mem_code n hmem).ne_accept
    · cases heq
    · exact heq
  obtain ⟨v, hv⟩ : ∃ v, t.slots[0]? = some (some v) := hspans.first.resolve_left (by omega)
  have hspan : Match.span? ⟨t.slots⟩ 0 = some (v, place) := by
    unfold Match.span?
    rw [Nat.mul_zero, hv, (hspans.last hlast).2]
    rfl
  have hfirst : Match.first ⟨t.slots⟩ = v := by
    rw [Match.first, hspan]
    rfl
  have hend : Match.last ⟨t.slots⟩ = place := by
    rw [Match.last, hspan]
    rfl
  obtain ⟨hstart, hle⟩ := hspans.kept v (List.mem_of_getElem? hv)
  refine ⟨by rw [hspan, hfirst, hend], hend ▸ hspans.kept, hfirst ▸ hstart, ?_, hend ▸ hplace⟩
  rw [hfirst, hend]
  exact hle

/-- A match of a pattern that takes whole characters keeps boundaries only, or it is empty and keeps
one offset only. -/
theorem onBoundaries_or_empty_of_find? (hm : m.program = n.program) (hn : n.TakesCharacters)
    (hvalid : Utf8.isValid subject = true) (hend : offset ≤ subject.length)
    (h : m.find? (.behind subject offset) offset = some found) :
    (∀ v, some v ∈ found.slots → IsBoundary subject v) ∨
      ∀ v, some v ∈ found.slots → v = found.first := by
  have hspans := spans_of_find? hm hend h
  obtain ⟨kept, hsearch, rfl⟩ := Option.map_eq_some_iff.1 h
  obtain ⟨place, t, hreaches, -, -, rfl⟩ := accepts_of_search hend hsearch
  rw [hm] at hreaches
  rcases onBoundaries_of_reaches hn hvalid hreaches with ⟨-, hkept⟩ | ⟨-, hkept⟩
  · exact Or.inl hkept
  · have hfirst := hkept _ (Match.mem_slots_of_span hspans.span).1
    exact Or.inr fun v hv => (hkept v hv).trans hfirst.symm

end Matcher

end BrowserShell.Pattern
