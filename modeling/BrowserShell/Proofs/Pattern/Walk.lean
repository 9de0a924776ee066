import BrowserShell.Proofs.Pattern.Search
import BrowserShell.Proofs.Text.Utf8

/-!
# Walks through a program

Which offsets and places a match can be reached from does not depend on what threads keep. `Leads`
says that some number of steps lead from an offset and a place to the end of the program, where a
character is taken in one step. A search finds nothing that does not lie on such a walk
(`exists_leads_of_search`).
-/

namespace BrowserShell.Pattern

/-- The places that an instruction at `place` goes on to without taking anything. -/
def Instruction.next (p : Position) (place : Nat) : Instruction → List Nat
  | .scalar _ | .byte _ | .accept => []
  | .assertion a => if p.meets a then [place + 1] else []
  | .save _ => [place + 1]
  | .jump target => [target]
  | .split first second => [first, second]

/-- How many bytes an instruction takes of a text, none if it takes nothing. -/
def Instruction.width? : Instruction → Bytes → Option Nat
  | .scalar set, b :: rest =>
    match Utf8.first b rest with
    | (some c, width) => if set.has c.toNat then some width else none
    | (none, _) => none
  | .byte set, b :: _ => if set.has b.toNat then some 1 else none
  | _, _ => none

/-- Whether an instruction takes a character or a byte. -/
def Instruction.IsTaking : Instruction → Prop
  | .scalar _ | .byte _ => True
  | _ => False

/-- Whether `steps` steps lead from an offset and a place to the end of the program. -/
def Leads (program : Array Instruction) (subject : Bytes) :
    (steps offset place : Nat) → Prop
  | 0, _, place => program[place]? = some .accept
  | steps + 1, offset, place =>
    ∃ i, program[place]? = some i ∧
      ((∃ q ∈ i.next (.behind subject offset) place, Leads program subject steps offset q) ∨
        ∃ width, i.width? (subject.drop offset) = some width ∧
          Leads program subject steps (offset + width) (place + 1))

variable {program : Array Instruction} {subject : Bytes} {slots start offset steps place : Nat}
  {i : Instruction}

/-- A set of characters takes the form of one that it has. -/
theorem Instruction.width?_scalar_eq_some_iff {set : CharSet} {bs : Bytes} {width : Nat} :
    (Instruction.scalar set).width? bs = some width ↔
      ∃ c rest, set.has c.toNat = true ∧ bs = String.utf8EncodeChar c ++ rest ∧
        width = (String.utf8EncodeChar c).length := by
  constructor
  · intro h
    cases bs with
    | nil => cases h
    | cons b rest =>
      rw [width?] at h
      split at h
      · rename_i c w hfirst
        obtain ⟨hhas, hw⟩ := Option.ite_none_right_eq_some.1 h
        cases hw
        obtain ⟨s, hs, hlength⟩ := Utf8.exists_of_first hfirst
        exact ⟨c, s, hhas, hs, hlength⟩
      · cases h
  · rintro ⟨c, rest, hhas, rfl, rfl⟩
    obtain ⟨b, r, hc, -, -, hfirst⟩ := Utf8.readsAs_encodeChar c
    rw [hc, List.cons_append, width?, hfirst]
    exact if_pos hhas

/-- A set of bytes takes one that it has. -/
theorem Instruction.width?_byte_eq_some_iff {set : CharSet} {bs : Bytes} {width : Nat} :
    (Instruction.byte set).width? bs = some width ↔
      ∃ b rest, set.has b.toNat = true ∧ bs = b :: rest ∧ width = 1 := by
  cases bs with
  | nil => simp [width?]
  | cons b rest =>
    rw [width?, Option.ite_none_right_eq_some]
    constructor
    · rintro ⟨hhas, hw⟩
      exact ⟨b, rest, hhas, rfl, (Option.some.inj hw).symm⟩
    · rintro ⟨b', rest', hhas, heq, rfl⟩
      cases heq
      exact ⟨hhas, rfl⟩

/-- What is taken is there, and is no more than one character. -/
theorem Instruction.bounds_of_width? {bs : Bytes} {width : Nat} (h : i.width? bs = some width) :
    i.IsTaking ∧ 0 < width ∧ width ≤ 4 ∧ width ≤ bs.length := by
  cases i with
  | scalar set =>
    obtain ⟨c, rest, -, rfl, rfl⟩ := width?_scalar_eq_some_iff.1 h
    rw [List.length_append, String.length_utf8EncodeChar]
    exact ⟨trivial, c.utf8Size_pos, c.utf8Size_le_four, Nat.le_add_right _ _⟩
  | byte set =>
    obtain ⟨b, rest, -, rfl, rfl⟩ := width?_byte_eq_some_iff.1 h
    exact ⟨trivial, by decide, by decide, by simp⟩
  | assertion | save | jump | split | accept => cases bs <;> cases h

/-- An instruction that takes something goes on nowhere without. -/
theorem Instruction.IsTaking.next_eq_nil (h : i.IsTaking) (p : Position) (place : Nat) :
    i.next p place = [] := by
  cases i with
  | scalar | byte => rfl
  | assertion | save | jump | split | accept => cases h

/-- A thread that does not wait passes what its instruction takes. -/
theorem Thread.pass?_eq {t : Thread} (hwait : t.wait = 0) (b : UInt8) (rest : Bytes) :
    t.pass? program b rest =
      (program[t.place]?.bind fun i => i.width? (b :: rest)).map fun width =>
        ⟨t.place + 1, width - 1, t.slots⟩ := by
  unfold pass?
  rw [hwait]
  dsimp only
  cases program[t.place]? with
  | none => rfl
  | some i =>
    cases i with
    | scalar set =>
      rw [Option.bind_some, Instruction.width?]
      dsimp only
      rcases Utf8.first b rest with ⟨_ | c, width⟩
      · rfl
      · dsimp only
        split <;> rfl
    | byte set =>
      rw [Option.bind_some, Instruction.width?]
      dsimp only
      split <;> rfl
    | assertion | save | jump | split | accept => rfl

/-- Only the end of the program leads there in no step. -/
theorem Leads.cases (h : Leads program subject steps offset place) (hi : program[place]? = some i)
    (hne : i ≠ .accept) :
    ∃ steps', steps = steps' + 1 ∧
      ((∃ q ∈ i.next (.behind subject offset) place, Leads program subject steps' offset q) ∨
        ∃ width, i.width? (subject.drop offset) = some width ∧
          Leads program subject steps' (offset + width) (place + 1)) := by
  cases steps with
  | zero =>
    rw [Leads, hi] at h
    exact absurd (Option.some.inj h) hne
  | succ steps =>
    obtain ⟨j, hj, h⟩ := h
    rw [hi] at hj
    cases hj
    exact ⟨steps, rfl, h⟩

/-- Where an instruction takes nothing, the walk goes on at one of the next places. -/
theorem Leads.of_not_taking (h : Leads program subject steps offset place)
    (hi : program[place]? = some i) (hne : i ≠ .accept) (htakes : ¬ i.IsTaking) :
    ∃ steps' < steps, ∃ q ∈ i.next (.behind subject offset) place,
      Leads program subject steps' offset q := by
  obtain ⟨steps', rfl, ⟨q, hq, h⟩ | ⟨width, hwidth, -⟩⟩ := h.cases hi hne
  · exact ⟨steps', Nat.lt_succ_self _, q, hq, h⟩
  · exact absurd (Instruction.bounds_of_width? hwidth).1 htakes

/-- Where it takes something, the walk goes on behind that. -/
theorem Leads.of_taking (h : Leads program subject steps offset place)
    (hi : program[place]? = some i) (htakes : i.IsTaking) :
    ∃ steps' < steps, ∃ width, i.width? (subject.drop offset) = some width ∧
      Leads program subject steps' (offset + width) (place + 1) := by
  have hne : i ≠ .accept := by
    rintro rfl
    exact htakes
  obtain ⟨steps', rfl, ⟨q, hq, -⟩ | ⟨width, hwidth, h⟩⟩ := h.cases hi hne
  · rw [htakes.next_eq_nil] at hq
    cases hq
  · exact ⟨steps', Nat.lt_succ_self _, width, hwidth, h⟩

/-- A thread at the end of a program lies on a walk from where it started. -/
theorem exists_leads_of_reaches {t : Thread}
    (h : Reaches program slots subject start offset t)
    (hleads : Leads program subject steps (offset + t.wait) t.place) :
    ∃ steps s, start ≤ s ∧ s ≤ subject.length ∧ Leads program subject steps s 0 := by
  -- Backwards along the steps of the thread, the walk gets one step longer with each.
  induction h generalizing steps with
  | @start offset hstart hend => exact ⟨steps, offset, hstart, hend, hleads⟩
  | @assertion offset t a _ hwait hi hmeets ih =>
    rw [hwait] at ih
    rw [hwait] at hleads
    refine @ih (steps + 1) ⟨_, hi, Or.inl ⟨_, ?_, hleads⟩⟩
    rw [Instruction.next, Nat.add_zero, if_pos hmeets]
    exact List.mem_singleton_self _
  | save _ hwait hi ih =>
    rw [hwait] at ih
    exact @ih (steps + 1) ⟨_, hi, Or.inl ⟨_, List.mem_singleton_self _, hleads⟩⟩
  | jump _ hwait hi ih =>
    rw [hwait] at ih hleads
    exact @ih (steps + 1) ⟨_, hi, Or.inl ⟨_, List.mem_singleton_self _, hleads⟩⟩
  | first _ hwait hi ih =>
    rw [hwait] at ih hleads
    exact @ih (steps + 1) ⟨_, hi, Or.inl ⟨_, List.mem_cons_self, hleads⟩⟩
  | second _ hwait hi ih =>
    rw [hwait] at ih hleads
    exact @ih (steps + 1)
      ⟨_, hi, Or.inl ⟨_, List.mem_cons_of_mem _ (List.mem_singleton_self _), hleads⟩⟩
  | @pass offset t t' b rest _ hrest hpass ih =>
    cases hwait : t.wait with
    | succ wait =>
      have hnext : t.pass? program b rest = some { t with wait := wait } := by
        rw [Thread.pass?, hwait]
      cases hpass.symm.trans hnext
      rw [hwait] at ih
      exact ih (by rwa [Nat.add_assoc, Nat.add_comm 1] at hleads)
    | zero =>
      rw [Thread.pass?_eq hwait] at hpass
      obtain ⟨width, hwidth, rfl⟩ := Option.map_eq_some_iff.1 hpass
      obtain ⟨i, hi, hwidth⟩ := Option.bind_eq_some_iff.1 hwidth
      have hpos := (Instruction.bounds_of_width? hwidth).2.1
      have hadd : offset + 1 + (width - 1) = offset + width := by omega
      rw [hwait] at ih
      rw [hadd] at hleads
      exact @ih (steps + 1) ⟨i, hi, Or.inr ⟨width, by rwa [Nat.add_zero, hrest], hleads⟩⟩

/-- What a search finds lies on a walk from where it began or from behind. -/
theorem exists_leads_of_search {kept : Slots} (hend : offset ≤ subject.length)
    (h : search program slots (.behind subject offset) offset = some kept) :
    ∃ steps s, offset ≤ s ∧ s ≤ subject.length ∧ Leads program subject steps s 0 := by
  obtain ⟨place, t, hreaches, -, haccept, -⟩ := accepts_of_search hend h
  have hend : Leads program subject 0 (place + t.wait) t.place := haccept
  exact exists_leads_of_reaches hreaches hend

end BrowserShell.Pattern
