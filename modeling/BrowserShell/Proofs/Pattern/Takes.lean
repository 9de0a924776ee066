import BrowserShell.Proofs.Pattern.Program
import BrowserShell.Proofs.Pattern.Walk

/-!
# What patterns take

`Node.Takes` says from which offset of a subject to which other one a pattern can take the bytes
between, without regard to which way of taking them it prefers and to what its groups keep. The code
of a pattern leads from an offset to the place behind the code exactly where the pattern takes the
bytes to some other offset (`exists_leads_program_iff`).
-/

namespace BrowserShell.Pattern

/-- `count` times in a row. -/
def Times (R : Nat → Nat → Prop) : (count : Nat) → (i j : Nat) → Prop
  | 0, i, j => j = i
  | count + 1, i, j => ∃ k, R i k ∧ Times R count k j

/-- Whether a pattern can take what lies between two offsets of a subject. A character of a set is
taken as a whole, in its UTF-8 form; conditions see all of the subject. A bound below the least
count, which no pattern is written with, is none. -/
def Node.Takes (subject : Bytes) : Node → (i j : Nat) → Prop
  | .empty, i, j => j = i
  | .scalar set, i, j =>
    ∃ c rest, set.has c.toNat = true ∧ subject.drop i = String.utf8EncodeChar c ++ rest ∧
      j = i + (String.utf8EncodeChar c).length
  | .byte set, i, j => ∃ b rest, set.has b.toNat = true ∧ subject.drop i = b :: rest ∧ j = i + 1
  | .assertion a, i, j => (Position.behind subject i).meets a = true ∧ j = i
  | .group _ n, i, j => n.Takes subject i j
  | .cat a b, i, j => ∃ k, a.Takes subject i k ∧ b.Takes subject k j
  | .alt a b, i, j => a.Takes subject i j ∨ b.Takes subject i j
  | .repeated least most _ n, i, j =>
    ∃ count, least ≤ count ∧ (∀ m ∈ most, count ≤ max least m) ∧ Times (n.Takes subject) count i j

variable {program : Array Instruction} {subject : Bytes} {R : Nat → Nat → Prop}
  {offset offset' steps base size : Nat}

theorem Times.add {a b i j k : Nat} (ha : Times R a i j) (hb : Times R b j k) :
    Times R (a + b) i k := by
  induction a generalizing i with
  | zero =>
    cases ha
    rwa [Nat.zero_add]
  | succ a ih =>
    obtain ⟨m, hm, ha⟩ := ha
    rw [Nat.succ_add]
    exact ⟨m, hm, ih ha⟩

theorem times_add {a b i k : Nat} (h : Times R (a + b) i k) :
    ∃ j, Times R a i j ∧ Times R b j k := by
  induction a generalizing i with
  | zero => exact ⟨i, rfl, by rwa [Nat.zero_add] at h⟩
  | succ a ih =>
    rw [Nat.succ_add] at h
    obtain ⟨m, hm, h⟩ := h
    obtain ⟨j, ha, hb⟩ := ih h
    exact ⟨j, ⟨m, hm, ha⟩, hb⟩

/-! ## Code in a program -/

/-- Whether some code stands in a program from a place on. -/
def CodeAt (program : Array Instruction) (base : Nat) (code : List Instruction) : Prop :=
  ∀ k i, code[k]? = some i → program[base + k]? = some i

namespace CodeAt

variable {i : Instruction} {code code' : List Instruction}

theorem cons (h : CodeAt program base (i :: code)) :
    program[base]? = some i ∧ CodeAt program (base + 1) code :=
  ⟨h 0 i rfl, fun k j hk => by rw [Nat.add_assoc, Nat.add_comm 1]; exact h (k + 1) j hk⟩

theorem append (h : CodeAt program base (code ++ code')) :
    CodeAt program base code ∧ CodeAt program (base + code.length) code' := by
  refine ⟨fun k j hk => h k j ?_, fun k j hk => ?_⟩
  · rw [List.getElem?_append_left (List.getElem?_eq_some_iff.1 hk).1]
    exact hk
  · rw [Nat.add_assoc]
    refine h (code.length + k) j ?_
    rw [List.getElem?_append_right (Nat.le_add_right _ _), Nat.add_sub_cancel_left]
    exact hk

end CodeAt

/-- Each of some copies stands where the ones before it end. -/
theorem codeAt_of_copies {one : Nat → List Instruction} (hlength : ∀ at_, (one at_).length = size)
    {count k : Nat} (h : CodeAt program base (Node.copies one size count base)) (hk : k < count) :
    CodeAt program (base + k * size) (one (base + k * size)) := by
  induction count generalizing base k with
  | zero => cases hk
  | succ count ih =>
    obtain ⟨hfirst, hrest⟩ := h.append
    cases k with
    | zero => rwa [Nat.zero_mul]
    | succ k =>
      rw [hlength] at hrest
      have hplace : base + (k + 1) * size = base + size + k * size := by
        rw [Nat.succ_mul]
        omega
      rw [hplace]
      exact ih hrest (Nat.lt_of_succ_lt_succ hk)

/-! ## What code spells -/

/-- Whether the walks from a place to the end of a program are those that take what `R` says and
then go on at another place. -/
structure Spells (program : Array Instruction) (subject : Bytes) (R : Nat → Nat → Prop)
    (place place' : Nat) : Prop where
  /-- A walk takes something that `R` allows, and the rest of it has no more steps: what comes round
  a loop can count on getting shorter. -/
  sound : ∀ steps i, Leads program subject steps i place →
    ∃ steps' ≤ steps, ∃ j, R i j ∧ Leads program subject steps' j place'
  /-- What `R` allows may be put before a walk from the other place. -/
  complete : ∀ steps i j, R i j → Leads program subject steps j place' →
    ∃ steps', Leads program subject steps' i place

/-- Whether the walks from a place are those from either of two others, with fewer steps. -/
structure Branches (program : Array Instruction) (subject : Bytes) (place first second : Nat) :
    Prop where
  sound : ∀ steps i, Leads program subject steps i place →
    ∃ steps' < steps, Leads program subject steps' i first ∨ Leads program subject steps' i second
  complete : ∀ steps i,
    Leads program subject steps i first ∨ Leads program subject steps i second →
      ∃ steps', Leads program subject steps' i place

namespace Branches

variable {place place' first second : Nat}

theorem split (hi : program[place]? = some (.split first second)) :
    Branches program subject place first second where
  sound steps i h := by
    obtain ⟨steps', hlt, q, hq, h⟩ := h.of_not_taking hi (by simp) id
    refine ⟨steps', hlt, ?_⟩
    rcases List.mem_cons.1 hq with rfl | hq
    · exact Or.inl h
    · exact Or.inr (List.mem_singleton.1 hq ▸ h)
  complete steps i h := by
    refine ⟨steps + 1, _, hi, Or.inl ?_⟩
    rcases h with h | h
    · exact ⟨first, List.mem_cons_self, h⟩
    · exact ⟨second, List.mem_cons_of_mem _ (List.mem_singleton_self _), h⟩

theorem symm (h : Branches program subject place first second) :
    Branches program subject place second first where
  sound steps i hleads := by
    obtain ⟨steps', hlt, h⟩ := h.sound steps i hleads
    exact ⟨steps', hlt, h.symm⟩
  complete steps i hleads := h.complete steps i hleads.symm

/-- The preference of a choice makes no difference. -/
theorem choice {greedy : Bool} (hi : program[place]? = some (.choice greedy first second)) :
    Branches program subject place first second := by
  cases greedy with
  | true => exact split hi
  | false => exact (split hi).symm

/-- A jump to a place with two branches has them, too. -/
theorem jump (hi : program[place']? = some (.jump place))
    (h : Branches program subject place first second) :
    Branches program subject place' first second where
  sound steps i hleads := by
    obtain ⟨steps', hlt, q, hq, hleads⟩ := hleads.of_not_taking hi (by simp) id
    rw [Instruction.next, List.mem_singleton] at hq
    subst hq
    obtain ⟨steps'', hlt', hleads⟩ := h.sound steps' i hleads
    exact ⟨steps'', Nat.lt_trans hlt' hlt, hleads⟩
  complete steps i hleads := by
    obtain ⟨steps', hleads⟩ := h.complete steps i hleads
    exact ⟨steps' + 1, _, hi, Or.inl ⟨place, List.mem_singleton_self _, hleads⟩⟩

end Branches

namespace Spells

variable {S : Nat → Nat → Prop} {place place' place'' first second : Nat} {i : Instruction}

theorem refl (place : Nat) : Spells program subject (fun i j => j = i) place place where
  sound steps i h := ⟨steps, Nat.le_refl _, i, rfl, h⟩
  complete steps _ _ hj h := ⟨steps, hj ▸ h⟩

theorem congr (h : Spells program subject R place place') (hR : ∀ i j, R i j ↔ S i j)
    (hplace : place' = place'') : Spells program subject S place place'' where
  sound steps i hleads := by
    obtain ⟨steps', hle, j, hj, hleads⟩ := h.sound steps i hleads
    exact ⟨steps', hle, j, (hR i j).1 hj, hplace ▸ hleads⟩
  complete steps i j hj hleads := h.complete steps i j ((hR i j).2 hj) (hplace ▸ hleads)

/-- One after the other. -/
theorem trans (h : Spells program subject R place place')
    (h' : Spells program subject S place' place'') :
    Spells program subject (fun i k => ∃ j, R i j ∧ S j k) place place'' where
  sound steps i hleads := by
    obtain ⟨steps', hle, j, hj, hleads⟩ := h.sound steps i hleads
    obtain ⟨steps'', hle', k, hk, hleads⟩ := h'.sound steps' j hleads
    exact ⟨steps'', Nat.le_trans hle' hle, k, ⟨j, hj, hk⟩, hleads⟩
  complete steps i k := by
    rintro ⟨j, hj, hk⟩ hleads
    obtain ⟨steps', hleads⟩ := h'.complete steps j k hk hleads
    exact h.complete steps' i j hj hleads

/-- Either of two. -/
theorem branch (h : Branches program subject place first second)
    (hfirst : Spells program subject R first place')
    (hsecond : Spells program subject S second place') :
    Spells program subject (fun i j => R i j ∨ S i j) place place' where
  sound steps i hleads := by
    obtain ⟨steps', hlt, hleads | hleads⟩ := h.sound steps i hleads
    · obtain ⟨steps'', hle, j, hj, hleads⟩ := hfirst.sound steps' i hleads
      exact ⟨steps'', by omega, j, Or.inl hj, hleads⟩
    · obtain ⟨steps'', hle, j, hj, hleads⟩ := hsecond.sound steps' i hleads
      exact ⟨steps'', by omega, j, Or.inr hj, hleads⟩
  complete steps i j := by
    rintro (hj | hj) hleads
    · obtain ⟨steps', hleads⟩ := hfirst.complete steps i j hj hleads
      exact h.complete steps' i (Or.inl hleads)
    · obtain ⟨steps', hleads⟩ := hsecond.complete steps i j hj hleads
      exact h.complete steps' i (Or.inr hleads)

/-- An instruction that takes nothing and goes on at one place, if a condition holds. -/
theorem step {P : Nat → Prop} [DecidablePred P] (hi : program[place]? = some i)
    (hne : i ≠ .accept) (htakes : ¬ i.IsTaking)
    (hnext : ∀ offset, i.next (.behind subject offset) place = if P offset then [place'] else []) :
    Spells program subject (fun i j => P i ∧ j = i) place place' where
  sound steps offset h := by
    obtain ⟨steps', hlt, q, hq, h⟩ := h.of_not_taking hi hne htakes
    rw [hnext] at hq
    split at hq
    · rename_i hP
      exact ⟨steps', Nat.le_of_lt hlt, offset, ⟨hP, rfl⟩, List.mem_singleton.1 hq ▸ h⟩
    · cases hq
  complete steps offset j := by
    rintro ⟨hP, rfl⟩ h
    refine ⟨steps + 1, i, hi, Or.inl ⟨place', ?_, h⟩⟩
    rw [hnext, if_pos hP]
    exact List.mem_singleton_self _

/-- An instruction that always goes on at one place. -/
theorem goTo (subject : Bytes) (hi : program[place]? = some i) (hne : i ≠ .accept)
    (htakes : ¬ i.IsTaking) (hnext : ∀ p, i.next p place = [place']) :
    Spells program subject (fun i j => j = i) place place' :=
  (step (P := fun _ => True) hi hne htakes fun _ => hnext _).congr (by simp) rfl

/-- An instruction that takes something. -/
theorem take (hi : program[place]? = some i) (htakes : i.IsTaking) :
    Spells program subject (fun offset j => ∃ width, i.width? (subject.drop offset) = some width ∧
      j = offset + width) place (place + 1) where
  sound steps offset h := by
    obtain ⟨steps', hlt, width, hwidth, h⟩ := h.of_taking hi htakes
    exact ⟨steps', Nat.le_of_lt hlt, _, ⟨width, hwidth, rfl⟩, h⟩
  complete steps offset j := by
    rintro ⟨width, hwidth, rfl⟩ h
    exact ⟨steps + 1, i, hi, Or.inr ⟨width, hwidth, h⟩⟩

/-- Copies spell something as often. -/
theorem copies {one : Nat → List Instruction} (hlength : ∀ at_, (one at_).length = size)
    (hone : ∀ base, CodeAt program base (one base) →
      Spells program subject R base (base + size))
    {count : Nat} (hcode : CodeAt program base (Node.copies one size count base)) :
    Spells program subject (Times R count) base (base + count * size) := by
  induction count generalizing base with
  | zero => exact (refl base).congr (fun _ _ => Iff.rfl) (by omega)
  | succ count ih =>
    obtain ⟨hfirst, hrest⟩ := hcode.append
    rw [hlength] at hrest
    refine ((hone base hfirst).trans (ih hrest)).congr (fun _ _ => Iff.rfl) ?_
    rw [Nat.succ_mul]
    omega

/-- Optional copies spell something up to as often. -/
theorem options {one : Nat → List Instruction} (hlength : ∀ at_, (one at_).length = size)
    (hone : ∀ base, CodeAt program base (one base) →
      Spells program subject R base (base + size))
    {greedy : Bool} {exit count : Nat} (hexit : exit = base + count * (size + 1))
    (hcode : CodeAt program base (Node.options one size greedy exit count base)) :
    Spells program subject (fun i j => ∃ c ≤ count, Times R c i j) base exit := by
  induction count generalizing base with
  | zero =>
    refine (refl base).congr (fun i j => ⟨fun h => ⟨0, Nat.le_refl _, h⟩, ?_⟩) (by omega)
    rintro ⟨c, hc, h⟩
    cases Nat.le_zero.1 hc
    exact h
  | succ count ih =>
    rw [Nat.succ_mul] at hexit
    obtain ⟨hchoice, hrest⟩ := CodeAt.cons hcode
    obtain ⟨hfirst, hrest⟩ := hrest.append
    rw [hlength] at hrest
    have hmore := (hone (base + 1) hfirst).trans (ih (by omega) hrest)
    refine (branch (.choice hchoice) hmore (refl exit)).congr (fun i j => ⟨?_, ?_⟩) rfl
    · rintro (⟨k, hk, c, hc, h⟩ | rfl)
      · exact ⟨c + 1, Nat.succ_le_succ hc, k, hk, h⟩
      · exact ⟨0, Nat.zero_le _, rfl⟩
    · rintro ⟨c, hc, h⟩
      cases c with
      | zero => exact Or.inr h
      | succ c =>
        obtain ⟨k, hk, h⟩ := h
        exact Or.inl ⟨k, hk, c, Nat.le_of_succ_le_succ hc, h⟩

/-- A loop spells something any number of times. -/
theorem loop {body tail exit : Nat} (hbody : Spells program subject R body tail)
    (htail : Branches program subject tail body exit) :
    Spells program subject (fun i j => ∃ c, Times R c i j) tail exit where
  sound steps i h := by
    -- Each time round the loop the walk has fewer steps left.
    induction steps using Nat.strongRecOn generalizing i with
    | _ steps ih =>
      obtain ⟨steps', hlt, h | h⟩ := htail.sound steps i h
      · obtain ⟨steps₁, hle, k, hk, h⟩ := hbody.sound steps' i h
        obtain ⟨steps₂, hle', j, ⟨c, hc⟩, h⟩ := ih steps₁ (by omega) k h
        exact ⟨steps₂, by omega, j, ⟨c + 1, k, hk, hc⟩, h⟩
      · exact ⟨steps', Nat.le_of_lt hlt, i, ⟨0, rfl⟩, h⟩
  complete steps i j := by
    rintro ⟨c, hc⟩ h
    induction c generalizing i with
    | zero =>
      cases hc
      exact htail.complete steps j (Or.inr h)
    | succ c ih =>
      obtain ⟨k, hk, hc⟩ := hc
      obtain ⟨steps', h⟩ := ih k hc
      obtain ⟨steps', h⟩ := hbody.complete steps' i k hk h
      exact htail.complete steps' i (Or.inl h)

end Spells

/-! ## Patterns -/

namespace Node

section Repeated

variable {n : Node} {least : Nat} {greedy : Bool}

/-- Code for any number of times is a choice and then the loop, which ends at the choice itself or
at a copy of it. -/
theorem spells_star
    (hn : ∀ base, CodeAt program base (n.code base) →
      Spells program subject (n.Takes subject) base (base + n.size))
    (hcode : CodeAt program base ((repeated 0 none greedy n).code base)) :
    Spells program subject ((repeated 0 none greedy n).Takes subject) base
      (base + (repeated 0 none greedy n).size) := by
  rw [code, if_pos rfl] at hcode
  obtain ⟨hchoice, hrest⟩ := hcode.cons
  obtain ⟨hbody, hback⟩ := hrest.append
  rw [length_code n] at hback
  have hfirst : Branches program subject base (base + 1) (base + n.size + 2) := .choice hchoice
  have htail : Branches program subject (base + 1 + n.size) (base + 1) (base + n.size + 2) := by
    have hlast := hback.cons.1
    split at hlast
    · exact .jump hlast hfirst
    · exact .choice hlast
  have honce := hn (base + 1) hbody
  have hmore := honce.trans (honce.loop htail)
  rw [size, if_pos rfl]
  refine (hmore.branch hfirst (.refl _)).congr (fun i j => ⟨?_, ?_⟩) (by omega)
  · rintro (⟨k, hk, c, hc⟩ | rfl)
    · exact ⟨c + 1, Nat.zero_le _, by simp, k, hk, hc⟩
    · exact ⟨0, Nat.le_refl _, by simp, rfl⟩
  · rintro ⟨c, -, -, hc⟩
    cases c with
    | zero => exact Or.inr hc
    | succ c =>
      obtain ⟨k, hk, hc⟩ := hc
      exact Or.inl ⟨k, hk, c, hc⟩

/-- Code for at least some times is as many copies, and the last of them is the loop. -/
theorem spells_atLeast
    (hn : ∀ base, CodeAt program base (n.code base) →
      Spells program subject (n.Takes subject) base (base + n.size))
    (hcode : CodeAt program base ((repeated (least + 1) none greedy n).code base)) :
    Spells program subject ((repeated (least + 1) none greedy n).Takes subject) base
      (base + (repeated (least + 1) none greedy n).size) := by
  have hlength := length_code n
  have hne : least + 1 ≠ 0 := Nat.succ_ne_zero least
  rw [code, if_neg hne, Nat.add_sub_cancel] at hcode
  rw [size, if_neg hne]
  obtain ⟨hcopies, hchoice⟩ := hcode.append
  rw [length_copies hlength] at hchoice
  have hsize : (least + 1) * n.size = least * n.size + n.size := Nat.succ_mul least n.size
  have hlast : CodeAt program (base + least * n.size) (n.code (base + least * n.size)) :=
    codeAt_of_copies hlength hcopies (Nat.lt_succ_self least)
  have htail : Branches program subject (base + (least + 1) * n.size) (base + least * n.size)
      (base + least * n.size + n.size + 1) := .choice hchoice.cons.1
  have hbody := (hn _ hlast).congr (fun _ _ => Iff.rfl)
    (show base + least * n.size + n.size = base + (least + 1) * n.size by omega)
  refine ((Spells.copies hlength hn hcopies).trans (hbody.loop htail)).congr
    (fun i j => ⟨?_, ?_⟩) (by omega)
  · rintro ⟨m, hm, c, hc⟩
    exact ⟨least + 1 + c, Nat.le_add_right _ _, by simp, hm.add hc⟩
  · rintro ⟨count, hle, -, hcount⟩
    obtain ⟨c, rfl⟩ := Nat.exists_eq_add_of_le hle
    obtain ⟨m, hm, hc⟩ := times_add hcount
    exact ⟨m, hm, c, hc⟩

/-- Code for some times up to a most is copies for the least times and optional ones for the
others. -/
theorem spells_bounded {most : Nat}
    (hn : ∀ base, CodeAt program base (n.code base) →
      Spells program subject (n.Takes subject) base (base + n.size))
    (hcode : CodeAt program base ((repeated least (some most) greedy n).code base)) :
    Spells program subject ((repeated least (some most) greedy n).Takes subject) base
      (base + (repeated least (some most) greedy n).size) := by
  have hlength := length_code n
  rw [code] at hcode
  rw [size]
  obtain ⟨hcopies, hoptions⟩ := hcode.append
  rw [length_copies hlength] at hoptions
  refine ((Spells.copies hlength hn hcopies).trans
    (Spells.options hlength hn rfl hoptions)).congr (fun i j => ⟨?_, ?_⟩) (by omega)
  · rintro ⟨m, hm, c, hle, hc⟩
    refine ⟨least + c, Nat.le_add_right _ _, fun b hb => ?_, hm.add hc⟩
    cases hb
    omega
  · rintro ⟨count, hle, hmost, hcount⟩
    obtain ⟨c, rfl⟩ := Nat.exists_eq_add_of_le hle
    have hbound := hmost most rfl
    obtain ⟨m, hm, hc⟩ := times_add hcount
    exact ⟨m, hm, c, by omega, hc⟩

end Repeated

/-- The code of a pattern spells what the pattern takes. -/
theorem spells_code (subject : Bytes) (n : Node) (hcode : CodeAt program base (n.code base)) :
    Spells program subject (n.Takes subject) base (base + n.size) := by
  induction n generalizing base with
  | empty => exact .refl base
  | scalar set =>
    refine (Spells.take hcode.cons.1 trivial).congr (fun i j => ?_) rfl
    simp only [Instruction.width?_scalar_eq_some_iff, Takes]
    constructor
    · rintro ⟨_, ⟨c, rest, hhas, hdrop, rfl⟩, rfl⟩
      exact ⟨c, rest, hhas, hdrop, rfl⟩
    · rintro ⟨c, rest, hhas, hdrop, rfl⟩
      exact ⟨_, ⟨c, rest, hhas, hdrop, rfl⟩, rfl⟩
  | byte set =>
    refine (Spells.take hcode.cons.1 trivial).congr (fun i j => ?_) rfl
    simp only [Instruction.width?_byte_eq_some_iff, Takes]
    constructor
    · rintro ⟨_, ⟨b, rest, hhas, hdrop, rfl⟩, rfl⟩
      exact ⟨b, rest, hhas, hdrop, rfl⟩
    · rintro ⟨b, rest, hhas, hdrop, rfl⟩
      exact ⟨_, ⟨b, rest, hhas, hdrop, rfl⟩, rfl⟩
  | assertion a => exact .step hcode.cons.1 (by simp) id fun _ => rfl
  | group index n ih =>
    obtain ⟨hfirst, hrest⟩ := CodeAt.cons hcode
    obtain ⟨hinner, hlast⟩ := hrest.append
    rw [length_code] at hlast
    have hopen := Spells.goTo subject hfirst (by simp) id fun _ => rfl
    have hclose := Spells.goTo subject hlast.cons.1 (by simp) id fun _ => rfl
    refine ((hopen.trans (ih hinner)).trans hclose).congr (fun i j => ?_) (by rw [size]; omega)
    simp [Takes]
  | cat a b iha ihb =>
    obtain ⟨ha, hb⟩ := CodeAt.append hcode
    rw [length_code] at hb
    exact ((iha ha).trans (ihb hb)).congr (fun _ _ => Iff.rfl) (Nat.add_assoc _ _ _)
  | alt a b iha ihb =>
    obtain ⟨hsplit, hrest⟩ := CodeAt.cons hcode
    obtain ⟨ha, hrest⟩ := hrest.append
    rw [length_code] at hrest
    obtain ⟨hjump, hb⟩ := hrest.cons
    have hplace : base + 1 + a.size + 1 = base + a.size + 2 := by omega
    rw [hplace] at hb
    have hafter := Spells.goTo subject hjump (by simp) id fun _ => rfl
    refine Spells.branch (.split hsplit)
      (((iha ha).trans hafter).congr (fun i j => ?_) (by rw [size]; omega))
      ((ihb hb).congr (fun _ _ => Iff.rfl) (by rw [size]; omega))
    simp
  | repeated least most greedy n ih =>
    -- The code has three forms, by the bounds.
    cases most with
    | some most => exact spells_bounded (fun base h => ih h) hcode
    | none =>
      cases least with
      | zero => exact spells_star (fun base h => ih h) hcode
      | succ least => exact spells_atLeast (fun base h => ih h) hcode

/-- A program leads from an offset to its end just if its pattern takes something from there. -/
theorem exists_leads_program_iff (n : Node) (subject : Bytes) (offset : Nat) :
    (∃ steps, Leads n.program subject steps offset 0) ↔ ∃ j, n.Takes subject offset j := by
  have hcode : CodeAt n.program 0 ((Node.group 0 n).code 0 ++ [.accept]) := by
    intro k i hk
    rw [program, List.getElem?_toArray, Nat.zero_add]
    exact hk
  obtain ⟨hbody, haccept⟩ := hcode.append
  rw [length_code, Nat.zero_add] at haccept
  have hspells := spells_code subject (.group 0 n) hbody
  rw [Nat.zero_add] at hspells
  constructor
  · rintro ⟨steps, h⟩
    obtain ⟨-, -, j, hj, -⟩ := hspells.sound steps offset h
    exact ⟨j, hj⟩
  · rintro ⟨j, hj⟩
    exact hspells.complete 0 offset j hj haccept.cons.1

end Node

end BrowserShell.Pattern
