import BrowserShell.Proofs.Pattern.Groups
import BrowserShell.Proofs.Pattern.Match
import BrowserShell.Proofs.Pattern.Unicode

/-!
# Patterns that match a whole subject

A pattern in a group between the marks for the beginning and the end of a line is read as that
pattern between the conditions for the two ends of the subject (`Node.anchored`). What its program
keeps for the match are therefore the two ends, which is an invariant of its threads
(`whole_of_reaches`): a match spans the subject (`Matcher.span_of_find?`).
-/

namespace BrowserShell.Pattern

namespace Node

/-- The pattern between the beginning and the end of the subject. -/
def anchored (n : Node) : Node := .cat (.assertion .textStart) (.cat n (.assertion .textEnd))

/-- The instructions of an anchored pattern's program. -/
theorem cases_program_anchored {n : Node} {place : Nat} {i : Instruction}
    (h : n.anchored.program[place]? = some i) :
    place = 0 ∧ i = .save 0 ∨ place = 1 ∧ i = .assertion .textStart ∨
      2 ≤ place ∧ place < n.size + 2 ∧ i ∈ n.code 2 ∨ place = n.size + 2 ∧ i = .assertion .textEnd ∨
        place = n.size + 3 ∧ i = .save 1 ∨ place = n.size + 4 ∧ i = .accept := by
  have hprogram : n.anchored.program =
      (.save 0 :: .assertion .textStart ::
        (n.code 2 ++ [.assertion .textEnd, .save 1, .accept])).toArray := by
    simp [program, anchored, code, size]
  rw [hprogram, List.getElem?_toArray] at h
  rcases place with _ | _ | k
  · exact Or.inl ⟨rfl, by simpa using h.symm⟩
  · exact Or.inr (Or.inl ⟨rfl, by simpa using h.symm⟩)
  · rw [List.getElem?_cons_succ, List.getElem?_cons_succ] at h
    rcases Nat.lt_or_ge k n.size with hk | hk
    · rw [List.getElem?_append_left (by rw [length_code]; exact hk)] at h
      exact Or.inr (Or.inr (Or.inl ⟨by omega, by omega, List.mem_of_getElem? h⟩))
    · rw [List.getElem?_append_right (by rw [length_code]; exact hk), length_code] at h
      obtain ⟨j, rfl⟩ : ∃ j, k = n.size + j := ⟨k - n.size, by omega⟩
      rw [Nat.add_sub_cancel_left] at h
      rcases j with _ | _ | _ | j
      · exact Or.inr (Or.inr (Or.inr (Or.inl ⟨rfl, by simpa using h.symm⟩)))
      · exact Or.inr (Or.inr (Or.inr (Or.inr (Or.inl ⟨rfl, by simpa using h.symm⟩))))
      · exact Or.inr (Or.inr (Or.inr (Or.inr (Or.inr ⟨rfl, by simpa using h.symm⟩))))
      · simp at h

end Node

variable {n : Node} {slots start offset : Nat} {subject : Bytes} {t : Thread}

/-- A thread of an anchored pattern that keeps the beginning of the subject behind its first
condition, and is at the end of the subject behind its last one. -/
structure Thread.Whole (t : Thread) (n : Node) (subject : Bytes) (offset : Nat) : Prop where
  first : t.place = 0 ∨ t.slots[0]? = some (some 0) ∨
    t.place = 1 ∧ t.wait = 0 ∧ t.slots[0]? = some (some offset)
  last : n.size + 3 ≤ t.place → t.wait = 0 ∧ offset = subject.length

/-- A thread inside the pattern goes on inside it or right behind it. -/
theorem Thread.Whole.goOn {place wait : Nat} {kept : Slots} (hkept : kept[0]? = some (some 0))
    (hplace : place ≤ n.size + 2) : Thread.Whole ⟨place, wait, kept⟩ n subject offset where
  first := Or.inr (Or.inl hkept)
  last hlast := absurd hlast (by simp only; omega)

/-- Behind the first condition a thread keeps the beginning of the subject. -/
theorem Thread.Whole.kept (h : t.Whole n subject offset) (hplace : 2 ≤ t.place) :
    t.slots[0]? = some (some 0) := by
  rcases h.first with hzero | hkept | ⟨hone, -⟩
  · omega
  · exact hkept
  · omega

/-- What the instructions of an anchored pattern's program that neither keep an offset, check a
condition nor end it lead to: they stand inside the pattern. -/
theorem Thread.Whole.goTo (h : t.Whole n subject offset) {i : Instruction}
    (hi : n.anchored.program[t.place]? = some i) (hsave : ∀ slot, i ≠ .save slot)
    (hassertion : ∀ a, i ≠ .assertion a) (haccept : i ≠ .accept) :
    t.slots[0]? = some (some 0) ∧ t.place + 1 ≤ n.size + 2 ∧
      ∀ target ∈ i.targets, target ≤ n.size + 2 := by
  rcases Node.cases_program_anchored hi with ⟨-, rfl⟩ | ⟨-, rfl⟩ | ⟨hle, hlt, hmem⟩ | ⟨-, rfl⟩ |
    ⟨-, rfl⟩ | ⟨-, rfl⟩
  · exact absurd rfl (hsave 0)
  · exact absurd rfl (hassertion .textStart)
  · refine ⟨h.kept hle, hlt, fun target ht => ?_⟩
    have hbound := (Node.fitsIn_of_mem_code n hmem).le_bound target ht
    omega
  · exact absurd rfl (hassertion .textEnd)
  · exact absurd rfl (hsave 1)
  · exact absurd rfl haccept

/-- Passing a condition leaves a thread whole: the first one holds at the beginning of the subject
only, the last one at its end only. -/
theorem Thread.Whole.assertion (h : t.Whole n subject offset) (hend : offset ≤ subject.length)
    (hwait : t.wait = 0) {a : Assertion} (hi : n.anchored.program[t.place]? = some (.assertion a))
    (hmeets : (Position.behind subject offset).meets a = true) :
    Thread.Whole { t with place := t.place + 1 } n subject offset := by
  rcases Node.cases_program_anchored hi with ⟨-, heq⟩ | ⟨hplace, heq⟩ | ⟨hle, hlt, -⟩ |
    ⟨hplace, heq⟩ | ⟨-, heq⟩ | ⟨-, heq⟩
  · cases heq
  · -- The first condition: the offset that has just been kept is the beginning of the subject.
    cases heq
    have hzero : offset = 0 := by
      have hnil : (subject.take offset).reverse = [] := List.isEmpty_iff.1 hmeets
      have hlength := congrArg List.length hnil
      rw [List.length_reverse, List.length_take, List.length_nil] at hlength
      omega
    have hkept : t.slots[0]? = some (some 0) := by
      rcases h.first with hplace' | hkept | ⟨-, -, hkept⟩
      · omega
      · exact hkept
      · rw [hkept, hzero]
    exact .goOn hkept (by omega)
  · exact .goOn (h.kept hle) hlt
  · -- The last condition: nothing of the subject is left.
    cases heq
    have hlength : offset = subject.length := by
      have hnil : subject.drop offset = [] := List.isEmpty_iff.1 hmeets
      have hle := List.drop_eq_nil_iff.1 hnil
      omega
    exact ⟨Or.inr (Or.inl (h.kept (by omega))), fun _ => ⟨hwait, hlength⟩⟩
  · cases heq
  · cases heq

/-- Keeping an offset leaves a thread whole: the first slot is set at the beginning only. -/
theorem Thread.Whole.save (h : t.Whole n subject offset) (hn : n.Numbered)
    (hlength : 0 < t.slots.length) {slot : Nat}
    (hi : n.anchored.program[t.place]? = some (.save slot)) :
    Thread.Whole ⟨t.place + 1, 0, t.slots.set slot (some offset)⟩ n subject offset := by
  have hother : slot ≠ 0 → (t.slots.set slot (some offset))[0]? = t.slots[0]? := fun hslot =>
    List.getElem?_set_ne hslot
  rcases Node.cases_program_anchored hi with ⟨hplace, heq⟩ | ⟨-, heq⟩ | ⟨hle, hlt, hmem⟩ |
    ⟨-, heq⟩ | ⟨hplace, heq⟩ | ⟨-, heq⟩
  · cases heq
    refine ⟨Or.inr (Or.inr ⟨by rw [hplace], rfl, ?_⟩), fun hlast => ?_⟩
    · exact List.getElem?_set_self hlength
    · simp only at hlast
      omega
  · cases heq
  · -- The groups of the pattern have slots of their own.
    have hslot := (Node.fitsIn_of_mem_code n hmem).two_le hn slot rfl
    exact .goOn ((hother (by omega)).trans (h.kept hle)) hlt
  · cases heq
  · cases heq
    have hkept := (hother (by decide)).trans (h.kept (by omega))
    exact ⟨Or.inr (Or.inl hkept), fun _ => ⟨rfl, (h.last (by omega)).2⟩⟩
  · cases heq

/-- The threads of an anchored pattern are whole. -/
theorem whole_of_reaches (hn : n.Numbered) (hslots : 2 ≤ slots)
    (h : Reaches n.anchored.program slots subject start offset t) : t.Whole n subject offset := by
  -- Only the conditions at the two ends and the first slot matter; the rest stays inside.
  induction h with
  | start => exact ⟨Or.inl rfl, fun hlast => by simp at hlast⟩
  | assertion hreaches hwait hi hmeets ih =>
    exact ih.assertion (spans_of_reaches hslots hreaches).2.1 hwait hi hmeets
  | save hreaches _ hi ih =>
    have hlength := (spans_of_reaches hslots hreaches).2.2.length_eq
    exact ih.save hn (by omega) hi
  | jump _ _ hi ih =>
    obtain ⟨hkept, -, htargets⟩ := ih.goTo hi (by simp) (by simp) (by simp)
    exact .goOn hkept (htargets _ (by simp [Instruction.targets]))
  | first _ _ hi ih =>
    obtain ⟨hkept, -, htargets⟩ := ih.goTo hi (by simp) (by simp) (by simp)
    exact .goOn hkept (htargets _ (by simp [Instruction.targets]))
  | second _ _ hi ih =>
    obtain ⟨hkept, -, htargets⟩ := ih.goTo hi (by simp) (by simp) (by simp)
    exact .goOn hkept (htargets _ (by simp [Instruction.targets]))
  | pass _ _ hpass ih =>
    rcases cases_of_pass hpass with ⟨wait, hwait, rfl⟩ | ⟨set, c, w, -, hi, -, rfl⟩ |
      ⟨set, -, hi, -, rfl⟩
    · -- A thread that waits has taken a character, so that it is inside the pattern.
      refine ⟨?_, fun hlast => ?_⟩
      · rcases ih.first with hzero | hkept | ⟨-, hzero, -⟩
        · exact Or.inl hzero
        · exact Or.inr (Or.inl hkept)
        · omega
      · have hzero := (ih.last hlast).1
        omega
    all_goals
      obtain ⟨hkept, hplace, -⟩ := ih.goTo hi (by simp) (by simp) (by simp)
      exact .goOn hkept hplace

namespace Matcher

/-- A match of an anchored pattern spans the subject. -/
theorem span_of_find? {m : Matcher} {found : Match} (hm : m.program = n.anchored.program)
    (hn : n.Numbered) (h : m.find? (.behind subject 0) 0 = some found) :
    found.span? 0 = some (0, subject.length) := by
  obtain ⟨kept, hsearch, rfl⟩ := Option.map_eq_some_iff.1 h
  obtain ⟨place, t, hreaches, -, haccept, rfl⟩ :=
    accepts_of_search (Nat.zero_le subject.length) hsearch
  rw [hm] at hreaches haccept
  have hlast : t.place = n.size + 4 := by
    rcases Node.cases_program_anchored haccept with ⟨-, heq⟩ | ⟨-, heq⟩ | ⟨-, -, hmem⟩ | ⟨-, heq⟩ |
      ⟨-, heq⟩ | ⟨hplace, -⟩
    · cases heq
    · cases heq
    · exact absurd rfl (Node.fitsIn_of_mem_code n hmem).ne_accept
    · cases heq
    · cases heq
    · exact hplace
  have hwhole := whole_of_reaches hn (by omega) hreaches
  have hspans := (spans_of_reaches (by omega) hreaches).2.2
  have hsize : n.anchored.size = n.size + 2 := by
    simp only [Node.anchored, Node.size]
    omega
  have hfirst := hwhole.kept (by omega)
  have hend := (hspans.last (by omega)).2
  rw [(hwhole.last (by omega)).2] at hend
  unfold Match.span?
  rw [Nat.mul_zero, hfirst, hend]
  rfl

/-- The matcher of a pattern in a group between the marks for the beginning and the end of a line,
where that is a pattern: it runs the program of the pattern between the two ends of the subject. -/
theorem ofChars?_anchored (subject : Subject) {pattern : List Char} {p q : Parsed}
    (hp : parse? pattern = some p)
    (hq : parse? (['^', '(', '?', ':'] ++ pattern ++ [')', '$']) = some q) :
    ofChars? subject (['^', '(', '?', ':'] ++ pattern ++ [')', '$']) =
      (Node.ofSyntax? subject flags p.tree).bind fun (n, _) =>
        if n.anchored.fits then some ⟨n.anchored.program, p.groups, p.names⟩ else none := by
  obtain ⟨htree, hgroups, hnames⟩ := parse?_anchored hp hq
  rw [ofChars?, hq, Option.bind_eq_bind, Option.bind_some, htree, hgroups, hnames]
  -- The tree has three parts: a mark, the group, and a mark.
  have hread : Node.ofSyntax? subject flags
      (.sequence [.mark .lineStart, .group (.plain []) p.tree, .mark .lineEnd]) =
        (Node.ofSyntax? subject flags p.tree).map fun (n, _) => (n.anchored, flags) := by
    have happly : flags.apply [] = flags := rfl
    simp only [Node.ofSyntax?, Node.ofSequence?, Option.bind_eq_bind, Option.bind_some, happly]
    cases Node.ofSyntax? subject flags p.tree <;> rfl
  rw [hread]
  cases Node.ofSyntax? subject flags p.tree <;> rfl

/-- A pattern in a group between the marks for the beginning and the end of a line is read as the
pattern between the two ends of the subject. -/
theorem exists_anchored {subject : Subject} {pattern : List Char} {p : Parsed} {m : Matcher}
    (hp : parse? pattern = some p)
    (hm : ofChars? subject (['^', '(', '?', ':'] ++ pattern ++ [')', '$']) = some m) :
    ∃ n f, Node.Reads subject flags p.tree n f ∧
      m = ⟨n.anchored.program, p.groups, p.names⟩ := by
  obtain ⟨q, hq, -⟩ := Option.bind_eq_some_iff.1 hm
  rw [ofChars?_anchored subject hp hq] at hm
  obtain ⟨⟨n, f⟩, hn, hm⟩ := Option.bind_eq_some_iff.1 hm
  obtain ⟨-, hm⟩ := Option.ite_none_right_eq_some.1 hm
  exact ⟨n, f, Node.reads_of_ofSyntax? p.tree hn, (Option.some.inj hm).symm⟩

end Matcher

end BrowserShell.Pattern
