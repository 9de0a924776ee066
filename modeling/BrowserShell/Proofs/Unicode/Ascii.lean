import BrowserShell.Unicode.DomainMap
import BrowserShell.Unicode.Normal
import Mathlib.Data.List.TakeWhile

/-!
# ASCII in the tables

The tables of characters are too long to be evaluated as a whole, but ASCII stands at their
beginning: what bisection finds for a code point is one of the entries that begin before the next
ones (`RangeMap.exists_of_find?`), and these are read off the first line of a table. A text of ASCII
without capitals is mapped to itself (`domainMap?_of_lt`) and is in the composed normal form
(`normal_of_ascii`).
-/

namespace BrowserShell.Unicode

/-! ## The beginning of a table -/

namespace RangeMap

variable {α : Type}

/-- Whether the ranges of a table begin one after the other. -/
def Rising (es : List (Range × α)) : Prop := es.Pairwise fun e e' => e.1.first < e'.1.first

/-- What bisection finds stands in the table. -/
theorem exists_of_search {entries : Array (Range × α)} {n fuel lo hi : Nat} {a : α}
    (h : search entries n fuel lo hi = some a) :
    ∃ r, (r, a) ∈ entries.toList ∧ r.holds n = true := by
  induction fuel generalizing lo hi with
  | zero => cases h
  | succ fuel ih =>
    rw [search] at h
    split at h
    · dsimp only at h
      split at h
      · cases h
      · rename_i r b hentry
        split at h
        · exact ih h
        · split at h
          · exact ih h
          · rename_i hfirst hlast
            cases h
            refine ⟨r, Array.mem_toList_iff.2 (Array.mem_of_getElem? hentry), ?_⟩
            simp only [Range.holds, Bool.and_eq_true, decide_eq_true_eq]
            omega
    · cases h

/-- In a rising table the entries that begin before a code point stand at the beginning. -/
theorem mem_takeWhile_of_rising {es : List (Range × α)} (h : Rising es) {e : Range × α}
    (he : e ∈ es) {bound : Nat} (hbound : e.1.first < bound) :
    e ∈ es.takeWhile fun e => e.1.first < bound := by
  induction es with
  | nil => cases he
  | cons e' es ih =>
    obtain ⟨hfirst, hrest⟩ := List.pairwise_cons.1 h
    rcases List.mem_cons.1 he with rfl | he
    · rw [List.takeWhile_cons_of_pos (by simpa using hbound)]
      exact List.mem_cons_self
    · have hlt := (hfirst e he).trans hbound
      rw [List.takeWhile_cons_of_pos (by simpa using hlt)]
      exact List.mem_cons_of_mem _ (ih hrest he)

/-- What is found for a code point in a rising table is an entry at its beginning, before any code
point above. -/
theorem exists_of_find? {m : RangeMap α} (h : Rising m.entries.toList) {bound n : Nat}
    (hn : n < bound) {p : Range × α → Bool}
    (hp : (m.entries.toList.takeWhile fun e => e.1.first < bound).all p = true) {a : α}
    (hfind : m.find? n = some a) : ∃ r, r.holds n = true ∧ p (r, a) = true := by
  obtain ⟨r, hmem, hr⟩ := exists_of_search hfind
  have hfirst : r.first < bound := by
    simp only [Range.holds, Bool.and_eq_true, decide_eq_true_eq] at hr
    omega
  exact ⟨r, hr, List.all_eq_true.1 hp _ (mem_takeWhile_of_rising h hmem hfirst)⟩

/-- The entries that are read from a code point on begin there or later. -/
theorem le_first_of_mem {start : Nat} {ns : List Nat} {e : Range × Nat}
    (he : e ∈ entriesFrom start ns) : start ≤ e.1.first := by
  fun_induction entriesFrom start ns with
  | case1 start gap more value rest ih =>
    rcases List.mem_cons.1 he with rfl | he
    · exact Nat.le_add_right _ _
    · have := ih he
      omega
  | case2 => cases he

/-- The entries of a text are in order. -/
theorem rising_entriesFrom (start : Nat) (ns : List Nat) : Rising (entriesFrom start ns) := by
  fun_induction entriesFrom start ns with
  | case1 start gap more value rest ih =>
    refine List.pairwise_cons.2 ⟨fun e he => ?_, ih⟩
    have := le_first_of_mem he
    dsimp only
    omega
  | case2 => exact .nil

/-- What is found for a code point in the table of a text is an entry of its first line, if that
reaches to a code point above. -/
theorem exists_of_find?_ofText {line : String} {lines : List String} {bound n : Nat}
    (hn : n < bound) {p : Range × Nat → Bool}
    (hp : ∀ rest, ((entriesFrom 0 (numbersFrom 0 (line.toList ++ rest))).takeWhile
      fun e => e.1.first < bound).all p = true) {a : Nat}
    (hfind : (ofText (String.join (line :: lines))).find? n = some a) :
    ∃ r, r.holds n = true ∧ p (r, a) = true := by
  refine exists_of_find? (rising_entriesFrom 0 _) hn ?_ hfind
  unfold ofText numbers
  rw [String.join_cons, String.toList_append]
  exact hp _

end RangeMap

/-- A character below the first mark has no combining class. -/
theorem combiningClass_of_lt {n : Nat} (h : n < 0x300) : combiningClass n = 0 := by
  unfold combiningClass
  cases hfind : combiningClasses.find? n with
  | none => rfl
  | some k =>
    obtain ⟨_, -, hno⟩ := RangeMap.exists_of_find?_ofText h
      (p := fun _ => false) (fun rest => rfl) hfind
    cases hno

/-- Whatever becomes of its characters, a range of the table of domain names begins behind the one
before it. -/
theorem exists_cons_domainActionsFrom (start fuel gap more kind : Nat) (rest : List Nat) :
    ∃ action rest', domainActionsFrom start (fuel + 1) (gap :: more :: kind :: rest) =
      (⟨start + gap, start + gap + more⟩, action) ::
        domainActionsFrom (start + gap + more + 1) fuel rest' := by
  match kind, rest with
  | 0, rest => exact ⟨_, rest, rfl⟩
  | 1, rest => exact ⟨_, rest, rfl⟩
  | 2, far :: rest => exact ⟨_, rest, rfl⟩
  | 2, [] => exact ⟨_, _, rfl⟩
  | kind + 3, rest => exact ⟨_, _, rfl⟩

/-- The entries of the table of domain names are in order, and begin where they are read from or
later. -/
theorem rising_domainActionsFrom (start fuel : Nat) (ns : List Nat) :
    RangeMap.Rising (domainActionsFrom start fuel ns) ∧
      ∀ e ∈ domainActionsFrom start fuel ns, start ≤ e.1.first := by
  induction fuel generalizing start ns with
  | zero => exact ⟨.nil, by simp [domainActionsFrom]⟩
  | succ fuel ih =>
    match ns with
    | [] | [_] | [_, _] => exact ⟨.nil, by simp [domainActionsFrom]⟩
    | gap :: more :: kind :: rest =>
      obtain ⟨action, rest', heq⟩ := exists_cons_domainActionsFrom start fuel gap more kind rest
      obtain ⟨hrising, hfirst⟩ := ih (start + gap + more + 1) rest'
      rw [heq]
      refine ⟨List.pairwise_cons.2 ⟨fun e he => ?_, hrising⟩,
        List.forall_mem_cons.2 ⟨Nat.le_add_right _ _, fun e he => ?_⟩⟩
      · have := hfirst e he
        dsimp only
        omega
      · have := hfirst e he
        omega

theorem rising_domainActions : RangeMap.Rising domainActions.entries.toList := by
  unfold domainActions
  dsimp only
  exact (rising_domainActionsFrom _ _ _).1

/-- The capitals are the first entry of the table of domain names, and the second one begins behind
the visible ASCII characters. -/
theorem capitals_of_domainActions :
    (domainActions.entries.toList.takeWhile fun e => e.1.first < 0x7F).all
      (fun e => e.1 = ⟨0x41, 0x5A⟩) = true := by
  unfold domainActions numbers
  rw [String.join_cons, String.toList_append]
  generalize (String.join _).toList = rest
  dsimp only
  generalize List.length _ = fuel
  rcases fuel with _ | _ | fuel
  · rfl
  · rfl
  · rfl

/-- In a domain name a visible ASCII character stays as it is, unless it is a capital. -/
theorem domainMap?_of_lt {n : Nat} (h : n < 0x7F) (hcapital : ¬ (0x41 ≤ n ∧ n ≤ 0x5A)) :
    domainMap? n = some [n] := by
  have hnone : domainActions.find? n = none := by
    rw [Option.eq_none_iff_forall_ne_some]
    intro action hfind
    obtain ⟨r, hr, hcapitals⟩ :=
      RangeMap.exists_of_find? rising_domainActions h capitals_of_domainActions hfind
    simp only [decide_eq_true_eq] at hcapitals
    simp only [hcapitals, Range.holds, Bool.and_eq_true, decide_eq_true_eq] at hr
    exact hcapital hr
  unfold domainMap?
  rw [hnone]
  rfl

/-! ## Composed normal form -/

/-- ASCII is not decomposed. -/
theorem flatMap_decompose {ns : List Nat} (h : ∀ n ∈ ns, n < 0x80) : ns.flatMap decompose = ns := by
  induction ns with
  | nil => rfl
  | cons n ns ih =>
    obtain ⟨hn, hns⟩ := List.forall_mem_cons.1 h
    have hdecompose : decompose n = [n] := if_pos (hn.trans (by decide))
    rw [List.flatMap_cons, hdecompose, ih hns]
    rfl

/-- ASCII is in the order of the classes. -/
theorem ordered_of_ascii {ns : List Nat} (h : ∀ n ∈ ns, n < 0x80) : ordered [] ns = ns := by
  induction ns with
  | nil => simp [ordered, ordered.sorted]
  | cons n ns ih =>
    obtain ⟨hn, hns⟩ := List.forall_mem_cons.1 h
    rw [ordered, if_pos (combiningClass_of_lt (hn.trans (by decide))), ih hns]
    simp [ordered.sorted]

/-- ASCII does not compose with the character before it. -/
theorem compose?_of_lt (s : Nat) {n : Nat} (h : n < 0x300) : compose? s n = none := by
  unfold compose?
  rw [if_pos h]

/-- A starter that does not compose with the one before it is kept. -/
theorem composed_cons {start : Option Nat} {n : Nat} (ns : List Nat)
    (hcompose : (start.bind fun s => compose? s n) = none) (hclass : combiningClass n = 0) :
    composed start [] (n :: ns) = start.toList ++ composed (some n) [] ns := by
  rw [composed]
  simp [hcompose, hclass]

/-- ASCII behind a starter does not compose. -/
theorem composed_of_ascii (start : Option Nat) {ns : List Nat} (h : ∀ n ∈ ns, n < 0x80) :
    composed start [] ns = start.toList ++ ns := by
  induction ns generalizing start with
  | nil => rfl
  | cons n ns ih =>
    obtain ⟨hn, hns⟩ := List.forall_mem_cons.1 h
    have hclass : combiningClass n = 0 := combiningClass_of_lt (hn.trans (by decide))
    have hcompose : (start.bind fun s => compose? s n) = none := by
      cases start with
      | none => rfl
      | some s => exact compose?_of_lt s (hn.trans (by decide))
    rw [composed_cons ns hcompose hclass, ih (some n) hns]
    rfl

/-- ASCII is in the composed normal form. -/
theorem normal_of_ascii {ns : List Nat} (h : ∀ n ∈ ns, n < 0x80) : normal ns = ns := by
  rw [normal, flatMap_decompose h, ordered_of_ascii h, composed_of_ascii none h]
  rfl

end BrowserShell.Unicode
