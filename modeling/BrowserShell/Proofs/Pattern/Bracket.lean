import BrowserShell.Proofs.Pattern.Token

/-!
# Classes inside a group

A class in brackets ends at its last bracket, so that it is read the same way with the end of a
group behind the text (`keepsReading_bracketed?`).
-/

namespace BrowserShell.Pattern.Parser

variable {v : Bool} {c : Char} {cs rest : List Char}

/-! ## The beginning of a class -/

/-- The end of a group has no colon, so that a text is cut at one with and without it. -/
theorem cut?_append (cs : List Char) :
    Text.cut? ':' (cs ++ closing) =
      (Text.cut? ':' cs).map fun (a, b) => (a, b ++ closing) := by
  induction cs with
  | nil => rfl
  | cons c cs ih =>
    rw [List.cons_append, Text.cut?, Text.cut?, ih]
    split
    · rfl
    · simp [Option.map_map, Function.comp_def]

/-- Whether a caret follows, and what is behind it. -/
def caret : List Char → Bool × List Char
  | '^' :: rest => (true, rest)
  | rest => (false, rest)

/-- The end of a group has no caret. -/
theorem caret_append (cs : List Char) :
    caret (cs ++ closing) = ((caret cs).1, (caret cs).2 ++ closing) := by
  cases cs with
  | nil => rfl
  | cons c r =>
    by_cases hc : c = '^'
    · subst hc
      rfl
    · simp [caret, hc]

/-- The ASCII class whose name follows. -/
def named? (negated : Bool) (cs : List Char) : Option (SetSyntax × List Char) :=
  match Text.cut? ':' cs with
  | some (name, ']' :: rest) =>
    (Class.ascii? (String.ofList name)).map fun ranges => (.ascii negated ranges, rest)
  | _ => none

/-- The name of an ASCII class ends at its bracket. -/
theorem named?_append (negated : Bool) (cs : List Char) :
    named? negated (cs ++ closing) =
      (named? negated cs).map fun (s, rest) => (s, rest ++ closing) := by
  unfold named?
  rw [cut?_append]
  match Text.cut? ':' cs with
  | none => rfl
  | some (name, []) => rfl
  | some (name, c :: r) =>
    by_cases hc : c = ']'
    · subst hc
      simp [Option.map_map, Function.comp_def]
    · simp [hc]

/-- An ASCII class is read or not whether the end of a group follows or not. -/
theorem asciiClass?_append (cs : List Char) :
    asciiClass? (cs ++ closing) = (asciiClass? cs).map fun (s, rest) => (s, rest ++ closing) := by
  cases cs with
  | nil => rfl
  | cons c r =>
    by_cases hc : c = ':'
    · subst hc
      have hcolon : ∀ r, asciiClass? (':' :: r) = named? (caret r).1 (caret r).2 := fun _ => rfl
      rw [List.cons_append, hcolon, hcolon, caret_append, named?_append]
    · simp [asciiClass?, hc]

/-- Hyphens behind which something is left are the same inside a group. -/
theorem hyphens_append {fuel fuel' : Nat} {read items : List SetSyntax} (hlen : cs.length < fuel)
    (hle : fuel ≤ fuel') (h : hyphens v read fuel cs = (items, c :: rest)) :
    hyphens v read fuel' (cs ++ closing) = (items, c :: (rest ++ closing)) := by
  -- Each hyphen makes the text shorter, so that the fuel does not run out before the hyphens do.
  induction fuel generalizing fuel' cs read with
  | zero => omega
  | succ fuel ih =>
    obtain ⟨k, rfl⟩ : ∃ k, fuel' = k + 1 := ⟨fuel' - 1, by omega⟩
    have hk : fuel ≤ k := by omega
    rw [hyphens] at h ⊢
    split at h
    · rename_i r hskip
      have hshort : r.length < fuel := by
        have hlength := length_skip_le v cs
        rw [hskip, List.length_cons] at hlength
        omega
      rw [skip_append hskip]
      exact ih hshort hk h
    · rename_i r hne
      obtain ⟨rfl, hskip⟩ := Prod.mk.inj h
      rw [skip_append hskip]
      split
      · simp_all
      · rfl

/-- The items that stand for themselves at the beginning of a class, and the rest. -/
def firstItems? (v negated : Bool) (cs : List Char) : Option (Bool × List SetSyntax × List Char) :=
  match hyphens v [] (cs.length + 1) cs with
  | (_, []) => none
  | ([], ']' :: rest) =>
    if skip v rest = [] then none else some (negated, [.literal ⟨']', false⟩], rest)
  | (items, cs) => some (negated, items, cs)

/-- Behind the first items of a class there is something left, so that they are the same inside a
group. -/
theorem firstItems?_append {negated negated' : Bool} {items : List SetSyntax}
    (h : firstItems? v negated cs = some (negated', items, rest)) :
    firstItems? v negated (cs ++ closing) = some (negated', items, rest ++ closing) := by
  have hhyphens : ∀ {items c r}, hyphens v [] (cs.length + 1) cs = (items, c :: r) →
      hyphens v [] ((cs ++ closing).length + 1) (cs ++ closing) = (items, c :: (r ++ closing)) :=
    fun h => hyphens_append (Nat.lt_succ_self _) (by simp) h
  unfold firstItems? at h ⊢
  split at h
  · cases h
  · rename_i r hread
    simp only [hhyphens hread]
    split at h
    · cases h
    · rename_i hskip
      cases h
      obtain ⟨c, r, hskip⟩ := List.exists_cons_of_ne_nil hskip
      simp [skip_append hskip]
  · rename_i items' r hne hbracket hread
    cases h
    obtain ⟨c, r, rfl⟩ := List.exists_cons_of_ne_nil hne
    rw [hhyphens hread]
    split <;> simp_all

/-- So is the whole beginning of a class. -/
theorem openSet?_append {negated : Bool} {items : List SetSyntax}
    (h : openSet? v cs = some (negated, items, rest)) :
    openSet? v (cs ++ closing) = some (negated, items, rest ++ closing) := by
  have heq : ∀ cs, openSet? v cs = firstItems? v (caret (skip v cs)).1 (caret (skip v cs)).2 :=
    fun _ => rfl
  rw [heq] at h ⊢
  cases hskip : skip v cs with
  | nil =>
    rw [hskip] at h
    cases v <;> cases h
  | cons c r =>
    rw [hskip] at h
    rw [skip_append hskip, ← List.cons_append, caret_append]
    exact firstItems?_append h

/-! ## Items -/

/-- An item is one character or what a backslash begins. -/
theorem keepsReading_setItem? : KeepsReading (setItem? v) := by
  intro cs e rest h
  cases cs with
  | nil => cases h
  | cons c r =>
    by_cases hc : c = '\\'
    · subst hc
      exact keepsReading_escape? h
    · have hitem : ∀ r, setItem? v (c :: r) = some (.literal ⟨c, false⟩, r) := by
        intro r
        simp [setItem?]
      rw [hitem] at h
      cases h
      exact hitem _

/-- An item that stands alone is followed by the same text. -/
theorem alone?_append {item : Escape} {left : List Char} {s : SetSyntax}
    (h : (do return (← alone? item, left)) = some (s, rest)) :
    (do return (← alone? item, left ++ closing)) = some (s, rest ++ closing) := by
  obtain ⟨s', hs, h⟩ := Option.bind_eq_some_iff.1 h
  cases h
  rw [hs]
  rfl

/-- Behind an item of a class there is something left, so that it is alone or the beginning of a
range inside a group as well. -/
theorem keepsReading_setRange? : KeepsReading (setRange? v) := by
  intro cs s rest h
  obtain ⟨⟨item, r⟩, hitem, h⟩ := Option.bind_eq_some_iff.1 h
  unfold setRange?
  rw [keepsReading_setItem? hitem]
  dsimp only [Option.bind_eq_bind, Option.bind_some] at h ⊢
  split at h
  · cases h
  · rename_i r' hskip
    simp only [skip_append hskip]
    split at h
    · cases h
    · rename_i c cs hskip'
      simp only [skip_append hskip']
      split at h
      · -- A hyphen before the end of the class or another hyphen makes no range.
        rename_i hc
        rw [if_pos hc]
        exact alone?_append h
      · rename_i hc
        rw [if_neg hc]
        obtain ⟨⟨last, left⟩, hlast, h⟩ := Option.bind_eq_some_iff.1 h
        rw [← List.cons_append, keepsReading_setItem? hlast]
        dsimp only [Option.bind_eq_bind, Option.bind_some] at h ⊢
        split at h
        · split at h
          · rename_i hle
            cases h
            rw [if_pos hle]
            rfl
          · cases h
        · cases h
  · rename_i hne hhyphen
    obtain ⟨c, cs, hskip⟩ := List.exists_cons_of_ne_nil hne
    rw [hskip] at h
    rw [skip_append hskip]
    split
    · simp_all
    · simp_all
    · exact alone?_append h

/-- No operator comes about from a first half of it at the end of the text. -/
theorem append_ne_pair (h : ∀ tail, cs = c :: c :: tail → False) (hc : c ≠ ')') (tail : List Char) :
    cs ++ closing = c :: c :: tail → False := by
  intro heq
  match cs with
  | [] => cases heq
  | [d] =>
    cases heq
    exact hc rfl
  | d :: e :: r =>
    cases heq
    exact h r rfl

/-- A class ends at its last bracket. -/
theorem set?_append {fuel fuel' : Nat} {stack : List SetFrame} {items : List SetSyntax}
    {negated : Bool} {set : SetSyntax} (hle : fuel ≤ fuel')
    (h : set? v fuel stack items cs = some (negated, set, rest)) :
    set? v fuel' stack items (cs ++ closing) = some (negated, set, rest ++ closing) := by
  induction fuel generalizing fuel' stack items cs with
  | zero => cases h
  | succ fuel ih =>
    obtain ⟨k, rfl⟩ : ∃ k, fuel' = k + 1 := ⟨fuel' - 1, by omega⟩
    have hk : fuel ≤ k := by omega
    unfold set? at h ⊢
    rcases hclosed : closeOperator (.inItems items.reverse) stack with ⟨left, stack'⟩
    rw [hclosed] at h
    dsimp only at h ⊢
    split at h
    · cases h
    · -- A bracket opens an ASCII class or one with items of its own.
      rename_i r hskip
      simp only [skip_append hskip, asciiClass?_append]
      cases hclass : asciiClass? r with
      | some result =>
        rw [hclass] at h
        exact ih hk h
      | none =>
        rw [hclass] at h
        obtain ⟨⟨negated', inner, r'⟩, hopen, h⟩ := Option.bind_eq_some_iff.1 h
        simp only [Option.map_none, openSet?_append hopen, Option.bind_eq_bind,
          Option.bind_some]
        exact ih hk h
    · -- The other bracket closes the class or the one around it.
      rename_i r hskip
      simp only [skip_append hskip]
      split at h
      · cases h
        rfl
      · exact ih hk h
      · cases h
    · rename_i r hskip
      simp only [skip_append hskip, List.cons_append]
      exact ih hk h
    · rename_i r hskip
      simp only [skip_append hskip, List.cons_append]
      exact ih hk h
    · rename_i r hskip
      simp only [skip_append hskip, List.cons_append]
      exact ih hk h
    · rename_i hnil hopen hclose hand hminus htilde
      obtain ⟨⟨item, r'⟩, hitem, h⟩ := Option.bind_eq_some_iff.1 h
      obtain ⟨c, r, hskip⟩ := List.exists_cons_of_ne_nil hnil
      rw [hskip] at hopen hclose hand hminus htilde hitem
      rw [skip_append hskip, ← List.cons_append]
      have hread := keepsReading_setRange? hitem
      split
      case h_4 heq => exact (append_ne_pair hand (by decide) _ heq).elim
      case h_5 heq => exact (append_ne_pair hminus (by decide) _ heq).elim
      case h_6 heq => exact (append_ne_pair htilde (by decide) _ heq).elim
      case h_7 =>
        simp only [hread, Option.bind_eq_bind, Option.bind_some]
        exact ih hk h
      all_goals simp_all

/-- A class in brackets is the same inside a group. -/
theorem keepsReading_bracketed? : KeepsReading (bracketed? v) := by
  intro cs s rest h
  obtain ⟨⟨negated, items, r⟩, hopen, h⟩ := Option.bind_eq_some_iff.1 h
  obtain ⟨⟨negated', set, r'⟩, hset, h⟩ := Option.bind_eq_some_iff.1 h
  cases h
  have hread : set? v ((cs ++ closing).length + 1) [.bracket [] negated] items (r ++ closing) =
      some (negated', set, rest ++ closing) := set?_append (by simp) hset
  simp only [bracketed?, openSet?_append hopen, hread, Option.bind_eq_bind, Option.bind_some]
  rfl

end BrowserShell.Pattern.Parser
