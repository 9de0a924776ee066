import BrowserShell.Pattern.Parser

/-!
# Tokens inside a group

What a reader has read of a text stays the same when the end of a group stands behind the text
(`KeepsReading`): the tokens of a pattern end before the text does. Only blanks may reach the end,
and a comment among them then takes the end of the group as well (`skip_closing`).
-/

namespace BrowserShell.Pattern.Parser

/-- What stands behind a pattern in a group before the end of a line: the end of the group, and the
mark. -/
def closing : List Char := [')', '$']

/-- Whether what a reader gives for a text stays the same with the end of a group behind the
text. -/
def KeepsReading {α : Type} (reader : List Char → Option (α × List Char)) : Prop :=
  ∀ {cs x rest}, reader cs = some (x, rest) → reader (cs ++ closing) = some (x, rest ++ closing)

/-- What is made of the result makes no difference. -/
theorem KeepsReading.map {α β : Type} {reader : List Char → Option (α × List Char)}
    (h : KeepsReading reader) (f : α → β) :
    KeepsReading fun cs => (reader cs).map fun read => (f read.1, read.2) := by
  intro cs y rest hread
  obtain ⟨⟨x, rest'⟩, hx, heq⟩ := Option.map_eq_some_iff.1 hread
  cases heq
  dsimp only
  rw [h hx]
  rfl

variable {v : Bool} {c : Char} {cs rest : List Char}

/-! ## Blanks -/

/-- There is nothing behind the blanks of an empty text. -/
theorem skip_nil (v : Bool) : skip v [] = [] := by
  cases v <;> rfl

/-- Skipping blanks makes a text no longer. -/
theorem length_skip_le (v : Bool) (cs : List Char) : (skip v cs).length ≤ cs.length := by
  have hfrom : ∀ inComment, (skipFrom inComment cs).length ≤ cs.length := by
    intro inComment
    fun_induction skipFrom inComment cs <;> grind
  unfold skip
  split
  · exact hfrom false
  · exact Nat.le_refl _

/-- Where something is left of a text, it is left with the end of a group behind it. -/
theorem skipFrom_append {inComment : Bool} (h : skipFrom inComment cs = c :: rest) :
    skipFrom inComment (cs ++ closing) = c :: (rest ++ closing) := by
  fun_induction skipFrom inComment cs with
  | case1 => cases h
  | case2 d cs ih =>
    rw [List.cons_append, skipFrom]
    simpa using ih h
  | case3 inComment d cs hc hb ih =>
    rw [List.cons_append, skipFrom, if_neg hc, if_pos hb]
    exact ih h
  | case4 inComment cs hc hb ih =>
    rw [List.cons_append, skipFrom, if_neg hc, if_neg hb, if_pos rfl]
    exact ih h
  | case5 inComment d cs hc hb hd =>
    cases h
    rw [List.cons_append, skipFrom, if_neg hc, if_neg hb, if_neg hd]

/-- The same holds whether blanks are ignored or not. -/
theorem skip_append (h : skip v cs = c :: rest) :
    skip v (cs ++ closing) = c :: (rest ++ closing) := by
  cases v with
  | false => exact congrArg (· ++ closing) h
  | true => exact skipFrom_append h

/-- Where nothing is left of a text, the end of the group is left, or a comment takes it. -/
theorem skipFrom_closing {inComment : Bool} (h : skipFrom inComment cs = []) :
    skipFrom inComment (cs ++ closing) = closing ∨ skipFrom inComment (cs ++ closing) = [] := by
  fun_induction skipFrom inComment cs with
  | case1 inComment => cases inComment <;> decide
  | case2 d cs ih =>
    rw [List.cons_append, skipFrom]
    simpa using ih h
  | case3 inComment d cs hc hb ih =>
    rw [List.cons_append, skipFrom, if_neg hc, if_pos hb]
    exact ih h
  | case4 inComment cs hc hb ih =>
    rw [List.cons_append, skipFrom, if_neg hc, if_neg hb, if_pos rfl]
    exact ih h
  | case5 => cases h

/-- Only where blanks are ignored can a comment take the end of the group. -/
theorem skip_closing (h : skip v cs = []) :
    skip v (cs ++ closing) = closing ∨ skip v (cs ++ closing) = [] := by
  cases v with
  | false =>
    left
    rw [show cs = [] from h]
    rfl
  | true => exact skipFrom_closing h

/-- Skipping blanks twice is skipping them once. -/
theorem skip_skip (v : Bool) (cs : List Char) : skip v (skip v cs) = skip v cs := by
  have hfrom : ∀ inComment, skipFrom false (skipFrom inComment cs) = skipFrom inComment cs := by
    intro inComment
    fun_induction skipFrom inComment cs with
    | case1 => rfl
    | case2 d cs ih => exact ih
    | case3 inComment d cs hc hb ih => exact ih
    | case4 inComment cs hc hb ih => exact ih
    | case5 inComment d cs hc hb hd =>
      rw [skipFrom, if_neg (by simp), if_neg hb, if_neg hd]
  cases v with
  | false => rfl
  | true => exact hfrom false

/-! ## Escapes -/

/-- A name ends at its brace. -/
theorem untilBrace?_append {fuel fuel' : Nat} {name : List Char} (hle : fuel ≤ fuel')
    (h : untilBrace? v fuel cs = some (name, rest)) :
    untilBrace? v fuel' (cs ++ closing) = some (name, rest ++ closing) := by
  -- The induction is on the fuel; the longer text comes with more of it.
  induction fuel generalizing fuel' cs name with
  | zero => cases h
  | succ fuel ih =>
    obtain ⟨k, rfl⟩ : ∃ k, fuel' = k + 1 := ⟨fuel' - 1, by omega⟩
    have hk : fuel ≤ k := by omega
    rw [untilBrace?] at h ⊢
    split at h
    · cases h
    · rename_i r hskip
      cases h
      rw [skip_append hskip]
      rfl
    · rename_i c r hc hskip
      obtain ⟨⟨name', rest'⟩, hread, heq⟩ := Option.map_eq_some_iff.1 h
      cases heq
      rw [skip_append hskip]
      simp [ih hk hread]

/-- A fixed count of characters is there with and without the end of a group. -/
theorem take?_append {count : Nat} {ds : List Char} (h : take? v count cs = some (ds, rest)) :
    take? v count (cs ++ closing) = some (ds, rest ++ closing) := by
  induction count generalizing cs ds with
  | zero =>
    cases h
    rfl
  | succ count ih =>
    rw [take?] at h ⊢
    split at h
    · cases h
    · rename_i c r hskip
      obtain ⟨⟨ds', rest'⟩, hread, heq⟩ := Option.map_eq_some_iff.1 h
      cases heq
      rw [skip_append hskip]
      simp [ih hread]

/-- A number ends at its brace or has a fixed count of digits. -/
theorem keepsReading_hex? {digits : Nat} (hdigits : 0 < digits) : KeepsReading (hex? v digits) := by
  intro cs l rest h
  unfold hex? at h ⊢
  cases hskip : skip v cs with
  | nil =>
    -- A number without braces has a digit at least.
    obtain ⟨k, rfl⟩ : ∃ k, digits = k + 1 := ⟨digits - 1, by omega⟩
    have hnone : take? v (k + 1) [] = none := by
      cases v <;> rfl
    rw [hskip] at h
    simp [hnone] at h
  | cons c r =>
    rw [hskip] at h
    rw [skip_append hskip]
    by_cases hc : c = '\x7b'
    · -- In braces the number ends at the other brace.
      subst hc
      obtain ⟨⟨ds, r'⟩, hread, h⟩ := Option.bind_eq_some_iff.1 h
      have hread' : untilBrace? v ((r ++ closing).length + 1) (r ++ closing) =
          some (ds, r' ++ closing) := untilBrace?_append (by simp) hread
      simp only [hread', Option.bind_eq_bind, Option.bind_some]
      dsimp only at h
      split at h
      · cases h
      · rename_i hds
        obtain ⟨n, hn, h⟩ := Option.bind_eq_some_iff.1 h
        obtain ⟨c, hc, h⟩ := Option.bind_eq_some_iff.1 h
        cases h
        simp [hds, hn, hc]
    · split at h
      · simp_all
      · split
        · simp_all
        · -- Without them it has a fixed count of digits.
          obtain ⟨⟨ds, r'⟩, hread, h⟩ := Option.bind_eq_some_iff.1 h
          obtain ⟨n, hn, h⟩ := Option.bind_eq_some_iff.1 h
          obtain ⟨c, hc, h⟩ := Option.bind_eq_some_iff.1 h
          cases h
          rw [← List.cons_append, take?_append hread]
          simp [hn, hc]

/-- A property ends at its brace or is one letter. -/
theorem keepsReading_property? {negated : Bool} : KeepsReading (property? v negated) := by
  intro cs e rest h
  unfold property? at h ⊢
  split at h
  · cases h
  · rename_i r hskip
    rw [skip_append hskip]
    obtain ⟨⟨name, r'⟩, hread, h⟩ := Option.bind_eq_some_iff.1 h
    have hread' : untilBrace? v ((r ++ closing).length + 1) (r ++ closing) =
        some (name, r' ++ closing) := untilBrace?_append (by simp) hread
    cases h
    simp only [hread', Option.bind_eq_bind, Option.bind_some]
    rfl
  · rename_i c r hc hskip
    rw [skip_append hskip]
    split at h
    · cases h
    · rename_i hslash
      cases h
      split
      · simp_all
      · simp_all
      · simp_all

/-- The characters of a kind at the beginning of a text, blanks being skipped behind each, and the
rest; at most `fuel` are read. -/
def takeKind (isKind : Char → Bool) (v : Bool) : (fuel : Nat) → List Char → List Char × List Char
  | 0, cs => ([], cs)
  | _, [] => ([], [])
  | fuel + 1, c :: rest =>
    if isKind c then
      let (taken, rest) := takeKind isKind v fuel (skip v rest)
      (c :: taken, rest)
    else ([], c :: rest)

/-- The names of word boundaries have letters and hyphens. -/
theorem letters_eq (fuel : Nat) (cs : List Char) :
    letters v fuel cs = takeKind (fun c => c.isAlpha || c == '-') v fuel cs := by
  induction fuel generalizing cs with
  | zero => rfl
  | succ fuel ih =>
    cases cs with
    | nil => rfl
    | cons c cs => rw [letters, takeKind, ih]

/-- Counts have digits. -/
theorem digits_eq (fuel : Nat) (cs : List Char) :
    digits v fuel cs = takeKind Char.isDigit v fuel cs := by
  induction fuel generalizing cs with
  | zero => rfl
  | succ fuel ih =>
    cases cs with
    | nil => rfl
    | cons c cs => rw [digits, takeKind, ih]

/-- Where something is left behind such characters, they are the same inside a group. -/
theorem takeKind_append {isKind : Char → Bool} {fuel fuel' : Nat} {taken : List Char}
    (hlen : cs.length ≤ fuel) (hle : fuel ≤ fuel')
    (h : takeKind isKind v fuel cs = (taken, c :: rest)) :
    takeKind isKind v fuel' (cs ++ closing) = (taken, c :: (rest ++ closing)) := by
  -- The fuel is enough for the text, so that a character of another kind ends the reading.
  induction fuel generalizing fuel' cs taken with
  | zero =>
    cases List.length_eq_zero_iff.1 (Nat.le_zero.1 hlen)
    simp [takeKind] at h
  | succ fuel ih =>
    obtain ⟨k, rfl⟩ : ∃ k, fuel' = k + 1 := ⟨fuel' - 1, by omega⟩
    have hk : fuel ≤ k := by omega
    cases cs with
    | nil => simp [takeKind] at h
    | cons d cs =>
      rw [takeKind] at h
      rw [List.cons_append, takeKind]
      split at h
      · rename_i hd
        obtain ⟨htaken, hrest⟩ := Prod.mk.inj h
        subst htaken
        rw [if_pos hd]
        -- Something is left behind the character, since more of the text is left in the end.
        cases hskip : skip v cs with
        | nil =>
          rw [hskip] at hrest
          cases fuel <;> simp [takeKind] at hrest
        | cons e r =>
          have hshort : (skip v cs).length ≤ fuel :=
            Nat.le_trans (length_skip_le v cs) (Nat.le_of_succ_le_succ hlen)
          have htake := ih hshort hk (Prod.ext rfl hrest)
          rw [hskip] at htake
          rw [skip_append hskip, ← List.cons_append, htake]
      · rename_i hd
        cases h
        rw [if_neg hd]

/-- A word boundary ends at the brace of its name or without one. -/
theorem keepsReading_wordMark? : KeepsReading (wordMark? v) := by
  intro cs e rest h
  unfold wordMark? at h ⊢
  split at h
  · rename_i rest'
    cases hskip : skip v rest' with
    | nil => simp [hskip] at h
    | cons c r =>
      rw [hskip] at h
      simp only [List.cons_append, skip_append hskip] at h ⊢
      split at h
      · rename_i hc
        rw [if_pos hc]
        -- The name ends at a brace, and the text goes on behind it.
        cases hletters : letters v (r.length + 2) (c :: r) with
        | mk name left =>
          rw [hletters] at h
          dsimp only at h
          split at h
          · rename_i left'
            have hread : letters v ((r ++ closing).length + 2) (c :: r ++ closing) =
                (name, '\x7d' :: (left' ++ closing)) := by
              rw [letters_eq] at hletters ⊢
              exact takeKind_append (by simp) (by simp) hletters
            rw [List.cons_append] at hread
            rw [hread]
            dsimp only
            split at h <;> simp_all
          · cases h
      · rename_i hc
        rw [if_neg hc]
        cases h
        rfl
  · -- The end of a group is no brace.
    rename_i hne
    cases h
    cases cs with
    | nil => rfl
    | cons c r =>
      split
      · simp_all
      · rfl

/-- What a backslash begins ends before the group does. -/
theorem keepsReading_escape? : KeepsReading (escape? v) := by
  intro cs e rest h
  cases cs with
  | nil => cases h
  | cons c r =>
    have hhex : ∀ {digits : Nat}, 0 < digits →
        KeepsReading fun cs => (hex? v digits cs).map fun read => (Escape.literal read.1, read.2) :=
      fun hdigits => KeepsReading.map (keepsReading_hex? hdigits) Escape.literal
    unfold escape? at h ⊢
    dsimp only [List.cons_append] at h ⊢
    split at h
    · exact hhex (by decide) h
    · exact hhex (by decide) h
    · exact hhex (by decide) h
    · exact keepsReading_property? h
    · exact keepsReading_property? h
    -- The other letters, and what follows none of them, are read alone.
    all_goals try (cases h; rfl)
    · exact keepsReading_wordMark? h
    · split at h
      · cases h
        split <;> simp_all
      · cases h

/-! ## Repetitions -/

/-- Where something is left behind the first characters, it is left inside a group. -/
theorem dropWhile_append {p : Char → Bool} (h : cs.dropWhile p = c :: rest) :
    (cs ++ closing).dropWhile p = c :: (rest ++ closing) := by
  rw [List.dropWhile_append, h]
  rfl

/-- A count behind which something is left is the same inside a group. -/
theorem count_append {n : Option Nat} (h : count v cs = (n, c :: rest)) :
    count v (cs ++ closing) = (n, c :: (rest ++ closing)) := by
  unfold count at h ⊢
  simp only [digits_eq] at h ⊢
  -- Something is left behind the count, so something was left after each step.
  cases hdigits : takeKind Char.isDigit v (cs.length + 1) (cs.dropWhile Class.isBlank) with
  | mk ds r =>
    rw [hdigits] at h
    obtain ⟨hn, hrest⟩ := Prod.mk.inj h
    have hblanks : r.dropWhile Class.isBlank ≠ [] := by
      intro hnil
      simp only [hnil, skip_nil] at hrest
      cases hrest
    obtain ⟨d, left, hd⟩ := List.exists_cons_of_ne_nil hblanks
    obtain ⟨e, behind, rfl⟩ : ∃ e behind, r = e :: behind :=
      List.exists_cons_of_ne_nil fun hnil => hblanks (by rw [hnil]; rfl)
    have hstart : cs.dropWhile Class.isBlank ≠ [] := by
      intro hnil
      rw [hnil] at hdigits
      cases hdigits
    obtain ⟨f, start, hf⟩ := List.exists_cons_of_ne_nil hstart
    have hlen : (cs.dropWhile Class.isBlank).length ≤ cs.length + 1 :=
      Nat.le_succ_of_le (List.dropWhile_sublist _).length_le
    have htake : takeKind Char.isDigit v ((cs ++ closing).length + 1)
        (cs.dropWhile Class.isBlank ++ closing) = (ds, e :: (behind ++ closing)) :=
      takeKind_append hlen (by simp) hdigits
    rw [hf] at htake
    rw [dropWhile_append hf, ← List.cons_append, htake, ← List.cons_append]
    dsimp only at hrest ⊢
    rw [dropWhile_append hd, ← List.cons_append]
    rw [hd] at hrest
    rw [← List.cons_append, skip_append hrest, hn]
    rfl

/-- So is one with blanks before it. -/
theorem count_skip_append {n : Option Nat} (h : count v (skip v cs) = (n, c :: rest)) :
    count v (skip v (cs ++ closing)) = (n, c :: (rest ++ closing)) := by
  cases hskip : skip v cs with
  | nil =>
    rw [hskip] at h
    cases v <;> cases h
  | cons d r =>
    rw [hskip] at h
    rw [skip_append hskip, ← List.cons_append]
    exact count_append h

/-- The bounds of a counted repetition end at their brace. -/
theorem bounds?_append {least : Nat} {most : Option Nat}
    (h : bounds? v cs = some (least, most, rest)) :
    bounds? v (cs ++ closing) = some (least, most, rest ++ closing) := by
  unfold bounds? at h ⊢
  cases hcount : count v (skip v cs) with
  | mk n left =>
    rw [hcount] at h
    dsimp only at h
    have hleft : left ≠ [] := by
      rintro rfl
      cases h
    obtain ⟨c, left, rfl⟩ := List.exists_cons_of_ne_nil hleft
    rw [count_skip_append hcount]
    split at h
    · rename_i r heq
      cases heq
      simp only
      split at h
      · rename_i r hbrace
        simp only [skip_append hbrace]
        obtain ⟨l, hl, h⟩ := Option.bind_eq_some_iff.1 h
        cases h
        rw [hl]
        rfl
      · -- Behind the comma stands the greatest count, which ends at the brace.
        rename_i hbrace
        obtain ⟨l, rfl, hmost⟩ := Option.bind_eq_some_iff.1 h
        obtain ⟨k, hk, hend⟩ := Option.bind_eq_some_iff.1 hmost
        split at hend
        · rename_i r hr
          have hread : count v (skip v left) = (some k, '\x7d' :: r) := Prod.ext hk hr
          have hread' := count_skip_append hread
          split at hend
          · rename_i hle
            cases hend
            split
            · rename_i hskip
              cases hbehind : skip v left with
              | nil =>
                rw [hbehind] at hread
                cases v <;> cases hread
              | cons e r =>
                rw [skip_append hbehind] at hskip
                cases hskip
                exact absurd hbehind (hbrace r)
            · simp only [hread', Option.bind_eq_bind, Option.bind_some, if_pos hle]
              rfl
          · cases hend
        · cases hend
    · rename_i r heq
      cases heq
      simp only
      obtain ⟨l, hl, h⟩ := Option.bind_eq_some_iff.1 h
      cases h
      rw [hl]
      rfl
    · cases h

/-! ## Groups -/

/-- The letters of flags end at a colon or parenthesis of their own. -/
theorem flagLetters?_append {read read' : List Char} {close : Char}
    (h : flagLetters? read cs = some (read', close, rest)) :
    flagLetters? read (cs ++ closing) = some (read', close, rest ++ closing) := by
  induction cs generalizing read with
  | nil => cases h
  | cons c cs ih =>
    rw [flagLetters?] at h
    rw [List.cons_append, flagLetters?]
    split at h
    · rename_i hclose
      rw [if_pos hclose]
      split at h
      · cases h
      · rename_i hhyphen
        cases h
        rw [if_neg hhyphen]
    · rename_i hclose
      rw [if_neg hclose]
      split at h
      · cases h
      · rename_i htwice
        rw [if_neg htwice]
        split at h
        · rename_i hflag
          rw [if_pos hflag]
          exact ih h
        · cases h

/-- The name of a group ends at its angle bracket. -/
theorem groupName?_append {read name : List Char}
    (h : groupName? read cs = some (name, rest)) :
    groupName? read (cs ++ closing) = some (name, rest ++ closing) := by
  induction cs generalizing read with
  | nil => cases h
  | cons c cs ih =>
    rw [groupName?] at h
    rw [List.cons_append, groupName?]
    split at h
    · rename_i hclose
      rw [if_pos hclose]
      split at h
      · cases h
      · rename_i hread
        cases h
        rw [if_neg hread]
    · rename_i hclose
      rw [if_neg hclose]
      split at h
      · rename_i hname
        rw [if_pos hname]
        exact ih h
      · cases h

/-- A named group is opened with a name that ends at its angle bracket. -/
theorem keepsReading_namedGroup :
    KeepsReading fun cs =>
      (groupName? [] cs).map fun read => (Opening.capturing (some read.1), read.2) :=
  KeepsReading.map groupName?_append fun name => Opening.capturing (some name)

/-- What flags behind a question mark make: an opening of a group, or flags on their own. -/
def flagOpening? (cs : List Char) : Option (Opening × List Char) := do
  let (letters, close, rest) ← flagLetters? [] cs
  if close = ')' then if letters = [] then none else return (.flags (changes letters), rest)
  else return (.plain (changes letters), rest)

/-- Flags end before the group around them does. -/
theorem keepsReading_flagOpening? : KeepsReading flagOpening? := by
  intro cs opening rest h
  obtain ⟨⟨letters, close, r⟩, hletters, h⟩ := Option.bind_eq_some_iff.1 h
  unfold flagOpening?
  rw [flagLetters?_append hletters]
  dsimp only [Option.bind_eq_bind, Option.bind_some] at h ⊢
  split at h
  · rename_i hclose
    rw [if_pos hclose]
    split at h
    · cases h
    · rename_i hsome
      cases h
      rw [if_neg hsome]
      rfl
  · rename_i hclose
    cases h
    rw [if_neg hclose]
    rfl

/-- No character comes to the beginning of a text by the end of a group behind it, except that
end. -/
theorem append_ne_cons (h : ∀ tail, cs = c :: tail → False) (hc : c ≠ ')') (tail : List Char) :
    cs ++ closing = c :: tail → False := by
  intro heq
  cases cs with
  | nil =>
    cases heq
    exact hc rfl
  | cons d left =>
    cases heq
    exact h left rfl

/-- What a parenthesis opens is the same inside a group, if there is something behind it. -/
theorem opening?_append {opening : Opening} (hskip : skip v cs = c :: rest)
    {left : List Char} (h : opening? v cs = some (opening, left)) :
    opening? v (cs ++ closing) = some (opening, left ++ closing) := by
  unfold opening? at h ⊢
  rw [skip_append hskip]
  rw [hskip] at h
  clear hskip
  -- The first characters choose the branch, and the end of a group is none that one begins with.
  split at h
  · cases h
  · cases h
  · cases h
  · cases h
  · rename_i r heq
    cases heq
    exact keepsReading_namedGroup h
  · rename_i r hequal hnot heq
    cases heq
    have hequal' := append_ne_cons hequal (by decide)
    have hnot' := append_ne_cons hnot (by decide)
    rw [List.cons_append]
    split
    case h_6 heq =>
      cases heq
      exact keepsReading_namedGroup h
    case h_7 hangle heq =>
      cases heq
      exact absurd rfl (hangle _)
    case h_8 hflags => exact absurd rfl (hflags _)
    all_goals simp_all
  · rename_i r hequal hnot hbehind hnotBehind hnamed hangle heq
    cases heq
    have hread : flagOpening? (rest ++ closing) = some (opening, left ++ closing) :=
      keepsReading_flagOpening? h
    have hequal' := append_ne_cons hequal (by decide)
    have hnot' := append_ne_cons hnot (by decide)
    have hangle' := append_ne_cons hangle (by decide)
    split
    case h_5 heq =>
      -- No flag has the letter of a name.
      rw [(List.cons.inj heq).2] at hread
      cases hread
    case h_7 heq =>
      cases heq
      exact hread
    case h_8 hflags => exact absurd rfl (hflags _)
    all_goals simp_all
  · cases h
    rename_i hflags
    split
    case h_8 => rfl
    all_goals
      rename_i heq
      exact absurd (List.cons.inj heq).1 fun hc => hflags rest (by rw [hc])

end BrowserShell.Pattern.Parser
