import BrowserShell.Proofs.Text.Split
import BrowserShell.Rule
import Mathlib.Data.List.Forall2
import Mathlib.Data.List.TakeWhile

/-!
# What a template says

A template says that two dollar signs stand for one, that a dollar sign before digits stands for the
group numbered by all of them, whatever follows, and that all else is as the matcher reads it
(`Template.said`). The matcher would take letters behind the digits for a part of a name, and so
braces are put around the digits before it reads the template. This pass does not know the braces
that stand in the template already: the one that it puts behind a number closes those. A template is
read as it says exactly if there is no number in the braces that it opens (`Template.braced_iff`).
-/

namespace BrowserShell.Pattern.Template

/-! ## Reading a template -/

/-- The number that digits write. -/
def value (ds : List Char) : Nat := ds.foldl (fun n d => n * 10 + (d.toNat - '0'.toNat)) 0

/-- The piece that a dollar sign is said to begin, and how many of the characters after it belong to
it: the number of all digits that follow, or else what the matcher reads. -/
def saidDollar (cs : List Char) : Piece × Nat :=
  let ds := cs.takeWhile Char.isDigit
  if ds = [] then dollar cs else (.number (value ds), ds.length)

/-- The pieces of a template behind its first `skip` characters, where `read` says what a dollar
sign begins. -/
def piecesBy (read : List Char → Piece × Nat) : (skip : Nat) → List Char → List Piece
  | _, [] => []
  | skip + 1, _ :: cs => piecesBy read skip cs
  | 0, c :: cs =>
    let (piece, used) := if c = '$' then read cs else (.char c, 0)
    piece :: piecesBy read used cs

/-- The pieces that a template says it has. -/
def said (cs : List Char) : List Piece := piecesBy saidDollar 0 cs

/-- What stands behind an opening brace, up to the next closing one or to the end. -/
def inside (cs : List Char) : List Char := cs.takeWhile (· != '\x7d')

/-- Whether nothing is put into braces between those that a dollar sign opens. -/
def Untouched (cs : List Char) : Prop :=
  cs.head? = some '\x7b' → braced (inside cs.tail) = inside cs.tail

instance : DecidablePred Untouched := fun cs =>
  inferInstanceAs (Decidable (cs.head? = some '\x7b' → braced (inside cs.tail) = inside cs.tail))

/-- Whether a template behind its first `skip` characters has no number in the braces that it
opens. -/
def UnnestedFrom : (skip : Nat) → List Char → Prop
  | _, [] => True
  | skip + 1, _ :: cs => UnnestedFrom skip cs
  | 0, c :: cs =>
    if c = '$' then Untouched cs ∧ UnnestedFrom (saidDollar cs).2 cs else UnnestedFrom 0 cs

/-- Whether it has none can be computed. -/
def decidableUnnestedFrom : (skip : Nat) → (cs : List Char) → Decidable (UnnestedFrom skip cs)
  | 0, [] | _ + 1, [] => .isTrue trivial
  | skip + 1, _ :: cs => decidableUnnestedFrom skip cs
  | 0, c :: cs =>
    have := decidableUnnestedFrom (saidDollar cs).2 cs
    have := decidableUnnestedFrom 0 cs
    inferInstanceAs (Decidable
      (if c = '$' then Untouched cs ∧ UnnestedFrom (saidDollar cs).2 cs else UnnestedFrom 0 cs))

/-- Whether a template has no number in the braces that it opens. -/
def Unnested (cs : List Char) : Prop := UnnestedFrom 0 cs

instance : DecidablePred Unnested := decidableUnnestedFrom 0

/-- Characters of a kind in front of a text, and the rest of the text, which begins with none. -/
structure Span (p : Char → Bool) (run rest : List Char) : Prop where
  run : ∀ c ∈ run, p c = true
  rest : ∀ c ∈ rest.head?, p c = false

variable {p : Char → Bool} {c : Char} {cs run rest name : List Char}

theorem Span.takeWhile_append (h : Span p run rest) : (run ++ rest).takeWhile p = run :=
  Text.takeWhile_append_of_head? h.run h.rest

/-- Every text has a span of each kind in front. -/
theorem exists_span (p : Char → Bool) (cs : List Char) :
    ∃ run rest, cs = run ++ rest ∧ Span p run rest := by
  refine ⟨cs.takeWhile p, cs.dropWhile p, List.takeWhile_append_dropWhile.symm,
    fun c hc => List.mem_takeWhile_imp hc, fun c hc => ?_⟩
  have hnot := List.head?_dropWhile_not p cs
  rw [Option.mem_def] at hc
  rwa [hc] at hnot

/-- Reading on behind some characters is reading what stands behind them. -/
theorem piecesBy_skip (read : List Char → Piece × Nat) (skip : Nat) (cs : List Char) :
    piecesBy read skip cs = piecesBy read 0 (cs.drop skip) := by
  induction skip generalizing cs with
  | zero => rfl
  | succ skip ih =>
    cases cs with
    | nil => rfl
    | cons c cs => exact ih cs

theorem unnestedFrom_skip (skip : Nat) (cs : List Char) :
    UnnestedFrom skip cs ↔ Unnested (cs.drop skip) := by
  induction skip generalizing cs with
  | zero => exact Iff.rfl
  | succ skip ih =>
    cases cs with
    | nil => exact Iff.rfl
    | cons c cs => exact ih cs

/-- The matcher reads a template by what it takes a dollar sign to begin. -/
theorem piecesFrom_eq (skip : Nat) (cs : List Char) :
    piecesFrom skip cs = piecesBy dollar skip cs := by
  induction cs generalizing skip with
  | nil => cases skip <;> rfl
  | cons c cs ih =>
    cases skip with
    | succ skip => exact ih skip
    | zero =>
      rw [piecesFrom, piecesBy]
      dsimp only
      rw [ih]

/-- A character other than a dollar sign is a piece. -/
theorem piecesBy_cons_of_ne (read : List Char → Piece × Nat) (hc : c ≠ '$') (cs : List Char) :
    piecesBy read 0 (c :: cs) = .char c :: piecesBy read 0 cs := by
  rw [piecesBy, if_neg hc]

/-- A dollar sign begins a piece, and behind the piece begins the next one. -/
theorem piecesBy_dollar (read : List Char → Piece × Nat) (cs : List Char) :
    piecesBy read 0 ('$' :: cs) = (read cs).1 :: piecesBy read 0 (cs.drop (read cs).2) := by
  rw [piecesBy, if_pos rfl]
  exact congrArg ((read cs).1 :: ·) (piecesBy_skip read _ cs)

theorem unnested_cons_of_ne (hc : c ≠ '$') (cs : List Char) :
    Unnested (c :: cs) ↔ Unnested cs := by
  rw [Unnested, UnnestedFrom, if_neg hc, Unnested]

theorem unnested_dollar (cs : List Char) :
    Unnested ('$' :: cs) ↔ Untouched cs ∧ Unnested (cs.drop (saidDollar cs).2) := by
  rw [Unnested, UnnestedFrom, if_pos rfl, unnestedFrom_skip]

/-- A template is empty, or begins with a character that is no dollar sign, with two dollar signs,
with a number or with a dollar sign of another kind. -/
theorem induction_on {motive : List Char → Prop} (nil : motive [])
    (char : ∀ c cs, c ≠ '$' → motive cs → motive (c :: cs))
    (escaped : ∀ cs, motive cs → motive ('$' :: '$' :: cs))
    (number : ∀ ds rest, ds ≠ [] → Span Char.isDigit ds rest → motive rest →
      motive ('$' :: (ds ++ rest)))
    (other : ∀ cs, (∀ c ∈ cs.head?, c ≠ '$' ∧ c.isDigit = false) → (∀ k, motive (cs.drop k)) →
      motive ('$' :: cs))
    (cs : List Char) : motive cs := by
  induction hlength : cs.length using Nat.strongRecOn generalizing cs with
  | _ length ih =>
    subst hlength
    match cs with
    | [] => exact nil
    | c :: cs =>
      have hdrop : ∀ k, motive (cs.drop k) := fun k =>
        ih _ (by rw [List.length_drop, List.length_cons]; omega) _ rfl
      by_cases hc : c = '$'
      · subst hc
        -- Behind a dollar sign stands the longest run of digits, which may be empty.
        obtain ⟨ds, rest, rfl, hspan⟩ := exists_span Char.isDigit cs
        by_cases hds : ds = []
        · subst hds
          rw [List.nil_append] at hdrop ⊢
          by_cases hdollar : rest.head? = some '$'
          · obtain ⟨cs, rfl⟩ := List.head?_eq_some_iff.1 hdollar
            exact escaped cs (hdrop 1)
          · refine other rest (fun d hd => ⟨fun heq => hdollar (heq ▸ hd), hspan.rest d hd⟩) hdrop
        · refine number ds rest hds hspan ?_
          have hrest := hdrop ds.length
          rwa [List.drop_left] at hrest
      · exact char c cs hc (hdrop 0)

/-! ## Putting braces around numbers -/

theorem braced_cons_of_ne (hc : c ≠ '$') (cs : List Char) : braced (c :: cs) = c :: braced cs := by
  rw [braced, bracedFrom, if_neg hc, braced]

theorem braced_escaped (cs : List Char) :
    braced ('$' :: '$' :: cs) = '$' :: '$' :: braced cs := rfl

/-- A dollar sign is left as it is unless another one or a digit follows. -/
theorem braced_dollar (h : ∀ c ∈ cs.head?, c ≠ '$' ∧ c.isDigit = false) :
    braced ('$' :: cs) = '$' :: braced cs := by
  cases cs with
  | nil => rfl
  | cons c cs =>
    obtain ⟨hdollar, hdigit⟩ := h c rfl
    rw [braced_cons_of_ne hdollar]
    simp only [braced, bracedFrom, if_true, if_neg hdollar, hdigit, Bool.false_eq_true, if_false]

/-- Characters that are no dollar signs are left as they are. -/
theorem braced_append_of_ne (h : ∀ c ∈ run, c ≠ '$') (rest : List Char) :
    braced (run ++ rest) = run ++ braced rest := by
  induction run with
  | nil => rfl
  | cons c run ih =>
    obtain ⟨hc, hrun⟩ := List.forall_mem_cons.1 h
    rw [List.cons_append, braced_cons_of_ne hc, ih hrun, List.cons_append]

/-- The pass leaves the beginning of a template as it is. -/
theorem head?_braced (cs : List Char) : (braced cs).head? = cs.head? := by
  cases cs with
  | nil => rfl
  | cons c cs =>
    by_cases hc : c = '$'
    · subst hc
      cases cs with
      | nil => rfl
      | cons d cs =>
        show (bracedFrom .dollar (d :: cs)).head? = some '$'
        rw [bracedFrom]
        split
        · rfl
        · split <;> rfl
    · rw [braced_cons_of_ne hc]
      rfl

/-- The digits behind a dollar sign are put into braces. -/
theorem braced_number {ds : List Char} (hne : ds ≠ []) (hspan : Span Char.isDigit ds rest) :
    braced ('$' :: (ds ++ rest)) = '$' :: '\x7b' :: (ds ++ '\x7d' :: braced rest) := by
  have hend : bracedFrom .number rest = '\x7d' :: braced rest := by
    cases rest with
    | nil => rfl
    | cons c rest =>
      have hc : c.isDigit = false := hspan.rest c rfl
      by_cases hdollar : c = '$'
      · subst hdollar
        rfl
      · rw [braced_cons_of_ne hdollar]
        simp only [bracedFrom, hc, Bool.false_eq_true, if_false, if_neg hdollar, braced]
  have hnumber : ∀ ds : List Char, (∀ d ∈ ds, d.isDigit = true) →
      bracedFrom .number (ds ++ rest) = ds ++ '\x7d' :: braced rest := by
    intro ds hds
    induction ds with
    | nil => exact hend
    | cons d ds ih =>
      obtain ⟨hd, hds⟩ := List.forall_mem_cons.1 hds
      rw [List.cons_append, bracedFrom, if_pos hd, ih hds, List.cons_append]
  obtain ⟨d, ds, rfl⟩ := List.exists_cons_of_ne_nil hne
  obtain ⟨hd, hds⟩ := List.forall_mem_cons.1 hspan.run
  have hdollar : d ≠ '$' := by
    rintro rfl
    cases hd
  have hbegin : braced ('$' :: (d :: ds ++ rest)) =
      '$' :: '\x7b' :: d :: bracedFrom .number (ds ++ rest) := by
    simp only [braced, List.cons_append, bracedFrom, if_true, if_neg hdollar, hd]
  rw [hbegin, hnumber ds hds, List.cons_append]

/-- What stands behind a closing brace is treated as a template of its own. -/
theorem bracedFrom_append_close (place : Place) (cs rest : List Char) :
    bracedFrom place (cs ++ '\x7d' :: rest) = bracedFrom place cs ++ '\x7d' :: braced rest := by
  induction cs generalizing place with
  | nil => cases place <;> rfl
  | cons c cs ih =>
    cases place with
    | plain =>
      simp only [List.cons_append, bracedFrom, ih]
      split <;> simp
    | dollar =>
      simp only [List.cons_append, bracedFrom, ih]
      split
      · simp
      · split <;> simp
    | number =>
      simp only [List.cons_append, bracedFrom, ih]
      split
      · simp
      · split <;> simp

/-- Where something is put into braces there is a closing one. -/
theorem braced_eq_self_of_not_mem (h : '\x7d' ∉ braced cs) : braced cs = cs := by
  induction cs using induction_on with
  | nil => rfl
  | char c cs hc ih =>
    rw [braced_cons_of_ne hc] at h ⊢
    rw [ih (List.not_mem_of_not_mem_cons h)]
  | escaped cs ih =>
    rw [braced_escaped] at h ⊢
    rw [ih (List.not_mem_of_not_mem_cons (List.not_mem_of_not_mem_cons h))]
  | number ds rest hne hspan =>
    rw [braced_number hne hspan] at h
    exact absurd (by simp) h
  | other cs hhead ih =>
    have hrest := ih 0
    rw [List.drop_zero] at hrest
    rw [braced_dollar hhead] at h ⊢
    rw [hrest (List.not_mem_of_not_mem_cons h)]

/-- Where something is put into braces, what stands before the first closing one is no longer the
beginning of the template: there is an opening brace before a digit. -/
theorem braced_eq_self_of_inside {after : List Char} (h : inside (braced cs ++ after) = cs) :
    braced cs = cs := by
  have hcons : ∀ {c : Char} {cs rest : List Char}, inside (c :: cs) = c :: rest →
      inside cs = rest := by
    intro c cs rest heq
    unfold inside at heq
    rw [List.takeWhile_cons] at heq
    split at heq
    · exact (List.cons.inj heq).2
    · cases heq
  induction cs using induction_on with
  | nil => rfl
  | char c cs hc ih =>
    rw [braced_cons_of_ne hc] at h ⊢
    rw [ih (hcons h)]
  | escaped cs ih =>
    rw [braced_escaped] at h ⊢
    rw [ih (hcons (hcons h))]
  | number ds rest hne hspan =>
    obtain ⟨d, ds, rfl⟩ := List.exists_cons_of_ne_nil hne
    rw [braced_number hne hspan] at h
    have hbrace : '\x7b' :: inside (d :: ds ++ '\x7d' :: braced rest ++ after) = d :: ds ++ rest :=
      hcons h
    have hdigit := hspan.run d List.mem_cons_self
    rw [← (List.cons.inj hbrace).1] at hdigit
    cases hdigit
  | other cs hhead ih =>
    have hrest := ih 0
    rw [List.drop_zero] at hrest
    rw [braced_dollar hhead] at h ⊢
    rw [hrest (hcons h)]

/-! ## What a dollar sign begins -/

/-- What stands behind a dollar sign but is no number is said to be what the matcher reads. -/
theorem saidDollar_of_not_digit (h : ∀ c ∈ cs.head?, c.isDigit = false) :
    saidDollar cs = dollar cs := by
  have hspan : Span Char.isDigit [] cs := ⟨by simp, h⟩
  have hnone := hspan.takeWhile_append
  rw [List.nil_append] at hnone
  rw [saidDollar, hnone, if_pos rfl]

theorem saidDollar_number {ds : List Char} (hne : ds ≠ []) (hspan : Span Char.isDigit ds rest) :
    saidDollar (ds ++ rest) = (.number (value ds), ds.length) := by
  rw [saidDollar, hspan.takeWhile_append, if_neg hne]

theorem inside_append (h : '\x7d' ∉ name) (after : List Char) :
    inside (name ++ '\x7d' :: after) = name :=
  Span.takeWhile_append ⟨fun _ hc => bne_iff_ne.2 fun heq => h (heq ▸ hc),
    fun c hc => by cases hc; decide⟩

theorem inside_of_not_mem (h : '\x7d' ∉ rest) : inside rest = rest :=
  List.takeWhile_eq_self_iff.2 fun _ hc => bne_iff_ne.2 fun heq => h (heq ▸ hc)

/-- Closed braces are read as what stands between them. -/
theorem dollar_closed (h : '\x7d' ∉ name) (after : List Char) :
    dollar ('\x7b' :: (name ++ '\x7d' :: after)) = (reference name, name.length + 2) := by
  have hinside := inside_append h after
  unfold inside at hinside
  rw [dollar, hinside, if_pos (by simp)]

/-- A brace that is not closed is a character like others, and so is the dollar sign before it. -/
theorem dollar_unclosed (h : '\x7d' ∉ rest) : dollar ('\x7b' :: rest) = (.char '$', 0) := by
  have hinside := inside_of_not_mem h
  unfold inside at hinside
  rw [dollar, hinside, if_neg (Nat.lt_irrefl _)]

/-- Without braces the longest name is read. -/
theorem dollar_name (hspan : Span isNameChar name rest)
    (hhead : ∀ c ∈ (name ++ rest).head?, c ≠ '$' ∧ c ≠ '\x7b') :
    dollar (name ++ rest) =
      if name = [] then (.char '$', 0) else (reference name, name.length) := by
  have htake := hspan.takeWhile_append
  generalize name ++ rest = cs at hhead htake
  have hread : dollar cs = let name := cs.takeWhile isNameChar
      if name.isEmpty then (.char '$', 0) else (reference name, name.length) := by
    cases cs with
    | nil => rfl
    | cons c cs =>
      obtain ⟨hdollar, hbrace⟩ := hhead c rfl
      unfold dollar
      split
      · exact absurd (List.cons.inj ‹_›).1 hdollar
      · exact absurd (List.cons.inj ‹_›).1 hbrace
      · rfl
  rw [hread]
  dsimp only
  rw [htake]
  simp only [List.isEmpty_iff]

/-- The pass leaves it as it is what a dollar sign begins that no number follows, where there is no
number in the braces, and goes on behind it. -/
theorem dollar_braced (hhead : ∀ c ∈ cs.head?, c ≠ '$' ∧ c.isDigit = false) (h : Untouched cs) :
    dollar (braced cs) = dollar cs ∧
      (braced cs).drop (dollar cs).2 = braced (cs.drop (dollar cs).2) := by
  by_cases hbrace : cs.head? = some '\x7b'
  · obtain ⟨rest, rfl⟩ := List.head?_eq_some_iff.1 hbrace
    have hinside : braced (inside rest) = inside rest := h rfl
    rw [braced_cons_of_ne (by decide)]
    by_cases hclose : '\x7d' ∈ rest
    · -- What is put into braces stands behind the closing one, so that it closes the same name.
      obtain ⟨name, after, rfl, hname⟩ := List.eq_append_cons_of_mem hclose
      rw [inside_append hname] at hinside
      have hbraced : braced (name ++ '\x7d' :: after) = name ++ '\x7d' :: braced after := by
        rw [braced, bracedFrom_append_close]
        exact congrArg (· ++ '\x7d' :: braced after) hinside
      have hdrop : ∀ after : List Char,
          ('\x7b' :: (name ++ '\x7d' :: after)).drop (name.length + 2) = after := by
        intro after
        rw [List.drop_succ_cons, ← List.drop_drop, List.drop_left]
        rfl
      rw [hbraced, dollar_closed hname, dollar_closed hname]
      exact ⟨rfl, by rw [hdrop, hdrop]⟩
    · -- Where there is no closing brace there is none to put either.
      rw [inside_of_not_mem hclose] at hinside
      rw [hinside, dollar_unclosed hclose]
      exact ⟨rfl, by rw [List.drop_zero, braced_cons_of_ne (by decide), hinside]⟩
  · obtain ⟨name, rest, rfl, hspan⟩ := exists_span isNameChar cs
    have hname : ∀ c ∈ name, c ≠ '$' := by
      rintro c hc rfl
      have hnot := hspan.run '$' hc
      revert hnot
      decide
    have hspan' : Span isNameChar name (braced rest) := ⟨hspan.run, by
      rw [head?_braced]
      exact hspan.rest⟩
    have hhead' : ∀ c ∈ (name ++ rest).head?, c ≠ '$' ∧ c ≠ '\x7b' := fun c hc =>
      ⟨(hhead c hc).1, fun heq => hbrace (heq ▸ hc)⟩
    have hhead'' : ∀ c ∈ (name ++ braced rest).head?, c ≠ '$' ∧ c ≠ '\x7b' := by
      rw [List.head?_append, head?_braced, ← List.head?_append]
      exact hhead'
    rw [braced_append_of_ne hname, dollar_name hspan hhead', dollar_name hspan' hhead'']
    refine ⟨rfl, ?_⟩
    split
    · rw [List.drop_zero, List.drop_zero, braced_append_of_ne hname]
    · rw [List.drop_left, List.drop_left]

/-! ## What groups took -/

/-- What the groups of a match took, by their numbers and by their names. There are no more groups
than there are numbers for them, and no name of a group is a number. -/
structure Captures where
  /-- What the group of a number took. -/
  group : Nat → Bytes
  /-- The number of a name. -/
  index? : List Char → Option Nat
  group_of_lt : ∀ n, maxNumber < n → group n = []
  index?_of_digits : ∀ ds : List Char, (∀ d ∈ ds, d.isDigit = true) → ds ≠ [] → index? ds = none

/-- What the groups of a match took if there is one group, without a name. -/
def Captures.one (bytes : Bytes) : Captures where
  group n := if n = 1 then bytes else []
  index? _ := none
  group_of_lt n h := if_neg fun heq => by rw [heq] at h; exact absurd h (by decide)
  index?_of_digits _ _ _ := rfl

/-- What a template stands for with what the groups took. -/
def Captures.expand (took : Captures) (ps : List Piece) : Bytes :=
  Template.expand took.group took.index? ps

/-- Whether two pieces stand for the same, whatever the groups took: they are the same, or both
refer to a group of a number that no group can have. -/
inductive Piece.Agrees : Piece → Piece → Prop where
  | refl (p : Piece) : Agrees p p
  | beyond {ds : List Char} : (∀ d ∈ ds, d.isDigit = true) → ds ≠ [] → maxNumber < value ds →
      Agrees (.name ds) (.number (value ds))

/-- Pieces that agree stand for the same. -/
theorem Captures.expand_eq_of_agrees (took : Captures) {ps qs : List Piece}
    (h : List.Forall₂ Piece.Agrees ps qs) : took.expand ps = took.expand qs := by
  unfold Captures.expand Template.expand
  induction h with
  | nil => rfl
  | cons hpiece _ ih =>
    rw [List.flatMap_cons, List.flatMap_cons, ih]
    cases hpiece with
    | refl => rfl
    | @beyond ds hds hne hlt =>
      dsimp only
      rw [took.index?_of_digits ds hds hne, took.group_of_lt _ hlt]
      rfl

/-- Digits in braces are read as the number that they write, if a group can have it. -/
theorem agrees_number {ds : List Char} (hds : ∀ d ∈ ds, d.isDigit = true) (hne : ds ≠ []) :
    Piece.Agrees (reference ds) (.number (value ds)) := by
  -- A plus sign would be allowed before the digits of a number, but is none of them.
  have hall : ds.all Char.isDigit = true := List.all_eq_true.2 hds
  have hempty : ds.isEmpty = false := by simpa using hne
  have hplus : ∀ rest, ds ≠ '+' :: rest := by
    rintro rest rfl
    have hnot := hds '+' List.mem_cons_self
    cases hnot
  by_cases hlt : maxNumber < value ds
  · have hread : number? ds = none := by
      unfold number?
      split
      · exact absurd rfl (hplus _)
      · exact if_pos (by simp only [hempty, hall, value] at hlt ⊢; simpa using hlt)
    rw [reference, hread]
    exact .beyond hds hne hlt
  · have hread : number? ds = some (value ds) := by
      unfold number?
      split
      · exact absurd rfl (hplus _)
      · exact if_neg (by simp only [hempty, hall, value] at hlt ⊢; simpa using hlt)
    rw [reference, hread]
    exact .refl _

/-! ## Both readings -/

/-- A name with a dollar sign in it is no number. -/
theorem reference_of_mem (h : '$' ∈ name) : reference name = .name name := by
  have hall : ∀ ds : List Char, '$' ∈ ds → ds.all Char.isDigit = false := fun ds hds =>
    List.all_eq_false.2 ⟨'$', hds, by decide⟩
  have hread : number? name = none := by
    unfold number?
    split
    · rename_i ds
      simp [hall ds ((List.mem_cons.1 h).resolve_left (by decide))]
    · simp [hall name h]
  rw [reference, hread]

/-- Only a name is read as a name is, and only from itself. -/
theorem eq_of_agrees_name {name' : List Char} (h : Piece.Agrees (reference name') (.name name)) :
    name' = name := by
  generalize hpiece : reference name' = piece at h
  cases h
  unfold reference at hpiece
  split at hpiece
  · cases hpiece
  · exact Piece.name.inj hpiece

/-- A reference in braces is not read as it is once there are other braces between them. -/
theorem not_agrees_of_touched (h : ¬ Untouched cs) :
    ¬ Piece.Agrees (dollar (braced cs)).1 (dollar cs).1 := by
  intro hagrees
  obtain ⟨hhead, htouched⟩ := Classical.not_imp.1 h
  obtain ⟨rest, rfl⟩ := List.head?_eq_some_iff.1 hhead
  rw [List.tail_cons] at htouched
  rw [braced_cons_of_ne (by decide)] at hagrees
  by_cases hclose : '\x7d' ∈ rest
  · -- The braces are closed: the name up to the first closing brace is another one.
    obtain ⟨name, after, rfl, hname⟩ := List.eq_append_cons_of_mem hclose
    rw [inside_append hname] at htouched
    have hdollar : '$' ∈ name := by
      by_contra hnot
      have hself := braced_append_of_ne (fun c (hc : c ∈ name) heq => hnot (heq ▸ hc)) []
      rw [List.append_nil] at hself
      exact htouched (hself.trans (List.append_nil name))
    have hbraced : braced (name ++ '\x7d' :: after) = braced name ++ '\x7d' :: braced after :=
      bracedFrom_append_close .plain name after
    obtain ⟨name', after', hsplit, hname'⟩ := List.eq_append_cons_of_mem
      (show '\x7d' ∈ braced (name ++ '\x7d' :: after) by rw [hbraced]; simp)
    have hinside : inside (braced name ++ '\x7d' :: braced after) = name' := by
      rw [← hbraced, hsplit, inside_append hname']
    rw [hsplit, dollar_closed hname', dollar_closed hname, reference_of_mem hdollar] at hagrees
    rw [eq_of_agrees_name hagrees] at hinside
    exact htouched (braced_eq_self_of_inside hinside)
  · -- The brace is closed only by one that is put there: a character has become a reference.
    rw [inside_of_not_mem hclose] at htouched
    have hmem : '\x7d' ∈ braced rest := by
      by_contra hnot
      exact htouched (braced_eq_self_of_not_mem hnot)
    obtain ⟨name, after, hsplit, hname⟩ := List.eq_append_cons_of_mem hmem
    rw [hsplit, dollar_closed hname, dollar_unclosed hclose] at hagrees
    generalize hpiece : reference name = piece at hagrees
    cases hagrees
    unfold reference at hpiece
    split at hpiece <;> cases hpiece

/-- The pieces of a template with braces around its numbers agree with those that it says it has
exactly if none of the braces are between others. -/
theorem forall₂_braced_iff (cs : List Char) :
    List.Forall₂ Piece.Agrees (pieces (braced cs)) (said cs) ↔ Unnested cs := by
  rw [pieces, piecesFrom_eq, said]
  -- Both readings go on behind the same part of the template, as long as the parts agree.
  induction cs using induction_on with
  | nil => exact iff_of_true .nil trivial
  | char c cs hc ih =>
    rw [braced_cons_of_ne hc, piecesBy_cons_of_ne _ hc, piecesBy_cons_of_ne _ hc,
      List.forall₂_cons, ih, unnested_cons_of_ne hc]
    exact and_iff_right (.refl _)
  | escaped cs ih =>
    have hsaid : saidDollar ('$' :: cs) = (.char '$', 1) :=
      saidDollar_of_not_digit fun c hc => by cases hc; decide
    have huntouched : Untouched ('$' :: cs) := fun heq => by cases heq
    rw [braced_escaped, piecesBy_dollar, piecesBy_dollar, unnested_dollar, hsaid,
      List.forall₂_cons, and_iff_right huntouched]
    exact (and_iff_right (.refl _)).trans ih
  | number ds rest hne hspan ih =>
    have hbrace : ∀ c : Char, c ∈ ds → c ≠ '\x7b' ∧ c ≠ '\x7d' := by
      intro c hc
      have hdigit := hspan.run c hc
      constructor <;> (rintro rfl; cases hdigit)
    have huntouched : Untouched (ds ++ rest) := by
      obtain ⟨d, ds, rfl⟩ := List.exists_cons_of_ne_nil hne
      intro heq
      exact absurd (Option.some.inj heq) (hbrace d List.mem_cons_self).1
    have hdrop : ('\x7b' :: (ds ++ '\x7d' :: braced rest)).drop (ds.length + 2) = braced rest := by
      rw [List.drop_succ_cons, ← List.drop_drop, List.drop_left]
      rfl
    rw [braced_number hne hspan, piecesBy_dollar, piecesBy_dollar, unnested_dollar,
      saidDollar_number hne hspan, dollar_closed fun hmem => (hbrace _ hmem).2 rfl, hdrop,
      List.drop_left, List.forall₂_cons, and_iff_right huntouched, ih]
    exact and_iff_right (agrees_number hspan.run hne)
  | other cs hhead ih =>
    have hsaid : saidDollar cs = dollar cs := saidDollar_of_not_digit fun c hc => (hhead c hc).2
    rw [braced_dollar hhead, piecesBy_dollar, piecesBy_dollar, unnested_dollar, hsaid,
      List.forall₂_cons]
    by_cases huntouched : Untouched cs
    · obtain ⟨hdollar, hdrop⟩ := dollar_braced hhead huntouched
      rw [hdollar, hdrop, ih, and_iff_right huntouched]
      exact and_iff_right (.refl _)
    · exact iff_of_false (fun h => not_agrees_of_touched huntouched h.1)
        fun h => huntouched h.1

/-- With braces around its numbers a template has, piece by piece, what it says exactly if it has no
number in the braces that it opens; and then it stands for what it says, whatever groups took. -/
theorem braced_iff (cs : List Char) :
    (List.Forall₂ Piece.Agrees (pieces (braced cs)) (said cs) ↔ Unnested cs) ∧
      (Unnested cs → ∀ took : Captures,
        took.expand (pieces (braced cs)) = took.expand (said cs)) :=
  ⟨forall₂_braced_iff cs, fun h took => took.expand_eq_of_agrees ((forall₂_braced_iff cs).2 h)⟩

/-- A number before a letter, and other references behind two dollar signs. -/
theorem braced_iff_letter_behind :
    Unnested "$1b$$$\x7b1\x7d$x".toList ∧
      (Captures.one [0x61]).expand (pieces (braced "$1b$$$\x7b1\x7d$x".toList)) =
        Utf8.encode "ab$a" :=
  have hunnested : Unnested "$1b$$$\x7b1\x7d$x".toList := by decide +kernel
  ⟨hunnested, ((braced_iff _).2 hunnested (.one [0x61])).trans (by decide +kernel)⟩

/-- A brace that nothing closes stands for itself, but that which is put behind a number closes
it. -/
theorem open_brace_closed :
    (Captures.one [0x61]).expand (said "$\x7b$1".toList) = Utf8.encode "$\x7ba" ∧
      (Captures.one [0x61]).expand (pieces (braced "$\x7b$1".toList)) = [] ∧
      (Rule.ofText ⟨"(.)", "$\x7b$1"⟩).replaceAll (Utf8.encode "a") = [] := by
  decide +kernel

end BrowserShell.Pattern.Template
