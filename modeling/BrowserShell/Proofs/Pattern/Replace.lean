import BrowserShell.Proofs.Pattern.Match

/-!
# Replacing

`replaceAll` walks through a subject and replaces as it goes. `replaceAll_eq` tells the walk apart
from what it writes: `allMatches` are the matches it replaces, in order and apart from each other
(`follow_allMatchesFrom`), and `woven` is the subject with the template in their places. For a
pattern that takes whole characters of a valid subject the result is valid exactly if no match
inside a character puts something there (`isValid_replaceAll_iff`).
-/

namespace BrowserShell.Pattern

open Utf8 (IsBoundary)

/-! ## Templates -/

/-- Whether a template has a character that stands for itself. -/
def Template.HasOwn (t : List Template.Piece) : Prop := ∃ c, Template.Piece.char c ∈ t

namespace Match

variable {found : Match} {subject : Bytes}

/-- What a group took does not depend on where the search began. -/
theorem group_drop {offset : Nat} (hspans : found.Spans subject offset) (k : Nat) :
    found.group offset (subject.drop offset) k = found.group 0 subject k := by
  unfold group
  split
  · rename_i a b hspan
    have hle : offset ≤ a := (hspans.kept a (mem_slots_of_span hspan).1).1
    rw [List.drop_drop, Nat.add_sub_cancel' hle, Nat.sub_zero]
  · rfl

/-- What a group took between boundaries is valid. -/
theorem isValid_group (h : ∀ v, some v ∈ found.slots → IsBoundary subject v) (k : Nat) :
    Utf8.isValid (found.group 0 subject k) = true := by
  unfold group
  split
  · rename_i a b hspan
    obtain ⟨ha, hb⟩ := mem_slots_of_span hspan
    rw [Nat.sub_zero]
    exact Utf8.isValid_between (h a ha) (h b hb)
  · rfl

/-- Where one offset is kept only, the groups took nothing. -/
theorem group_eq_nil {offset : Nat} (h : ∀ v, some v ∈ found.slots → v = offset) (k : Nat) :
    found.group 0 subject k = [] := by
  unfold group
  split
  · rename_i a b hspan
    obtain ⟨ha, hb⟩ := mem_slots_of_span hspan
    rw [h a ha, h b hb, Nat.sub_self, List.take_zero]
  · rfl

/-- A match with its span begins and ends at kept offsets. -/
theorem Spans.mem_slots {offset : Nat} (hspans : found.Spans subject offset) :
    some found.first ∈ found.slots ∧ some found.last ∈ found.slots :=
  mem_slots_of_span hspans.span

/-- A match that is found from some offset on is found from any offset before. -/
theorem Spans.of_le {offset offset' : Nat} (hspans : found.Spans subject offset')
    (hle : offset ≤ offset') : found.Spans subject offset where
  span := hspans.span
  kept v hv := ⟨Nat.le_trans hle (hspans.kept v hv).1, (hspans.kept v hv).2⟩
  start_le := Nat.le_trans hle hspans.start_le
  first_le := hspans.first_le
  last_le := hspans.last_le

end Match

namespace Matcher

variable {m : Matcher} {t : List Template.Piece} {subject : Bytes} {found : Match}

/-- A template stands for the same wherever the search began. -/
theorem expand_drop {offset : Nat} (hspans : found.Spans subject offset) :
    m.expand t offset (subject.drop offset) found = m.expand t 0 subject found := by
  unfold expand
  rw [funext (Match.group_drop hspans)]

/-- A template stands for valid bytes if all groups took valid bytes. -/
theorem isValid_expand (h : ∀ k, Utf8.isValid (found.group 0 subject k) = true) :
    Utf8.isValid (m.expand t 0 subject found) = true := by
  unfold expand Template.expand
  induction t with
  | nil => rfl
  | cons p ps ih =>
    rw [List.flatMap_cons, Utf8.isValid_append ?_]
    · exact ih
    · cases p with
      | char c =>
        exact Utf8.isValid_iff.2 ⟨[c], (List.flatMap_singleton String.utf8EncodeChar c).symm⟩
      | number k => exact h k
      | name cs =>
        dsimp only
        cases m.index? cs with
        | none => rfl
        | some k => exact h k

/-- Where the groups took nothing, a template stands for nothing just if it has no characters of its
own. -/
theorem expand_eq_nil_iff (h : ∀ k, found.group 0 subject k = []) :
    m.expand t 0 subject found = [] ↔ ¬ Template.HasOwn t := by
  unfold expand Template.expand Template.HasOwn
  rw [List.flatMap_eq_nil_iff, not_exists]
  constructor
  · intro hnil c hc
    have hlength := congrArg List.length (hnil _ hc)
    rw [String.length_utf8EncodeChar] at hlength
    exact absurd hlength (Nat.ne_of_gt c.utf8Size_pos)
  · intro hown p hp
    cases p with
    | char c => exact absurd hp (hown c)
    | number k => exact h k
    | name cs =>
      dsimp only
      cases m.index? cs with
      | none => rfl
      | some k => exact h k

/-! ## The walk and what it writes -/

/-- The matches that are replaced in a subject from an offset on. An empty match right behind the
one before, which is where `barred` holds, does not count. At most `fuel` steps are made. -/
def allMatchesFrom (m : Matcher) (subject : Bytes) : (fuel offset : Nat) → (barred : Bool) →
    List Match
  | 0, _, _ => []
  | fuel + 1, offset, barred =>
    match m.find? (.behind subject offset) offset with
    | none => []
    | some found =>
      if barred && found.last == offset then
        if offset < subject.length then allMatchesFrom m subject fuel (offset + 1) false else []
      else found :: allMatchesFrom m subject fuel found.last true

/-- The matches that are replaced in a subject. -/
def allMatches (m : Matcher) (subject : Bytes) : List Match :=
  m.allMatchesFrom subject (2 * subject.length + 2) 0 false

/-- The subject from an offset on with a template in the places of matches. -/
def woven (m : Matcher) (t : List Template.Piece) (subject : Bytes) : (offset : Nat) →
    List Match → Bytes
  | offset, [] => subject.drop offset
  | offset, found :: rest =>
    (subject.drop offset).take (found.first - offset) ++
      (m.expand t 0 subject found ++ woven m t subject found.last rest)

/-- Matches that lie one behind the other, from an offset on. -/
def Follow (subject : Bytes) : (offset : Nat) → List Match → Prop
  | _, [] => True
  | offset, found :: rest => found.Spans subject offset ∧ Follow subject found.last rest

/-- Matches that lie behind an offset lie behind those before it. -/
theorem Follow.of_le {offset offset' : Nat} {ms : List Match} (h : Follow subject offset' ms)
    (hle : offset ≤ offset') : Follow subject offset ms := by
  cases ms with
  | nil => trivial
  | cons found rest => exact ⟨h.1.of_le hle, h.2⟩

/-- The byte before the matches is written as it is. -/
theorem woven_of_drop {offset : Nat} {b : UInt8} {rest : Bytes} {ms : List Match}
    (hdrop : subject.drop offset = b :: rest) (h : Follow subject (offset + 1) ms) :
    m.woven t subject offset ms = b :: m.woven t subject (offset + 1) ms := by
  have hrest : subject.drop (offset + 1) = rest := (Position.mk.inj (Position.behind_succ hdrop)).2
  cases ms with
  | nil => rw [woven, woven, hdrop, hrest]
  | cons found ms =>
    have hle : offset + 1 ≤ found.first := h.1.start_le
    have hsub : found.first - offset = found.first - (offset + 1) + 1 := by omega
    rw [woven, woven, hdrop, hrest, hsub, List.take_succ_cons, List.cons_append]

section

variable {n : Node} (hm : m.program = n.program)

include hm

/-- The matches that are replaced lie one behind the other. -/
theorem follow_allMatchesFrom (fuel : Nat) {offset : Nat} (barred : Bool)
    (hend : offset ≤ subject.length) :
    Follow subject offset (m.allMatchesFrom subject fuel offset barred) := by
  induction fuel generalizing offset barred with
  | zero => trivial
  | succ fuel ih =>
    rw [allMatchesFrom]
    split
    · trivial
    · rename_i found hfind
      have hspans := spans_of_find? hm hend hfind
      split
      · split
        · rename_i hlt
          exact (ih false hlt).of_le (Nat.le_succ offset)
        · trivial
      · exact ⟨hspans, ih true hspans.last_le⟩

/-- Each match that is replaced is found by a search of its own. -/
theorem exists_find?_of_mem (fuel : Nat) {offset : Nat} (barred : Bool)
    (hend : offset ≤ subject.length) (h : found ∈ m.allMatchesFrom subject fuel offset barred) :
    ∃ start ≤ subject.length, m.find? (.behind subject start) start = some found := by
  induction fuel generalizing offset barred with
  | zero => exact absurd h (List.not_mem_nil)
  | succ fuel ih =>
    rw [allMatchesFrom] at h
    split at h
    · exact absurd h (List.not_mem_nil)
    · rename_i found' hfind
      have hspans := spans_of_find? hm hend hfind
      split at h
      · split at h
        · rename_i hlt
          exact ih false hlt h
        · exact absurd h (List.not_mem_nil)
      · rcases List.mem_cons.1 h with rfl | h
        · exact ⟨offset, hend, hfind⟩
        · exact ih true hspans.last_le h

/-- The walk writes the subject with the template in the places of the matches. -/
theorem replaceFrom_eq (t : List Template.Piece) (fuel : Nat) {offset : Nat} (barred : Bool)
    (hend : offset ≤ subject.length) :
    m.replaceFrom t fuel (subject.take offset).reverse offset barred (subject.drop offset) =
      m.woven t subject offset (m.allMatchesFrom subject fuel offset barred) := by
  induction fuel generalizing offset barred with
  | zero => rfl
  | succ fuel ih =>
    rw [replaceFrom.eq_def, allMatchesFrom, Position.behind]
    dsimp only
    cases hfind : m.find? ⟨(subject.take offset).reverse, subject.drop offset⟩ offset with
    | none => rfl
    | some found =>
      have hspans := spans_of_find? hm hend hfind
      dsimp only
      split
      · -- An empty match right behind the one before: the next byte is written as it is.
        cases hdrop : subject.drop offset with
        | nil =>
          have hnlt : ¬ offset < subject.length := by
            have hlen := congrArg List.length hdrop
            rw [List.length_drop, List.length_nil] at hlen
            omega
          rw [if_neg hnlt, woven, hdrop]
        | cons b rest =>
          have hlt := lt_of_drop_eq_cons hdrop
          obtain ⟨hbefore, hrest⟩ := Position.mk.inj (Position.behind_succ hdrop)
          rw [if_pos hlt, woven_of_drop hdrop (follow_allMatchesFrom hm fuel false hlt),
            ← ih false hlt, hbefore, hrest]
      · -- The match is replaced, and what it took stands before the walk from then on.
        have hle : offset ≤ found.last := Nat.le_trans hspans.start_le hspans.first_le
        have hbefore : ((subject.drop offset).take (found.last - offset)).reverse ++
            (subject.take offset).reverse = (subject.take found.last).reverse := by
          rw [← List.reverse_append, ← List.take_add, Nat.add_sub_cancel' hle]
        have hafter : (subject.drop offset).drop (found.last - offset) =
            subject.drop found.last := by
          rw [List.drop_drop, Nat.add_sub_cancel' hle]
        rw [hbefore, hafter, expand_drop hspans, ih true hspans.last_le, woven, List.append_assoc]

/-- Replacing all matches writes the template in their places. -/
theorem replaceAll_eq (t : List Template.Piece) (subject : Bytes) :
    m.replaceAll t subject = m.woven t subject 0 (m.allMatches subject) :=
  replaceFrom_eq hm t (2 * subject.length + 2) false (Nat.zero_le subject.length)

/-! ## Valid subjects -/

variable (hn : n.TakesCharacters) (hvalid : Utf8.isValid subject = true)

include hn hvalid

/-- A match that begins at a boundary keeps boundaries only. -/
theorem isBoundary_of_first {start : Nat} (hstart : start ≤ subject.length)
    (hfound : m.find? (.behind subject start) start = some found)
    (hfirst : IsBoundary subject found.first) :
    ∀ v, some v ∈ found.slots → IsBoundary subject v := by
  rcases onBoundaries_or_empty_of_find? hm hn hvalid hstart hfound with hkept | hkept
  · exact hkept
  · exact fun v hv => hkept v hv ▸ hfirst

/-- A match that begins inside a character is empty, and all that it keeps is its place. -/
theorem eq_first_of_not_boundary {start : Nat} (hstart : start ≤ subject.length)
    (hfound : m.find? (.behind subject start) start = some found)
    (hfirst : ¬ IsBoundary subject found.first) :
    ∀ v, some v ∈ found.slots → v = found.first := by
  rcases onBoundaries_or_empty_of_find? hm hn hvalid hstart hfound with hkept | hkept
  · exact absurd (hkept _ (spans_of_find? hm hstart hfound).mem_slots.1) hfirst
  · exact hkept

/-- What is written for matches one behind the other keeps a valid subject valid exactly if those
that begin inside a character write nothing. -/
theorem isValid_woven_iff {offset : Nat} {ms : List Match} (hfollow : Follow subject offset ms)
    (hfind : ∀ found ∈ ms, ∃ start ≤ subject.length,
      m.find? (.behind subject start) start = some found) :
    Utf8.isValid (subject.take offset ++ m.woven t subject offset ms) = true ↔
      ∀ found ∈ ms, IsBoundary subject found.first ∨ m.expand t 0 subject found = [] := by
  -- What stands before the first match is put in front, so that the rest is again such a text.
  induction ms generalizing offset with
  | nil => simp [woven, hvalid]
  | cons found ms ih =>
    obtain ⟨hspans, hfollow⟩ := hfollow
    obtain ⟨⟨start, hstart, hfound⟩, hrest⟩ := List.forall_mem_cons.1 hfind
    have hih := ih hfollow hrest
    have htext : subject.take offset ++ m.woven t subject offset (found :: ms) =
        subject.take found.first ++ (m.expand t 0 subject found ++
          m.woven t subject found.last ms) := by
      rw [woven, ← List.append_assoc, ← List.take_add, Nat.add_sub_cancel' hspans.start_le]
    rw [htext, List.forall_mem_cons]
    by_cases hfirst : IsBoundary subject found.first
    · have hkept := isBoundary_of_first hm hn hvalid hstart hfound hfirst
      have hlast : IsBoundary subject found.last := hkept _ hspans.mem_slots.2
      have hexpand : Utf8.isValid (m.expand t 0 subject found) = true :=
        isValid_expand (Match.isValid_group hkept)
      rw [Utf8.isValid_append hfirst, Utf8.isValid_append hexpand, ← Utf8.isValid_append hlast, hih]
      exact ⟨fun h => ⟨Or.inl hfirst, h⟩, And.right⟩
    · -- The match is empty, and what is written for it stands inside a character.
      have hkept := eq_first_of_not_boundary hm hn hvalid hstart hfound hfirst
      have hlast : found.last = found.first := hkept _ hspans.mem_slots.2
      have hexpand : Utf8.isValid (m.expand t 0 subject found) = true :=
        isValid_expand fun k => by rw [Match.group_eq_nil hkept]; rfl
      cases hbytes : m.expand t 0 subject found with
      | nil =>
        rw [List.nil_append, ← hlast, hih]
        exact ⟨fun h => ⟨Or.inr rfl, h⟩, And.right⟩
      | cons b bs =>
        have hb : Utf8.isTail b = false := Utf8.isTail_of_isValid_cons (hbytes ▸ hexpand)
        constructor
        · intro h
          exact absurd (Utf8.isValid_of_append_cons h hb) hfirst
        · rintro ⟨hfirst' | hnil, -⟩
          · exact absurd hfirst' hfirst
          · cases hnil

/-- Replacing all matches in a valid subject gives a valid one exactly if the template has no
characters of its own or no match lies inside a character. -/
theorem isValid_replaceAll_iff :
    Utf8.isValid (m.replaceAll t subject) = true ↔
      ¬ (Template.HasOwn t ∧
        ∃ found ∈ m.allMatches subject, ¬ IsBoundary subject found.first) := by
  have hfind : ∀ found ∈ m.allMatches subject, ∃ start ≤ subject.length,
      m.find? (.behind subject start) start = some found :=
    fun found => exists_find?_of_mem hm _ false (Nat.zero_le subject.length)
  -- What is written for a match inside a character is empty just if the template has no characters.
  have hinside : ∀ found ∈ m.allMatches subject, ¬ IsBoundary subject found.first →
      (m.expand t 0 subject found = [] ↔ ¬ Template.HasOwn t) := by
    intro found hmem hfirst
    obtain ⟨start, hstart, hfound⟩ := hfind found hmem
    have hkept := eq_first_of_not_boundary hm hn hvalid hstart hfound hfirst
    exact expand_eq_nil_iff (Match.group_eq_nil hkept)
  have hwoven := isValid_woven_iff (t := t) hm hn hvalid
    (follow_allMatchesFrom hm (2 * subject.length + 2) false (Nat.zero_le subject.length)) hfind
  rw [replaceAll_eq hm]
  refine hwoven.trans ⟨?_, fun h found hmem => ?_⟩
  · rintro h ⟨hown, found, hmem, hfirst⟩
    exact (hinside found hmem hfirst).1 ((h found hmem).resolve_left hfirst) hown
  · by_cases hfirst : IsBoundary subject found.first
    · exact Or.inl hfirst
    · exact Or.inr ((hinside found hmem hfirst).2 fun hown => h ⟨hown, found, hmem, hfirst⟩)

end

end Matcher

end BrowserShell.Pattern
