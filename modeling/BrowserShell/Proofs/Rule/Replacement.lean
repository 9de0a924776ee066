import BrowserShell.Proofs.Pattern.Names
import BrowserShell.Proofs.Pattern.Replace
import BrowserShell.Proofs.Pattern.Template
import BrowserShell.Proofs.Rule.Redirect

/-!
# What replacements write

What the groups of a match took can be looked up by the numbers and names of a template: there are
no groups beyond the numbers for them, and no number is a name (`Matcher.captures`). So a rule whose
replacement has no number in the braces that it opens writes what the replacement says, in bodies
(`Rule.replaceAll_said`) and in paths (`Rule.redirect?_said`).
-/

namespace BrowserShell

open Pattern

namespace Pattern

variable {m : Matcher} {found : Match} {subject : Bytes} {offset : Nat} {kind : Subject}
  {pattern : List Char}

/-- There is no group beyond those that have slots. -/
theorem Match.group_eq_nil_of_le {k : Nat} (h : found.slots.length ≤ 2 * k) :
    found.group offset subject k = [] := by
  have hspan : found.span? k = none := by
    rw [span?, List.getElem?_eq_none h]
    rfl
  rw [group, hspan]

namespace Matcher

/-- No number is the name of a group. -/
theorem index?_of_digits (hnames : ∀ n ∈ m.names, Parser.IsName n.1) {ds : List Char}
    (hds : ∀ d ∈ ds, d.isDigit = true) : m.index? ds = none := by
  rw [index?, Option.map_eq_none_iff, List.find?_eq_none]
  intro n hn heq
  obtain ⟨c, hc, hdigit⟩ := hnames n hn
  rw [of_decide_eq_true heq] at hc
  rw [hds c (List.mem_of_mem_head? hc)] at hdigit
  cases hdigit

/-- What the groups of a match took. -/
def captures (m : Matcher) (found : Match) (subject : Bytes)
    (hnames : ∀ n ∈ m.names, Parser.IsName n.1)
    (hslots : found.slots.length ≤ 2 * (Template.maxNumber + 1)) : Template.Captures where
  group := found.group 0 subject
  index? := m.index?
  group_of_lt _ hlt := Match.group_eq_nil_of_le (Nat.le_trans hslots (Nat.mul_le_mul_left 2 hlt))
  index?_of_digits _ hds _ := index?_of_digits hnames hds

/-- A match has as many slots as its groups and the match itself need. -/
theorem length_slots_of_find? {n : Node} (hm : m.program = n.program)
    (hend : offset ≤ subject.length)
    (h : m.find? (.behind subject offset) offset = some found) :
    found.slots.length = 2 * (m.groups + 1) := by
  obtain ⟨kept, hsearch, rfl⟩ := Option.map_eq_some_iff.1 h
  obtain ⟨place, t, hreaches, -, -, rfl⟩ := accepts_of_search hend hsearch
  rw [hm] at hreaches
  exact (spans_of_reaches (by omega) hreaches).2.2.length_eq

/-- A match of a pattern that is not too long is written as the replacement says. -/
theorem expand_braced (hm : ofChars? kind pattern = some m)
    (hpattern : pattern.length < Template.maxNumber) (hend : offset ≤ subject.length)
    (hfind : m.find? (.behind subject offset) offset = some found) {r : List Char}
    (hr : Template.Unnested r) :
    m.expand (Template.pieces (Template.braced r)) 0 subject found =
      m.expand (Template.said r) 0 subject found := by
  obtain ⟨p, n, f, hp, -, rfl⟩ := exists_reads hm
  obtain ⟨hnames, hgroups⟩ := named_of_parse? hp
  have hslots := length_slots_of_find? rfl hend hfind
  exact (captures _ found subject hnames (by rw [hslots]; dsimp only; omega)).expand_eq_of_agrees
    ((Template.forall₂_braced_iff r).2 hr)

/-- What is written does not depend on a template beyond what it stands for with the matches. -/
theorem replaceAll_congr {n : Node} (hm : m.program = n.program) {ps qs : List Template.Piece}
    (h : ∀ offset ≤ subject.length, ∀ found,
      m.find? (.behind subject offset) offset = some found →
        m.expand ps 0 subject found = m.expand qs 0 subject found) :
    m.replaceAll ps subject = m.replaceAll qs subject := by
  have hwoven : ∀ (ms : List Match) (offset : Nat),
      (∀ found ∈ ms, m.expand ps 0 subject found = m.expand qs 0 subject found) →
        m.woven ps subject offset ms = m.woven qs subject offset ms := by
    intro ms offset hms
    induction ms generalizing offset with
    | nil => rfl
    | cons found rest ih =>
      obtain ⟨hfound, hrest⟩ := List.forall_mem_cons.1 hms
      rw [woven, woven, hfound, ih found.last hrest]
  rw [replaceAll_eq hm, replaceAll_eq hm]
  refine hwoven _ 0 fun found hfound => ?_
  obtain ⟨start, hstart, hfind⟩ := exists_find?_of_mem hm _ false (Nat.zero_le _) hfound
  exact h start hstart found hfind

end Matcher

end Pattern

namespace Rule

variable {t : RuleText} {m : Matcher} {path target : String}

/-- A rule puts what its replacement says in the place of every match. -/
theorem replaceAll_said (hm : (ofText t).finder = some m)
    (hpattern : t.pattern.toList.length < Template.maxNumber)
    (h : Template.Unnested t.replacement.toList) (body : Bytes) :
    (ofText t).replaceAll body = m.replaceAll (Template.said t.replacement.toList) body := by
  have hchars : Matcher.ofChars? .bytes t.pattern.toList = some m := hm
  obtain ⟨p, n, f, -, -, hprogram⟩ := Matcher.exists_reads hchars
  have hreplace : (ofText t).replaceAll body = m.replaceAll (ofText t).template body := by
    rw [replaceAll, hm]
  rw [hreplace]
  exact Matcher.replaceAll_congr (by rw [hprogram]) fun offset hend found hfind =>
    Matcher.expand_braced hchars hpattern hend hfind h

/-- A rule redirects a path to what its replacement says with the groups of the match. -/
theorem redirect?_said (hpattern : t.pattern.toList.length + 6 < Template.maxNumber)
    (h : Template.Unnested t.replacement.toList) :
    (ofText t).redirect? path = some target ↔
      ∃ m found, (ofText t).Takes path m found ∧
        Utf8.encode target =
          m.expand (Template.said t.replacement.toList) 0 (Utf8.encode path) found := by
  rw [redirect?_ofText_eq_some_iff]
  refine exists_congr fun m => exists_congr fun found => and_congr_right fun htakes => ?_
  obtain ⟨-, -, hwhole⟩ := Option.bind_eq_some_iff.1 htakes.whole
  have hexpand := Matcher.expand_braced hwhole
    (by simpa [wholePattern] using hpattern) (Nat.zero_le _) htakes.find h
  rw [← hexpand]
  rfl

end Rule

end BrowserShell
