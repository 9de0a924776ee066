import BrowserShell.Proofs.Pattern.Anchored
import BrowserShell.Proofs.Pattern.Replace
import BrowserShell.Proofs.Rule.Lists

/-!
# Redirects

The whole form of a rule matches a path from its beginning to its end or not at all
(`Rule.span_of_takes`), so that what a path is redirected to is what the replacement stands for with
the groups of the match, and nothing else of the path is left (`Rule.redirect?_ofText_eq_some_iff`).
The first rule of a list whose whole form matches decides (`Rules.redirects_by_first`).
-/

namespace BrowserShell

open Pattern

namespace Rule

variable {t : RuleText} {path target : String} {m : Matcher} {found : Match}

/-- Whether the whole form of a rule matches a path; `m` is that form and `found` the match. -/
structure Takes (r : Rule) (path : String) (m : Matcher) (found : Match) : Prop where
  whole : r.whole = some m
  find : m.find? (.behind (Utf8.encode path) 0) 0 = some found

/-- The whole form of a rule is its pattern between the two ends of a text; it takes whole
characters, and its groups are numbered from one on. -/
theorem exists_anchored_of_whole (h : (ofText t).whole = some m) :
    ∃ n : Node, m.program = n.anchored.program ∧ n.Numbered ∧ n.anchored.TakesCharacters := by
  obtain ⟨finder, hfinder, hwhole⟩ := Option.bind_eq_some_iff.1 h
  obtain ⟨p, hp, -⟩ := Option.bind_eq_some_iff.1 hfinder
  obtain ⟨n, f, hreads, rfl⟩ := Matcher.exists_anchored hp hwhole
  have htakes := (hreads.takesCharacters (Or.inl rfl) (Or.inl rfl)).1
  exact ⟨n, rfl, hreads.numbered (numbered_of_parse? hp), trivial, htakes, trivial⟩

/-- The whole form matches from the beginning of a path to its end. -/
theorem span_of_takes (h : (ofText t).Takes path m found) :
    found.span? 0 = some (0, (Utf8.encode path).length) := by
  obtain ⟨n, hm, hn, -⟩ := exists_anchored_of_whole h.whole
  exact Matcher.span_of_find? hm hn h.find

/-- What the replacement stands for is valid, since all groups take whole characters. -/
theorem isValid_expand_of_takes (h : (ofText t).Takes path m found) (pieces : List Template.Piece) :
    Utf8.isValid (m.expand pieces 0 (Utf8.encode path) found) = true := by
  obtain ⟨n, hm, -, htakes⟩ := exists_anchored_of_whole h.whole
  have hfirst : found.first = 0 := by
    rw [Match.first, span_of_takes h]
    rfl
  have hboundary : Utf8.IsBoundary (Utf8.encode path) found.first := by
    rw [hfirst]
    rfl
  have hkept := Matcher.isBoundary_of_first hm htakes (Utf8.isValid_encode path) (Nat.zero_le _)
    h.find hboundary
  exact Matcher.isValid_expand (Match.isValid_group hkept)

/-- Where a match spans the subject, the template is all that is written. -/
theorem replaceFirst?_eq {pieces : List Template.Piece} {subject : Bytes}
    (h : m.find? (.behind subject 0) 0 = some found)
    (hspan : found.span? 0 = some (0, subject.length)) :
    m.replaceFirst? pieces subject = some (m.expand pieces 0 subject found) := by
  have hfirst : found.first = 0 := by
    rw [Match.first, hspan]
    rfl
  have hlast : found.last = subject.length := by
    rw [Match.last, hspan]
    rfl
  have hfind : m.find? ⟨[], subject⟩ 0 = some found := h
  rw [Matcher.replaceFirst?, hfind, Option.map_some, hfirst, hlast, List.take_zero,
    List.drop_length, List.nil_append, List.append_nil]

/-- A rule redirects a path just if its whole form matches it, to what the replacement stands for
with the groups of the match. -/
theorem redirect?_ofText_eq_some_iff :
    (ofText t).redirect? path = some target ↔
      ∃ m found, (ofText t).Takes path m found ∧
        Utf8.encode target = m.expand (ofText t).template 0 (Utf8.encode path) found := by
  constructor
  · intro h
    obtain ⟨m, hwhole, h⟩ := Option.bind_eq_some_iff.1 h
    obtain ⟨bytes, hbytes, htarget⟩ := Option.bind_eq_some_iff.1 h
    obtain ⟨found, hfind, -⟩ := Option.map_eq_some_iff.1 hbytes
    have htakes : (ofText t).Takes path m found := ⟨hwhole, hfind⟩
    have hvalid := isValid_expand_of_takes htakes (ofText t).template
    -- The replacement is valid, so that none of it is lost where it is read as text.
    have hexact : some bytes = some (m.expand (ofText t).template 0 (Utf8.encode path) found) :=
      hbytes.symm.trans (replaceFirst?_eq htakes.find (span_of_takes htakes))
    cases hexact
    cases htarget
    exact ⟨m, found, htakes, Utf8.encode_lossy hvalid⟩
  · rintro ⟨m, found, htakes, htarget⟩
    have hbytes : m.replaceFirst? (ofText t).template (Utf8.encode path) =
        some (m.expand (ofText t).template 0 (Utf8.encode path) found) :=
      replaceFirst?_eq htakes.find (span_of_takes htakes)
    rw [redirect?, htakes.whole]
    simp only [Option.bind_eq_bind, Option.bind_some, hbytes, ← htarget, Utf8.lossy_encode]
    rfl

/-- A rule leaves a path alone just if its whole form does not match it. -/
theorem redirect?_eq_none_iff {r : Rule} :
    r.redirect? path = none ↔ ∀ m found, ¬ r.Takes path m found := by
  constructor
  · intro h m found htakes
    have hfind : m.find? ⟨[], Utf8.encode path⟩ 0 = some found := htakes.find
    rw [redirect?, htakes.whole] at h
    simp only [Option.bind_eq_bind, Option.bind_some, Matcher.replaceFirst?, hfind,
      Option.map_some] at h
    cases h
  · intro hnot
    cases hredirect : r.redirect? path with
    | none => rfl
    | some target =>
      obtain ⟨m, hwhole, h⟩ := Option.bind_eq_some_iff.1 hredirect
      obtain ⟨bytes, hbytes, -⟩ := Option.bind_eq_some_iff.1 h
      obtain ⟨found, hfind, -⟩ := Option.map_eq_some_iff.1 hbytes
      exact absurd ⟨hwhole, hfind⟩ (hnot m found)

end Rule

namespace Rules

/-- A path is left alone just if no rule redirects it. -/
theorem redirect?_ofTexts_eq_none_iff {ts : List RuleText} {path : String} :
    (ofTexts ts).redirect? path = none ↔
      ∀ t ∈ ts, ∀ m found, ¬ (Rule.ofText t).Takes path m found := by
  rw [redirect?, List.findSome?_eq_none_iff, ofTexts, List.forall_mem_map]
  exact forall₂_congr fun t _ => Rule.redirect?_eq_none_iff

/-- The first rule is asked before the others. -/
theorem redirect?_cons (r : Rule) (rs : Rules) (path : String) :
    redirect? (r :: rs) path = (r.redirect? path).or (redirect? rs path) := by
  rw [redirect?, List.findSome?_cons]
  cases r.redirect? path <;> rfl

/-- A path is redirected by the first rule that redirects it. -/
theorem redirect?_ofTexts_eq_some_iff {ts : List RuleText} {path target : String} :
    (ofTexts ts).redirect? path = some target ↔
      ∃ before t after, ts = before ++ t :: after ∧
        (ofTexts before).redirect? path = none ∧ (Rule.ofText t).redirect? path = some target := by
  constructor
  · intro h
    obtain ⟨rs, r, ss, hrules, hr, hrs⟩ := List.findSome?_eq_some_iff.1 h
    obtain ⟨before, rest, rfl, rfl, hrest⟩ := List.map_eq_append_iff.1 hrules
    obtain ⟨t, after, rfl, rfl, rfl⟩ := List.map_eq_cons_iff.1 hrest
    exact ⟨before, t, after, rfl, List.findSome?_eq_none_iff.2 hrs, hr⟩
  · rintro ⟨before, t, after, rfl, hbefore, ht⟩
    rw [ofTexts_append, redirect?_append, hbefore, Option.none_or]
    exact (redirect?_cons _ _ path).trans (by rw [ht, Option.some_or])

/-- A rule without a whole form redirects nothing. -/
theorem redirect?_of_whole_eq_none {r : Rule} (h : r.whole = none) (path : String) :
    r.redirect? path = none := by
  rw [Rule.redirect?, h]
  rfl

/-- A path is redirected just if the whole form of a rule matches it. The first such rule decides:
the result is what its replacement stands for with the groups of the match, which spans the path; no
rule behind it is asked, nor is any rule asked about the result. A rule without a whole form is as
good as absent. -/
theorem redirects_by_first (ts : List RuleText) (path : String) :
    ((ofTexts ts).redirect? path = none ↔
        ∀ t ∈ ts, ∀ m found, ¬ (Rule.ofText t).Takes path m found) ∧
      (∀ target, (ofTexts ts).redirect? path = some target ↔
        ∃ before t after m found, ts = before ++ t :: after ∧
          (∀ t' ∈ before, ∀ m' found', ¬ (Rule.ofText t').Takes path m' found') ∧
          (Rule.ofText t).Takes path m found ∧
          found.span? 0 = some (0, (Utf8.encode path).length) ∧
          Utf8.encode target =
            Template.expand (found.group 0 (Utf8.encode path)) m.index?
              (Rule.ofText t).template) ∧
      (∀ target later, (ofTexts ts).redirect? path = some target →
        (ofTexts (ts ++ later)).redirect? path = some target) ∧
      ∀ before t after, ts = before ++ t :: after → (Rule.ofText t).whole = none →
        (ofTexts (before ++ after)).redirect? path = (ofTexts ts).redirect? path := by
  refine ⟨redirect?_ofTexts_eq_none_iff, fun target => ?_, fun target later h => ?_, ?_⟩
  · rw [redirect?_ofTexts_eq_some_iff]
    constructor
    · rintro ⟨before, t, after, hts, hbefore, ht⟩
      obtain ⟨m, found, htakes, htarget⟩ := Rule.redirect?_ofText_eq_some_iff.1 ht
      exact ⟨before, t, after, m, found, hts, redirect?_ofTexts_eq_none_iff.1 hbefore, htakes,
        Rule.span_of_takes htakes, htarget⟩
    · rintro ⟨before, t, after, m, found, hts, hbefore, htakes, -, htarget⟩
      exact ⟨before, t, after, hts, redirect?_ofTexts_eq_none_iff.2 hbefore,
        Rule.redirect?_ofText_eq_some_iff.2 ⟨m, found, htakes, htarget⟩⟩
  · rw [ofTexts_append, redirect?_append, h, Option.some_or]
  · rintro before t after rfl hwhole
    have hrest : (ofTexts (t :: after)).redirect? path = (ofTexts after).redirect? path := by
      refine (redirect?_cons _ _ path).trans ?_
      rw [redirect?_of_whole_eq_none hwhole, Option.none_or]
      rfl
    rw [ofTexts_append, ofTexts_append, redirect?_append, redirect?_append, hrest]

/-- The first rule is well formed but has no whole form, since the comment at its end would take the
end of the group. What the second one writes is not redirected by the third. -/
example :
    let rules := ofTexts [⟨"(?x).#", "b"⟩, ⟨".", "ab"⟩, ⟨"..", "c"⟩]
    rules.map Rule.isValid = [true, true, true] ∧
      rules.map (fun r => r.whole.isSome) = [false, true, true] ∧
      rules.redirect? "a" = some "ab" ∧ rules.redirect? "ab" = some "c" := by
  decide +kernel

end Rules

end BrowserShell
