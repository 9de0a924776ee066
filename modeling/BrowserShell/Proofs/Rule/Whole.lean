import BrowserShell.Proofs.Pattern.Found
import BrowserShell.Proofs.Pattern.Subject
import BrowserShell.Proofs.Rule.Redirect

/-!
# What redirect rules match

A rule redirects the paths that its pattern can take entirely, in whatever way, as long as the
pattern has a whole form at all (`Rules.redirects_whole_iff`). The whole form is a pattern for text,
made by putting the text of the pattern into a group: it is missing where the group is not closed or
nested too deep, where the pattern takes bytes that are no characters, and where it is too large
(`Rule.whole_eq_some_iff`). The rule counts as valid nonetheless.
-/

namespace BrowserShell

open Pattern

namespace Pattern

variable {subject : Bytes} {i j : Nat}

/-- What is taken some times in a row leads no further than each time. -/
theorem Times.le {R : Nat → Nat → Prop} {count bound : Nat}
    (hR : ∀ i j, R i j → i ≤ bound → j ≤ bound) (h : Times R count i j) (hi : i ≤ bound) :
    j ≤ bound := by
  induction count generalizing i with
  | zero => exact h ▸ hi
  | succ count ih =>
    obtain ⟨k, hk, h⟩ := h
    exact ih h (hR i k hk hi)

/-- A pattern takes nothing behind the end of a subject. -/
theorem Node.le_length_of_takes (n : Node) (h : n.Takes subject i j) (hi : i ≤ subject.length) :
    j ≤ subject.length := by
  induction n generalizing i j with
  | empty => exact h ▸ hi
  | scalar set =>
    obtain ⟨c, rest, -, hdrop, rfl⟩ := h
    have hlength := congrArg List.length hdrop
    rw [List.length_drop, List.length_append] at hlength
    omega
  | byte set =>
    obtain ⟨b, rest, -, hdrop, rfl⟩ := h
    exact lt_of_drop_eq_cons hdrop
  | assertion a => exact h.2 ▸ hi
  | group index n ih => exact ih h hi
  | cat a b iha ihb =>
    obtain ⟨k, ha, hb⟩ := h
    exact ihb hb (iha ha hi)
  | alt a b iha ihb => exact h.elim (iha · hi) (ihb · hi)
  | repeated least most greedy n ih =>
    obtain ⟨count, -, -, h⟩ := h
    exact h.le (fun _ _ => ih) hi

/-- Between the two ends a pattern takes all of a subject or nothing. -/
theorem Node.takes_anchored_iff (n : Node) (hi : i ≤ subject.length) :
    n.anchored.Takes subject i j ↔
      i = 0 ∧ j = subject.length ∧ n.Takes subject 0 subject.length := by
  have hstart : (Position.behind subject i).meets .textStart = true ↔ i = 0 := by
    show (subject.take i).reverse.isEmpty = true ↔ i = 0
    rw [List.isEmpty_iff, List.reverse_eq_nil_iff, List.take_eq_nil_iff]
    refine ⟨fun h => h.elim id fun hnil => ?_, Or.inl⟩
    rw [hnil] at hi
    exact Nat.le_zero.1 hi
  have hend : ∀ k, (Position.behind subject k).meets .textEnd = true ↔ subject.length ≤ k := by
    intro k
    show (subject.drop k).isEmpty = true ↔ subject.length ≤ k
    rw [List.isEmpty_iff, List.drop_eq_nil_iff]
  constructor
  · rintro ⟨_, ⟨hmeets, rfl⟩, k, htakes, hlast, rfl⟩
    have hk := n.le_length_of_takes htakes hi
    obtain rfl := hstart.1 hmeets
    obtain rfl : j = subject.length := Nat.le_antisymm hk ((hend j).1 hlast)
    exact ⟨rfl, rfl, htakes⟩
  · rintro ⟨rfl, rfl, htakes⟩
    exact ⟨0, ⟨hstart.2 rfl, rfl⟩, subject.length, htakes, (hend _).2 (Nat.le_refl _), rfl⟩

end Pattern

/-- Whether the pattern of a rule, read without regard to case, can take all of a path. -/
def RuleText.TakesAll (t : RuleText) (path : String) : Prop :=
  ∃ p n f, parse? t.pattern.toList = some p ∧
    Node.ofSyntax? .bytes Matcher.flags p.tree = some (n, f) ∧
    n.Takes (Utf8.encode path) 0 (Utf8.encode path).length

/-- Whether the pattern of a rule has a whole form: it is still a pattern once it stands in a group
between two marks, it is a pattern for text, and it is small enough with the two marks. -/
def RuleText.HasWhole (t : RuleText) : Prop :=
  ∃ p n f, parse? t.pattern.toList = some p ∧
    (parse? (Rule.wholePattern t.pattern.toList)).isSome ∧
    Node.ofSyntax? .text Matcher.flags p.tree = some (n, f) ∧ n.anchored.fits = true

namespace Rule

variable {t : RuleText} {path : String}

/-- What a valid rule has: its pattern is read, and read for bytes. -/
theorem exists_of_isValid (h : (ofText t).isValid = true) :
    ∃ p n f, parse? t.pattern.toList = some p ∧
      Node.ofSyntax? .bytes Matcher.flags p.tree = some (n, f) := by
  obtain ⟨m, hm⟩ := Option.isSome_iff_exists.1 h
  obtain ⟨p, hp, hm⟩ := Option.bind_eq_some_iff.1 hm
  obtain ⟨⟨n, f⟩, hn, -⟩ := Option.bind_eq_some_iff.1 hm
  exact ⟨p, n, f, hp, hn⟩

/-- The whole form of a valid rule is that of its pattern. -/
theorem whole_eq (h : (ofText t).isValid = true) :
    (ofText t).whole = Matcher.ofChars? .text (wholePattern t.pattern.toList) := by
  obtain ⟨m, hm⟩ := Option.isSome_iff_exists.1 h
  show (ofText t).finder.bind _ = _
  rw [hm, Option.bind_some]

/-- A valid rule has a whole form just if its pattern has. -/
theorem whole_eq_some_iff (h : (ofText t).isValid = true) {m : Matcher} :
    (ofText t).whole = some m ↔
      ∃ p n f, parse? t.pattern.toList = some p ∧
        (parse? (wholePattern t.pattern.toList)).isSome ∧
        Node.ofSyntax? .text Matcher.flags p.tree = some (n, f) ∧ n.anchored.fits = true ∧
        m = ⟨n.anchored.program, p.groups, p.names⟩ := by
  rw [whole_eq h]
  constructor
  · intro hwhole
    obtain ⟨p, -, -, hp, -⟩ := exists_of_isValid h
    obtain ⟨q, hq, -⟩ := Option.bind_eq_some_iff.1 hwhole
    rw [wholePattern, Matcher.ofChars?_anchored .text hp hq] at hwhole
    obtain ⟨⟨n, f⟩, hn, hm⟩ := Option.bind_eq_some_iff.1 hwhole
    obtain ⟨hfits, hm⟩ := Option.ite_none_right_eq_some.1 hm
    exact ⟨p, n, f, hp, by rw [hq, Option.isSome_some], hn, hfits, (Option.some.inj hm).symm⟩
  · rintro ⟨p, n, f, hp, hq, hn, hfits, rfl⟩
    obtain ⟨q, hq⟩ := Option.isSome_iff_exists.1 hq
    rw [wholePattern, Matcher.ofChars?_anchored .text hp hq, hn, Option.bind_some]
    exact if_pos hfits

/-- A rule redirects a path just if its whole form finds something in the path. -/
theorem isSome_redirect?_iff {r : Rule} :
    (r.redirect? path).isSome ↔
      ∃ m, r.whole = some m ∧ (m.find? (.behind (Utf8.encode path) 0) 0).isSome := by
  rw [← Option.ne_none_iff_isSome, ne_eq, redirect?_eq_none_iff]
  push Not
  constructor
  · rintro ⟨m, found, hwhole, hfind⟩
    exact ⟨m, hwhole, by rw [hfind, Option.isSome_some]⟩
  · rintro ⟨m, hwhole, hfind⟩
    obtain ⟨found, hfind⟩ := Option.isSome_iff_exists.1 hfind
    exact ⟨m, found, hwhole, hfind⟩

/-- A valid rule redirects the paths that its pattern can take entirely, if the pattern has a whole
form. -/
theorem isSome_redirect?_ofText_iff (h : (ofText t).isValid = true) :
    ((ofText t).redirect? path).isSome ↔ t.HasWhole ∧ t.TakesAll path := by
  have hfind : ∀ (n : Node) (m : Matcher), m.program = n.anchored.program →
      ((m.find? (.behind (Utf8.encode path) 0) 0).isSome ↔
        n.Takes (Utf8.encode path) 0 (Utf8.encode path).length) := by
    intro n m hm
    rw [Matcher.isSome_find?_iff hm (Nat.zero_le _)]
    constructor
    · rintro ⟨s, j, -, hs, htakes⟩
      exact ((n.takes_anchored_iff hs).1 htakes).2.2
    · intro htakes
      exact ⟨0, _, Nat.le_refl 0, Nat.zero_le _,
        (n.takes_anchored_iff (Nat.zero_le _)).2 ⟨rfl, rfl, htakes⟩⟩
  -- Read for text and for bytes the pattern is the same.
  have hbytes : ∀ {s : Syntax} {n : Node} {f : Flags},
      Node.ofSyntax? .text Matcher.flags s = some (n, f) →
        Node.ofSyntax? .bytes Matcher.flags s = some (n, f) := fun hn =>
    (Node.reads_of_ofSyntax? _ hn).ofSyntax? (Or.inl rfl)
  rw [isSome_redirect?_iff]
  constructor
  · rintro ⟨m, hwhole, hm⟩
    obtain ⟨p, n, f, hp, hq, hn, hfits, rfl⟩ := (whole_eq_some_iff h).1 hwhole
    exact ⟨⟨p, n, f, hp, hq, hn, hfits⟩, p, n, f, hp, hbytes hn, (hfind n _ rfl).1 hm⟩
  · rintro ⟨⟨p, n, f, hp, hq, hn, hfits⟩, p', n', f', hp', hn', htakes⟩
    cases hp.symm.trans hp'
    cases (hbytes hn).symm.trans hn'
    exact ⟨_, (whole_eq_some_iff h).2 ⟨p, n, f, hp, hq, hn, hfits, rfl⟩, (hfind n _ rfl).2 htakes⟩

end Rule

namespace Rules

/-- A single valid rule redirects a path just if its pattern, read without regard to case, can take
all of the path and the pattern has a whole form. -/
theorem redirects_whole_iff {t : RuleText} (h : (Rule.ofText t).isValid = true) (path : String) :
    ((ofTexts [t]).redirect? path).isSome ↔ t.HasWhole ∧ t.TakesAll path := by
  have hone : (ofTexts [t]).redirect? path = (Rule.ofText t).redirect? path :=
    (redirect?_cons _ [] path).trans Option.or_none
  rw [hone, Rule.isSome_redirect?_ofText_iff h]

/-- The second branch takes all of the path, though a search for the pattern prefers the first. -/
theorem redirects_whole_iff_longer :
    (Rule.ofText ⟨".|..", "b"⟩).isValid = true ∧ RuleText.HasWhole ⟨".|..", "b"⟩ ∧
      RuleText.TakesAll ⟨".|..", "b"⟩ "aé" :=
  have hvalid : (Rule.ofText ⟨".|..", "b"⟩).isValid = true := by decide +kernel
  ⟨hvalid, (redirects_whole_iff hvalid "aé").1 (by decide +kernel)⟩

/-- The comment at the end of a valid pattern hides the end of the group it is put into, so that
there is no whole form, and what the pattern takes entirely is not redirected. -/
theorem comment_hides_end :
    (Rule.ofText ⟨"(?x).#", "b"⟩).isValid = true ∧ RuleText.TakesAll ⟨"(?x).#", "b"⟩ "a" ∧
      (ofTexts [⟨"(?x).#", "b"⟩]).redirect? "a" = none := by
  refine ⟨by decide +kernel, ⟨_, _, _, rfl, rfl, ?_⟩, by decide +kernel⟩
  exact ⟨0, rfl, 'a', [], by decide +kernel, by decide +kernel, by decide +kernel⟩

end Rules

end BrowserShell
