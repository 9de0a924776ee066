import BrowserShell.Rule

/-!
# Lists of rules

Rules are put one list after another, and some of them are malformed. A path goes by the first rule
that matches it, so that an earlier list wins over a later one (`Rules.redirect?_append`); a body
goes through all rules, so that a later list changes what an earlier one left
(`Rules.replaceAll_append`). A malformed rule does nothing to a body (`Rules.replaceAll_filter`).
-/

namespace BrowserShell

/-- A malformed rule leaves a body as it is. -/
theorem Rule.replaceAll_of_malformed {r : Rule} (h : r.isValid = false) (body : Bytes) :
    r.replaceAll body = body := by
  have hfinder : r.finder = none := by simpa [isValid] using h
  simp [replaceAll, hfinder]

namespace Rules

/-- The rules of two rows of texts are those of the one and then those of the other. -/
theorem ofTexts_append (ts us : List RuleText) :
    ofTexts (ts ++ us) = ofTexts ts ++ ofTexts us := List.map_append

/-- The rules of the well-formed texts are the well-formed rules. -/
theorem ofTexts_filter (ts : List RuleText) :
    ofTexts (ts.filter fun t => (Rule.ofText t).isValid) = (ofTexts ts).filter Rule.isValid := by
  rw [ofTexts, ofTexts, List.filter_map]
  rfl

/-- A path goes by the rules of the first list, and by those of the second where the first has none
for it. -/
theorem redirect?_append (rs ss : Rules) (path : String) :
    redirect? (rs ++ ss) path = (redirect? rs path).or (redirect? ss path) :=
  List.findSome?_append

/-- A body goes through the first list and then through the second. -/
theorem replaceAll_append (rs ss : Rules) (body : Bytes) :
    replaceAll (rs ++ ss) body = replaceAll ss (replaceAll rs body) :=
  List.foldl_append

/-- A body goes through the first rule and then through the others. -/
theorem replaceAll_cons (r : Rule) (rs : Rules) (body : Bytes) :
    replaceAll (r :: rs) body = replaceAll rs (r.replaceAll body) := rfl

/-- Without the malformed rules the others change a body just as with them. -/
theorem replaceAll_filter (rs : Rules) (body : Bytes) :
    replaceAll (rs.filter Rule.isValid) body = replaceAll rs body := by
  induction rs generalizing body with
  | nil => rfl
  | cons r rs ih =>
    rw [replaceAll_cons]
    cases h : r.isValid with
    | true => rw [List.filter_cons_of_pos h, replaceAll_cons, ih]
    | false =>
      rw [List.filter_cons_of_neg (by simp [h]), Rule.replaceAll_of_malformed h, ih]

end Rules

end BrowserShell
