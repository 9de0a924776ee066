import BrowserShell.Proofs.Filter.Life
import BrowserShell.Proofs.Filter.Trim
import BrowserShell.Proofs.Rule.Lists

/-!
# Filters with malformed rules

A malformed rule changes no body, and yet it counts as a rule: a filter relays a chunk as it is only
if it has no rules at all, and trims it otherwise. So a filter all of whose rules are malformed
drops the blanks around a chunk, which a filter without rules relays (`malformed_rule_trims`).
`pass_wellFormed_iff` says that malformed rules make no other difference.
-/

namespace BrowserShell.Filter

/-! ## Calls of filters with other rules -/

/-- What a call writes of the bytes that it takes. -/
def writtenOf (rules : Rules) (taken : Bytes) (room : Nat) : Bytes :=
  if rules.isEmpty then taken else (rules.replaceAll (trim taken)).take room

/-- A call with bytes to relay writes over the beginning of the buffer. -/
theorem pass_of_nonempty (f : Filter) (t : FileTree) {chunk buffer : Bytes}
    (h : chunk.take buffer.length ≠ []) :
    f.pass t chunk buffer =
      let written := writtenOf f.rules (chunk.take buffer.length) buffer.length
      ⟨.done, chunk.length, written.length, written ++ buffer.drop written.length,
        f.injection? t (f.rules.replaceAll (trim (chunk.take buffer.length)))⟩ := by
  unfold pass writtenOf
  rw [if_neg h]

/-- Without rules the bytes are written as they are. -/
theorem writtenOf_nil (taken : Bytes) (room : Nat) : writtenOf [] taken room = taken := rfl

/-- Rules that are all malformed only have the bytes trimmed. -/
theorem writtenOf_malformed {rules : Rules} (hne : rules ≠ [])
    (h : rules.filter Rule.isValid = []) {taken : Bytes} {room : Nat} (hroom : taken.length ≤ room) :
    writtenOf rules taken room = trim taken := by
  have hreplace : rules.replaceAll (trim taken) = trim taken := by
    rw [← Rules.replaceAll_filter, h]
    rfl
  unfold writtenOf
  rw [if_neg (by simpa using hne), hreplace]
  exact List.take_of_length_le ((length_trim_le taken).trans hroom)

/-- If one of the rules is well formed, the malformed ones do not matter to what is written. -/
theorem writtenOf_filter {rules : Rules} (h : rules.filter Rule.isValid ≠ []) (taken : Bytes)
    (room : Nat) : writtenOf (rules.filter Rule.isValid) taken room = writtenOf rules taken room := by
  have hne : rules ≠ [] := by
    rintro rfl
    exact h rfl
  unfold writtenOf
  rw [if_neg (by simpa using h), if_neg (by simpa using hne), Rules.replaceAll_filter]

/-- What is written is the same without the malformed rules, if there are no rules, if one is well
formed, or if there is nothing to trim; and only then. -/
theorem writtenOf_filter_iff (rules : Rules) {taken : Bytes} {room : Nat}
    (hroom : taken.length ≤ room) :
    writtenOf rules taken room = writtenOf (rules.filter Rule.isValid) taken room ↔
      rules = [] ∨ rules.filter Rule.isValid ≠ [] ∨ ¬ BlankAround taken := by
  by_cases hnone : rules = []
  · subst hnone
    simp
  · by_cases hvalid : rules.filter Rule.isValid = []
    · rw [writtenOf_malformed hnone hvalid hroom, hvalid, writtenOf_nil, trim_eq_self_iff]
      simp [hnone]
    · rw [writtenOf_filter hvalid]
      simp [hvalid]

/-- The injection of a call does not depend on malformed rules. -/
theorem injection_pass_filter (t₀ now : FileTree) (root : Path) (rules : Rules)
    (url mime : String) (chunk buffer : Bytes) :
    ((attach t₀ root rules url mime).pass now chunk buffer).injection =
      ((attach t₀ root (rules.filter Rule.isValid) url mime).pass now chunk buffer).injection := by
  by_cases htake : chunk.take buffer.length = []
  · rw [pass_of_empty _ _ htake, pass_of_empty _ _ htake]
  · rw [pass_of_nonempty _ _ htake, pass_of_nonempty _ _ htake, attach_eq, attach_eq]
    dsimp only
    rw [Rules.replaceAll_filter]
    -- What is injected depends on the rules through the content alone.
    rfl

/-- Two calls of filters that differ in their rules come to the same if they write the same and
give the same injection. -/
theorem pass_eq_iff {f g : Filter} {t : FileTree} {chunk buffer : Bytes}
    (htake : chunk.take buffer.length ≠ [])
    (hi : (f.pass t chunk buffer).injection = (g.pass t chunk buffer).injection) :
    f.pass t chunk buffer = g.pass t chunk buffer ↔
      writtenOf f.rules (chunk.take buffer.length) buffer.length =
        writtenOf g.rules (chunk.take buffer.length) buffer.length := by
  rw [pass_of_nonempty _ _ htake, pass_of_nonempty _ _ htake] at hi ⊢
  dsimp only at hi ⊢
  rw [Outcome.mk.injEq, hi]
  constructor
  · rintro ⟨-, -, hlength, houtput, -⟩
    exact (List.append_inj houtput hlength).1
  · intro h
    rw [h]
    simp

/-- A filter for a response comes to the same at a call as the one without its malformed rules, if
it has no rules or a well-formed one, or if there are no blanks around the bytes taken; and only
then. In any case both take the whole chunk and give the same injection. -/
theorem pass_wellFormed_iff (t₀ now : FileTree) (root : Path) (texts : List RuleText)
    (url mime : String) (chunk buffer : Bytes) :
    let wellFormed := texts.filter fun t => (Rule.ofText t).isValid
    let all := (attach t₀ root (.ofTexts texts) url mime).pass now chunk buffer
    let others := (attach t₀ root (.ofTexts wellFormed) url mime).pass now chunk buffer
    (all = others ↔
        texts = [] ∨ wellFormed ≠ [] ∨ ¬ BlankAround (chunk.take buffer.length)) ∧
      all.status = others.status ∧ all.consumed = others.consumed ∧
      all.injection = others.injection := by
  intro wellFormed all others
  have hrules : Rules.ofTexts wellFormed = (Rules.ofTexts texts).filter Rule.isValid :=
    Rules.ofTexts_filter texts
  have hi : all.injection = others.injection := by
    simp only [all, others, hrules]
    exact injection_pass_filter ..
  by_cases htake : chunk.take buffer.length = []
  · have hall : all = ⟨.done, chunk.length, 0, buffer, none⟩ := pass_of_empty _ _ htake
    have hothers : others = ⟨.done, chunk.length, 0, buffer, none⟩ := pass_of_empty _ _ htake
    have hblank : ¬ BlankAround (chunk.take buffer.length) := htake ▸ not_blankAround_nil
    exact ⟨⟨fun _ => Or.inr (Or.inr hblank), fun _ => hall.trans hothers.symm⟩,
      by rw [hall, hothers], by rw [hall, hothers], hi⟩
  · have hroom : (chunk.take buffer.length).length ≤ buffer.length := by
      rw [List.length_take]
      exact Nat.min_le_left _ _
    refine ⟨?_, ?_, ?_, hi⟩
    · rw [pass_eq_iff htake hi, attach_eq, attach_eq]
      dsimp only
      rw [hrules, writtenOf_filter_iff _ hroom, ← hrules]
      simp [Rules.ofTexts]
    · simp only [all, others, pass_of_nonempty _ _ htake]
    · simp only [all, others, pass_of_nonempty _ _ htake]

/-- With a malformed rule a filter drops a blank that it relays without the rule. -/
theorem malformed_rule_trims :
    let texts : List RuleText := [⟨"(", "x"⟩]
    let wellFormed := texts.filter fun t => (Rule.ofText t).isValid
    let call := fun texts : List RuleText =>
      (attach .empty "page" (.ofTexts texts) "httpx://a" "text/plain").pass .empty
        [0x20, 0x61] [0x23, 0x23]
    wellFormed = [] ∧ call texts = ⟨.done, 2, 1, [0x61, 0x23], none⟩ ∧
      call wellFormed = ⟨.done, 2, 2, [0x20, 0x61], none⟩ ∧ call texts ≠ call wellFormed := by
  decide +kernel

end BrowserShell.Filter
