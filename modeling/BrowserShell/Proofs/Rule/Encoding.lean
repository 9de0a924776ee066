import BrowserShell.Proofs.Pattern.Replace
import BrowserShell.Proofs.Pattern.Unicode
import BrowserShell.Proofs.Rule.Lists
import Mathlib.Data.List.Induction

/-!
# Rules and the encoding of bodies

Rules work on bytes, and a pattern may match nothing between two bytes of one character; what its
replacement says then stands inside the character. As long as no pattern switches Unicode off this
is all that can go wrong: a valid body stays valid after every rule of a list exactly if no rule
splits a character when its turn comes (`Rules.valid_after_each_iff`).
-/

namespace BrowserShell

open Pattern

/-- Whether a rule splits a character of a body: its pattern matches between two bytes of the
character, and its replacement has characters of its own to put there. -/
def Rule.SplitsCharacter (r : Rule) (body : Bytes) : Prop :=
  Template.HasOwn r.template ∧
    ∃ m, r.finder = some m ∧ ∃ found ∈ m.allMatches body, ¬ Utf8.IsBoundary body found.first

/-- A valid body stays valid under a rule whose pattern keeps to Unicode exactly if the rule splits
no character of it. -/
theorem Rule.isValid_replaceAll_ofText_iff {t : RuleText} {body : Bytes}
    (hunicode : switchesUnicodeOff t.pattern.toList = false) (hbody : Utf8.isValid body = true) :
    Utf8.isValid ((ofText t).replaceAll body) = true ↔ ¬ (ofText t).SplitsCharacter body := by
  unfold replaceAll SplitsCharacter
  cases hfinder : (ofText t).finder with
  | none => simp [hbody]
  | some m =>
    obtain ⟨n, hm, hn⟩ := Matcher.exists_program (show Matcher.ofChars? _ _ = some m from hfinder)
    have hone : (∃ m', some m = some m' ∧
        ∃ found ∈ m'.allMatches body, ¬ Utf8.IsBoundary body found.first) ↔
          ∃ found ∈ m.allMatches body, ¬ Utf8.IsBoundary body found.first := by
      constructor
      · rintro ⟨m', heq, h⟩
        cases heq
        exact h
      · exact fun h => ⟨m, rfl, h⟩
    rw [hone]
    exact Matcher.isValid_replaceAll_iff hm (hn hunicode) hbody

namespace Rules

/-- Whether one of some rules splits a character when its turn comes. -/
def SplitCharacter (ts : List RuleText) (body : Bytes) : Prop :=
  ∃ before t after, ts = before ++ t :: after ∧
    (Rule.ofText t).SplitsCharacter ((ofTexts before).replaceAll body)

/-- A body goes through the first rules and then through the next one. -/
theorem replaceAll_concat (before : List RuleText) (t : RuleText) (body : Bytes) :
    (ofTexts (before ++ [t])).replaceAll body =
      (Rule.ofText t).replaceAll ((ofTexts before).replaceAll body) := by
  rw [ofTexts_append, replaceAll_append]
  rfl

/-- A valid body is valid after each rule of a list in which no pattern switches Unicode off exactly
if none of the rules splits a character when its turn comes; and then no character of the result is
lost where it is read as text. -/
theorem valid_after_each_iff {ts : List RuleText} {body : Bytes}
    (hunicode : ∀ t ∈ ts, switchesUnicodeOff t.pattern.toList = false)
    (hbody : Utf8.isValid body = true) :
    ((∀ before, before <+: ts → Utf8.isValid ((ofTexts before).replaceAll body) = true) ↔
        ¬ SplitCharacter ts body) ∧
      (¬ SplitCharacter ts body →
        Utf8.isValid ((ofTexts ts).replaceAll body) = true ∧
          Utf8.encode (Utf8.lossy ((ofTexts ts).replaceAll body)) =
            (ofTexts ts).replaceAll body) := by
  have hstep : ∀ before t after, ts = before ++ t :: after →
      Utf8.isValid ((ofTexts before).replaceAll body) = true →
        (Utf8.isValid ((ofTexts (before ++ [t])).replaceAll body) = true ↔
          ¬ (Rule.ofText t).SplitsCharacter ((ofTexts before).replaceAll body)) := by
    intro before t after hts hvalid
    rw [replaceAll_concat]
    exact Rule.isValid_replaceAll_ofText_iff (hunicode t (by simp [hts])) hvalid
  have hiff : (∀ before, before <+: ts →
      Utf8.isValid ((ofTexts before).replaceAll body) = true) ↔ ¬ SplitCharacter ts body := by
    constructor
    · rintro hvalid ⟨before, t, after, hts, hsplits⟩
      have hbefore : before <+: ts := ⟨t :: after, hts.symm⟩
      have hnext : before ++ [t] <+: ts := ⟨after, by simp [hts]⟩
      exact (hstep before t after hts (hvalid before hbefore)).1 (hvalid _ hnext) hsplits
    · intro hsplit before
      -- One rule after the other: the body is valid when each one's turn comes.
      induction before using List.reverseRecOn with
      | nil => exact fun _ => hbody
      | append_singleton before t ih =>
        rintro ⟨after, hts⟩
        have hts' : ts = before ++ t :: after := by simp [← hts]
        have hvalid := ih ⟨t :: after, hts'.symm⟩
        exact (hstep before t after hts' hvalid).2 fun h => hsplit ⟨before, t, after, hts', h⟩
  refine ⟨hiff, fun hsplit => ?_⟩
  have hvalid := hiff.2 hsplit ts (List.prefix_refl ts)
  exact ⟨hvalid, Utf8.encode_lossy hvalid⟩

/-- A letter that the first rule writes is split by the second. -/
theorem split_by_second :
    let ts : List RuleText := [⟨".", "\u00E9"⟩, ⟨"", "x"⟩]
    (∀ t ∈ ts, switchesUnicodeOff t.pattern.toList = false) ∧
      Utf8.isValid (Utf8.encode "e") = true ∧ SplitCharacter ts (Utf8.encode "e") := by
  intro ts
  have hunicode : ∀ t ∈ ts, switchesUnicodeOff t.pattern.toList = false := by decide +kernel
  have hbody : Utf8.isValid (Utf8.encode "e") = true := by decide +kernel
  have hresult : Utf8.isValid ((ofTexts ts).replaceAll (Utf8.encode "e")) = false := by
    decide +kernel
  refine ⟨hunicode, hbody, ?_⟩
  refine Classical.byContradiction fun hsplit => ?_
  have hvalid := ((valid_after_each_iff hunicode hbody).2 hsplit).1
  rw [hresult] at hvalid
  cases hvalid

/-- The rule that writes a letter wherever it can tears a character apart, whose bytes are lost
where the result is read as text. -/
theorem empty_pattern_splits :
    let t : RuleText := ⟨"", "x"⟩
    let result := (ofTexts [t]).replaceAll (Utf8.encode "\u00E9")
    switchesUnicodeOff t.pattern.toList = false ∧ Utf8.isValid (Utf8.encode "\u00E9") = true ∧
      result = [0x78, 0xC3, 0x78, 0xA9, 0x78] ∧ Utf8.isValid result = false ∧
      Utf8.lossy result = "x\uFFFDx\uFFFDx" := by
  decide +kernel

end Rules

end BrowserShell
