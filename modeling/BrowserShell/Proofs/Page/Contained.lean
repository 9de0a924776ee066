import BrowserShell.Page
import BrowserShell.Proofs.File.Path

/-!
# Contained paths

A path is contained if it is a row of names without backslashes (`isContained_iff`). That is read off
its text twice, from the pieces between the slashes and from the components, which leave empty pieces
and inner dots out; for a row of names the pieces are the components. So contained paths that differ
as texts lead to different places below any directory (`contained_by_pieces`).
-/

namespace BrowserShell.Page

/-- A contained path is a row of names without backslashes. -/
theorem isContained_iff {s : String} : isContained s ↔ '\\' ∉ s.toList ∧ Path.Plain s := by
  simp only [isContained, Bool.and_eq_true, Bool.not_eq_true', List.isEmpty_eq_false_iff,
    List.contains_eq_mem, decide_eq_false_iff_not, List.all_eq_true, bne_iff_ne]
  constructor
  · rintro ⟨⟨⟨-, hb⟩, hp⟩, -⟩
    exact ⟨hb, fun piece hm => ⟨(hp piece hm).1.1, (hp piece hm).1.2, (hp piece hm).2⟩⟩
  · rintro ⟨hb, hp⟩
    refine ⟨⟨⟨?_, hb⟩, fun piece hm => ⟨⟨(hp piece hm).1, (hp piece hm).2.1⟩, (hp piece hm).2.2⟩⟩,
      ?_⟩
    · exact fun h => Path.ne_empty_of_plain hp (String.toList_eq_nil_iff.1 h)
    · intro c hc
      rw [Path.components_of_plain hp, List.mem_map] at hc
      obtain ⟨name, -, rfl⟩ := hc
      rfl

/-- A path is contained exactly if it is not empty, has no backslash, and none of its pieces, the
texts without a slash that make it up with slashes between them, is empty or made of one or two dots.
The components of a contained path are then its pieces, each of them a name, and joined to whatever
directory, it is the same path as another contained one exactly if they are the same text. -/
theorem contained_by_pieces (s : String) :
    let pieces := Text.pieces '/' s.toList
    (∀ ps, ps = pieces ↔ ps ≠ [] ∧ (∀ p ∈ ps, '/' ∉ p) ∧ Text.joined '/' ps = s.toList) ∧
      (isContained s ↔
        s ≠ "" ∧ '\\' ∉ s.toList ∧ ∀ p ∈ pieces, p ≠ [] ∧ p ≠ ['.'] ∧ p ≠ ['.', '.']) ∧
      (isContained s →
        Path.components s = pieces.map .normal ∧
          ∀ other, isContained other → ∀ base : Path,
            ((base.join s).same (base.join other) ↔ s = other)) := by
  intro pieces
  refine ⟨fun ps => Text.eq_pieces_iff, ?_, fun hs => ?_⟩
  · rw [isContained_iff]
    constructor
    · rintro ⟨hback, hplain⟩
      exact ⟨Path.ne_empty_of_plain hplain, hback, hplain⟩
    · rintro ⟨-, hback, hplain⟩
      exact ⟨hback, hplain⟩
  · have hplain : Path.Plain s := (isContained_iff.1 hs).2
    refine ⟨Path.components_of_plain hplain, fun other hother base => ?_⟩
    exact Path.same_join_iff hplain (isContained_iff.1 hother).2 base

/-- Two files of one folder are different below a directory that ends with a slash and below none. -/
theorem contained_by_pieces_files :
    isContained "a/b" ∧ isContained "a/c" ∧
      Path.components "a/b" = [.normal ['a'], .normal ['b']] ∧
      ¬ Path.same (Path.join "page/" "a/b") (Path.join "page/" "a/c") ∧
      ¬ Path.same (Path.join "" "a/b") (Path.join "" "a/c") := by
  have hb : isContained "a/b" := by decide
  have hc : isContained "a/c" := by decide
  have hne : "a/b" ≠ "a/c" := by decide
  obtain ⟨-, -, hcontained⟩ := contained_by_pieces "a/b"
  obtain ⟨hcomponents, hsame⟩ := hcontained hb
  exact ⟨hb, hc, hcomponents.trans (by decide), mt (hsame "a/c" hc "page/").1 hne,
    mt (hsame "a/c" hc "").1 hne⟩

end BrowserShell.Page
