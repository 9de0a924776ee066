import BrowserShell.Proofs.Text.Split
import BrowserShell.Site
import Mathlib.Data.List.Basic

/-!
# The labels of a site key

A site key is made of the last labels of a host: of its only label, of two, or of several whose
first is long (`keyOf_eq_joined`). So a host made of one name gives a key without slashes, and no
host gives the key of two dots (`keyOf_ne_dots`): its three empty labels are too short. The key of a
single dot is that of the hosts whose last two labels are empty, with no long label before them
(`keyOf_eq_dot_iff`).
-/

namespace BrowserShell.Site

/-- Whether the last two labels of a host are empty and the others short. -/
def EndsInDots (host : List Char) : Prop :=
  ∃ labels, Text.pieces '.' host = labels ++ [[], []] ∧
    ∀ label ∈ labels, Text.byteCount label ≤ maxSuffixLabel

/-- What the walk over the labels finds ends the row of all labels, and begins with a long one. -/
theorem keyLabels?_eq_some {left right ls : List (List Char)}
    (h : keyLabels? left right = some ls) :
    ls <:+ left.reverse ++ right ∧
      ∃ label rest, ls = label :: rest ∧ rest ≠ [] ∧ maxSuffixLabel < Text.byteCount label := by
  induction left generalizing right with
  | nil => simp [keyLabels?] at h
  | cons label left ih =>
    rw [List.reverse_cons, List.append_assoc, List.singleton_append]
    unfold keyLabels? at h
    split at h
    · rename_i hlong
      cases h
      exact ⟨List.suffix_append _ _, label, right, rfl, hlong.2, hlong.1⟩
    · exact ih h

/-- The two last labels, or those from a long one on, as the walk finds them. -/
theorem keyLabels_getD (labels : List (List Char)) (h : 2 ≤ labels.length) :
    let ls := (keyLabels? labels.reverse []).getD (labels.drop (labels.length - 2))
    ls <:+ labels ∧
      (ls.length = 2 ∨
        ∃ label rest, ls = label :: rest ∧ maxSuffixLabel < Text.byteCount label) := by
  cases hk : keyLabels? labels.reverse [] with
  | none =>
    rw [Option.getD_none]
    refine ⟨List.drop_suffix _ _, Or.inl ?_⟩
    rw [List.length_drop]
    omega
  | some ls =>
    obtain ⟨hs, label, rest, hls, -, hlong⟩ := keyLabels?_eq_some hk
    rw [List.reverse_reverse, List.append_nil] at hs
    exact ⟨hs, Or.inr ⟨label, rest, hls, hlong⟩⟩

/-- The key is the host itself, if that is one label, or is made of its last labels: of two, or of
several whose first is long. -/
theorem keyOf_eq_joined (host : List Char) :
    ∃ ls, ls <:+ Text.pieces '.' host ∧ keyOf host = Text.joined '.' ls ∧
      (ls = [host] ∨ ls.length = 2 ∨
        ∃ label rest, ls = label :: rest ∧ maxSuffixLabel < Text.byteCount label) := by
  dsimp only [keyOf]
  split
  · rename_i label hl
    have hlabel : label = host := Text.eq_of_pieces_eq_singleton hl
    exact ⟨[label], hl ▸ List.suffix_rfl, rfl, Or.inl (by rw [hlabel])⟩
  · rename_i a b c hl
    split
    · exact ⟨[b, c], hl ▸ List.suffix_cons _ _, rfl, Or.inr (Or.inl rfl)⟩
    · obtain ⟨hs, hlen⟩ := keyLabels_getD [a, b, c] (by simp)
      exact ⟨_, hl ▸ hs, rfl, Or.inr hlen⟩
  · rename_i h1 _
    have htwo : 2 ≤ (Text.pieces '.' host).length := by
      match hp : Text.pieces '.' host with
      | [] => exact absurd hp (Text.pieces_ne_nil '.' host)
      | [label] => exact absurd hp (h1 label)
      | _ :: _ :: _ => simp
    obtain ⟨hs, hlen⟩ := keyLabels_getD _ htwo
    exact ⟨_, hs, rfl, Or.inr hlen⟩

/-- A host that is not empty has a key that is not. -/
theorem keyOf_ne_nil {host : List Char} (h : host ≠ []) : keyOf host ≠ [] := by
  obtain ⟨ls, -, hk, hlen⟩ := keyOf_eq_joined host
  rw [hk]
  rcases hlen with rfl | htwo | ⟨label, rest, rfl, hlong⟩
  · exact h
  · obtain ⟨a, b, rfl⟩ := List.length_eq_two.1 htwo
    simp [Text.joined]
  · have hlabel : label ≠ [] := by
      rintro rfl
      simp [Text.byteCount] at hlong
    cases rest with
    | nil => exact hlabel
    | cons l rest => simp [Text.joined_cons label (List.cons_ne_nil l rest)]

/-- A key holds nothing but dots that its host does not hold. -/
theorem mem_keyOf {host : List Char} {c : Char} (hc : c ∈ keyOf host) : c = '.' ∨ c ∈ host := by
  obtain ⟨ls, hs, hk, -⟩ := keyOf_eq_joined host
  rw [hk] at hc
  rcases Text.mem_joined hc with h | ⟨p, hp, hcp⟩
  · exact Or.inl h
  · exact Or.inr (Text.mem_of_mem_pieces (hs.subset hp) hcp)

/-- The labels of a key are the last labels of its host. -/
theorem pieces_joined_suffix {host : List Char} {ls : List (List Char)}
    (hs : ls <:+ Text.pieces '.' host) (hne : ls ≠ []) :
    Text.pieces '.' (Text.joined '.' ls) = ls :=
  Text.pieces_joined hne fun _ hp => Text.not_mem_of_mem_pieces (hs.subset hp)

/-- No host has the key of two dots. -/
theorem keyOf_ne_dots (host : List Char) : keyOf host ≠ ['.', '.'] := by
  intro h
  obtain ⟨ls, hs, hk, hlen⟩ := keyOf_eq_joined host
  have hne : ls ≠ [] := by
    rintro rfl
    simp at hlen
  -- Two dots have three labels, all empty; the first of three labels in a key is long.
  have hls : ls = [[], [], []] := by
    rw [← pieces_joined_suffix hs hne, ← hk, h]
    rfl
  subst hls
  simp [Text.byteCount] at hlen

/-- The labels that three-label hosts drop are short. -/
theorem byteCount_of_mem_droppedLabels :
    ∀ label ∈ droppedLabels, Text.byteCount label ≤ maxSuffixLabel := by decide

/-- With some label behind it, the walk finds nothing if and only if no label is long. -/
theorem keyLabels?_eq_none_iff {left right : List (List Char)} (h : right ≠ []) :
    keyLabels? left right = none ↔ ∀ label ∈ left, Text.byteCount label ≤ maxSuffixLabel := by
  induction left generalizing right with
  | nil => simp [keyLabels?]
  | cons label left ih =>
    rw [List.forall_mem_cons]
    unfold keyLabels?
    by_cases hl : Text.byteCount label ≤ maxSuffixLabel
    · rw [if_neg (fun hc => absurd hc.1 (Nat.not_lt.2 hl)), ih (List.cons_ne_nil _ _)]
      simp [hl]
    · rw [if_pos ⟨Nat.lt_of_not_le hl, h⟩]
      simp [hl]

/-- The walk passes the two empty labels at the end of a host. -/
theorem keyOf_of_dots {host : List Char} {labels : List (List Char)}
    (h : Text.pieces '.' host = labels ++ [[], []]) :
    keyOf host = Text.joined '.' ((keyLabels? labels.reverse [[], []]).getD [[], []]) := by
  have hwalk : keyLabels? (labels ++ [[], []]).reverse [] = keyLabels? labels.reverse [[], []] := by
    simp [keyLabels?, Text.byteCount]
  dsimp only [keyOf]
  rw [h]
  split
  · rename_i label hl
    simpa using congrArg List.length hl
  · rename_i a b c hl
    have hparts : labels = [a] ∧ [[], []] = [b, c] := List.append_inj' hl rfl
    obtain ⟨rfl, hbc⟩ := hparts
    -- The label that is dropped is short, so that the walk would not have stopped at it either.
    cases hbc
    split
    · rename_i ha
      rw [(keyLabels?_eq_none_iff (by simp)).2]
      · rfl
      · simpa using byteCount_of_mem_droppedLabels a ha
    · exact congrArg (fun ls => Text.joined '.' (ls.getD [[], []])) hwalk
  · rw [hwalk]
    simp

/-- The key of a host is a single dot if and only if the host ends in dots. -/
theorem keyOf_eq_dot_iff (host : List Char) : keyOf host = ['.'] ↔ EndsInDots host := by
  constructor
  · intro h
    obtain ⟨ls, hs, hk, hlen⟩ := keyOf_eq_joined host
    have hne : ls ≠ [] := by
      rintro rfl
      simp at hlen
    -- A dot has two labels, both empty.
    have hls : ls = [[], []] := by
      rw [← pieces_joined_suffix hs hne, ← hk, h]
      rfl
    subst hls
    obtain ⟨labels, hlabels⟩ := hs
    refine ⟨labels, hlabels.symm, ?_⟩
    rw [keyOf_of_dots hlabels.symm] at h
    cases hw : keyLabels? labels.reverse [[], []] with
    | none => simpa using (keyLabels?_eq_none_iff (by simp)).1 hw
    | some ls =>
      -- A long label and a dot would be more than the dot.
      obtain ⟨-, label, rest, rfl, hrest, hlong⟩ := keyLabels?_eq_some hw
      rw [hw, Option.getD_some, Text.joined_cons _ hrest] at h
      cases label with
      | nil => simp [Text.byteCount] at hlong
      | cons c label => simpa using congrArg List.length h
  · rintro ⟨labels, hlabels, hshort⟩
    rw [keyOf_of_dots hlabels, (keyLabels?_eq_none_iff (by simp)).2 (by simpa using hshort)]
    rfl

/-- The host without its port begins the host. -/
theorem withoutPort_isPrefix (host : List Char) : withoutPort host <+: host := by
  unfold withoutPort
  split
  · rename_i name port hc
    split
    · exact ⟨':' :: port, (Text.eq_of_cutLast? hc).symm⟩
    · exact List.prefix_rfl
  · exact List.prefix_rfl

/-- A port is dropped with the colon before it. -/
theorem withoutPort_append {name port : List Char} (h : isPort port = true) :
    withoutPort (name ++ ':' :: port) = name := by
  have hcolon : ':' ∉ port := by
    intro hmem
    rw [isPort, Bool.and_eq_true, List.all_eq_true] at h
    exact absurd (h.2 ':' hmem) (by decide)
  rw [withoutPort, Text.cutLast?_append hcolon]
  exact if_pos h

/-- A host in which no colon stands before a port is one without a port. -/
theorem withoutPort_eq_self {host : List Char}
    (h : ∀ name port, host = name ++ ':' :: port → isPort port = false) :
    withoutPort host = host := by
  unfold withoutPort
  split
  · rename_i name port hc
    rw [h name port (Text.eq_of_cutLast? hc)]
    rfl
  · rfl

/-- A host is one without a port exactly if no colon in it stands before a port. -/
theorem withoutPort_eq_self_iff {host : List Char} :
    withoutPort host = host ↔ ∀ name port, host = name ++ ':' :: port → isPort port = false := by
  refine ⟨fun h name port hhost => ?_, withoutPort_eq_self⟩
  by_contra hport
  -- The host would be longer than itself.
  rw [hhost, withoutPort_append (Bool.not_eq_false _ ▸ hport)] at h
  simpa using congrArg List.length h

/-- The key of a host without slashes has none. -/
theorem slash_not_mem_key {host : List Char} (h : '/' ∉ host) :
    '/' ∉ (key (String.ofList host)).toList := by
  rw [key, String.toList_ofList, String.toList_ofList]
  intro hk
  rcases mem_keyOf hk with hd | hw
  · simp at hd
  · exact h ((withoutPort_isPrefix host).subset hw)

end BrowserShell.Site
