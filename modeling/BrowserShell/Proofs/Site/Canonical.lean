import BrowserShell.Proofs.Site.Key
import Mathlib.Order.Bounds.Basic

/-!
# How many labels a site key has

A key is the last labels of a host, and `KeyCount` says how many of them: the least number from two
on at which a long label stands, counted from the end, and two where there is none. The walk over
the labels stops at this number (`walked_eq`), also for the hosts of three labels that have a rule
of their own, so that the rule changes nothing (`key_counts_labels`). Since the labels of a key have
the same count as those of its host, a key is its own key (`key_canonical`).
-/

namespace BrowserShell.Site

/-! ## Counting from the end -/

/-- Whether a long label stands at a place from the end, the last label being at the first. -/
def LongFromEnd (labels : List (List Char)) (k : Nat) : Prop :=
  ∃ label, labels.reverse[k - 1]? = some label ∧ maxSuffixLabel < Text.byteCount label

/-- How many labels a key has: the least number from two on such that a long label stands at this
place from the end, and two if there is none. -/
def KeyCount (labels : List (List Char)) (k : Nat) : Prop :=
  IsLeast {j | 2 ≤ j ∧ LongFromEnd labels j} k ∨ k = 2 ∧ ∀ j, 2 ≤ j → ¬ LongFromEnd labels j

/-- There is one such number only. -/
theorem KeyCount.unique {labels : List (List Char)} {j k : Nat} (hj : KeyCount labels j)
    (hk : KeyCount labels k) : j = k := by
  rcases hj with hj | ⟨rfl, hj⟩
  · rcases hk with hk | ⟨rfl, hk⟩
    · exact hj.unique hk
    · exact absurd hj.1.2 (hk j hj.1.1)
  · rcases hk with hk | ⟨rfl, -⟩
    · exact absurd hk.1.2 (hj k hk.1.1)
    · rfl

/-- A key that is not the host's only label has two labels at least. -/
theorem KeyCount.two_le {labels : List (List Char)} {k : Nat} (h : KeyCount labels k) : 2 ≤ k := by
  rcases h with h | ⟨rfl, -⟩
  · exact h.1.1
  · exact Nat.le_refl 2

/-- A long label stands at a place of the row. -/
theorem LongFromEnd.le_length {labels : List (List Char)} {k : Nat} (h : LongFromEnd labels k)
    (hk : 0 < k) : k ≤ labels.length := by
  obtain ⟨label, hlabel, -⟩ := h
  have hlt := (List.getElem?_eq_some_iff.1 hlabel).1
  rw [List.length_reverse] at hlt
  omega

/-- The last labels stand at the same places from the end as in the whole row. -/
theorem longFromEnd_drop {labels : List (List Char)} {j k : Nat} (hj : 0 < j) (hjk : j ≤ k)
    (hk : k ≤ labels.length) :
    LongFromEnd (labels.drop (labels.length - k)) j ↔ LongFromEnd labels j := by
  have hrow : (labels.drop (labels.length - k)).reverse = labels.reverse.take k := by
    rw [List.reverse_drop, Nat.sub_sub_self hk]
  unfold LongFromEnd
  rw [hrow, List.getElem?_take_of_lt (by omega)]

/-- A key has as many labels as its host says. -/
theorem KeyCount.drop {labels : List (List Char)} {k : Nat} (h : KeyCount labels k)
    (hk : k ≤ labels.length) : KeyCount (labels.drop (labels.length - k)) k := by
  -- No label of the key is further from its end than the first one.
  have hle : ∀ {j}, 2 ≤ j → LongFromEnd (labels.drop (labels.length - k)) j → j ≤ k := by
    intro j hj hlong
    have hlen := hlong.le_length (by omega)
    rw [List.length_drop] at hlen
    omega
  rcases h with ⟨⟨htwo, hlong⟩, hleast⟩ | ⟨rfl, hnone⟩
  · refine Or.inl ⟨⟨htwo, (longFromEnd_drop (by omega) (Nat.le_refl k) hk).2 hlong⟩, ?_⟩
    rintro j ⟨hj, hjlong⟩
    exact hleast ⟨hj, (longFromEnd_drop (by omega) (hle hj hjlong) hk).1 hjlong⟩
  · refine Or.inr ⟨rfl, fun j hj hjlong => hnone j hj ?_⟩
    exact (longFromEnd_drop (by omega) (hle hj hjlong) hk).1 hjlong

/-! ## The walk -/

/-- The labels that the walk from the end finds, without a rule for hosts of three labels: the last
two where it finds none. -/
def walked (labels : List (List Char)) : List (List Char) :=
  (keyLabels? labels.reverse []).getD (labels.drop (labels.length - 2))

/-- With some label behind it, the walk collects short labels up to the first long one. -/
theorem keyLabels?_eq_some_iff {left right ls : List (List Char)} (h : right ≠ []) :
    keyLabels? left right = some ls ↔
      ∃ passed label rest, left = passed ++ label :: rest ∧
        (∀ l ∈ passed, Text.byteCount l ≤ maxSuffixLabel) ∧
        maxSuffixLabel < Text.byteCount label ∧ ls = label :: (passed.reverse ++ right) := by
  -- The induction follows the walk, which has one label more behind it at each step.
  induction left generalizing right with
  | nil => simp [keyLabels?]
  | cons l left ih =>
    unfold keyLabels?
    by_cases hl : maxSuffixLabel < Text.byteCount l
    · rw [if_pos ⟨hl, h⟩]
      constructor
      · rintro heq
        cases heq
        exact ⟨[], l, left, rfl, by simp, hl, rfl⟩
      · rintro ⟨passed, label, rest, hleft, hshort, -, rfl⟩
        cases passed with
        | nil =>
          cases hleft
          rfl
        | cons p passed =>
          cases hleft
          exact absurd (hshort l List.mem_cons_self) (Nat.not_le.2 hl)
    · rw [if_neg (fun hc => hl hc.1), ih (List.cons_ne_nil l right)]
      constructor
      · rintro ⟨passed, label, rest, rfl, hshort, hlong, rfl⟩
        refine ⟨l :: passed, label, rest, rfl, ?_, hlong, by simp⟩
        exact List.forall_mem_cons.2 ⟨Nat.not_lt.1 hl, hshort⟩
      · rintro ⟨passed, label, rest, hleft, hshort, hlong, rfl⟩
        cases passed with
        | nil =>
          cases hleft
          exact absurd hlong hl
        | cons p passed =>
          cases hleft
          exact ⟨passed, label, rest, rfl, (List.forall_mem_cons.1 hshort).2, hlong, by simp⟩

/-- The walk stops at the count of a key's labels. -/
theorem exists_keyCount {labels : List (List Char)} (h : 2 ≤ labels.length) :
    ∃ k, KeyCount labels k ∧ k ≤ labels.length ∧
      walked labels = labels.drop (labels.length - k) := by
  obtain ⟨last, left, hrev⟩ : ∃ last left, labels.reverse = last :: left := by
    cases hrev : labels.reverse with
    | nil => simp [List.reverse_eq_nil_iff.1 hrev] at h
    | cons last left => exact ⟨last, left, rfl⟩
  have hlen : labels.length = left.length + 1 := by
    rw [← List.length_reverse, hrev, List.length_cons]
  have hwalk : keyLabels? labels.reverse [] = keyLabels? left [last] := by
    rw [hrev, keyLabels?, if_neg fun hc => hc.2 rfl]
  -- Behind the last label, the place `j` from the end is the place `j - 2` of the walk.
  have hat : ∀ {j}, 2 ≤ j → labels.reverse[j - 1]? = left[j - 2]? := by
    intro j hj
    obtain ⟨i, rfl⟩ : ∃ i, j = i + 2 := ⟨j - 2, by omega⟩
    rw [hrev]
    rfl
  unfold walked
  rw [hwalk]
  cases hfound : keyLabels? left [last] with
  | none =>
    have hshort := (keyLabels?_eq_none_iff (List.cons_ne_nil last [])).1 hfound
    refine ⟨2, Or.inr ⟨rfl, fun j hj hlong => ?_⟩, h, rfl⟩
    obtain ⟨label, hlabel, hlong⟩ := hlong
    rw [hat hj] at hlabel
    exact absurd (hshort label (List.mem_of_getElem? hlabel)) (Nat.not_le.2 hlong)
  | some ls =>
    obtain ⟨passed, label, rest, hleft, hshort, hlong, rfl⟩ :=
      (keyLabels?_eq_some_iff (List.cons_ne_nil last [])).1 hfound
    refine ⟨passed.length + 2, Or.inl ⟨⟨by omega, label, ?_, hlong⟩, ?_⟩, ?_, ?_⟩
    · rw [hat (by omega), hleft]
      simp
    · rintro j ⟨hj, l, hl, hllong⟩
      rw [hat hj, hleft] at hl
      refine Nat.not_lt.1 fun hlt => ?_
      -- A label before that place has been passed.
      rw [List.getElem?_append_left (by omega)] at hl
      exact absurd (hshort l (List.mem_of_getElem? hl)) (Nat.not_le.2 hllong)
    · rw [hlen, hleft, List.length_append, List.length_cons]
      omega
    · have hsub : labels.length - (passed.length + 2) = rest.length := by
        rw [hlen, hleft, List.length_append, List.length_cons]
        omega
      have hlabels : labels = rest.reverse ++ label :: (passed.reverse ++ [last]) := by
        rw [← List.reverse_reverse labels, hrev, hleft]
        simp
      rw [Option.getD_some, hsub]
      conv_rhs => rw [hlabels, List.drop_append_of_le_length (by simp)]
      simp

/-- The walk gives as many of the last labels as a key has. -/
theorem walked_eq {labels : List (List Char)} {k : Nat} (h : 2 ≤ labels.length)
    (hk : KeyCount labels k) :
    k ≤ labels.length ∧ walked labels = labels.drop (labels.length - k) := by
  obtain ⟨k', hk', hle, hwalked⟩ := exists_keyCount h
  rw [hk.unique hk']
  exact ⟨hle, hwalked⟩

/-- The rule for three labels drops what the walk drops. -/
theorem walked_of_dropped {a b c : List Char} (ha : a ∈ droppedLabels) :
    walked [a, b, c] = [b, c] := by
  have hshort := byteCount_of_mem_droppedLabels a ha
  have hcount : KeyCount [a, b, c] 2 := by
    by_cases hb : maxSuffixLabel < Text.byteCount b
    · exact Or.inl ⟨⟨Nat.le_refl 2, b, rfl, hb⟩, fun j hj => hj.1⟩
    · refine Or.inr ⟨rfl, fun j hj hlong => ?_⟩
      have hle : j ≤ 3 := hlong.le_length (by omega)
      obtain ⟨label, hlabel, hlong⟩ := hlong
      obtain rfl | rfl : j = 2 ∨ j = 3 := by omega
      · cases hlabel
        exact hb hlong
      · cases hlabel
        exact absurd hshort (Nat.not_le.2 hlong)
  exact (walked_eq (by simp) hcount).2

/-- A host of one label is its own key. -/
theorem keyOf_of_single {host : List Char} (h : (Text.pieces '.' host).length = 1) :
    keyOf host = host := by
  obtain ⟨label, hlabel⟩ := List.length_eq_one_iff.1 h
  have hself : label = host := Text.eq_of_pieces_eq_singleton hlabel
  rw [keyOf, hlabel, hself]

/-- The key of a host of several labels is what the walk finds. -/
theorem keyOf_eq_walked {host : List Char} (h : 2 ≤ (Text.pieces '.' host).length) :
    keyOf host = Text.joined '.' (walked (Text.pieces '.' host)) := by
  dsimp only [keyOf]
  split
  · rename_i label hl
    simp [hl] at h
  · rename_i a b c hl
    rw [hl]
    split
    · rename_i ha
      rw [walked_of_dropped ha]
    · rfl
  · rfl

/-! ## The key of a host -/

/-- The key is that of the host without its port, empty only with it, the only label if there is one
and otherwise as many of the last labels as `KeyCount` says; the walk alone finds them, so that the
rule for three labels makes no difference. -/
theorem key_counts_labels (host : String) :
    let name := stripPort host
    let labels := Text.pieces '.' name.toList
    ((∃ port, isPort port = true ∧ host.toList = name.toList ++ ':' :: port) ∨
        name = host ∧ ∀ a port, host.toList = a ++ ':' :: port → isPort port = false) ∧
      (key host = "" ↔ name = "") ∧
      (labels.length = 1 → key host = name) ∧
      (2 ≤ labels.length →
        (∃ k, KeyCount labels k ∧ k ≤ labels.length ∧
          (key host).toList = Text.joined '.' (labels.drop (labels.length - k))) ∧
        (key host).toList = Text.joined '.' (walked labels)) := by
  intro name labels
  have hname : name.toList = withoutPort host.toList := String.toList_ofList
  have hkey : (key host).toList = keyOf name.toList := by
    rw [key, String.toList_ofList, hname]
  refine ⟨?_, ?_, fun hone => ?_, fun htwo => ?_⟩
  · by_cases hport : ∀ a port, host.toList = a ++ ':' :: port → isPort port = false
    · refine Or.inr ⟨?_, hport⟩
      rw [← String.toList_inj, hname]
      exact withoutPort_eq_self hport
    · push Not at hport
      obtain ⟨a, port, hhost, hport⟩ := hport
      have hport : isPort port = true := by simpa using hport
      refine Or.inl ⟨port, hport, ?_⟩
      rw [hname, hhost, withoutPort_append hport]
  · rw [← String.toList_eq_nil_iff, hkey, ← String.toList_eq_nil_iff]
    refine ⟨fun h => ?_, fun h => by rw [h]; rfl⟩
    by_contra hne
    exact keyOf_ne_nil hne h
  · rw [← String.toList_inj, hkey, keyOf_of_single hone]
  · obtain ⟨k, hk, hle, hwalked⟩ := exists_keyCount htwo
    have hjoined := keyOf_eq_walked htwo
    exact ⟨⟨k, hk, hle, by rw [hkey, hjoined, hwalked]⟩, by rw [hkey, hjoined]⟩

/-! ## The key of a key -/

/-- What a host without a port ends with has none. -/
theorem withoutPort_of_suffix {part host : List Char} (h : withoutPort host = host)
    (hpart : part <:+ host) : withoutPort part = part := by
  obtain ⟨before, rfl⟩ := hpart
  refine withoutPort_eq_self fun name port hname => ?_
  exact withoutPort_eq_self_iff.1 h (before ++ name) port (by simp [hname])

/-- A key is its own key. -/
theorem keyOf_keyOf (host : List Char) : keyOf (keyOf host) = keyOf host := by
  by_cases htwo : 2 ≤ (Text.pieces '.' host).length
  · have hkey := keyOf_eq_walked htwo
    obtain ⟨k, hk, hle, hwalked⟩ := exists_keyCount htwo
    have hlength : (walked (Text.pieces '.' host)).length = k := by
      rw [hwalked, List.length_drop]
      omega
    have hsuffix : walked (Text.pieces '.' host) <:+ Text.pieces '.' host :=
      hwalked ▸ List.drop_suffix _ _
    have hcount : KeyCount (walked (Text.pieces '.' host)) k := hwalked ▸ hk.drop hle
    generalize walked (Text.pieces '.' host) = labels at hkey hlength hsuffix hcount
    have hlabels : 2 ≤ labels.length := hlength ▸ hk.two_le
    have hne : labels ≠ [] := by
      rintro rfl
      simp at hlabels
    -- The labels of the key are those the walk has left of the host, and it leaves all of them now.
    have hpieces : Text.pieces '.' (keyOf host) = labels := by
      rw [hkey, pieces_joined_suffix hsuffix hne]
    have hall : walked labels = labels := by
      rw [(walked_eq hlabels hcount).2, hlength, Nat.sub_self, List.drop_zero]
    calc keyOf (keyOf host)
        = Text.joined '.' (walked labels) := by rw [← hpieces, keyOf_eq_walked (hpieces ▸ hlabels)]
      _ = keyOf host := by rw [hall, hkey]
  · have hpos : 0 < (Text.pieces '.' host).length :=
      List.length_pos_of_ne_nil (Text.pieces_ne_nil '.' host)
    have hkey : keyOf host = host := keyOf_of_single (by omega)
    rw [hkey, hkey]

/-- A key ends its host. -/
theorem keyOf_isSuffix (host : List Char) : keyOf host <:+ host := by
  obtain ⟨ls, hs, hk, -⟩ := keyOf_eq_joined host
  have hsuffix : Text.joined '.' ls <:+ Text.joined '.' (Text.pieces '.' host) :=
    Text.joined_isSuffix hs
  rwa [Text.joined_pieces, ← hk] at hsuffix

/-- The key of a host without a port is its own key, and a port behind the host changes neither its
key nor the places of its script. -/
theorem key_canonical {host : String} (h : stripPort host = host) :
    key (key host) = key host ∧
      ∀ port : String, port ≠ "" → (∀ c ∈ port.toList, c.isDigit = true) → ∀ root : Path,
        key (host ++ ":" ++ port) = key host ∧
          scripts root (host ++ ":" ++ port) = scripts root host := by
  have hself : withoutPort host.toList = host.toList := by
    rw [← String.toList_inj, stripPort, String.toList_ofList] at h
    exact h
  refine ⟨?_, fun port hne hdigits root => ?_⟩
  · have hkey : withoutPort (keyOf host.toList) = keyOf host.toList :=
      withoutPort_of_suffix hself (keyOf_isSuffix host.toList)
    rw [key, key, String.toList_ofList, hself, hkey, keyOf_keyOf]
  · have hport : isPort port.toList = true := by
      rw [isPort, Bool.and_eq_true, List.all_eq_true]
      exact ⟨by simpa using hne, hdigits⟩
    have hlist : (host ++ ":" ++ port).toList = host.toList ++ ':' :: port.toList := by simp
    have hdropped : withoutPort (host ++ ":" ++ port).toList = withoutPort host.toList := by
      rw [hlist, withoutPort_append hport, hself]
    have hkey : key (host ++ ":" ++ port) = key host := by rw [key, hdropped, key]
    refine ⟨hkey, ?_⟩
    unfold scripts script? stripPort
    rw [hkey, hdropped]

/-- The key of a host with two short labels at its end has three, and goes without the port. -/
theorem key_canonical_three_labels :
    stripPort "www.example.co.uk" = "www.example.co.uk" ∧
      key "www.example.co.uk" = "example.co.uk" ∧
      key "example.co.uk" = "example.co.uk" ∧
      key "www.example.co.uk:8443" = "example.co.uk" ∧
      scripts "/app/page" "www.example.co.uk:8443" = scripts "/app/page" "www.example.co.uk" := by
  have hport : stripPort "www.example.co.uk" = "www.example.co.uk" := by decide +kernel
  have hkey : key "www.example.co.uk" = "example.co.uk" := by decide +kernel
  obtain ⟨hself, hdigits⟩ := key_canonical hport
  have hport' : "8443".toList.all Char.isDigit = true := by decide +kernel
  obtain ⟨hsame, hscripts⟩ :=
    hdigits "8443" (by decide) (List.all_eq_true.1 hport') "/app/page"
  rw [hkey] at hself hsame
  exact ⟨hport, hkey, hself, hsame, hscripts⟩

end BrowserShell.Site
