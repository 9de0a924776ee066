import BrowserShell.Provider.Cache
import Mathlib.Data.List.Nodup

/-!
# What a cache keeps

A cache whose entries have different paths finds just its entries (`get?_eq_some_iff`), and a content
kept for a new path is a new last entry (`entries_insert`).
-/

namespace BrowserShell.Cache

/-- The paths for which a content is kept. -/
def keys (c : Cache) : List String := c.entries.map Prod.fst

/-- Nothing is found for the paths that are no keys. -/
theorem get?_eq_none_iff {c : Cache} {path : String} : c.get? path = none ↔ path ∉ c.keys := by
  simp only [get?, keys, Option.map_eq_none_iff, List.find?_eq_none, decide_eq_true_eq,
    List.mem_map, not_exists, not_and]

/-- What is found for a path is an entry. -/
theorem mem_of_get?_eq_some {c : Cache} {path : String} {b : Bytes} (h : c.get? path = some b) :
    (path, b) ∈ c.entries := by
  unfold get? at h
  obtain ⟨⟨k, v⟩, hf, rfl⟩ := Option.map_eq_some_iff.1 h
  obtain rfl : k = path := by simpa using List.find?_some hf
  exact List.mem_of_find?_eq_some hf

/-- Where keys are different, what is found for a path is its entry. -/
theorem get?_eq_some_iff {c : Cache} (hk : c.keys.Nodup) {path : String} {b : Bytes} :
    c.get? path = some b ↔ (path, b) ∈ c.entries := by
  refine ⟨mem_of_get?_eq_some, fun hm => ?_⟩
  cases hg : c.get? path with
  | none =>
    rw [get?_eq_none_iff] at hg
    exact absurd (List.mem_map_of_mem hm) hg
  | some b' =>
    have hm' := mem_of_get?_eq_some hg
    have heq := List.inj_on_of_nodup_map hk hm hm' rfl
    rw [(Prod.mk.inj heq).2]

/-- A content kept for a new path is a new last entry. -/
theorem entries_insert {c : Cache} {path : String} (b : Bytes) (h : c.get? path = none) :
    (c.insert path b).entries = c.entries ++ [(path, b)] := by
  simp [insert, h]

/-- Once a content is kept for a new path it is found there, and all else as before. -/
theorem get?_insert {c : Cache} {path : String} (b : Bytes) (h : c.get? path = none)
    (other : String) :
    (c.insert path b).get? other = if other = path then some b else c.get? other := by
  unfold get?
  rw [entries_insert b h, List.find?_append]
  by_cases ho : other = path
  · subst ho
    rw [if_pos rfl]
    have hfind : c.entries.find? (fun e => e.1 = other) = none := by
      simpa [get?] using h
    rw [hfind]
    simp
  · rw [if_neg ho]
    simp [Ne.symm ho]

/-- A new path is a new last key. -/
theorem keys_insert {c : Cache} {path : String} (b : Bytes) (h : c.get? path = none) :
    (c.insert path b).keys = c.keys ++ [path] := by
  simp [keys, entries_insert b h]

/-- A new path makes the keys no less different. -/
theorem nodup_keys_insert {c : Cache} {path : String} (b : Bytes) (hk : c.keys.Nodup)
    (h : c.get? path = none) : (c.insert path b).keys.Nodup := by
  rw [keys_insert b h, List.nodup_append]
  refine ⟨hk, List.nodup_singleton path, ?_⟩
  rintro k hm _ hp rfl
  rw [List.mem_singleton] at hp
  exact get?_eq_none_iff.1 h (hp ▸ hm)

end BrowserShell.Cache
