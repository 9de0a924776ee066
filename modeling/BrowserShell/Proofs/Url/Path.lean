import BrowserShell.Proofs.Text.Split
import BrowserShell.Url.Parser
import Mathlib.Data.List.DropRight

/-!
# The slash before a path

The path that is read behind an authority is empty or begins with a slash
(`Url.head?_readPathStart`), so that host and path can be told apart where one follows the other.
While a path is read, segments are added to it and taken back, and none of this touches a slash at
its beginning (`Url.Path.head?_add`).
-/

namespace BrowserShell.Url

namespace Path

/-- A beginning of a text that is not empty begins as the text does. -/
theorem head?_eq_of_prefix {a b : List Char} (h : a <+: b) (hne : a ≠ []) : a.head? = b.head? := by
  obtain ⟨t, rfl⟩ := h
  obtain ⟨c, cs, rfl⟩ := List.exists_cons_of_ne_nil hne
  rfl

/-- More characters behind a text change nothing at its beginning. -/
theorem head?_append_of_some {a : List Char} {c : Char} (h : a.head? = some c) (b : List Char) :
    (a ++ b).head? = some c := by
  rw [List.head?_append, h]
  rfl

/-- Up to its last slash, a path with a slash before it keeps that. -/
theorem head?_toLastSlash {path : List Char} (h : path.head? = some '/') :
    (toLastSlash path).head? = some '/' := by
  have hdef : toLastSlash path = path.rdropWhile fun c => c != '/' := rfl
  have hne : toLastSlash path ≠ [] := by
    rw [hdef, ne_eq, List.rdropWhile_eq_nil_iff]
    intro hall
    simpa using hall '/' (List.mem_of_mem_head? h)
  rw [← h]
  exact head?_eq_of_prefix (List.rdropWhile_prefix _ _) hne

/-- Without its last slash, a path with a slash before it keeps that. -/
theorem head?_dropSlash {path : List Char} (h : path.head? = some '/') :
    (dropSlash path).head? = some '/' := by
  unfold dropSlash
  split
  · split
    · rename_i before after hcut
      split
      · exact h
      · -- Another slash comes before the one that is dropped.
        have hne : path.dropLast ≠ [] := by
          rw [Text.eq_of_cutLast? hcut]
          simp
        rw [← h]
        exact head?_eq_of_prefix (List.dropLast_prefix path) hne
    · exact h
  · exact h

/-- Without its last segment, a path with a slash before it keeps that. -/
theorem head?_shorten {path : List Char} (isFile : Bool) (h : path.head? = some '/') :
    (shorten isFile path).head? = some '/' := by
  unfold shorten
  split
  · exact h
  · exact head?_toLastSlash h

/-- A path with a slash before it keeps that as segments are added. -/
theorem head?_add {path : List Char} (isFile : Bool) (segment : List Char) (slash : Bool)
    (h : path.head? = some '/') : (add isFile path segment slash).head? = some '/' := by
  have hshort : (shorten isFile (dropSlash path)).head? = some '/' :=
    head?_shorten isFile (head?_dropSlash h)
  unfold add
  dsimp only
  split
  · split
    · exact head?_append_of_some hshort _
    · exact hshort
  · split
    · split
      · exact h
      · exact head?_append_of_some h _
    · split
      · rw [List.append_assoc]
        exact head?_append_of_some h _
      · rw [List.append_assoc]
        exact head?_append_of_some h _

/-- A path with a slash before it keeps that while the rest of it is read. -/
theorem head?_read (special isFile : Bool) {path : List Char} (segment text : List Char)
    (h : path.head? = some '/') :
    (read special isFile path segment text).1.head? = some '/' := by
  induction text generalizing path segment with
  | nil => exact head?_add isFile _ false h
  | cons c text ih =>
    unfold read
    split
    · exact head?_add isFile _ false h
    · split
      · exact ih [] (head?_add isFile _ true h)
      · exact ih (c :: segment) h

/-- Reading from a slash on gives a path that begins with it. -/
theorem head?_read_slash (special isFile : Bool) (text : List Char) :
    (read special isFile [] [] ('/' :: text)).1.head? = some '/' := by
  have hslash : isSlash special '/' = true := rfl
  have hadd : (add isFile [] (Percent.encode Percent.path [].reverse) true).head? = some '/' := by
    cases isFile <;> rfl
  unfold read
  rw [if_neg (by decide), if_pos hslash]
  exact head?_read special isFile [] text hadd

end Path

/-- After an authority comes no path or one that begins with a slash. -/
theorem head?_readPathStart (special isFile : Bool) (text : List Char) :
    (readPathStart special isFile text).1 = [] ∨
      (readPathStart special isFile text).1.head? = some '/' := by
  unfold readPathStart
  split
  · split
    · exact Or.inr (Path.head?_read special isFile [] _ rfl)
    · exact Or.inr (Path.head?_read special isFile [] _ rfl)
  · split
    · exact Or.inl rfl
    · exact Or.inl rfl
    · exact Or.inl rfl
    · exact Or.inr (Path.head?_read_slash special isFile _)
    · exact Or.inr (Path.head?_read special isFile [] _ rfl)

end BrowserShell.Url
