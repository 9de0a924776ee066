import BrowserShell.Http.Target
import Mathlib.Data.List.TakeWhile

/-!
# Targets at an address

A path and query put behind the address of a server read back as they are, at that address
(`authority_at_address`, `parse?_at_address`): a target that is read has no number sign left, at
which another would be cut off. All is read off the cases of `Target.parse?` (`cases_of_parse?`).
-/

namespace BrowserShell.Http.Target

/-- The characters of a text up to where its path begins. -/
def authorityOf (cs : List Char) : List Char :=
  cs.takeWhile fun c => c != '/' && c != '?' && c != '#'

/-- A target is a star, a path and query, which alone begins with a slash, an authority alone, or a
path and query behind a scheme and an authority. -/
theorem cases_of_parse? {s : String} {t : Target} (h : parse? s = some t) :
    (s.toList = ['*'] ∧ t = ⟨none, "", "*"⟩) ∨
      (∃ text, s.toList.head? = some '/' ∧ pathAndQuery? s.toList = some text ∧
        t = ⟨none, "", String.ofList text⟩) ∨
      (∃ rest, s.toList.head? ≠ some '/' ∧ scheme? s.toList = some (none, rest) ∧
        t = ⟨none, s, ""⟩) ∨
      ∃ scheme rest text, s.toList.head? ≠ some '/' ∧
        scheme? s.toList = some (some scheme, rest) ∧
        pathAndQuery? (rest.drop (authorityOf rest).length) = some text ∧
        t = ⟨some (String.ofList scheme), String.ofList (authorityOf rest),
          String.ofList text⟩ := by
  unfold parse? at h
  dsimp only at h
  split at h
  · cases h
  · split at h
    · rename_i hstar
      cases h
      exact Or.inl ⟨hstar, rfl⟩
    · split at h
      · rename_i hslash
        obtain ⟨text, htext, h⟩ := Option.bind_eq_some_iff.1 h
        cases h
        exact Or.inr (Or.inl ⟨text, hslash, htext, rfl⟩)
      · rename_i hslash
        obtain ⟨⟨scheme, rest⟩, hscheme, h⟩ := Option.bind_eq_some_iff.1 h
        dsimp only at h
        split at h
        · cases h
        · split at h
          · split at h
            · cases h
              exact Or.inr (Or.inr (Or.inl ⟨rest, hslash, hscheme, rfl⟩))
            · cases h
          · rename_i scheme
            split at h
            · cases h
            · obtain ⟨text, htext, h⟩ := Option.bind_eq_some_iff.1 h
              cases h
              exact Or.inr (Or.inr (Or.inr ⟨scheme, rest, text, hslash, hscheme, htext, rfl⟩))

/-- A path and query is what stands before a number sign. -/
theorem eq_takeWhile_of_pathAndQuery? {cs text : List Char} (h : pathAndQuery? cs = some text) :
    text = cs.takeWhile (· ≠ '#') := by
  unfold pathAndQuery? at h
  dsimp only at h
  split at h
  · exact (Option.some.inj h).symm
  · cases h

/-- A path and query that is read has no number sign. -/
theorem hash_not_mem_of_pathAndQuery? {cs text : List Char} (h : pathAndQuery? cs = some text) :
    '#' ∉ text := by
  intro hmem
  rw [eq_takeWhile_of_pathAndQuery? h] at hmem
  simpa using List.all_eq_true.1 List.all_takeWhile _ hmem

/-- What a server is asked for by a target that is read has no number sign. -/
theorem hash_not_mem_origin {s : String} {t : Target} (h : parse? s = some t) :
    '#' ∉ t.origin.toList := by
  have hpath : '#' ∉ t.pathAndQuery.toList := by
    rcases cases_of_parse? h with ⟨-, rfl⟩ | ⟨text, -, htext, rfl⟩ | ⟨rest, -, -, rfl⟩ |
      ⟨scheme, rest, text, -, -, htext, rfl⟩
    · decide
    · rw [String.toList_ofList]
      exact hash_not_mem_of_pathAndQuery? htext
    · simp
    · rw [String.toList_ofList]
      exact hash_not_mem_of_pathAndQuery? htext
  unfold origin
  split
  · decide
  · exact hpath

/-- A server is always asked for something. -/
theorem origin_ne_empty (t : Target) : t.origin ≠ "" := by
  unfold origin
  split
  · decide
  · assumption

/-- What is asked of a path is asked for from a slash or a question mark on. -/
theorem head?_origin {t : Target} (h : t.path.toList.head? = some '/') :
    t.origin.toList.head? = some '/' ∨ t.origin.toList.head? = some '?' := by
  unfold origin
  split
  · exact Or.inl (by decide)
  · rename_i hne
    obtain ⟨c, cs, hcs⟩ := List.exists_cons_of_ne_nil (mt String.toList_eq_nil_iff.1 hne)
    rw [hcs, List.head?_cons]
    by_cases hc : c = '?'
    · exact Or.inr (congrArg some hc)
    · -- The path is then what the target begins with.
      have htake : t.pathAndQuery.toList.takeWhile (· ≠ '?') = c :: cs.takeWhile (· ≠ '?') := by
        rw [hcs, List.takeWhile_cons_of_pos (by simpa using hc)]
      have hpath : t.path.toList = c :: cs.takeWhile (· ≠ '?') := by
        unfold path
        dsimp only
        rw [htake, if_pos (List.cons_ne_nil _ _), String.toList_ofList]
      rw [hpath, List.head?_cons] at h
      exact Or.inl h

/-- A target with the scheme of the backend's connections: the authority, and the path and query
that follow it. -/
theorem eq_of_parse?_http {address origin : String} {t : Target}
    (h : parse? ("http://" ++ address ++ origin) = some t) :
    let rest := address.toList ++ origin.toList
    ∃ text, pathAndQuery? (rest.drop (authorityOf rest).length) = some text ∧
      t = ⟨some "http", String.ofList (authorityOf rest), String.ofList text⟩ := by
  have htext : ("http://" ++ address ++ origin).toList =
      'h' :: 't' :: 't' :: 'p' :: ':' :: '/' :: '/' :: (address.toList ++ origin.toList) := by
    simp
  have hscheme : scheme? ("http://" ++ address ++ origin).toList =
      some (some ['h', 't', 't', 'p'], address.toList ++ origin.toList) := by
    rw [htext]
    rfl
  -- A text that begins with the scheme is read as one with a scheme.
  rcases cases_of_parse? h with ⟨hstar, -⟩ | ⟨text, hslash, -⟩ | ⟨rest, -, hnone, -⟩ |
    ⟨scheme, rest, text, -, hsome, hpath, rfl⟩
  · rw [htext] at hstar
    simp at hstar
  · rw [htext] at hslash
    simp at hslash
  · rw [hscheme] at hnone
    simp at hnone
  · rw [hscheme] at hsome
    obtain ⟨rfl, rfl⟩ : ['h', 't', 't', 'p'] = scheme ∧ address.toList ++ origin.toList = rest := by
      simpa using hsome
    exact ⟨text, hpath, rfl⟩

/-- An address without slashes, question marks and number signs is the authority, if a slash or a
question mark follows it. -/
theorem authority_at_address {address origin : String} {t : Target}
    (haddress : ∀ c ∈ address.toList, c ≠ '/' ∧ c ≠ '?' ∧ c ≠ '#')
    (horigin : origin.toList.head? = some '/' ∨ origin.toList.head? = some '?')
    (h : parse? ("http://" ++ address ++ origin) = some t) : t.authority = address := by
  obtain ⟨text, -, rfl⟩ := eq_of_parse?_http h
  have htail : authorityOf origin.toList = [] := by
    cases hcs : origin.toList with
    | nil => rfl
    | cons c cs =>
      rw [hcs, List.head?_cons] at horigin
      rcases horigin with heq | heq
      · cases heq
        rfl
      · cases heq
        rfl
  have hauthority : authorityOf (address.toList ++ origin.toList) = address.toList := by
    unfold authorityOf at htail ⊢
    rw [List.takeWhile_append_of_pos fun c hc => by simpa [and_assoc] using haddress c hc, htail,
      List.append_nil]
  dsimp only
  rw [hauthority, String.ofList_toList]

/-- What is asked of a server at an address is read as it is, if the address is the authority. -/
theorem parse?_at_address {address origin : String} {t : Target} (hhash : '#' ∉ origin.toList)
    (hne : origin ≠ "") (h : parse? ("http://" ++ address ++ origin) = some t)
    (hauthority : t.authority = address) : t.scheme = some "http" ∧ t.origin = origin := by
  obtain ⟨text, hpath, rfl⟩ := eq_of_parse?_http h
  have haddress : authorityOf (address.toList ++ origin.toList) = address.toList :=
    String.toList_ofList.symm.trans (congrArg String.toList hauthority)
  have hwhole : origin.toList.takeWhile (· ≠ '#') = origin.toList := by
    rw [List.takeWhile_eq_self_iff]
    intro c hc
    simpa using fun heq : c = '#' => hhash (heq ▸ hc)
  have horigin : String.ofList text = origin := by
    rw [haddress, List.drop_left] at hpath
    rw [eq_takeWhile_of_pathAndQuery? hpath, hwhole, String.ofList_toList]
  refine ⟨rfl, ?_⟩
  unfold Target.origin
  dsimp only
  rw [horigin, if_neg hne]

end BrowserShell.Http.Target
