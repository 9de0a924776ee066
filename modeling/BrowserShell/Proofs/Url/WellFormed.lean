import BrowserShell.Proofs.Url.Host
import BrowserShell.Proofs.Url.Path

/-!
# What is read as a URL

`Url.parse` reads a URL on one of several ways, and on each of them the host and the path are such
that the one ends where the other begins (`Url.wellFormed_of_parse`): the host holds no slash, and
behind an authority the path is empty or begins with one.
-/

namespace BrowserShell.Url

/-- The host of a URL. -/
def host? (u : Url) : Option Host := u.authority.bind Authority.host

/-- Whether the parts of a URL are such that its text can be taken apart again. -/
structure WellFormed (u : Url) : Prop where
  /-- The host is proper, if there is one. -/
  host : ∀ a ∈ u.host?, a.Proper
  /-- Behind an authority the path is empty or begins with a slash. -/
  path : u.authority ≠ none → u.path = "" ∨ u.path.toList.head? = some '/'

/-- A URL from its parts is well formed if they are. -/
theorem wellFormed_ofParts (scheme : String) {authority : Option Authority} {path : List Char}
    (rest : List Char) (hhost : ∀ a ∈ authority.bind Authority.host, a.Proper)
    (hpath : authority ≠ none → path = [] ∨ path.head? = some '/') :
    (ofParts scheme authority path rest).WellFormed := by
  refine ⟨hhost, fun ha => ?_⟩
  show String.ofList path = "" ∨ (String.ofList path).toList.head? = some '/'
  rw [String.toList_ofList]
  rcases hpath ha with rfl | h
  · exact Or.inl rfl
  · exact Or.inr h

/-- A URL read from its authority on is well formed. -/
theorem wellFormed_of_readAuthority {scheme : String} {cs : List Char} {u : Url}
    (h : readAuthority scheme cs = .ok u) : u.WellFormed := by
  unfold readAuthority at h
  obtain ⟨⟨info, rest⟩, -, h⟩ := exists_of_bind_eq_ok h
  obtain ⟨⟨host, port, rest⟩, hhost, h⟩ := exists_of_bind_eq_ok h
  dsimp only at h
  split at h
  · cases h
  · cases h
    exact wellFormed_ofParts _ _ (proper_of_readHost hhost) fun _ => head?_readPathStart _ _ _

/-- A URL that is not special is well formed. -/
theorem wellFormed_of_readOpaque {scheme : String} {cs : List Char} {u : Url}
    (h : readOpaque scheme cs = .ok u) : u.WellFormed := by
  unfold readOpaque at h
  split at h
  · exact wellFormed_of_readAuthority h
  · cases h
    exact wellFormed_ofParts _ _ (by simp) fun ha => absurd rfl ha
  · cases h
    exact wellFormed_ofParts _ _ (by simp) fun ha => absurd rfl ha

/-- A file URL is well formed. -/
theorem wellFormed_of_readFile {cs : List Char} {u : Url} (h : readFile cs = .ok u) :
    u.WellFormed := by
  -- On every way the path is written behind a slash, and on all ways but one there is no host.
  have hfile : ∀ (authority : Authority) (path rest : List Char),
      (∀ a ∈ authority.host, a.Proper) →
      (ofParts "file" (some authority) (filePath path) rest).WellFormed :=
    fun authority path rest hhost => wellFormed_ofParts _ _ hhost fun _ => Or.inr rfl
  have hnone : ∀ path rest : List Char,
      (ofParts "file" (some ⟨"", none, none⟩) (filePath path) rest).WellFormed :=
    fun path rest => hfile _ path rest (by simp)
  unfold readFile at h
  dsimp only at h
  split at h
  · split at h
    · split at h
      · cases h
        exact hnone _ _
      · obtain ⟨host, hhost, h⟩ := exists_of_bind_eq_ok h
        split at h
        · cases h
          exact hnone _ _
        · cases h
          refine hfile _ _ _ fun a ha => ?_
          split at ha
          · cases ha
          · cases ha
            exact Host.proper_of_parse hhost
    · split at h
      · cases h
        exact hnone _ _
      · cases h
        exact hnone _ _
  · split at h
    · cases h
      exact hnone _ _
    · cases h
      exact hnone _ _
  · cases h
    exact hnone _ _

/-- What is read as a URL is well formed. -/
theorem wellFormed_of_parse {s : String} {u : Url} (h : parse s = .ok u) : u.WellFormed := by
  unfold parse parseChars at h
  split at h
  · cases h
  · dsimp only at h
    split at h
    · exact wellFormed_of_readFile h
    · split at h
      · exact wellFormed_of_readAuthority h
      · exact wellFormed_of_readOpaque h

/-! ## Host and path as they are written -/

namespace WellFormed

variable {u : Url} {host : String}

/-- The text of the host is the writing of a proper one. -/
theorem exists_proper (h : u.WellFormed) (hh : u.hostText? = some host) :
    ∃ a : Host, a.Proper ∧ host = a.render := by
  obtain ⟨a, ha, hr⟩ := Option.bind_eq_some_iff.1 hh
  obtain ⟨b, hb, rfl⟩ := Option.map_eq_some_iff.1 hr
  exact ⟨b, h.host b (Option.bind_eq_some_iff.2 ⟨a, ha, hb⟩), rfl⟩

/-- The host is written without slashes and colons, or in brackets and without slashes. -/
theorem hostText_cases (h : u.WellFormed) (hh : u.hostText? = some host) :
    Host.Clean host.toList ∨ '/' ∉ host.toList ∧ host.toList.getLast? = some ']' := by
  obtain ⟨a, ha, rfl⟩ := h.exists_proper hh
  exact Host.render_cases ha.1

/-- The host is not written empty. -/
theorem hostText_ne_empty (h : u.WellFormed) (hh : u.hostText? = some host) : host ≠ "" := by
  obtain ⟨a, ha, rfl⟩ := h.exists_proper hh
  exact Host.render_ne_empty ha.2

/-- Behind a host the path is empty or begins with a slash. -/
theorem path_cases (h : u.WellFormed) (hh : u.hostText? = some host) :
    u.path = "" ∨ u.path.toList.head? = some '/' := by
  refine h.path fun ha => ?_
  rw [hostText?, ha] at hh
  cases hh

end WellFormed

end BrowserShell.Url
