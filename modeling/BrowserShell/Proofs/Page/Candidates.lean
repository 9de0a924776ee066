import BrowserShell.Proofs.Page.Contained
import BrowserShell.Proofs.Site.Key

/-!
# The paths tried for a page

Of the paths tried for a contained page the first is the page, and the second, with the site key in
the place of the first segment, is again a row of names, unless the key is a single dot
(`plain_or_dot`). That is the key of hosts whose last two labels are empty, as in `a../x`.
-/

namespace BrowserShell.Page

/-- Whether the first segment of a page has the site key of a single dot; `rest` is what follows the
segment. -/
def DotKey (page rest : String) : Prop :=
  ∃ host, page.toList = host ++ '/' :: rest.toList ∧ '/' ∉ host ∧
    Site.key (String.ofList host) = "."

/-- The URL `http://.../x`, whose host has the key of a single dot. -/
def dotsUrl : Url := ⟨"http", some ⟨"", some (.name "..."), none⟩, "/x", none, none⟩

/-- What follows the first segment of a row of names is one again. -/
theorem plain_rest {page : String} {host rest : List Char} (h : Path.Plain page)
    (hc : page.toList = host ++ '/' :: rest) : Path.Plain (String.ofList rest) := by
  intro piece hp
  rw [String.toList_ofList] at hp
  apply h piece
  rw [hc, Text.pieces_append_cons]
  exact List.mem_append_right _ hp

/-- The first segment of a row of names is a name. -/
theorem isPlain_host {page : String} {host rest : List Char} (h : Path.Plain page)
    (hc : page.toList = host ++ '/' :: rest) (hs : '/' ∉ host) : Path.IsPlain host := by
  apply h host
  rw [hc, Text.pieces_append_cons, Text.pieces_of_not_mem hs]
  exact List.mem_append_left _ List.mem_cons_self

/-- The key that is no single dot is a name or empty. -/
theorem isPlain_key {host : String} (h0 : Site.key host ≠ "") (h1 : Site.key host ≠ ".") :
    Path.IsPlain (Site.key host).toList := by
  refine ⟨fun h => h0 (String.toList_eq_nil_iff.1 h), fun h => h1 ?_, fun h => ?_⟩
  · exact String.toList_inj.1 h
  · rw [Site.key, String.toList_ofList] at h
    exact Site.keyOf_ne_dots _ h

/-- A key in front of a row of names makes one again, if it is a name. -/
theorem plain_under_key {host rest : List Char} (hs : '/' ∉ host)
    (hk : Path.IsPlain (Site.key (String.ofList host)).toList)
    (hr : Path.Plain (String.ofList rest)) :
    Path.Plain (String.ofList ((Site.key (String.ofList host)).toList ++ '/' :: rest)) := by
  intro piece hp
  rw [String.toList_ofList, Text.pieces_append_cons,
    Text.pieces_of_not_mem (Site.slash_not_mem_key hs), List.mem_append, List.mem_singleton] at hp
  rcases hp with rfl | hp
  · exact hk
  · exact hr piece (by rwa [String.toList_ofList])

/-- The paths tried for a page are the page and at most one more. -/
theorem candidates_eq (page : String) :
    candidates page = [page] ∨ ∃ other, candidates page = [page, other] := by
  unfold candidates
  split
  · exact Or.inl rfl
  · dsimp only
    split
    · exact Or.inl rfl
    · exact Or.inr ⟨_, rfl⟩

/-- The page itself is tried. -/
theorem mem_candidates (page : String) : page ∈ candidates page := by
  rcases candidates_eq page with h | ⟨other, h⟩
  · rw [h]
    exact List.mem_cons_self
  · rw [h]
    exact List.mem_cons_self

/-- Where the key is a single dot, the second path tried has it as its first piece. -/
theorem candidates_of_dotKey {page rest : String} (h : Path.Plain page) (hd : DotKey page rest) :
    candidates page = [page, "./" ++ rest] ∧ Path.Plain rest := by
  obtain ⟨host, hc, hs, hk⟩ := hd
  have hhost : Path.IsPlain host := isPlain_host h hc hs
  constructor
  · unfold candidates
    rw [Text.cut?_eq_some_iff.2 ⟨hc, hs⟩]
    dsimp only
    rw [hk, if_neg]
    · simp [← String.toList_inj, String.toList_append]
    · rintro (h | h)
      · simp at h
      · exact hhost.2.1 (by rw [← h]; rfl)
  · have hr := plain_rest h hc
    rwa [String.ofList_toList] at hr

example : candidates "a../x" = ["a../x", "./x"] := by decide

/-- The paths tried for a row of names: the page, and perhaps another row of names, or what follows
the first segment behind a dot. -/
theorem candidates_cases {page : String} (h : Path.Plain page) :
    candidates page = [page] ∨
      (∃ other, Path.Plain other ∧ candidates page = [page, other]) ∨
      ∃ rest, DotKey page rest ∧ Path.Plain rest ∧ candidates page = [page, "./" ++ rest] := by
  cases hcut : Text.cut? '/' page.toList with
  | none =>
    left
    unfold candidates
    rw [hcut]
  | some cut =>
    obtain ⟨host, rest⟩ := cut
    obtain ⟨hc, hs⟩ := Text.cut?_eq_some_iff.1 hcut
    by_cases hdot : Site.key (String.ofList host) = "."
    · right; right
      have hd : DotKey page (String.ofList rest) :=
        ⟨host, by rw [String.toList_ofList]; exact hc, hs, hdot⟩
      obtain ⟨heq, hplain⟩ := candidates_of_dotKey h hd
      exact ⟨_, hd, hplain, heq⟩
    · unfold candidates
      rw [hcut]
      dsimp only
      by_cases hsame : (Site.key (String.ofList host)).toList = [] ∨
          (Site.key (String.ofList host)).toList = host
      · left
        rw [if_pos hsame]
      · right; left
        rw [if_neg hsame]
        refine ⟨_, plain_under_key hs (isPlain_key ?_ hdot) (plain_rest h hc), rfl⟩
        intro he
        exact hsame (Or.inl (by rw [he]; rfl))

/-- A path tried for a row of names is one itself, or is one behind a dot. -/
theorem plain_or_dot {page c : String} (h : Path.Plain page) (hc : c ∈ candidates page) :
    Path.Plain c ∨ ∃ rest, DotKey page rest ∧ Path.Plain rest ∧ c = "./" ++ rest := by
  rcases candidates_cases h with heq | ⟨other, hother, heq⟩ | ⟨rest, hd, hrest, heq⟩
  · rw [heq, List.mem_singleton] at hc
    exact Or.inl (hc ▸ h)
  · rw [heq, List.mem_cons, List.mem_singleton] at hc
    rcases hc with rfl | rfl
    · exact Or.inl h
    · exact Or.inl hother
  · rw [heq, List.mem_cons, List.mem_singleton] at hc
    rcases hc with rfl | rfl
    · exact Or.inl h
    · exact Or.inr ⟨rest, hd, hrest, rfl⟩

/-- No path tried for a row of names begins with a slash. -/
theorem head?_of_candidate {page c : String} (h : Path.Plain page) (hc : c ∈ candidates page) :
    c.toList.head? ≠ some '/' := by
  rcases plain_or_dot h hc with hplain | ⟨rest, -, -, rfl⟩
  · exact Path.head?_of_plain hplain
  · simp [String.toList_append]

end BrowserShell.Page
