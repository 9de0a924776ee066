import BrowserShell.Proofs.Page.Candidates
import BrowserShell.Provider.Pages
import Mathlib.Data.List.Induction

/-!
# What the pages provider answers

`Pages.answer` in closed form, for each way of looking pages up: `handle_disk` and `handle_indexed`
give the response and the provider afterwards and the questions asked.
All is told by what a URL leads to: `asked?` is the page, `target?` the path under which the index
has it. `Pages.after` is the provider after visits, between which the files may change at will.
-/

namespace BrowserShell

/-- A request, and the files as they are when it comes. -/
structure Visit where
  /-- The files. -/
  tree : FileTree
  /-- The request. -/
  request : Request

namespace Pages

/-- The page that a URL asks for, none if requests for it are declined unseen. -/
def asked? (redirect : Rules) (u : Url) : Option String :=
  let page := redirect.redirected (Page.ofUrl u)
  if u.scheme = "devtools" ∨ Page.isContained page = false then none else some page

/-- The path under which an index has the page that a URL asks for. -/
def target? (index : PageIndex) (redirect : Rules) (u : Url) : Option String :=
  (asked? redirect u).bind fun page => (Page.candidates page).find? index.contains

/-- The path at which the page that a URL asks for is found on disk. -/
def diskTarget? (t : FileTree) (base : Path) (redirect : Rules) (u : Url) : Option String :=
  (asked? redirect u).bind fun page =>
    (Page.candidates page).find? fun c => t.isFile (base.join c)

/-- The content of a page as it is read, empty where it cannot be. -/
def contentAt (t : FileTree) (base : Path) (c : String) : Bytes :=
  (t.read (base.join c)).toOption.getD []

/-- The provider after visits. -/
def after (p : Pages) (vs : List Visit) : Pages :=
  vs.foldl (fun p v => (p.handle v.tree v.request).2) p

@[simp] theorem after_nil (p : Pages) : p.after [] = p := rfl

@[simp] theorem after_concat (p : Pages) (vs : List Visit) (v : Visit) :
    p.after (vs ++ [v]) = ((p.after vs).handle v.tree v.request).2 := by
  simp [after]

/-- A contained page is the one asked for. -/
theorem asked?_eq_some {redirect : Rules} {u : Url} {page : String} :
    asked? redirect u = some page ↔
      u.scheme ≠ "devtools" ∧ Page.isContained page ∧ redirect.redirected (Page.ofUrl u) = page := by
  unfold asked?
  dsimp only
  by_cases h : u.scheme = "devtools" ∨ Page.isContained (redirect.redirected (Page.ofUrl u)) = false
  · rw [if_pos h]
    constructor
    · intro h'
      cases h'
    · rintro ⟨hs, hc, rfl⟩
      rcases h with h | h
      · exact absurd h hs
      · rw [hc] at h
        cases h
  · rw [if_neg h, Option.some.injEq]
    simp only [not_or, Bool.not_eq_false] at h
    constructor
    · rintro rfl
      exact ⟨h.1, h.2, rfl⟩
    · exact fun h' => h'.2.2

/-- The page asked for is a row of names. -/
theorem plain_of_asked? {redirect : Rules} {u : Url} {page : String}
    (h : asked? redirect u = some page) : Path.Plain page :=
  (Page.isContained_iff.1 (asked?_eq_some.1 h).2.1).2

/-- The target of a URL is in the index. -/
theorem contains_of_target? {index : PageIndex} {redirect : Rules} {u : Url} {c : String}
    (h : target? index redirect u = some c) : index.contains c = true := by
  obtain ⟨page, -, hf⟩ := Option.bind_eq_some_iff.1 h
  exact List.find?_some hf

/-- The target of a URL does not begin with a slash. -/
theorem head?_of_target? {index : PageIndex} {redirect : Rules} {u : Url} {c : String}
    (h : target? index redirect u = some c) : c.toList.head? ≠ some '/' := by
  obtain ⟨page, ha, hf⟩ := Option.bind_eq_some_iff.1 h
  exact Page.head?_of_candidate (plain_of_asked? ha) (List.mem_of_find?_eq_some hf)

/-- A request is answered by finding the page that its URL asks for. -/
theorem answer_eq (p : Pages) (r : Request) :
    p.answer r =
      match asked? p.redirect r.url with
      | none => pure (none, p)
      | some page => do
        let (body, p) ← p.find page
        return (body.map fun body => .ok r.mime (orPlaceholder body), p) := by
  unfold answer asked? pagePath
  dsimp only
  by_cases hs : r.url.scheme = "devtools"
  · simp [hs]
  · by_cases hc : Page.isContained (p.redirect.redirected (Page.ofUrl r.url)) = true <;> simp [hs, hc]

/-! ## On disk -/

/-- The first file is the first of the pages that is one. -/
theorem run_firstFile (t : FileTree) (base : Path) (cs : List String) :
    (firstFile base cs).run t = cs.find? fun c => t.isFile (base.join c) := by
  induction cs with
  | nil => rfl
  | cons c cs ih =>
    unfold firstFile
    cases hc : t.isFile (base.join c) <;> simp [hc, ih]

/-- On disk a request is answered with the first file tried, as it is read, and nothing changes. -/
theorem handle_disk {p : Pages} (hp : p.lookup = .disk) (t : FileTree) (r : Request) :
    p.handle t r =
      ((diskTarget? t p.base p.redirect r.url).map fun c =>
        .ok r.mime (orPlaceholder (contentAt t p.base c)), p) := by
  rw [handle, answer_eq]
  unfold diskTarget?
  cases asked? p.redirect r.url with
  | none => rfl
  | some page =>
    unfold find
    rw [hp]
    simp only [Access.run_bind, run_firstFile, Option.bind_some]
    cases (Page.candidates page).find? fun c => t.isFile (p.base.join c) with
    | none => rfl
    | some c => simp [contentAt]

/-- On disk the pages are asked about that are tried, and the one found is read. -/
theorem paths_disk {p : Pages} (hp : p.lookup = .disk) (t : FileTree) (r : Request) :
    (p.answer r).paths t =
      match asked? p.redirect r.url with
      | none => []
      | some page =>
        (firstFile p.base (Page.candidates page)).paths t ++
          ((diskTarget? t p.base p.redirect r.url).map p.base.join).toList := by
  rw [answer_eq]
  unfold diskTarget?
  cases asked? p.redirect r.url with
  | none => rfl
  | some page =>
    unfold find
    rw [hp]
    simp only [Access.paths_bind, run_firstFile, Option.bind_some]
    cases (Page.candidates page).find? fun c => t.isFile (p.base.join c) with
    | none => simp
    | some c => simp

/-! ## With an index -/

/-- With an index a request is answered by its target: with what is kept for it, or else with what
is read, which is kept. -/
theorem answer_indexed {p : Pages} {index : PageIndex} {cache : Cache}
    (hp : p.lookup = .indexed index cache) (r : Request) :
    p.answer r =
      match target? index p.redirect r.url with
      | none => pure (none, p)
      | some c =>
        match cache.get? c with
        | some b => pure (some (.ok r.mime (orPlaceholder b)), p)
        | none => do
          match ← .read (p.base.join c) with
          | .ok b => return (some (.ok r.mime (orPlaceholder b)),
              { p with lookup := .indexed index (cache.insert c b) })
          | .error _ => return (some (.ok r.mime placeholder), p) := by
  rw [answer_eq]
  unfold target?
  cases asked? p.redirect r.url with
  | none => rfl
  | some page =>
    unfold find
    rw [hp, Option.bind_some]
    dsimp only
    cases (Page.candidates page).find? index.contains with
    | none => rfl
    | some c =>
      dsimp only
      cases cache.get? c with
      | some b => rfl
      | none =>
        show Access.load _ _ = Access.load _ _
        congr 1
        funext content
        cases content <;> rfl

section Indexed

variable {p : Pages} {index : PageIndex} {cache : Cache} {t : FileTree} {r : Request} {c : String}

/-- With an index a request without a target is declined, and nothing is asked about. -/
theorem handle_declined (hp : p.lookup = .indexed index cache)
    (hc : target? index p.redirect r.url = none) :
    p.handle t r = (none, p) ∧ (p.answer r).trace t = [] := by
  rw [handle, answer_indexed hp, hc]
  exact ⟨rfl, rfl⟩

/-- What is kept is served, and nothing is asked about. -/
theorem handle_kept {b : Bytes} (hp : p.lookup = .indexed index cache)
    (hc : target? index p.redirect r.url = some c) (hk : cache.get? c = some b) :
    p.handle t r = (some (.ok r.mime (orPlaceholder b)), p) ∧ (p.answer r).trace t = [] := by
  rw [handle, answer_indexed hp, hc]
  dsimp only
  rw [hk]
  exact ⟨rfl, rfl⟩

/-- What is not kept is read, served and kept. -/
theorem handle_read {b : Bytes} (hp : p.lookup = .indexed index cache)
    (hc : target? index p.redirect r.url = some c) (hk : cache.get? c = none)
    (hread : t.read (p.base.join c) = .ok b) :
    p.handle t r = (some (.ok r.mime (orPlaceholder b)),
        { p with lookup := .indexed index (cache.insert c b) }) ∧
      (p.answer r).trace t = [.loaded (p.base.join c) (.ok b)] := by
  rw [handle, answer_indexed hp, hc]
  dsimp only
  rw [hk]
  simp [hread]

/-- Where reading fails a blank is served, and nothing is kept. -/
theorem handle_unread {e : FileTree.ReadError} (hp : p.lookup = .indexed index cache)
    (hc : target? index p.redirect r.url = some c) (hk : cache.get? c = none)
    (hread : t.read (p.base.join c) = .error e) :
    p.handle t r = (some (.ok r.mime placeholder), p) ∧
      (p.answer r).trace t = [.loaded (p.base.join c) (.error e)] := by
  rw [handle, answer_indexed hp, hc]
  dsimp only
  rw [hk]
  simp [hread]

end Indexed

/-- With an index a request is declined, or answered with what is kept for its target; what is not
kept yet is read, and kept if it could be. Nothing else is asked about. -/
theorem handle_indexed {p : Pages} {index : PageIndex} {cache : Cache}
    (hp : p.lookup = .indexed index cache) (t : FileTree) (r : Request) :
    (target? index p.redirect r.url = none ∧
        p.handle t r = (none, p) ∧ (p.answer r).trace t = []) ∨
      (∃ c b, target? index p.redirect r.url = some c ∧ cache.get? c = some b ∧
        p.handle t r = (some (.ok r.mime (orPlaceholder b)), p) ∧ (p.answer r).trace t = []) ∨
      (∃ c b, target? index p.redirect r.url = some c ∧ cache.get? c = none ∧
        t.read (p.base.join c) = .ok b ∧
        p.handle t r = (some (.ok r.mime (orPlaceholder b)),
          { p with lookup := .indexed index (cache.insert c b) }) ∧
        (p.answer r).trace t = [.loaded (p.base.join c) (.ok b)]) ∨
      ∃ c e, target? index p.redirect r.url = some c ∧ cache.get? c = none ∧
        t.read (p.base.join c) = .error e ∧
        p.handle t r = (some (.ok r.mime placeholder), p) ∧
        (p.answer r).trace t = [.loaded (p.base.join c) (.error e)] := by
  cases hc : target? index p.redirect r.url with
  | none => exact Or.inl ⟨rfl, handle_declined hp hc⟩
  | some c =>
    right
    cases hk : cache.get? c with
    | some b => exact Or.inl ⟨c, b, rfl, hk, handle_kept hp hc hk⟩
    | none =>
      right
      cases hread : t.read (p.base.join c) with
      | ok b => exact Or.inl ⟨c, b, rfl, hk, hread, handle_read hp hc hk hread⟩
      | error e => exact Or.inr ⟨c, e, rfl, hk, hread, handle_unread hp hc hk hread⟩

/-! ## What visits leave as it is -/

/-- No request changes where the pages are, how they are redirected and which the index has. -/
theorem handle_fixed (p : Pages) (t : FileTree) (r : Request) :
    (p.handle t r).2.base = p.base ∧ (p.handle t r).2.redirect = p.redirect ∧
      (p.handle t r).2.index? = p.index? := by
  cases hp : p.lookup with
  | disk =>
    rw [handle_disk hp]
    exact ⟨rfl, rfl, rfl⟩
  | indexed index cache =>
    rcases handle_indexed hp t r with ⟨-, h, -⟩ | ⟨c, b, -, -, h, -⟩ | ⟨c, b, -, -, -, h, -⟩ |
      ⟨c, e, -, -, -, h, -⟩
    · rw [h]
      exact ⟨rfl, rfl, rfl⟩
    · rw [h]
      exact ⟨rfl, rfl, rfl⟩
    · rw [h]
      exact ⟨rfl, rfl, by simp [index?, hp]⟩
    · rw [h]
      exact ⟨rfl, rfl, rfl⟩

/-- No visits change where the pages are, how they are redirected and which the index has. -/
theorem after_fixed (p : Pages) (vs : List Visit) :
    (p.after vs).base = p.base ∧ (p.after vs).redirect = p.redirect ∧
      (p.after vs).index? = p.index? := by
  induction vs using List.reverseRecOn with
  | nil => exact ⟨rfl, rfl, rfl⟩
  | append_singleton vs v ih =>
    rw [after_concat]
    obtain ⟨hb, hr, hi⟩ := handle_fixed (p.after vs) v.tree v.request
    exact ⟨hb.trans ih.1, hr.trans ih.2.1, hi.trans ih.2.2⟩

/-- Without an index pages are looked up on disk. -/
theorem lookup_of_index?_none {p : Pages} (h : p.index? = none) : p.lookup = .disk := by
  unfold index? at h
  split at h
  · assumption
  · cases h

/-- With an index pages are looked up in it. -/
theorem lookup_of_index?_some {p : Pages} {index : PageIndex} (h : p.index? = some index) :
    ∃ cache, p.lookup = .indexed index cache := by
  unfold index? at h
  split at h
  · cases h
  · rename_i i cache hl
    cases h
    exact ⟨cache, hl⟩

end Pages

end BrowserShell
