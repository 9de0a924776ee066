import BrowserShell.Proofs.Page.Candidates
import BrowserShell.Proofs.Provider.Index
import BrowserShell.Proofs.Provider.Pages
import BrowserShell.Provider.Directory

/-!
# Providers stay below their directories

What a provider asks the file system about lies below its directory. For a directory of data this
holds always (`Directory.below_of_mem_paths`). For pages it holds of every path but one
(`Pages.paths_below_iff`): the site key is put in the place of the first segment after the page was
found to be contained, and where the key is a single dot the path begins with it. Joined to a
directory that has a path the dot disappears; joined to the empty path it stays.
-/

namespace BrowserShell

namespace Pages

/-- Whether a request for a URL makes the provider of the empty path ask about a path that begins
with a dot: pages are looked up on disk, and the page asked for is no file and has the site key of
a single dot. -/
def Strays (t : FileTree) (base : Path) (debug : Bool) (redirect : Rules) (u : Url) : Prop :=
  base = "" ∧ debug = true ∧
    ∃ page rest, asked? redirect u = some page ∧ Page.DotKey page rest ∧ t.isFile page = false

/-- The paths tested for the first file are those of the pages. -/
theorem mem_paths_firstFile {t : FileTree} {base q : Path} {cs : List String}
    (h : q ∈ (firstFile base cs).paths t) : ∃ c ∈ cs, q = base.join c := by
  induction cs with
  | nil => simp [firstFile] at h
  | cons c cs ih =>
    unfold firstFile at h
    simp only [Access.paths_bind, Access.paths_isFile, List.singleton_append, List.mem_cons,
      Access.run_isFile] at h
    rcases h with rfl | h
    · exact ⟨c, List.mem_cons_self, rfl⟩
    · cases hc : t.isFile (base.join c) with
      | true => simp [hc] at h
      | false =>
        simp only [hc, Bool.false_eq_true, if_false] at h
        obtain ⟨c', hc', rfl⟩ := ih h
        exact ⟨c', List.mem_cons_of_mem c hc', rfl⟩

/-- A path asked about is that of a page tried. -/
theorem exists_candidate_of_mem_paths {p : Pages} {t : FileTree} {r : Request} {q : Path}
    (h : q ∈ (p.answer r).paths t) :
    ∃ page c, asked? p.redirect r.url = some page ∧ c ∈ Page.candidates page ∧
      q = p.base.join c := by
  cases hp : p.lookup with
  | disk =>
    rw [paths_disk hp] at h
    cases ha : asked? p.redirect r.url with
    | none => simp [ha] at h
    | some page =>
      simp only [ha, List.mem_append, Option.mem_toList, Option.map_eq_some_iff] at h
      rcases h with h | ⟨c, hc, rfl⟩
      · obtain ⟨c, hc, rfl⟩ := mem_paths_firstFile h
        exact ⟨page, c, rfl, hc, rfl⟩
      · simp only [diskTarget?, ha, Option.bind_some] at hc
        exact ⟨page, c, rfl, List.mem_of_find?_eq_some hc, rfl⟩
  | indexed index cache =>
    have hloaded : ∀ c x, target? index p.redirect r.url = some c →
        (p.answer r).trace t = [.loaded (p.base.join c) x] →
        ∃ page c, asked? p.redirect r.url = some page ∧ c ∈ Page.candidates page ∧
          q = p.base.join c := by
      intro c x ht hx
      obtain ⟨page, ha, hf⟩ := Option.bind_eq_some_iff.1 ht
      rw [Access.paths, hx] at h
      exact ⟨page, c, ha, List.mem_of_find?_eq_some hf, List.mem_singleton.1 h⟩
    rcases handle_indexed hp t r with ⟨-, -, hx⟩ | ⟨c, b, -, -, -, hx⟩ | ⟨c, b, ht, -, -, -, hx⟩ |
      ⟨c, e, ht, -, -, -, hx⟩
    · simp [Access.paths, hx] at h
    · simp [Access.paths, hx] at h
    · exact hloaded c _ ht hx
    · exact hloaded c _ ht hx

/-- A path asked about lies below the directory, or is a row of names behind a dot. -/
theorem below_or_dot {p : Pages} {t : FileTree} {r : Request} {q : Path}
    (h : q ∈ (p.answer r).paths t) :
    Path.Below p.base q ∨ p.base = "" ∧ ∃ page rest, asked? p.redirect r.url = some page ∧
      Page.DotKey page rest ∧ Path.Plain rest ∧ q = "./" ++ rest := by
  obtain ⟨page, c, ha, hc, rfl⟩ := exists_candidate_of_mem_paths h
  rcases Page.plain_or_dot (plain_of_asked? ha) hc with hplain | ⟨rest, hd, hrest, rfl⟩
  · exact Or.inl (Path.below_join _ hplain)
  · by_cases hb : p.base = ""
    · exact Or.inr ⟨hb, page, rest, ha, hd, hrest, by rw [hb, Path.empty_join]⟩
    · exact Or.inl (Path.below_join_dot hb hrest)

/-- On disk, with two pages to try, the second is asked about if the first is no file, and else only
the first. -/
theorem paths_disk_of_two {p : Pages} (hp : p.lookup = .disk) {t : FileTree} {r : Request}
    {page other : String} (ha : asked? p.redirect r.url = some page)
    (hc : Page.candidates page = [page, other]) :
    (t.isFile (p.base.join page) = false → p.base.join other ∈ (p.answer r).paths t) ∧
      (t.isFile (p.base.join page) = true →
        (p.answer r).paths t = [p.base.join page, p.base.join page]) := by
  rw [paths_disk hp, ha]
  dsimp only
  rw [hc]
  constructor
  · intro hf
    simp [firstFile, hf]
  · intro hf
    simp [firstFile, hf, diskTarget?, ha, hc]

/-- A provider on disk that strays asks about a path that does not lie below its directory. -/
theorem exists_not_below_of_strays {p : Pages} {t : FileTree} {r : Request}
    (hp : p.lookup = .disk) (h : Strays t p.base true p.redirect r.url) :
    ∃ q ∈ (p.answer r).paths t, ¬ Path.Below p.base q := by
  obtain ⟨hb, -, page, rest, ha, hd, hf⟩ := h
  obtain ⟨hc, hrest⟩ := Page.candidates_of_dotKey (plain_of_asked? ha) hd
  have hq : p.base.join ("./" ++ rest) ∈ (p.answer r).paths t :=
    (paths_disk_of_two hp ha hc).1 (by rw [hb, Path.empty_join, hf])
  refine ⟨_, hq, ?_⟩
  rw [hb, Path.empty_join]
  exact Path.not_below_dot hrest

/-- A provider on disk that does not stray asks about paths below its directory only. -/
theorem below_of_not_strays {p : Pages} {t : FileTree} {r : Request} {q : Path}
    (hp : p.lookup = .disk) (h : ¬ Strays t p.base true p.redirect r.url)
    (hq : q ∈ (p.answer r).paths t) : Path.Below p.base q := by
  rcases below_or_dot hq with hbelow | ⟨hb, page, rest, ha, hd, hrest, rfl⟩
  · exact hbelow
  · -- The page before the dot was a file, so that it alone was asked about.
    have hpage := plain_of_asked? ha
    obtain ⟨hc, -⟩ := Page.candidates_of_dotKey hpage hd
    have hf : t.isFile page = true := by
      by_contra hf
      exact h ⟨hb, rfl, page, rest, ha, hd, by simpa using hf⟩
    rw [(paths_disk_of_two hp ha hc).2 (by rw [hb, Path.empty_join, hf]), hb, Path.empty_join] at hq
    have heq : "./" ++ rest = page := by simpa using hq
    exact absurd (Path.empty_join page ▸ Path.below_join "" hpage) (heq ▸ Path.not_below_dot hrest)

/-- With the index of the empty path nothing is asked about. -/
theorem paths_of_empty_index {p : Pages} {t t₀ : FileTree} (r : Request)
    (hp : p.index? = some (PageIndex.build t₀ "")) : (p.answer r).paths t = [] := by
  obtain ⟨cache, hl⟩ := lookup_of_index?_some hp
  have hnone : target? (PageIndex.build t₀ "") p.redirect r.url = none := by
    unfold target?
    cases asked? p.redirect r.url with
    | none => rfl
    | some page => simp [PageIndex.contains_build_empty]
  rcases handle_indexed hl t r with ⟨-, -, hx⟩ | ⟨c, b, ht, -⟩ | ⟨c, b, ht, -⟩ | ⟨c, e, ht, -⟩
  · simp [Access.paths, hx]
  all_goals
    rw [hnone] at ht
    cases ht

end Pages

/-- Every path that the provider of a directory asks about lies below it. -/
theorem Directory.below_of_mem_paths {d : Directory} {t : FileTree} {r : Request} {q : Path}
    (h : q ∈ (d.answer r).paths t) : Path.Below d.dir q := by
  unfold answer at h
  cases hr : d.relative? r.url.render with
  | none => simp [hr] at h
  | some rest =>
    have hplain : Path.Plain rest := by
      unfold relative? at hr
      obtain ⟨cs, -, hcs⟩ := Option.bind_eq_some_iff.1 hr
      dsimp only at hcs
      split at hcs
      · rename_i hc
        cases hcs
        exact (Page.isContained_iff.1 hc).2
      · cases hcs
    have hq : q = d.dir.join rest := by
      simp only [hr, Access.paths_bind, Access.paths_isFile, Access.run_isFile,
        List.singleton_append, List.mem_cons] at h
      rcases h with h | h
      · exact h
      · cases hf : t.isFile (d.dir.join rest) with
        | true => simpa [hf] using h
        | false => simp [hf] at h
    exact hq ▸ Path.below_join _ hplain

/-- Whatever was asked before and however the files changed, all that the pages provider asks about
for a request lies below its directory, unless the provider of the empty path strays; and then it
asks about no path but rows of names, one behind a dot among them. All that the provider of a
directory asks about lies below that. -/
theorem Pages.paths_below_iff (t₀ : FileTree) (base : Path) (debug : Bool) (redirect : Rules)
    (vs : List Visit) (t : FileTree) (r : Request) (d : Directory) :
    let paths := (((Pages.new t₀ base debug redirect).after vs).answer r).paths t
    ((∀ q ∈ paths, Path.Below base q) ↔ ¬ Strays t base debug redirect r.url) ∧
      (∀ q ∈ paths, Path.Below base q ∨
        base = "" ∧ ∃ names, names ≠ [] ∧ q.components = .here :: names.map .normal) ∧
      ∀ q ∈ (d.answer r).paths t, Path.Below d.dir q := by
  intro paths
  obtain ⟨hbase, hredirect, hindex⟩ := after_fixed (Pages.new t₀ base debug redirect) vs
  have hb : ((Pages.new t₀ base debug redirect).after vs).base = base := hbase
  have hr : ((Pages.new t₀ base debug redirect).after vs).redirect = redirect := hredirect
  have hpaths : paths = (((Pages.new t₀ base debug redirect).after vs).answer r).paths t := rfl
  generalize (Pages.new t₀ base debug redirect).after vs = p at hb hr hindex hpaths
  refine ⟨⟨?_, ?_⟩, ?_, fun q hq => Directory.below_of_mem_paths hq⟩
  · -- A provider that strays asks about a path that does not lie below the empty one.
    intro hall hstray
    obtain rfl : debug = true := hstray.2.1
    obtain ⟨q, hq, hnot⟩ := exists_not_below_of_strays (lookup_of_index?_none hindex)
      (hb.symm ▸ hr.symm ▸ hstray)
    exact hnot (hb.symm ▸ hall q (hpaths ▸ hq))
  · intro hstray q hq
    rw [hpaths] at hq
    cases debug with
    | true =>
      exact hb ▸ below_of_not_strays (lookup_of_index?_none hindex)
        (hb.symm ▸ hr.symm ▸ hstray) hq
    | false =>
      rcases below_or_dot hq with h | ⟨h0, -⟩
      · exact hb ▸ h
      · rw [hb] at h0
        subst h0
        rw [paths_of_empty_index r hindex] at hq
        cases hq
  · intro q hq
    rw [hpaths] at hq
    rcases below_or_dot hq with h | ⟨h0, page, rest, -, -, hrest, rfl⟩
    · exact Or.inl (hb ▸ h)
    · exact Or.inr ⟨hb ▸ h0, _, Text.pieces_ne_nil _ _, Path.components_dot hrest⟩

/-- The provider of the empty path asks about a path that is not below it when `http://.../x` is
requested beside a file `x`: the key of the host is a single dot. -/
theorem Pages.dots_stray :
    let t := FileTree.empty.write "x" [0x68, 0x69]
    ∃ q ∈ ((Pages.new t "" true []).answer { url := Page.dotsUrl }).paths t,
      ¬ Path.Below "" q := by
  intro t
  have hstrays : Strays t "" true [] Page.dotsUrl :=
    ⟨rfl, rfl, ".../x", "x", by decide, ⟨['.', '.', '.'], by decide⟩, by decide +kernel⟩
  exact exists_not_below_of_strays (p := Pages.new t "" true []) rfl hstrays

end BrowserShell
