import BrowserShell.Proofs.Filter.Life
import BrowserShell.Proofs.Page.Candidates
import BrowserShell.Proofs.Url.WellFormed

/-!
# Where a filter looks for its script

The script of a site is looked for in a folder that is named as the host of the URL, and in one that
is named as its site key. Such a folder lies below the script root if its name is no row of dots
(`Site.inFolder_scriptIn_iff`). That nothing else can lead outside rests on what `Url.parse` reads:
no host holds a slash, and none ends with a port (`Filter.stripPort_hostOf`). Hosts that end in dots
have the key of a single dot, and two of them are a dot or two dots themselves;
`Filter.script_inside_iff` says for which URLs a path outside the folders of sites is asked about.
-/

namespace BrowserShell

namespace Site

/-- Whether a path is that of the script in a site's folder: behind the root come one name and the
script. -/
def InFolder (root p : Path) : Prop :=
  ∃ folder, Path.IsPlain folder ∧
    p.components = root.components ++
      [.normal folder, .normal scriptFolder.toList, .normal scriptFile.toList]

/-- The components of a script are those of its folder, and then the script. -/
theorem components_scriptIn (root : Path) {folder : String} (h0 : folder ≠ "")
    (hs : '/' ∉ folder.toList) :
    (scriptIn root folder).components = (root.join folder).components ++
      [.normal scriptFolder.toList, .normal scriptFile.toList] := by
  -- Joining adds components to a path that is not empty: a dot joined to the empty one stays.
  have hfolder : root.join folder ≠ "" := by
    by_cases hr : root = ""
    · rwa [hr, Path.empty_join]
    · exact Path.join_ne_empty hr (Path.head?_of_not_mem hs)
  have hscript : (scriptFolder : Path).toList.head? ≠ some '/' := by decide
  rw [scriptIn, Path.components_join (Path.join_ne_empty hfolder hscript) (by decide),
    Path.components_join hfolder hscript, List.append_assoc]
  rfl

/-- Dots add no name to a directory. -/
theorem components_join_ne_of_dots (root : Path) (name : List Char) {folder : String}
    (h : folder = "." ∨ folder = "..") :
    (root.join folder).components ≠ root.components ++ [.normal name] := by
  intro heq
  have hs : folder.toList.head? ≠ some '/' := by
    rcases h with rfl | rfl
    · decide
    · decide
  by_cases hr : root = ""
  · rw [hr, Path.empty_join] at heq
    rcases h with rfl | rfl
    · cases heq
    · cases heq
  · rw [Path.components_join hr hs] at heq
    have hsteps := List.append_cancel_left heq
    rcases h with rfl | rfl
    · cases hsteps
    · cases hsteps

/-- A script lies in a site's folder if and only if its folder is a name. -/
theorem inFolder_scriptIn_iff (root : Path) {folder : String} (h0 : folder ≠ "")
    (hs : '/' ∉ folder.toList) :
    InFolder root (scriptIn root folder) ↔ Path.IsPlain folder.toList := by
  constructor
  · rintro ⟨name, -, h⟩
    rw [components_scriptIn root h0 hs] at h
    have hname : (root.join folder).components = root.components ++ [.normal name] := by
      refine (List.append_inj' (h.trans ?_) rfl).1
      simp
    refine ⟨fun he => h0 (String.toList_eq_nil_iff.1 he), fun he => ?_, fun he => ?_⟩
    · obtain rfl : folder = "." := String.toList_inj.1 he
      exact components_join_ne_of_dots root name (Or.inl rfl) hname
    · obtain rfl : folder = ".." := String.toList_inj.1 he
      exact components_join_ne_of_dots root name (Or.inr rfl) hname
  · intro h
    refine ⟨folder.toList, h, ?_⟩
    rw [components_scriptIn root h0 hs,
      Path.components_join_plain root (Path.plain_of_isPlain h hs), Text.pieces_of_not_mem hs]
    simp

/-- The places of a script are in the folder of the host and in that of its key. -/
theorem mem_scripts {root : Path} {host : String} (hport : stripPort host = host) {p : Path}
    (h : p ∈ scripts root host) :
    host ≠ "" ∧ p = scriptIn root host ∨ key host ≠ "" ∧ p = scriptIn root (key host) := by
  have hexact : ∀ q ∈ (if host = "" then [] else [scriptIn root host]),
      host ≠ "" ∧ q = scriptIn root host := by
    intro q hq
    split at hq
    · cases hq
    · exact ⟨by assumption, List.mem_singleton.1 hq⟩
  unfold scripts at h
  rw [hport] at h
  -- From here on it does not matter which the places of the host itself are.
  generalize (if host = "" then [] else [scriptIn root host]) = exact at h hexact
  dsimp only at h
  split at h
  · rename_i s hs
    have hkey : key host ≠ "" ∧ s = scriptIn root (key host) := by
      unfold script? at hs
      split at hs
      · cases hs
      · exact ⟨by assumption, (Option.some.inj hs).symm⟩
    split at h
    · exact Or.inl (hexact p h)
    · rcases List.mem_append.1 h with h | h
      · exact Or.inl (hexact p h)
      · exact Or.inr (List.mem_singleton.1 h ▸ hkey)
  · exact Or.inl (hexact p h)

/-- The folder of the host is the first. -/
theorem scripts_eq_cons (root : Path) {host : String} (hport : stripPort host = host)
    (h0 : host ≠ "") : ∃ rest, scripts root host = scriptIn root host :: rest := by
  unfold scripts
  rw [hport, if_neg h0]
  split
  · dsimp only
    split
    · exact ⟨[], rfl⟩
    · exact ⟨_, rfl⟩
  · exact ⟨[], rfl⟩

/-- Where the script in the folder of the key is another path, both are places. -/
theorem scripts_eq_pair (root : Path) {host : String} (hport : stripPort host = host)
    (h0 : host ≠ "") (hk : key host ≠ "")
    (hne : (scriptIn root (key host)).components ≠ (scriptIn root host).components) :
    scripts root host = [scriptIn root host, scriptIn root (key host)] := by
  unfold scripts script?
  rw [hport, if_neg h0, if_neg hk]
  simp [Path.same, hne]

end Site

namespace Filter

/-- What the making of a filter touches where the files are those of a tree: the paths that it asks
about, and the one that the filter keeps. -/
def touched (t : FileTree) (making : Access Filter) : List Path :=
  making.paths t ++ (making.run t).script.toList

/-- Whether the script for a URL is looked for outside the folders of sites: the host ends in dots,
and is a dot or two dots itself or has no script of its own. -/
def Strays (t : FileTree) (root : Path) (url : String) : Prop :=
  Site.EndsInDots (hostOf url).toList ∧
    (hostOf url = "." ∨ hostOf url = ".." ∨ t.isFile (Site.scriptIn root (hostOf url)) = false)

/-! ## Hosts of URLs -/

/-- The host of a URL holds no slash, and where it holds a colon it ends with a bracket. -/
theorem hostOf_cases (url : String) :
    '/' ∉ (hostOf url).toList ∧
      (':' ∉ (hostOf url).toList ∨ (hostOf url).toList.getLast? = some ']') := by
  unfold hostOf
  split
  · rename_i u hu
    cases hh : u.hostText? with
    | none => simp
    | some host =>
      rw [Option.getD_some]
      rcases (Url.wellFormed_of_parse hu).hostText_cases hh with h | ⟨hs, hb⟩
      · exact ⟨fun hc => (h _ hc).1 rfl, Or.inl fun hc => (h _ hc).2 rfl⟩
      · exact ⟨hs, Or.inr hb⟩
  · simp

/-- The host of a URL has no port. -/
theorem withoutPort_hostOf (url : String) :
    Site.withoutPort (hostOf url).toList = (hostOf url).toList := by
  refine Site.withoutPort_eq_self fun name port h => ?_
  rcases (hostOf_cases url).2 with hc | hb
  · exact absurd (h ▸ List.mem_append_right _ List.mem_cons_self) hc
  · -- What follows the colon is empty or ends with the bracket, which is no digit.
    rw [h, List.getLast?_append_cons] at hb
    cases port with
    | nil => rfl
    | cons c cs =>
      rw [List.getLast?_cons_cons] at hb
      have hnot : (c :: cs).all Char.isDigit = false :=
        List.all_eq_false.2 ⟨']', List.mem_of_getLast? hb, by decide⟩
      rw [Site.isPort, hnot, Bool.and_false]

/-- So nothing is cut off the host of a URL. -/
theorem stripPort_hostOf (url : String) : Site.stripPort (hostOf url) = hostOf url := by
  rw [Site.stripPort, withoutPort_hostOf, String.ofList_toList]

/-- The key of the host of a URL is a single dot if and only if the host ends in dots. -/
theorem key_hostOf_eq_dot_iff (url : String) :
    Site.key (hostOf url) = "." ↔ Site.EndsInDots (hostOf url).toList := by
  rw [Site.key, withoutPort_hostOf, ← Site.keyOf_eq_dot_iff, ← String.toList_inj,
    String.toList_ofList]
  rfl

/-! ## What is touched -/

/-- The filter for a response touches the places of the script of the site. -/
theorem touched_make (t : FileTree) (root : Path) (rules : Rules) (url mime : String) :
    touched t (make root rules url mime) =
      let places := Site.scripts root (hostOf url)
      (Access.firstFile places).paths t ++ ((places.find? t.isFile).or places.getLast?).toList := by
  simp [touched, make]

/-- Nothing is touched but these places. -/
theorem mem_scripts_of_touched {t : FileTree} {root : Path} {rules : Rules} {url mime : String}
    {p : Path} (h : p ∈ touched t (make root rules url mime)) :
    p ∈ Site.scripts root (hostOf url) := by
  rw [touched_make] at h
  rcases List.mem_append.1 h with h | h
  · exact Access.mem_of_mem_paths_firstFile h
  · rcases Option.or_eq_some_iff.1 (Option.mem_toList.1 h) with hfound | ⟨-, hlast⟩
    · exact List.mem_of_find?_eq_some hfound
    · exact List.mem_of_getLast? hlast

/-- The first place is touched. -/
theorem head_touched {t : FileTree} {root : Path} {rules : Rules} {url mime : String}
    {p : Path} {rest : List Path} (h : Site.scripts root (hostOf url) = p :: rest) :
    p ∈ touched t (make root rules url mime) := by
  rw [touched_make, h]
  simp [Access.paths_firstFile_cons]

/-- Of two places the second is touched unless the first is a file. -/
theorem touched_of_pair {t : FileTree} {root : Path} {rules : Rules} {url mime : String}
    {p q : Path} (h : Site.scripts root (hostOf url) = [p, q]) :
    (t.isFile p = false → q ∈ touched t (make root rules url mime)) ∧
    (t.isFile p = true → touched t (make root rules url mime) = [p, p]) := by
  rw [touched_make, h]
  constructor
  · intro hp
    simp [Access.paths_firstFile_cons, hp]
  · intro hp
    simp [Access.paths_firstFile_cons, hp]

/-! ## What lies outside -/

/-- Hosts that end in dots are not empty. -/
theorem ne_empty_of_endsInDots {host : String} (h : Site.EndsInDots host.toList) : host ≠ "" := by
  rintro rfl
  obtain ⟨labels, hlabels, -⟩ := h
  have hlength := congrArg List.length hlabels
  simp [Text.pieces] at hlength

/-- A host that is no row of dots makes a script in the folder of a site. -/
theorem inFolder_of_host (root : Path) {url : String} (h0 : hostOf url ≠ "")
    (hdots : ¬ (hostOf url = "." ∨ hostOf url = "..")) :
    Site.InFolder root (Site.scriptIn root (hostOf url)) :=
  (Site.inFolder_scriptIn_iff root h0 (hostOf_cases url).1).2
    ⟨fun h => h0 (String.toList_inj.1 h), fun h => hdots (Or.inl (String.toList_inj.1 h)),
      fun h => hdots (Or.inr (String.toList_inj.1 h))⟩

/-- So does a key that is neither empty nor a dot. -/
theorem inFolder_of_key (root : Path) {url : String} (h0 : Site.key (hostOf url) ≠ "")
    (h1 : Site.key (hostOf url) ≠ ".") :
    Site.InFolder root (Site.scriptIn root (Site.key (hostOf url))) := by
  refine (Site.inFolder_scriptIn_iff root h0 ?_).2 (Page.isPlain_key h0 h1)
  have hs := Site.slash_not_mem_key (hostOf_cases url).1
  rwa [String.ofList_toList] at hs

/-- Dots make a script outside the folders of sites. -/
theorem not_inFolder_of_dots (root : Path) {folder : String} (h : folder = "." ∨ folder = "..") :
    ¬ Site.InFolder root (Site.scriptIn root folder) := by
  rcases h with rfl | rfl
  · rw [Site.inFolder_scriptIn_iff root (by decide) (by decide)]
    exact fun h => h.2.1 rfl
  · rw [Site.inFolder_scriptIn_iff root (by decide) (by decide)]
    exact fun h => h.2.2 rfl

/-- A single dot and two dots are hosts that end in dots. -/
theorem endsInDots_of_dots {host : String} (h : host = "." ∨ host = "..") :
    Site.EndsInDots host.toList := by
  rcases h with rfl | rfl
  · exact (Site.keyOf_eq_dot_iff _).1 (by decide)
  · exact (Site.keyOf_eq_dot_iff _).1 (by decide)

/-- A host that does not end in dots has its places in the folders of sites. -/
theorem inFolder_of_mem_scripts {root : Path} {url : String} {p : Path}
    (hd : ¬ Site.EndsInDots (hostOf url).toList) (h : p ∈ Site.scripts root (hostOf url)) :
    Site.InFolder root p := by
  rcases Site.mem_scripts (stripPort_hostOf url) h with ⟨h0, hp⟩ | ⟨h0, hp⟩
  · rw [hp]
    exact inFolder_of_host root h0 fun hdots => hd (endsInDots_of_dots hdots)
  · rw [hp]
    exact inFolder_of_key root h0 fun hdot => hd ((key_hostOf_eq_dot_iff url).1 hdot)

/-- A host that ends in dots has its places in its own folder and in that of a single dot. -/
theorem eq_of_mem_scripts {root : Path} {url : String} {p : Path}
    (hd : Site.EndsInDots (hostOf url).toList) (h : p ∈ Site.scripts root (hostOf url)) :
    p = Site.scriptIn root (hostOf url) ∨ p = Site.scriptIn root "." := by
  rcases Site.mem_scripts (stripPort_hostOf url) h with ⟨-, hp⟩ | ⟨-, hp⟩
  · exact Or.inl hp
  · rw [(key_hostOf_eq_dot_iff url).2 hd] at hp
    exact Or.inr hp

/-- Where such a host is no row of dots, these are two places. -/
theorem scripts_of_endsInDots (root : Path) {url : String}
    (hd : Site.EndsInDots (hostOf url).toList) (hdots : ¬ (hostOf url = "." ∨ hostOf url = "..")) :
    Site.scripts root (hostOf url) =
      [Site.scriptIn root (hostOf url), Site.scriptIn root "."] := by
  have h0 : hostOf url ≠ "" := ne_empty_of_endsInDots hd
  have hkey : Site.key (hostOf url) = "." := (key_hostOf_eq_dot_iff url).2 hd
  have hk0 : Site.key (hostOf url) ≠ "" := by
    rw [hkey]
    decide
  -- They differ as paths, for just one of them is in a site's folder.
  have hne : (Site.scriptIn root (Site.key (hostOf url))).components ≠
      (Site.scriptIn root (hostOf url)).components := by
    intro heq
    obtain ⟨folder, hfolder, hc⟩ := inFolder_of_host root h0 hdots
    exact not_inFolder_of_dots root (Or.inl hkey) ⟨folder, hfolder, heq.trans hc⟩
  have hpair := Site.scripts_eq_pair root (stripPort_hostOf url) h0 hk0 hne
  rwa [hkey] at hpair

/-- A script that a filter runs is the text of a file that its making touched. -/
theorem exists_touched_of_injection {t now : FileTree} {root : Path} {rules : Rules}
    {url mime u source : String} {chunk buffer : Bytes}
    (h : (((make root rules url mime).run t).pass now chunk buffer).injection =
      some (.script u source)) :
    ∃ p ∈ touched t (make root rules url mime), now.readText p = .ok source := by
  obtain ⟨-, script, hfound, hi⟩ := (injection_pass_attach ..).1 h
  refine ⟨script, ?_, ?_⟩
  · rw [touched_make]
    simp [hfound]
  · rcases hi with ⟨-, source', hread, hi⟩ | ⟨-, -, hi⟩
    · cases hi
      exact hread
    · cases hi

/-- The making of a filter that strays touches a path outside the folders of sites. -/
theorem exists_not_inFolder_of_strays {t : FileTree} {root : Path} {url : String}
    (h : Strays t root url) (rules : Rules) (mime : String) :
    ∃ p ∈ touched t (make root rules url mime), ¬ Site.InFolder root p := by
  obtain ⟨hd, hstray⟩ := h
  by_cases hdots : hostOf url = "." ∨ hostOf url = ".."
  · obtain ⟨rest, hrest⟩ :=
      Site.scripts_eq_cons root (stripPort_hostOf url) (ne_empty_of_endsInDots hd)
    exact ⟨_, head_touched hrest, not_inFolder_of_dots root hdots⟩
  · -- The place of the key is touched, since the host has no script of its own.
    have hnone : t.isFile (Site.scriptIn root (hostOf url)) = false := by
      rcases hstray with h | h | h
      · exact absurd (Or.inl h) hdots
      · exact absurd (Or.inr h) hdots
      · exact h
    have hplaces := scripts_of_endsInDots root hd hdots
    exact ⟨_, (touched_of_pair hplaces).1 hnone, not_inFolder_of_dots root (Or.inl rfl)⟩

/-- The making of a filter that does not stray touches paths in the folders of sites only. -/
theorem inFolder_of_not_strays {t : FileTree} {root : Path} {rules : Rules} {url mime : String}
    {p : Path} (h : ¬ Strays t root url) (hp : p ∈ touched t (make root rules url mime)) :
    Site.InFolder root p := by
  by_cases hd : Site.EndsInDots (hostOf url).toList
  · -- The host has a script of its own, so that the place of the key is not touched.
    have hdots : ¬ (hostOf url = "." ∨ hostOf url = "..") := fun hdots =>
      h ⟨hd, hdots.elim Or.inl fun hdots => Or.inr (Or.inl hdots)⟩
    have hfile : t.isFile (Site.scriptIn root (hostOf url)) = true := by
      by_contra hfile
      exact h ⟨hd, Or.inr (Or.inr (by simpa using hfile))⟩
    rw [(touched_of_pair (scripts_of_endsInDots root hd hdots)).2 hfile] at hp
    have heq : p = Site.scriptIn root (hostOf url) := by simpa using hp
    rw [heq]
    exact inFolder_of_host root (ne_empty_of_endsInDots hd) hdots
  · exact inFolder_of_mem_scripts hd (mem_scripts_of_touched hp)

/-- A path that is touched is in a site's folder, or its folder is named with a dot or two dots. -/
theorem inFolder_or_dots {t : FileTree} {root : Path} {rules : Rules} {url mime : String}
    {p : Path} (hp : p ∈ touched t (make root rules url mime)) :
    Site.InFolder root p ∨ p = Site.scriptIn root "." ∨ p = Site.scriptIn root ".." := by
  have hplace := mem_scripts_of_touched hp
  by_cases hd : Site.EndsInDots (hostOf url).toList
  · rcases eq_of_mem_scripts hd hplace with heq | heq
    · by_cases hdots : hostOf url = "." ∨ hostOf url = ".."
      · right
        rcases hdots with h | h
        · exact Or.inl (h ▸ heq)
        · exact Or.inr (h ▸ heq)
      · left
        rw [heq]
        exact inFolder_of_host root (ne_empty_of_endsInDots hd) hdots
    · exact Or.inr (Or.inl heq)
  · exact Or.inl (inFolder_of_mem_scripts hd hplace)

/-- All that the making of a filter touches is in folders of sites, unless the script for the URL is
looked for outside; and then the folders are named with a dot or two dots. What a filter runs as the
script of a page is the text of a file that was touched. -/
theorem script_inside_iff (t : FileTree) (root : Path) (rules : Rules) (url mime : String) :
    let making := make root rules url mime
    ((∀ p ∈ touched t making, Site.InFolder root p) ↔ ¬ Strays t root url) ∧
      (∀ p ∈ touched t making, Site.InFolder root p ∨
        p = Site.scriptIn root "." ∨ p = Site.scriptIn root "..") ∧
      ∀ (now : FileTree) (chunk buffer : Bytes) (u source : String),
        ((making.run t).pass now chunk buffer).injection = some (.script u source) →
          ∃ p ∈ touched t making, now.readText p = .ok source := by
  intro making
  refine ⟨⟨fun hall hstray => ?_, fun hstray p hp => inFolder_of_not_strays hstray hp⟩,
    fun p hp => inFolder_or_dots hp,
    fun now chunk buffer u source => exists_touched_of_injection⟩
  obtain ⟨p, hp, hnot⟩ := exists_not_inFolder_of_strays hstray rules mime
  exact hnot (hall p hp)

/-- The filter for a page whose host is two dots keeps a path beside the folders of sites, and runs
the text of the file there. -/
theorem dots_run_outside :
    let files := (FileTree.empty.write "page/index.html" []).write "script/inject.js" [0x78]
    let making := make "page" [] "httpx://../x" "text/html"
    (∃ p ∈ touched files making, ¬ Site.InFolder "page" p) ∧
      (making.run files).script = some "page/../script/inject.js" ∧
      ((making.run files).pass files [0x3C] [0]).injection =
        some (.script "httpx://../x" "x") := by
  refine ⟨⟨Site.scriptIn "page" "..", ?_, not_inFolder_of_dots "page" (Or.inr rfl)⟩, ?_, ?_⟩
  · decide +kernel
  · decide +kernel
  · decide +kernel

end Filter

end BrowserShell
