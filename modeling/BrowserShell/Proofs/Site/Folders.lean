import BrowserShell.Proofs.Filter.Script
import BrowserShell.Proofs.Result
import BrowserShell.Provider.Pages

/-!
# The folders of a site

The pages of a site and its script are kept in the same folders: in that of the host and, where the
site key is another name, in that of the key (`Site.folders`). The provider of pages and a filter
come to them on different ways. The one cuts the page path at its first slash and compares names,
the other has the host from the URL, drops a port and compares paths. Both ways lead to the same
folders in the same order (`Site.folders_of_parse`), since a host that is read in a URL holds no
slash and has no port, and a slash or nothing follows it.
-/

namespace BrowserShell

/-! ## Page paths -/

namespace Page

/-- What stands before the first slash of a page path. -/
def firstSegment (page : String) : String :=
  match Text.cut? '/' page.toList with
  | some (segment, _) => String.ofList segment
  | none => page

/-- The first segment of a path below a name is the name. -/
theorem firstSegment_eq {page name : String} {rest : List Char}
    (h : page.toList = name.toList ++ '/' :: rest) (hs : '/' ∉ name.toList) :
    firstSegment page = name := by
  unfold firstSegment
  rw [Text.cut?_eq_some_iff.2 ⟨h, hs⟩]
  exact String.ofList_toList

/-- The page of a URL with a host is below the host. -/
theorem exists_ofUrl {u : Url} {host : String} (hu : u.WellFormed)
    (hh : u.hostText? = some host) (hs : '/' ∉ host.toList) :
    ∃ rest, (ofUrl u).toList = host.toList ++ '/' :: rest := by
  unfold ofUrl
  rw [hh]
  dsimp only
  rw [String.toList_ofList]
  rcases hu.path_cases hh with hpath | hpath
  · -- Without a path there is no slash either, so that the index page is put behind one.
    have hlast : host.toList.getLast? ≠ some '/' := fun h => hs (List.mem_of_getLast? h)
    rw [hpath, String.toList_empty, List.append_nil, if_neg hlast, if_neg (by simpa using hs)]
    exact ⟨_, rfl⟩
  · obtain ⟨rest, hrest⟩ := List.head?_eq_some_iff.1 hpath
    rw [hrest]
    split
    · exact ⟨rest ++ indexName.toList, by simp⟩
    · rw [if_pos (by simp)]
      exact ⟨rest, rfl⟩

end Page

namespace Site

/-- The folders of the site of a host, in the order in which they are tried. -/
def folders (host : String) : List String :=
  if key host = host then [host] else [host, key host]

/-- A host without a port that is not empty has a key that is not. -/
theorem key_ne_empty {host : String} (hport : stripPort host = host) (h0 : host ≠ "") :
    key host ≠ "" := by
  have hsame : withoutPort host.toList = host.toList := by
    rw [← String.toList_inj, stripPort, String.toList_ofList] at hport
    exact hport
  have hk : keyOf host.toList ≠ [] := keyOf_ne_nil (by simpa using h0)
  rw [key, hsame]
  exact fun h => hk (by simpa using congrArg String.toList h)

/-- The key of a host without slashes has none. -/
theorem slash_not_mem_toList_key {host : String} (hs : '/' ∉ host.toList) :
    '/' ∉ (key host).toList := by
  have hk := slash_not_mem_key hs
  rwa [String.ofList_toList] at hk

/-- The paths tried for a page below a host begin with the folders of its site. -/
theorem map_firstSegment_candidates {page host : String} {rest : List Char}
    (h : page.toList = host.toList ++ '/' :: rest) (hs : '/' ∉ host.toList)
    (hport : stripPort host = host) (h0 : host ≠ "") :
    (Page.candidates page).map Page.firstSegment = folders host := by
  have hfirst : Page.firstSegment page = host := Page.firstSegment_eq h hs
  unfold Page.candidates folders
  rw [Text.cut?_eq_some_iff.2 ⟨h, hs⟩]
  dsimp only
  rw [String.ofList_toList]
  by_cases hk : key host = host
  · rw [if_pos hk, if_pos (Or.inr (by rw [hk]))]
    simp [hfirst]
  · -- Neither of the reasons not to try the key applies.
    have hne : ¬ ((key host).toList = [] ∨ (key host).toList = host.toList) := by
      rintro (he | he)
      · exact key_ne_empty hport h0 (String.toList_eq_nil_iff.1 he)
      · exact hk (String.toList_inj.1 he)
    have hsecond : Page.firstSegment (String.ofList ((key host).toList ++ '/' :: rest)) =
        key host :=
      Page.firstSegment_eq String.toList_ofList (slash_not_mem_toList_key hs)
    rw [if_neg hk, if_neg hne, List.map_cons, List.map_singleton, hfirst, hsecond]

/-! ## Scripts -/

/-- The folder of a script: what stands between the root and the next slash. -/
def folderOf (root p : Path) : String :=
  Page.firstSegment (String.ofList (p.toList.drop root.stem.toList.length))

/-- The path of the script in a folder, behind the root. -/
theorem toList_scriptIn (root : Path) {folder : String} (h0 : folder ≠ "")
    (hs : '/' ∉ folder.toList) :
    (scriptIn root folder).toList =
      root.stem.toList ++ folder.toList ++ '/' :: scriptFolder.toList ++
        '/' :: scriptFile.toList := by
  have hfolder : (root.join folder).toList = root.stem.toList ++ folder.toList := by
    rw [Path.join_eq_stem root (Path.head?_of_not_mem hs), String.toList_append]
  have hne : root.join folder ≠ "" := by
    intro h
    rw [h, String.toList_empty] at hfolder
    exact h0 (by simpa using (List.append_eq_nil_iff.1 hfolder.symm).2)
  -- Neither name ends with a slash, so that joining puts one behind it.
  have hlast : (root.join folder).toList.getLast? ≠ some '/' := by
    rw [hfolder, List.getLast?_append_of_ne_nil _ (by simpa using h0)]
    exact fun h => hs (List.mem_of_getLast? h)
  have hrel : ∀ name ∈ [scriptFolder, scriptFile], name.toList.head? ≠ some '/' := by decide
  have hscript : ((root.join folder).join scriptFolder).toList =
      (root.join folder).toList ++ '/' :: scriptFolder.toList :=
    Path.toList_join_of_getLast hne hlast (hrel _ (by simp))
  have hscriptne : (root.join folder).join scriptFolder ≠ "" :=
    Path.join_ne_empty hne (hrel _ (by simp))
  have hscriptlast : ((root.join folder).join scriptFolder).toList.getLast? ≠ some '/' := by
    rw [hscript]
    simp [scriptFolder]
  calc (scriptIn root folder).toList
      = ((root.join folder).join scriptFolder).toList ++ '/' :: scriptFile.toList :=
        Path.toList_join_of_getLast hscriptne hscriptlast (hrel _ (by simp))
    _ = root.stem.toList ++ folder.toList ++ '/' :: scriptFolder.toList ++
          '/' :: scriptFile.toList := by rw [hscript, hfolder]

/-- The script in a folder has that folder. -/
theorem folderOf_scriptIn (root : Path) {folder : String} (h0 : folder ≠ "")
    (hs : '/' ∉ folder.toList) : folderOf root (scriptIn root folder) = folder := by
  unfold folderOf
  rw [toList_scriptIn root h0 hs]
  simp only [List.append_assoc, List.drop_left, List.cons_append]
  exact Page.firstSegment_eq String.toList_ofList hs

/-- The places of a host's script are the scripts in the folders of its site. -/
theorem scripts_eq_map (root : Path) {host : String} (hport : stripPort host = host)
    (h0 : host ≠ "") (hs : '/' ∉ host.toList) :
    scripts root host = (folders host).map (scriptIn root) := by
  have hkey : key host ≠ "" := key_ne_empty hport h0
  have hkeys : '/' ∉ (key host).toList := slash_not_mem_toList_key hs
  unfold folders
  by_cases hk : key host = host
  · rw [if_pos hk]
    unfold scripts script?
    rw [hport, if_neg h0, if_neg hkey, hk]
    simp [Path.same]
  · rw [if_neg hk]
    refine scripts_eq_pair root hport h0 hkey fun heq => ?_
    -- The names differ, and with them the components of the folders.
    rw [components_scriptIn root hkey hkeys, components_scriptIn root h0 hs] at heq
    exact hk (Path.components_join_piece_injective hkey hkeys h0 hs
      (List.append_cancel_right heq))

/-- The folders of a site have names: none is empty and none is cut by a slash. -/
theorem name_of_mem_folders {folder host : String} (hport : stripPort host = host)
    (h0 : host ≠ "") (hs : '/' ∉ host.toList) (h : folder ∈ folders host) :
    folder ≠ "" ∧ '/' ∉ folder.toList := by
  have hfolder : folder = host ∨ folder = key host := by
    unfold folders at h
    split at h
    · exact Or.inl (List.mem_singleton.1 h)
    · exact List.mem_pair.1 h
  rcases hfolder with rfl | rfl
  · exact ⟨h0, hs⟩
  · exact ⟨key_ne_empty hport h0, slash_not_mem_toList_key hs⟩

/-- The folders of the scripts are those of the site. -/
theorem map_folderOf_scripts (root : Path) {host : String} (hport : stripPort host = host)
    (h0 : host ≠ "") (hs : '/' ∉ host.toList) :
    (scripts root host).map (folderOf root) = folders host := by
  have hfolder : ∀ folder ∈ folders host, folderOf root (scriptIn root folder) = folder :=
    fun folder h =>
      have hname := name_of_mem_folders hport h0 hs h
      folderOf_scriptIn root hname.1 hname.2
  calc (scripts root host).map (folderOf root)
      = (folders host).map (fun folder => folderOf root (scriptIn root folder)) := by
        simp only [scripts_eq_map root hport h0 hs, List.map_map, Function.comp_def]
    _ = (folders host).map id := List.map_congr_left hfolder
    _ = folders host := List.map_id _

/-- For a URL with a host that no rule redirects, the paths tried for its page begin with the
folders in which the script of the site is looked for, in the same order: with the host, and with
its key where that is another name. -/
theorem folders_of_parse {text host : String} {u : Url} (hu : Url.parse text = .ok u)
    (hh : u.hostText? = some host) (p : Pages)
    (hr : p.redirect.redirect? (Page.ofUrl u) = none) (root : Path) :
    (Page.candidates (p.pagePath u)).map Page.firstSegment = folders host ∧
      (scripts root host).map (folderOf root) = folders host ∧
      scripts root host = (folders host).map (scriptIn root) ∧
      Filter.hostOf text = host := by
  have hw : u.WellFormed := Url.wellFormed_of_parse hu
  have hhost : Filter.hostOf text = host := by
    rw [Filter.hostOf, hu]
    dsimp only
    rw [hh, Option.getD_some]
  have hport : stripPort host = host := hhost ▸ Filter.stripPort_hostOf text
  have hs : '/' ∉ host.toList := hhost ▸ (Filter.hostOf_cases text).1
  have h0 : host ≠ "" := hw.hostText_ne_empty hh
  obtain ⟨rest, hrest⟩ := Page.exists_ofUrl hw hh hs
  have hpage : p.pagePath u = Page.ofUrl u := by
    rw [Pages.pagePath, Rules.redirected, hr]
    rfl
  refine ⟨?_, map_folderOf_scripts root hport h0 hs, scripts_eq_map root hport h0 hs, hhost⟩
  rw [hpage]
  exact map_firstSegment_candidates hrest hs hport h0

/-- On a host with a name in front of its registered one, pages and scripts are looked for in two
folders. -/
theorem folders_of_parse_www :
    let u : Url := ⟨"httpx", some ⟨"", some (.name "www.example.com"), some 80⟩, "/a", none, none⟩
    let p : Pages := ⟨"page", Rules.ofTexts [⟨"^$", "start.html"⟩], .disk⟩
    Url.parse "httpx://www.example.com:80/a" = .ok u ∧
      (Page.candidates (p.pagePath u)).map Page.firstSegment =
        ["www.example.com", "example.com"] ∧
      (scripts "root" "www.example.com").map (folderOf "root") =
        ["www.example.com", "example.com"] := by
  intro u p
  have hu : Url.parse "httpx://www.example.com:80/a" = .ok u :=
    eq_ok_of_toOption (by decide +kernel)
  have hr : p.redirect.redirect? (Page.ofUrl u) = none := by decide +kernel
  have hfolders : folders "www.example.com" = ["www.example.com", "example.com"] := by
    decide +kernel
  have h := folders_of_parse hu rfl p hr "root"
  exact ⟨hu, h.1.trans hfolders, h.2.1.trans hfolders⟩

end Site

end BrowserShell
