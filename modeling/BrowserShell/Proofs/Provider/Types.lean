import BrowserShell.Proofs.Provider.Pages
import BrowserShell.Proofs.Url.WellFormed

/-!
# The types of pages

The type of a resource is read off the path of its URL, and the file that is served for it off the
host and the path. Both look at what follows the last slash, before which nothing matters
(`Mime.ofPath_append_cons`), so that a page has the type of its file, whichever of the paths tried
for it that is. The exception are the URLs without a host whose path is a single name: the name is
taken for a host and the file for its index page, while the type is still read off the name
(`Pages.type_eq_iff`).
-/

namespace BrowserShell

/-! ## What the type depends on -/

namespace Mime

/-- The last name of a path without slashes is all of it. -/
theorem lastName_of_not_mem {cs : List Char} (h : '/' ∉ cs) : lastName cs = cs := by
  unfold lastName
  cases hcut : Text.cutLast? '/' cs with
  | none => rfl
  | some cut =>
    have heq := Text.eq_of_cutLast? hcut
    exact absurd (by rw [heq]; simp) h

/-- What stands before a slash makes no difference to the last name. -/
theorem lastName_append_cons (before after : List Char) :
    lastName (before ++ '/' :: after) = lastName after := by
  by_cases hslash : '/' ∈ after.reverse
  · -- Both texts are cut at the last slash behind the one between them.
    obtain ⟨name, rest, hrev, hname⟩ := List.eq_append_cons_of_mem hslash
    have hafter : after = rest.reverse ++ '/' :: name.reverse := by
      rw [← List.reverse_reverse after, hrev]
      simp
    have hname' : '/' ∉ name.reverse := by simpa using hname
    have hboth : before ++ '/' :: after =
        (before ++ '/' :: rest.reverse) ++ '/' :: name.reverse := by
      rw [hafter, List.append_assoc, List.cons_append]
    unfold lastName
    rw [hboth, Text.cutLast?_append hname', hafter, Text.cutLast?_append hname']
  · have hafter : '/' ∉ after := by simpa using hslash
    rw [lastName_of_not_mem hafter, lastName, Text.cutLast?_append hafter]

/-- So it makes none to the type. -/
theorem ofPath_append_cons (before after : List Char) :
    ofPath (String.ofList (before ++ '/' :: after)) = ofPath (String.ofList after) := by
  unfold ofPath
  rw [String.toList_ofList, String.toList_ofList, lastName_append_cons]

/-- An index page is a page. -/
theorem ofPath_index (cs : List Char) :
    ofPath (String.ofList (cs ++ '/' :: Page.indexName.toList)) = page := by
  have hindex : ofPath (String.ofList Page.indexName.toList) = page := by decide +kernel
  rw [ofPath_append_cons, hindex]

/-- What stands before the first character other than a slash makes no difference to the type. -/
theorem ofPath_dropWhile (cs : List Char) :
    ofPath (String.ofList (cs.dropWhile (· == '/'))) = ofPath (String.ofList cs) := by
  induction cs with
  | nil => rfl
  | cons c cs ih =>
    by_cases hc : c = '/'
    · subst hc
      rw [List.dropWhile_cons_of_pos (by simp), ih]
      exact (ofPath_append_cons [] cs).symm
    · rw [List.dropWhile_cons_of_neg (by simpa using hc)]

end Mime

namespace Page

/-- What names a page: the host and the path of a URL, or the path alone without the slashes that it
begins with. -/
def named (u : Url) : List Char :=
  match u.hostText? with
  | some host => host.toList ++ u.path.toList
  | none => u.path.toList.dropWhile (· == '/')

/-- The type of the page that a URL names is that of the name if it has a slash; else the page is
the index page of a folder. -/
theorem ofPath_ofUrl (u : Url) :
    Mime.ofPath (ofUrl u) =
      if '/' ∈ named u then Mime.ofPath (String.ofList (named u)) else Mime.page := by
  have hdef : ofUrl u = String.ofList
      (if (named u).getLast? = some '/' then named u ++ indexName.toList
        else if (named u).contains '/' then named u
        else named u ++ '/' :: indexName.toList) := rfl
  rw [hdef]
  generalize named u = cs
  by_cases hlast : cs.getLast? = some '/'
  · -- A folder is a page by its type, as its index page is.
    obtain ⟨folder, rfl⟩ := List.getLast?_eq_some_iff.1 hlast
    have hfolder : Mime.ofPath (String.ofList (folder ++ ['/'])) = Mime.page := by
      rw [Mime.ofPath_append_cons]
      rfl
    rw [if_pos hlast, if_pos (by simp), hfolder, List.append_assoc]
    exact Mime.ofPath_index folder
  · rw [if_neg hlast]
    by_cases hslash : '/' ∈ cs
    · rw [if_pos (by simpa using hslash), if_pos hslash]
    · rw [if_neg (by simpa using hslash), if_neg hslash]
      exact Mime.ofPath_index cs

/-- All paths tried for a page have its type. -/
theorem ofPath_of_mem_candidates {page file : String} (h : file ∈ candidates page) :
    Mime.ofPath file = Mime.ofPath page := by
  unfold candidates at h
  split at h
  · rw [List.mem_singleton.1 h]
  · rename_i host rest hcut
    obtain ⟨hpage, -⟩ := Text.cut?_eq_some_iff.1 hcut
    have hrest : Mime.ofPath page = Mime.ofPath (String.ofList rest) := by
      rw [← Mime.ofPath_append_cons host rest, ← hpage, String.ofList_toList]
    dsimp only at h
    split at h
    · rw [List.mem_singleton.1 h]
    · rcases List.mem_cons.1 h with rfl | h
      · rfl
      · rw [List.mem_singleton.1 h, Mime.ofPath_append_cons, hrest]

end Page

/-! ## URLs -/

namespace Url

variable {s : String} {u : Url}

/-- Whether a URL has no host and a single name for a path, which is no page by its extension. -/
def NamesFile (u : Url) : Prop :=
  u.hostText? = none ∧ '/' ∉ u.path.toList.dropWhile (· == '/') ∧ Mime.ofPath u.path ≠ Mime.page

/-- The type of a URL is that of its path. -/
theorem type_of_parse (h : parse s = .ok u) : Mime.ofUrl s = Mime.ofPath u.path := by
  rw [Mime.ofUrl, Mime.pathOf, h]

/-- The path of a URL has the type of the page that the URL names, unless it is a single name
without a host and no page by its extension. -/
theorem ofPath_path_eq_iff (h : u.WellFormed) :
    Mime.ofPath u.path = Mime.ofPath (Page.ofUrl u) ↔ ¬ u.NamesFile := by
  rw [Page.ofPath_ofUrl]
  cases hhost : u.hostText? with
  | some host =>
    have hnamed : Page.named u = host.toList ++ u.path.toList := by rw [Page.named, hhost]
    have hslash : '/' ∉ host.toList := by
      rcases h.hostText_cases hhost with hclean | ⟨hslash, -⟩
      · exact fun hmem => (hclean '/' hmem).1 rfl
      · exact hslash
    have hnot : ¬ u.NamesFile := by
      rintro ⟨hnone, -⟩
      rw [hhost] at hnone
      cases hnone
    rw [iff_true_right hnot, hnamed]
    rcases h.path_cases hhost with hpath | hpath
    · -- A host alone is a folder, and so is an empty path.
      simp only [hpath, String.toList_empty, List.append_nil, if_neg hslash]
      rfl
    · obtain ⟨rest, hrest⟩ := List.head?_eq_some_iff.1 hpath
      calc Mime.ofPath u.path = Mime.ofPath (String.ofList ([] ++ '/' :: rest)) := by
            rw [List.nil_append, ← hrest, String.ofList_toList]
        _ = Mime.ofPath (String.ofList rest) := Mime.ofPath_append_cons [] rest
        _ = Mime.ofPath (String.ofList (host.toList ++ '/' :: rest)) :=
            (Mime.ofPath_append_cons host.toList rest).symm
        _ = _ := by rw [hrest, if_pos (by simp)]
  | none =>
    have hnamed : Page.named u = u.path.toList.dropWhile (· == '/') := by rw [Page.named, hhost]
    have hpath : Mime.ofPath (String.ofList (Page.named u)) = Mime.ofPath u.path := by
      rw [hnamed, Mime.ofPath_dropWhile, String.ofList_toList]
    by_cases hslash : '/' ∈ Page.named u
    · have hnot : ¬ u.NamesFile := fun hfile => hfile.2.1 (hnamed ▸ hslash)
      rw [iff_true_right hnot, if_pos hslash, hpath]
    · rw [if_neg hslash, NamesFile, hhost, ← hnamed]
      simp [hslash]

end Url

/-! ## Files -/

namespace Pages

variable {p : Pages} {t : FileTree} {r : Request}

/-- The file, below the base, that a request for a URL is answered with. -/
def file? (p : Pages) (t : FileTree) (u : Url) : Option String :=
  match p.lookup with
  | .disk => diskTarget? t p.base p.redirect u
  | .indexed index _ => target? index p.redirect u

/-- The file that a request is answered with is at one of the paths tried for its page. -/
theorem mem_candidates_of_file? {u : Url} {file : String} (h : p.file? t u = some file) :
    file ∈ Page.candidates (p.pagePath u) := by
  have hfound : ∀ {test : String → Bool} {page : String}, asked? p.redirect u = some page →
      (Page.candidates page).find? test = some file → file ∈ Page.candidates (p.pagePath u) := by
    intro test page hasked hfind
    obtain ⟨-, -, hpage⟩ := asked?_eq_some.1 hasked
    have hmem := List.mem_of_find?_eq_some hfind
    rwa [← hpage] at hmem
  unfold file? at h
  split at h
  · obtain ⟨page, hasked, hfind⟩ := Option.bind_eq_some_iff.1 h
    exact hfound hasked hfind
  · obtain ⟨page, hasked, hfind⟩ := Option.bind_eq_some_iff.1 h
    exact hfound hasked hfind

/-- An answer is a file under the type that the request gives it. -/
theorem exists_file_of_handle {response : Response} (h : (p.handle t r).1 = some response) :
    ∃ file, p.file? t r.url = some file ∧ response.mime = r.mime := by
  unfold file?
  cases hlookup : p.lookup with
  | disk =>
    rw [handle_disk hlookup] at h
    obtain ⟨file, hfile, rfl⟩ := Option.map_eq_some_iff.1 h
    exact ⟨file, hfile, rfl⟩
  | indexed index cache =>
    rcases handle_indexed hlookup t r with ⟨-, heq, -⟩ | ⟨file, b, hfile, -, heq, -⟩ |
      ⟨file, b, hfile, -, -, heq, -⟩ | ⟨file, e, hfile, -, -, heq, -⟩
    · rw [heq] at h
      cases h
    all_goals
      rw [heq] at h
      cases h
      exact ⟨file, hfile, rfl⟩

/-- The type that the table of extensions gives a URL is the type of the page that the URL names,
unless the URL names a file by a single name without a host. So it is for the files that are served
where nothing is redirected: a page comes with the type of its file, with the same exception. -/
theorem type_eq_iff {s : String} {u : Url} (h : Url.parse s = .ok u) :
    (Mime.ofUrl s = Mime.ofPath (Page.ofUrl u) ↔ ¬ u.NamesFile) ∧
      ∀ (p : Pages) (t : FileTree) (r : Request) (response : Response),
        p.pagePath u = Page.ofUrl u → r.url = u → r.mime = Mime.ofUrl s →
          (p.handle t r).1 = some response →
            ∃ file, p.file? t u = some file ∧
              (response.mime = Mime.ofPath file ↔ ¬ u.NamesFile) := by
  have htype : Mime.ofUrl s = Mime.ofPath (Page.ofUrl u) ↔ ¬ u.NamesFile := by
    rw [Url.type_of_parse h]
    exact Url.ofPath_path_eq_iff (Url.wellFormed_of_parse h)
  refine ⟨htype, fun p t r response hpage hurl hmime hresponse => ?_⟩
  obtain ⟨file, hfile, hresponse⟩ := exists_file_of_handle hresponse
  rw [hurl] at hfile
  refine ⟨file, hfile, ?_⟩
  have hcandidate : file ∈ Page.candidates (Page.ofUrl u) := hpage ▸ mem_candidates_of_file? hfile
  rw [hresponse, hmime, Page.ofPath_of_mem_candidates hcandidate]
  exact htype

/-- The host of a URL without a path has an extension, and its index page is a page. -/
theorem type_eq_iff_bare_host :
    let s := "app://bundle.png"
    let u : Url := ⟨"app", some ⟨"", some (.name "bundle.png"), none⟩, "", none, none⟩
    let t := FileTree.empty.write "page/bundle.png/index.html" [0x68, 0x69]
    let p := Pages.new t "page" true []
    let r : Request := { url := u }
    Url.parse s = .ok u ∧ Mime.ofUrl s = Mime.ofPath (Page.ofUrl u) ∧
      ∃ response file, (p.handle t r).1 = some response ∧ p.file? t u = some file ∧
        response.mime = Mime.ofPath file := by
  intro s u t p r
  have hparse : Url.parse s = .ok u := eq_ok_of_toOption (by decide +kernel)
  have hhost : ¬ u.NamesFile := fun hfile => by cases hfile.1
  have hmime : r.mime = Mime.ofUrl s := by decide +kernel
  obtain ⟨response, hresponse⟩ : ∃ response, (p.handle t r).1 = some response :=
    Option.isSome_iff_exists.1 (by decide +kernel)
  obtain ⟨htype, hserved⟩ := type_eq_iff hparse
  obtain ⟨file, hfile, hiff⟩ := hserved p t r response rfl rfl hmime hresponse
  exact ⟨hparse, htype.2 hhost, response, file, hresponse, hfile, hiff.2 hhost⟩

/-- A picture that a URL without a host names is served from the index page of a folder of that
name, and still typed as a picture. -/
theorem picture_typed_by_name :
    let s := "file:///logo.png"
    let u : Url := ⟨"file", some ⟨"", none, none⟩, "/logo.png", none, none⟩
    let t := FileTree.empty.write "page/logo.png/index.html" [0x68, 0x69]
    let p := Pages.new t "page" true []
    let r : Request := { url := u }
    (Url.parse s).toOption = some u ∧ Mime.ofUrl s = "image/png" ∧
      Page.ofUrl u = "logo.png/index.html" ∧ Mime.ofPath (Page.ofUrl u) = "text/html" ∧
      p.file? t u = some "logo.png/index.html" ∧
      (p.handle t r).1.map Response.mime = some "image/png" := by
  decide +kernel

end Pages

end BrowserShell
