import BrowserShell.Proofs.File.Walk
import BrowserShell.Proofs.Page.Candidates
import BrowserShell.Proofs.Url.Append
import BrowserShell.Provider.Directory
import Mathlib.Tactic.Set

/-!
# Files under a web prefix

The provider of a directory takes what follows its prefix in the text of a URL, up to query and
fragment, as the path of a file (`Directory.relative?_eq_some_iff`). The text of a URL is written
anew when it is read, with the characters encoded that a path does not keep, and nothing decodes
them: under a prefix that is written as URLs are, a contained path is found exactly if paths keep
all its characters (`Directory.serves_kept_iff`).
-/

namespace BrowserShell

/-- A text ends with a slash if its last character is one. -/
theorem Text.hasEnd_slash_iff (s : String) :
    Text.hasEnd s "/" = true ↔ s.toList.getLast? = some '/' := by
  have hslash : "/".toList.reverse = ['/'] := rfl
  rw [Text.hasEnd, Text.endsWith, hslash, List.getLast?_eq_head?_reverse]
  cases s.toList.reverse with
  | nil => simp [Text.after?]
  | cons c cs =>
    by_cases hc : c = '/'
    · simp [Text.after?, hc]
    · simp [Text.after?, hc, Ne.symm hc]

namespace Directory

/-- The prefix of a directory ends with a slash. -/
theorem getLast?_start_new (start : String) (dir : Path) :
    (new start dir).start.toList.getLast? = some '/' := by
  rw [new]
  dsimp only
  split
  · rename_i h
    exact (Text.hasEnd_slash_iff start).1 h
  · simp [String.toList_append]

/-- A prefix with a slash at its end stays as it is. -/
theorem start_new_of_slash {start : String} (h : start.toList.getLast? = some '/') (dir : Path) :
    (new start dir).start = start := by
  rw [new, if_pos ((Text.hasEnd_slash_iff start).2 h)]

/-- The path of a file is what follows the prefix in the text of a URL, up to query and fragment. -/
theorem relative?_eq_some_iff {d : Directory} {url p : String} :
    d.relative? url = some p ↔
      ∃ rest, url.toList = d.start.toList ++ rest ∧ rest.takeWhile Url.isInOpaque = p.toList ∧
        Page.isContained p := by
  unfold relative?
  constructor
  · intro h
    obtain ⟨rest, hrest, h⟩ := Option.bind_eq_some_iff.1 h
    dsimp only at h
    split at h
    · rename_i hcontained
      obtain rfl := Option.some.inj h
      exact ⟨rest, Text.eq_append_of_after? hrest, String.toList_ofList.symm, hcontained⟩
    · cases h
  · rintro ⟨rest, hurl, hpath, hcontained⟩
    have hp : String.ofList (rest.takeWhile fun c => c != '?' && c != '#') = p := by
      rw [← String.toList_inj, String.toList_ofList]
      exact hpath
    rw [hurl, Text.after?_append]
    show (if Page.isContained (String.ofList _) then some (String.ofList _) else none) = some p
    rw [hp, if_pos hcontained]

/-- A path behind the prefix is found. -/
theorem relative?_append {d : Directory} {url p : String} (hurl : url = d.start ++ p)
    (hcontained : Page.isContained p) (hp : ∀ c ∈ p.toList, Url.isInOpaque c = true) :
    d.relative? url = some p := by
  refine relative?_eq_some_iff.2 ⟨p.toList, ?_, List.takeWhile_eq_self_iff.2 hp, hcontained⟩
  rw [hurl, String.toList_append]

/-- The file whose path is found is served. -/
theorem handle_of_relative? {d : Directory} {t : FileTree} {r : Request} {p : String}
    {content : Bytes} (hpath : d.relative? r.url.render = some p)
    (hread : t.read (d.dir.join p) = .ok content) :
    d.handle t r = some (.ok r.mime (orPlaceholder content)) := by
  have hfile : t.isFile (d.dir.join p) = true := FileTree.isFile_iff.2 ⟨content, hread⟩
  unfold handle answer
  rw [hpath]
  simp [hfile, hread, Except.toOption]

/-- What is served is a file whose path is found. -/
theorem exists_of_handle {d : Directory} {t : FileTree} {r : Request} {response : Response}
    (h : d.handle t r = some response) :
    ∃ p, d.relative? r.url.render = some p ∧ t.isFile (d.dir.join p) = true := by
  unfold handle answer at h
  cases hpath : d.relative? r.url.render with
  | none =>
    rw [hpath] at h
    cases h
  | some p =>
    refine ⟨p, rfl, ?_⟩
    by_contra hfile
    rw [hpath] at h
    simp [hfile] at h

/-- A contained path of kept characters, without percent signs, is a row of segments that paths take
as they are. -/
theorem row_of_isContained {p : String} (hp : Page.isContained p)
    (hkept : ∀ c ∈ p.toList, Url.isKept Percent.path c = true) (hpercent : '%' ∉ p.toList) :
    Url.Path.Row false p.toList := by
  obtain ⟨hback, hplain⟩ := Page.isContained_iff.1 hp
  intro segment hsegment
  have hmem : ∀ c ∈ segment, c ∈ p.toList := fun c hc => Text.mem_of_mem_pieces hsegment hc
  refine ⟨hplain segment hsegment, fun c hc => hkept c (hmem c hc), fun c hc => ⟨?_, ?_, ?_⟩,
    by simp⟩
  · rintro rfl
    exact hpercent (hmem _ hc)
  · rintro rfl
    exact hback (hmem _ hc)
  · rintro rfl
    exact Text.not_mem_of_mem_pieces hsegment hc

/-- Under the prefix of a web page that is written as URLs are, without query and fragment, a
contained path without question marks, number signs, percent signs and controls is found exactly if
all its characters are kept in a path, and the file is then served. -/
theorem serves_kept_iff {start : String} {u : Url} (hparse : Url.parse start = .ok u)
    (hrender : u.render = start) (hslash : start.toList.getLast? = some '/')
    (hscheme : u.scheme ∈ Url.webSchemes) (hquery : u.query = none) (hfragment : u.fragment = none)
    {p : String} (hcontained : Page.isContained p)
    (hchars : ∀ c ∈ p.toList, c ≠ '?' ∧ c ≠ '#' ∧ c ≠ '%' ∧ Percent.control c = false)
    (dir : Path) :
    ∃ v, Url.parse (start ++ p) = .ok v ∧
      ((new start dir).relative? v.render = some p ↔
        ∀ c ∈ p.toList, Url.isKept Percent.path c = true) ∧
      ((∀ c ∈ p.toList, Url.isKept Percent.path c = true) →
        ∀ (t : FileTree) (content : Bytes), t.read (dir.join p) = .ok content →
          ∀ r : Request, r.url = v →
            (new start dir).handle t r = some (.ok r.mime (orPlaceholder content))) := by
  obtain ⟨before, hbefore⟩ := List.getLast?_eq_some_iff.1 hslash
  have hweb : Url.isSpecial u.scheme = true ∧ u.scheme ≠ "file" := by
    rcases List.mem_cons.1 hscheme with hs | hs
    · rw [hs]
      decide
    · rw [List.mem_singleton.1 hs]
      decide
  rw [Url.parse, hbefore] at hparse
  obtain ⟨a, path, hu, hpath, hread⟩ :=
    Url.exists_path_of_parseChars_slash hparse hweb.1 hweb.2 hquery hfragment
  have hstart : (new start dir).start = start := start_new_of_slash hslash dir
  -- The path is read on from that of the prefix.
  set more := Url.inside (p.toList.rdropWhile Url.isOuter) with hmore
  have hmem : ∀ c ∈ more, c ∈ p.toList := fun c hc =>
    (List.rdropWhile_prefix _ _).subset (List.mem_of_mem_filter hc)
  have hnone : (Url.Path.read true false path [] more).2 = [] :=
    Url.Path.read_snd (fun c hc => ⟨(hchars c (hmem c hc)).1, (hchars c (hmem c hc)).2.1⟩) _ _ _ _
  have hv : Url.parse (start ++ p) = .ok (Url.ofParts u.scheme (some a)
      (Url.Path.read true false path [] more).1 []) := by
    have hlist : (start ++ p).toList = before ++ '/' :: p.toList := by
      rw [String.toList_append, hbefore]
      simp
    rw [Url.parse, hlist, hread, ← hmore, hnone]
  have hfound : (∀ c ∈ p.toList, Url.isKept Percent.path c = true) →
      (new start dir).relative? (Url.ofParts u.scheme (some a)
        (Url.Path.read true false path [] more).1 []).render = some p := by
    intro hkept
    have hall : more = p.toList := Url.inside_of_isKept hkept
    have hrow := row_of_isContained hcontained hkept fun h => (hchars _ h).2.2.1 rfl
    have hhead : p.toList.head? ≠ some '/' :=
      Path.head?_of_plain (Page.isContained_iff.1 hcontained).2
    refine relative?_append ?_ hcontained fun c hc => ?_
    · rw [hall, Url.Path.read_row true hrow, Url.render_append_path _ _ _ hhead, ← hu, hrender,
        hstart, String.ofList_toList]
    · simp [Url.isInOpaque, (hchars c hc).1, (hchars c hc).2.1]
  refine ⟨_, hv, ⟨fun h c hc => ?_, hfound⟩, fun hkept t content ht r hr => ?_⟩
  · -- The path that is found is a part of the path that is read, where all characters are kept.
    obtain ⟨rest, hurl, htake, -⟩ := relative?_eq_some_iff.1 h
    have hsplit : (Url.Path.read true false path [] more).1 = path ++ rest := by
      rw [hstart, ← hrender, hu, Url.render_ofParts, Url.render_ofParts] at hurl
      simpa [Url.beforeText, Url.ofParts, Url.endText, Url.readEnd] using hurl
    have hc' : c ∈ rest := by
      rw [← htake] at hc
      exact List.takeWhile_subset _ hc
    have hin : c ∈ (Url.Path.read true false path [] more).1 := by
      rw [hsplit]
      exact List.mem_append_right _ hc'
    rcases Url.Path.isKept_of_mem_read hin with hc | hc
    · exact hpath c hc
    · exact hc
  · exact handle_of_relative? (hr ▸ hfound hkept) ht

/-- The URL of the prefix that is usual for data. -/
theorem parse_data : Url.parse "https://localhost/" =
    .ok ⟨"https", some ⟨"", some (.name "localhost"), none⟩, "/", none, none⟩ :=
  Url.parse_localhost_https [] (by decide +kernel)

/-- A file whose name has kept characters only is served. -/
theorem serves_kept_iff_plain :
    Page.isContained "a.txt" ∧ ∃ v, Url.parse ("https://localhost/" ++ "a.txt") = .ok v ∧
      ∀ r : Request, r.url = v →
        (new "https://localhost/" ".").handle (.single "a.txt" [104, 105] (by decide)) r =
          some (.ok r.mime [104, 105]) := by
  have hcontained : Page.isContained "a.txt" := by decide
  obtain ⟨v, hv, -, hserves⟩ := serves_kept_iff parse_data (by decide +kernel) (by decide)
    (by decide) rfl rfl hcontained (by simp [Percent.control]) "."
  exact ⟨hcontained, v, hv, hserves (List.all_eq_true.1 (by decide)) _ _ FileTree.read_single⟩

/-- A file with a blank in its name is not served: what is looked up is the name with the blank
encoded. -/
theorem blank_not_served :
    Page.isContained "a b.txt" ∧
      (FileTree.single "a b.txt" [104, 105] (by decide)).read (Path.join "." "a b.txt") =
        .ok [104, 105] ∧
      ∃ v, Url.parse ("https://localhost/" ++ "a b.txt") = .ok v ∧ ∀ r : Request, r.url = v →
        (new "https://localhost/" ".").handle (.single "a b.txt" [104, 105] (by decide)) r =
          none := by
  refine ⟨by decide, FileTree.read_single, ⟨"https", some ⟨"", some (.name "localhost"), none⟩,
    "/a%20b.txt", none, none⟩, ?_, fun r hr => ?_⟩
  · exact Url.parse_localhost_https "a b.txt".toList (by decide +kernel)
  · have hcontained : Page.isContained "a%20b.txt" := by decide
    have hpath : (new "https://localhost/" ".").relative? r.url.render = some "a%20b.txt" :=
      relative?_append (by rw [hr]; decide +kernel) hcontained (List.all_eq_true.1 (by decide))
    rw [Option.eq_none_iff_forall_ne_some]
    intro response hresponse
    obtain ⟨p, hp, hfile⟩ := exists_of_handle hresponse
    obtain rfl : "a%20b.txt" = p := Option.some.inj (hpath.symm.trans hp)
    have hname : "a%20b.txt" = "a b.txt" :=
      (FileTree.isFile_single_iff (Page.isContained_iff.1 hcontained).2).1 hfile
    exact absurd hname (by decide)

end Directory

end BrowserShell
