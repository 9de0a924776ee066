import BrowserShell.Config.Validation
import BrowserShell.Proofs.Provider.Directory

/-!
# Prefixes that work

Under a prefix all files with simple paths are served exactly if the prefix, with the slash at its
end, is a URL as URLs are written (`Directory.serves_iff`). A URL that is read grows by a simple
path that is put behind the prefix, so that both begin alike if the prefix is written as it is read;
and where it is not, the text of no such URL begins with the prefix.

A configuration is checked for a prefix that can be read, however it is written: one with a scheme
in capitals is accepted, and no file is served under it (`Directory.capitals_not_served`).
-/

namespace BrowserShell.Directory

/-- Whether every file with a simple path is served under a prefix, in every directory of every
tree: what is read of the prefix and the path asks for the file. -/
def Serves (start : String) : Prop :=
  ∀ (t : FileTree) (dir path : String) (content : Bytes), Url.SimpleRow path.toList →
    t.read (Path.join dir path) = .ok content →
      ∃ v, Url.parse ((new start dir).start ++ path) = .ok v ∧ ∀ r : Request, r.url = v →
        (new start dir).handle t r = some (.ok r.mime (orPlaceholder content))

/-- A simple path is contained. -/
theorem isContained_of_simpleRow {path : String} (h : Url.SimpleRow path.toList) :
    Page.isContained path :=
  Page.isContained_iff.2
    ⟨fun hback => Url.ne_of_isSimple (h.simple _ hback) (by decide) rfl, h.plain⟩

/-- A simple path ends at no question mark or number sign. -/
theorem isInOpaque_of_simpleRow {path : List Char} (h : Url.SimpleRow path) :
    ∀ c ∈ path, Url.isInOpaque c = true := by
  intro c hc
  rw [Url.isInOpaque, Bool.and_eq_true, bne_iff_ne, bne_iff_ne]
  exact ⟨Url.ne_of_isSimple (h.simple c hc) (by decide),
    Url.ne_of_isSimple (h.simple c hc) (by decide)⟩

/-- The names `a` and `b` are simple paths. -/
theorem simpleRow_letter : Url.SimpleRow ['a'] ∧ Url.SimpleRow ['b'] := by
  refine ⟨⟨List.all_eq_true.1 (by decide), ?_⟩, ⟨List.all_eq_true.1 (by decide), ?_⟩⟩
  · intro p hp
    obtain rfl := List.mem_singleton.1 hp
    exact ⟨by decide, by decide, by decide⟩
  · intro p hp
    obtain rfl := List.mem_singleton.1 hp
    exact ⟨by decide, by decide, by decide⟩

/-- A prefix that a host would follow is not written as URLs are. -/
theorem not_own_of_isBare {before scheme rest : List Char} {u : Url}
    (hscheme : Url.readScheme [] (Url.inside (before.dropWhile Url.isOuter)) = some (scheme, rest))
    (hbare : Url.IsBare (String.ofList scheme) (rest ++ ['/']))
    (hread : Url.readBehindScheme (String.ofList scheme) (rest ++ ['/']) = .ok u)
    (hrender : u.render.toList = before ++ ['/']) : False := by
  by_cases hfile : String.ofList scheme = "file"
  · -- With three slashes it would be written, and it has two.
    rw [hfile] at hbare hread
    obtain ⟨c, rfl, hc⟩ := hbare.exists_singleton
    obtain rfl : Url.fileOf (['/'], []) = u :=
      Except.ok.inj ((Url.readFile_bare hc).symm.trans hread)
    have hthree : before ++ ['/'] = "file://".toList ++ ['/'] := hrender.symm
    rw [List.append_cancel_right hthree] at hscheme
    have htwo : Url.readScheme [] (Url.inside ("file://".toList.dropWhile Url.isOuter)) =
        some ("file".toList, ['/', '/']) := by decide
    rw [htwo] at hscheme
    cases hscheme
  · rw [Url.readBehindScheme_bare hfile hbare (by simp), Url.readAuthority_nil hbare.1] at hread
    cases hread

/-- The text of a special URL with a letter as its host does not end with the letter. -/
theorem takeWhile_ne_of_isBare {scheme : String} {before rest : List Char} {v : Url}
    (hbare : Url.IsBare scheme (before ++ ['/']))
    (hread : Url.readBehindScheme scheme (before ++ ['/', 'a']) = .ok v) {start : List Char}
    (hv : v.render.toList = start ++ rest) : rest.takeWhile Url.isInOpaque ≠ ['a'] := by
  have hend : Url.endText (Url.isSpecial scheme) [] = "" := rfl
  have htext : v.render.toList = scheme.toList ++ "://a/".toList := by
    rw [← Except.ok.inj ((Url.readBehindScheme_letter hbare).symm.trans hread), Url.render_ofParts,
      hend]
    simp [Url.beforeText, Url.Authority.render, Host.render]
  have hschemes : ["http", "https", "ws", "wss", "ftp", "file"].all
      (fun s => (s.toList ++ "://a/".toList).all Url.isInOpaque) = true := by decide
  have hchars := List.all_eq_true.1
    (List.all_eq_true.1 hschemes scheme (List.contains_iff_mem.1 hbare.1))
  rw [hv] at htext
  rw [← htext] at hchars
  intro htake
  -- Nothing in the text ends a path, so that all of it would be taken.
  rw [List.takeWhile_eq_self_iff.2 fun c hc => hchars c (List.mem_append_right _ hc)] at htake
  have hlast := congrArg List.getLast? htext
  rw [htake, List.getLast?_append, List.getLast?_append] at hlast
  have hletter : some 'a' = some '/' := hlast
  exact absurd hletter (by decide)

/-- Where files are served under a prefix, the text of a URL that asks for one begins with the
prefix and the name. -/
theorem exists_rest_of_serves {start : String} (h : Serves start) (name : String)
    (hrow : Url.SimpleRow name.toList) (hname : Folder.isName name.toList) :
    ∃ v rest, Url.parse ((new start "").start ++ name) = .ok v ∧
      v.render.toList = (new start "").start.toList ++ rest ∧
      rest.takeWhile Url.isInOpaque = name.toList := by
  obtain ⟨v, hv, hserved⟩ := h (.single name [] hname) "." name [] hrow FileTree.read_single
  obtain ⟨p, hp, hfile⟩ := exists_of_handle (hserved ⟨v, "GET", [], none, Mime.ofUrl⟩ rfl)
  obtain ⟨rest, hurl, htake, hcontained⟩ := relative?_eq_some_iff.1 hp
  obtain rfl : p = name :=
    (FileTree.isFile_single_iff (Page.isContained_iff.1 hcontained).2).1 hfile
  exact ⟨v, rest, hv, hurl, htake⟩

/-- What a text begins with is at its beginning. -/
theorem exists_cons_of_takeWhile {p : Char → Bool} {rest : List Char} {c : Char}
    (h : rest.takeWhile p = [c]) : ∃ more, rest = c :: more := by
  have hsplit := List.takeWhile_append_dropWhile (p := p) (l := rest)
  rw [h] at hsplit
  exact ⟨_, hsplit.symm⟩

/-- A text that grows by one letter into a text with the letter behind `s`, and likewise by another,
is `s`. -/
theorem eq_of_append_letters {u s more more' : List Char} {c d : Char} (hne : c ≠ d)
    (hc : u ++ [c] = s ++ c :: more) (hd : u ++ [d] = s ++ d :: more') : u = s := by
  rcases List.eq_nil_or_concat more with rfl | ⟨init, last, rfl⟩
  · exact List.append_cancel_right hc
  · have hu : u = s ++ c :: init := by
      have hinit : u ++ [c] = (s ++ c :: init) ++ [last] := by simpa using hc
      exact (List.append_inj' hinit rfl).1
    rw [hu, List.append_assoc, List.append_cancel_left_eq] at hd
    exact absurd (List.cons.inj hd).1 hne

/-- All files with simple paths are served under a prefix exactly if that, with the slash at its
end, is a URL as URLs are written. -/
theorem serves_iff (start : String) :
    Serves start ↔
      ∃ u, Url.parse (new start "").start = .ok u ∧ u.render = (new start "").start := by
  obtain ⟨before, hbefore⟩ := List.getLast?_eq_some_iff.1 (getLast?_start_new start "")
  constructor
  · intro hserves
    obtain ⟨v, rest, hv, hvtext, htake⟩ :=
      exists_rest_of_serves hserves "a" simpleRow_letter.1 (by decide)
    obtain ⟨v', rest', hv', hvtext', htake'⟩ :=
      exists_rest_of_serves hserves "b" simpleRow_letter.2 (by decide)
    have hlist : ∀ name : String,
        ((new start "").start ++ name).toList = before ++ '/' :: name.toList := by
      intro name
      rw [String.toList_append, hbefore]
      simp
    rw [Url.parse, hlist] at hv hv'
    have hnotbare : ∀ scheme left, Url.IsBare scheme (left ++ ['/']) →
        ¬ ∀ text, Url.inside (text.rdropWhile Url.isOuter) = text →
          Url.parseChars (before ++ '/' :: text) =
            Url.readBehindScheme scheme (left ++ '/' :: text) := by
      intro scheme left hbare hbehind
      exact takeWhile_ne_of_isBare hbare ((hbehind ['a'] rfl).symm.trans hv) hvtext htake
    rcases Url.grows_parseChars simpleRow_letter.1 before with hgrows | ⟨_, _, -, hbare, hbehind⟩
    · rcases Url.grows_parseChars simpleRow_letter.2 before with hgrows' | ⟨_, _, -, hbare, hbehind⟩
      · obtain ⟨u, hu, hgrown⟩ := hgrows.exists_before hv
        obtain ⟨u', hu', hgrown'⟩ := hgrows'.exists_before hv'
        obtain rfl : u = u' := Except.ok.inj (hu.symm.trans hu')
        obtain ⟨more, rfl⟩ := exists_cons_of_takeWhile htake
        obtain ⟨more', rfl⟩ := exists_cons_of_takeWhile htake'
        rw [hgrown, String.toList_append, String.toList_ofList] at hvtext
        rw [hgrown', String.toList_append, String.toList_ofList] at hvtext'
        have heq := eq_of_append_letters (by decide) hvtext hvtext'
        refine ⟨u, ?_, String.toList_inj.1 heq⟩
        rw [Url.parse, hbefore]
        exact hu
      · exact absurd hbehind (hnotbare _ _ hbare)
    · exact absurd hbehind (hnotbare _ _ hbare)
  · rintro ⟨u, hu, hrender⟩ t dir path content hpath hread
    have hstart : (new start dir).start.toList = before ++ ['/'] := hbefore
    have hlist : ((new start dir).start ++ path).toList = before ++ '/' :: path.toList := by
      rw [String.toList_append, hstart]
      simp
    have hparse : Url.parseChars (before ++ ['/']) = .ok u := hbefore ▸ hu
    rcases Url.grows_parseChars hpath before with hgrows | ⟨scheme, rest, hscheme, hbare, hbehind⟩
    · obtain ⟨v, hv, htext⟩ := hgrows.exists_grown hparse
      refine ⟨v, by rw [Url.parse, hlist, hv], fun r hr => ?_⟩
      refine handle_of_relative? (relative?_append ?_ (isContained_of_simpleRow hpath)
        (isInOpaque_of_simpleRow hpath)) hread
      rw [hr, htext, hrender, String.ofList_toList]
      rfl
    · rw [hbehind [] rfl] at hparse
      exact (not_own_of_isBare hscheme hbare hparse (hrender ▸ hbefore)).elim

/-- A configuration with a prefix whose scheme is written in capitals. -/
def capitals : Config := { content := { dataPrefix := "HTTPS://localhost/" } }

/-- A prefix with its scheme in capitals is accepted. -/
theorem problems_capitals : capitals.problems = [] := by
  have hurl : ∀ {s u}, Url.parse s = .ok u → Config.isUrl s = true := by
    intro s u h
    unfold Config.isUrl
    rw [h]
  have hstart : Config.isUrl capitals.content.dataPrefix = true :=
    hurl (Url.parse_localhost_https [] (by decide +kernel))
  have haddress : SocketAddress.isValid capitals.listener.bindAddress = true := by decide +kernel
  have hbackend : capitals.backend = none := rfl
  have hmetrics : capitals.observability.metricsEnabled = false := rfl
  unfold Config.problems Config.addressProblem
  rw [hstart, haddress, hbackend, hmetrics]
  rfl

/-- Under a prefix with its scheme in capitals, which is accepted, a file is not served: the text of
a URL has the scheme in small letters. -/
theorem capitals_not_served :
    capitals.problems = [] ∧ Url.SimpleRow "a.txt".toList ∧
      (FileTree.single "a.txt" [104, 105] (by decide)).read (Path.join "." "a.txt") =
        .ok [104, 105] ∧
      ∃ v, Url.parse ((new capitals.content.dataPrefix ".").start ++ "a.txt") = .ok v ∧
        ∀ r : Request, r.url = v →
          (new capitals.content.dataPrefix ".").handle
            (.single "a.txt" [104, 105] (by decide)) r = none := by
  have hstart : capitals.content.dataPrefix = "HTTPS://localhost/" := rfl
  rw [hstart]
  refine ⟨problems_capitals, ⟨List.all_eq_true.1 (by decide), fun p hp => ?_⟩, FileTree.read_single,
    ⟨"https", some ⟨"", some (.name "localhost"), none⟩, "/a.txt", none, none⟩, ?_, fun r hr => ?_⟩
  · obtain rfl := List.mem_singleton.1 hp
    exact ⟨by decide, by decide, by decide⟩
  · exact Url.parse_localhost_https "a.txt".toList (by decide +kernel)
  · have hpath : (new "HTTPS://localhost/" ".").relative? r.url.render = none := by
      rw [hr]
      decide +kernel
    unfold handle answer
    rw [hpath]
    rfl

end BrowserShell.Directory
