import BrowserShell.Proofs.Http.Gateway
import BrowserShell.Proofs.Url.Authority

/-!
# The host that a request names

The URL of a request for a path is read from a text: the scheme, the host that the request names and
the path one behind the other. The host is not looked at before, so that the path of the URL begins
where the reader sees the authority end. This is where the path of the request begins if and only if
the host names an authority (`behindHost_eq_iff`): leading slashes left out, as they are not read,
something remains and nothing in it ends the authority. Only then is the path that the providers look
up the one that a backend is asked for (`Request.path_of_url_iff`).
-/

namespace BrowserShell.Http

open Url

/-! ## Paths of targets -/

/-- Whether a text is a path as a target has it: it begins with a slash, and all of its characters
are visible. -/
structure IsPath (pq : String) : Prop where
  head : pq.toList.head? = some '/'
  visible : ∀ c ∈ pq.toList, isOuter c = false

/-- The characters of a path and query are visible. -/
theorem Target.visible_of_pathAndQuery? {cs text : List Char} (h : pathAndQuery? cs = some text) :
    ∀ c ∈ text, isOuter c = false := by
  have hvisible : ∀ c : Char, '!' ≤ c → isOuter c = false := by
    intro c hc
    have hle : '!'.toNat ≤ c.toNat := hc
    rw [isOuter, decide_eq_false_iff_not]
    exact Nat.not_le.2 (Nat.lt_of_lt_of_le (by decide) hle)
  unfold pathAndQuery? at h
  dsimp only at h
  split at h
  · rename_i hchars
    obtain ⟨hpath, hquery⟩ := hchars
    obtain rfl := Option.some.inj h
    generalize cs.takeWhile (· ≠ '#') = text at hpath hquery ⊢
    have hsplit := List.takeWhile_append_dropWhile (p := (· ≠ '?')) (l := text)
    have hdrop : text.drop (text.takeWhile (· ≠ '?')).length = text.dropWhile (· ≠ '?') :=
      (congrArg (List.drop _) hsplit.symm).trans List.drop_left
    rw [← List.drop_drop, hdrop] at hquery
    intro c hc
    rw [← hsplit, List.mem_append] at hc
    rcases hc with hc | hc
    · have hchar := List.all_eq_true.1 hpath c hc
      simp only [isPathChar, Bool.and_eq_true, decide_eq_true_eq] at hchar
      exact hvisible c hchar.1.1.1.1.1
    · cases hrest : text.dropWhile (· ≠ '?') with
      | nil =>
        rw [hrest] at hc
        cases hc
      | cons d rest =>
        rw [hrest] at hc hquery
        have hd := List.head?_dropWhile_not (· ≠ '?') text
        rw [hrest] at hd
        rcases List.mem_cons.1 hc with rfl | hc
        · obtain rfl : c = '?' := by simpa using hd
          rfl
        · have hchar := List.all_eq_true.1 hquery c hc
          simp only [isQueryChar, Bool.and_eq_true, decide_eq_true_eq] at hchar
          exact hvisible c hchar.1.1.1.1
  · cases h

/-- A target that begins with a slash is a path and query. -/
theorem Target.exists_of_parse?_slash {s : String} {t : Target} (h : parse? s = some t)
    (hslash : s.toList.head? = some '/') :
    ∃ text, pathAndQuery? s.toList = some text ∧ t = ⟨none, "", String.ofList text⟩ := by
  rcases cases_of_parse? h with ⟨hstar, -⟩ | ⟨text, -, htext, ht⟩ | ⟨_, hnot, -⟩ |
    ⟨_, _, _, hnot, -⟩
  · rw [hstar] at hslash
    cases hslash
  · exact ⟨text, htext, ht⟩
  · exact absurd hslash hnot
  · exact absurd hslash hnot

/-- A path and query begins with the slash that the target begins with. -/
theorem Target.exists_cons_of_pathAndQuery? {cs text : List Char} (h : pathAndQuery? cs = some text)
    (hslash : cs.head? = some '/') : ∃ rest, text = '/' :: rest := by
  obtain ⟨rest, hrest⟩ := List.head?_eq_some_iff.1 hslash
  rw [eq_takeWhile_of_pathAndQuery? h, hrest, List.takeWhile_cons_of_pos (by decide)]
  exact ⟨_, rfl⟩

/-- What a server is asked for by a target that begins with a slash is a path. -/
theorem Target.isPath_origin {s : String} {t : Target} (h : parse? s = some t)
    (hslash : s.toList.head? = some '/') :
    t.scheme = none ∧ t.path.toList.head? = some '/' ∧ IsPath t.origin := by
  obtain ⟨text, htext, rfl⟩ := exists_of_parse?_slash h hslash
  obtain ⟨rest, hrest⟩ := exists_cons_of_pathAndQuery? htext hslash
  have hne : String.ofList text ≠ "" := by
    intro hempty
    have hnil := congrArg String.toList hempty
    rw [String.toList_ofList, hrest] at hnil
    cases hnil
  have horigin : (⟨none, "", String.ofList text⟩ : Target).origin.toList = text := by
    rw [origin, if_neg hne, String.toList_ofList]
  have htake : text.takeWhile (· ≠ '?') = '/' :: rest.takeWhile (· ≠ '?') := by
    rw [hrest, List.takeWhile_cons_of_pos (by decide)]
  refine ⟨rfl, ?_, by rw [horigin, hrest]; rfl, ?_⟩
  · unfold path
    dsimp only
    rw [String.toList_ofList, htake, if_pos (List.cons_ne_nil _ _), String.toList_ofList]
    rfl
  · rw [horigin]
    exact visible_of_pathAndQuery? htext

variable {host pq : String}

/-- A path begins with a character that ends the authority. -/
theorem IsPath.isInAuthority_head? (h : IsPath pq) :
    ∀ c ∈ pq.toList.head?, isInAuthority c = false := by
  intro c hc
  rw [h.head] at hc
  cases hc
  rfl

/-- Nothing is dropped inside a path. -/
theorem IsPath.inside_eq (h : IsPath pq) : inside pq.toList = pq.toList := by
  refine List.filter_eq_self.2 fun c hc => ?_
  have hinner : isInner c = true → isOuter c = true := by
    intro hc
    simp only [isInner, Bool.or_eq_true, beq_iff_eq] at hc
    rcases hc with (rfl | rfl) | rfl <;> rfl
  rw [Bool.not_eq_true', Bool.eq_false_iff]
  exact fun hc' => absurd (hinner hc') (by rw [h.visible c hc]; exact Bool.false_ne_true)

/-- A text that ends with a path has nothing to drop at its end. -/
theorem IsPath.isOuter_getLast? (h : IsPath pq) (before : List Char) :
    ∀ c ∈ (before ++ pq.toList).getLast?, isOuter c = false := by
  intro c hc
  rw [List.getLast?_append] at hc
  cases hcs : pq.toList.getLast? with
  | none =>
    rw [List.getLast?_eq_none_iff] at hcs
    exact absurd h.head (by rw [hcs]; decide)
  | some d =>
    rw [hcs] at hc
    obtain rfl : d = c := Option.some.inj hc
    exact h.visible d (List.mem_of_getLast? hcs)

/-- Behind a host a path stays as it is. -/
theorem IsPath.inside_append (h : IsPath pq) :
    inside (host ++ pq).toList = inside host.toList ++ pq.toList := by
  rw [String.toList_append, inside, List.filter_append]
  exact congrArg _ h.inside_eq

/-! ## Where the path begins -/

/-- The authority that a host names: leading slashes are not read. -/
def namedAuthority (host : String) : List Char := (inside host.toList).dropWhile isAnySlash

/-- Whether a host names an authority, of which it is all but leading slashes. -/
def NamesAuthority (host : String) : Prop :=
  namedAuthority host ≠ [] ∧ (namedAuthority host).all isInAuthority = true

instance (host : String) : Decidable (NamesAuthority host) :=
  inferInstanceAs (Decidable (_ ∧ _))

/-- What is read as the path where a path stands behind a host. -/
def behindHost (host pq : String) : String :=
  String.ofList (behindAuthority ((inside (host ++ pq).toList).dropWhile isAnySlash))

/-- Behind a host stands the path of the request, if the host names an authority, and otherwise
something longer or shorter. -/
theorem behindHost_eq_iff (h : IsPath pq) : behindHost host pq = pq ↔ NamesAuthority host := by
  have hbehind : behindAuthority pq.toList = pq.toList :=
    behindAuthority_eq_self h.isInAuthority_head?
  rw [behindHost, ← String.toList_inj, String.toList_ofList, h.inside_append,
    List.dropWhile_append]
  by_cases hempty : namedAuthority host = []
  · rw [if_pos (by rw [namedAuthority] at hempty; rw [hempty]; rfl)]
    -- The first slash of the path is one of those before the authority.
    refine iff_of_false (fun heq => ?_) fun hnames => hnames.1 hempty
    obtain ⟨cs, hcs⟩ := List.head?_eq_some_iff.1 h.head
    have hlength := congrArg List.length heq
    rw [hcs, List.dropWhile_cons_of_pos rfl, List.length_cons] at hlength
    have hle : (behindAuthority (cs.dropWhile isAnySlash)).length ≤ cs.length :=
      (List.length_dropWhile_le _ _).trans (List.length_dropWhile_le _ _)
    omega
  · rw [if_neg (by rwa [List.isEmpty_iff])]
    show behindAuthority (namedAuthority host ++ pq.toList) = pq.toList ↔ _
    by_cases hall : (namedAuthority host).all isInAuthority = true
    · refine iff_of_true ?_ ⟨hempty, hall⟩
      rw [behindAuthority_append (List.all_eq_true.1 hall), hbehind]
    · refine iff_of_false (fun heq => ?_) fun hnames => hall hnames.2
      have hne : (namedAuthority host).dropWhile isInAuthority ≠ [] := by
        rwa [ne_eq, List.dropWhile_eq_nil_iff, ← List.all_eq_true]
      rw [behindAuthority, List.dropWhile_append, if_neg (by rwa [List.isEmpty_iff])] at heq
      exact hne (List.append_left_eq_self.1 heq)

/-! ## The URL -/

/-- A text that follows the authority is read as the path of a web page at the own machine. -/
theorem parse_localhost {rest : List Char} (hhead : ∀ c ∈ rest.head?, isInAuthority c = false)
    (hinside : inside rest = rest) (hlast : ∀ c ∈ rest.getLast?, isOuter c = false) :
    Url.parse ("http://localhost" ++ String.ofList rest) =
      .ok (ofParts "http" (some ⟨"", some (.name "localhost"), none⟩)
        (readPathStart true false rest).1 (readPathStart true false rest).2) := by
  have htext : ("localhost" ++ String.ofList rest).toList = "localhost".toList ++ rest := by
    rw [String.toList_append]
    exact congrArg _ String.toList_ofList
  have hend : ∀ c ∈ ("localhost" ++ String.ofList rest).toList.getLast?, isOuter c = false := by
    rw [htext]
    exact isOuter_getLast?_append (fun c hc => by cases hc; rfl) hlast
  have hwhole : "http://localhost" ++ String.ofList rest =
      "http" ++ "://" ++ ("localhost" ++ String.ofList rest) := by
    rw [← String.append_assoc]
    rfl
  have hread : (inside ("localhost" ++ String.ofList rest).toList).dropWhile isAnySlash =
      "localhost".toList ++ rest := by
    rw [htext, inside, List.filter_append]
    exact congrArg (List.dropWhile isAnySlash) (congrArg _ hinside)
  rw [hwhole, parse_web (by decide) hend, hread]
  exact readAuthority_of_isPlain (List.all_eq_true.1 (by decide)) hhead (by decide) (by decide)
    (by decide)

/-- A path is read at the own machine. -/
theorem IsPath.exists_parse (h : IsPath pq) :
    ∃ v, Url.parse ("http://localhost" ++ pq) = .ok v := by
  have hparse := parse_localhost h.isInAuthority_head? h.inside_eq (h.isOuter_getLast? [])
  rw [String.ofList_toList] at hparse
  exact ⟨_, hparse⟩

/-- What is read as the path behind a host begins where the authority ends, with nothing to drop
inside or at its end. -/
theorem behindHost_spec (h : IsPath pq) :
    (∀ c ∈ (behindHost host pq).toList.head?, isInAuthority c = false) ∧
      inside (behindHost host pq).toList = (behindHost host pq).toList ∧
      ∀ c ∈ (behindHost host pq).toList.getLast?, isOuter c = false := by
  unfold behindHost
  rw [String.toList_ofList]
  have hsuffix : behindAuthority ((inside (host ++ pq).toList).dropWhile isAnySlash) <:+
      inside (host ++ pq).toList :=
    (List.dropWhile_suffix _).trans (List.dropWhile_suffix _)
  refine ⟨head?_behindAuthority _, ?_, fun c hc => ?_⟩
  · refine List.filter_eq_self.2 fun c hc => ?_
    exact (List.mem_filter.1 (hsuffix.subset hc)).2
  · -- The last character is that of the path.
    obtain ⟨before, hsplit⟩ := hsuffix
    refine h.isOuter_getLast? (inside host.toList) c ?_
    rw [← h.inside_append, ← hsplit, List.getLast?_append, hc]
    rfl

namespace Request

variable {r : Request}

/-- The scheme that a request names. -/
def schemeText (r : Request) : String := (r.fields.text? schemeField).getD "http"

/-- The host that a request names. -/
def hostText (r : Request) : String := (r.fields.text? "host").getD "localhost"

/-- The URL of a request for a path is read from the authority that the request names on. -/
theorem url_eq_readAuthority (hscheme : r.schemeText ∈ webSchemes) (hpath : IsPath r.target.origin)
    (hnone : r.target.scheme = none) :
    r.url = readAuthority r.schemeText
      ((inside (r.hostText ++ r.target.origin).toList).dropWhile isAnySlash) := by
  have hend : ∀ c ∈ (r.hostText ++ r.target.origin).toList.getLast?, isOuter c = false := by
    rw [String.toList_append]
    exact hpath.isOuter_getLast? _
  rw [url, hnone, Option.isSome_none, if_neg Bool.false_ne_true]
  dsimp only
  rw [← schemeText, ← hostText, String.append_assoc, parse_web hscheme hend]

/-- The URL of a request for a path has the path and query that are read behind the host. -/
theorem exists_parse_behindHost {u : Url} (hscheme : r.schemeText ∈ webSchemes)
    (hpath : IsPath r.target.origin) (hnone : r.target.scheme = none) (hurl : r.url = .ok u) :
    ∃ w, Url.parse ("http://localhost" ++ behindHost r.hostText r.target.origin) = .ok w ∧
      u.path = w.path ∧ u.query = w.query := by
  obtain ⟨hhead, hinside, hlast⟩ := @behindHost_spec r.hostText _ hpath
  have hw := parse_localhost hhead hinside hlast
  have hspecial : ∀ scheme ∈ webSchemes, isSpecial scheme = true := by decide
  rw [url_eq_readAuthority hscheme hpath hnone] at hurl
  obtain ⟨a, rfl⟩ := eq_ofParts_of_readAuthority (hspecial _ hscheme) hurl
  rw [String.ofList_toList] at hw
  refine ⟨_, hw, ?_, ?_⟩
  · rw [behindHost, String.toList_ofList]
    rfl
  · rw [behindHost, String.toList_ofList]
    unfold ofParts
    rw [hspecial _ hscheme]
    rfl

/-- A request for a path, whose scheme is that of a web page, has the path and query of a URL at the
own machine in which the path is what is read behind the host. This is the path that the request is
for, and that a backend is asked for, exactly if the host names an authority. -/
theorem path_of_url_iff {s : String} {u : Url} (htarget : Target.parse? s = some r.target)
    (hslash : s.toList.head? = some '/') (hscheme : r.schemeText ∈ webSchemes)
    (hurl : r.url = .ok u) :
    ∃ v w, Url.parse ("http://localhost" ++ r.target.origin) = .ok v ∧
      Url.parse ("http://localhost" ++ behindHost r.hostText r.target.origin) = .ok w ∧
      u.path = w.path ∧ u.query = w.query ∧
      (behindHost r.hostText r.target.origin = r.target.origin ↔ NamesAuthority r.hostText) ∧
      (NamesAuthority r.hostText → u.path = v.path ∧ u.query = v.query) ∧
      ∀ b q, SocketAddress.isValid b.address = true → Gateway.forwarded? b r = some q →
        q.target.origin = r.target.origin := by
  obtain ⟨hnone, hhead, hpath⟩ := Target.isPath_origin htarget hslash
  have hiff := @behindHost_eq_iff r.hostText _ hpath
  obtain ⟨w, hw, hwpath, hwquery⟩ := exists_parse_behindHost hscheme hpath hnone hurl
  obtain ⟨v, hv⟩ := hpath.exists_parse
  refine ⟨v, w, hv, hw, hwpath, hwquery, hiff, fun hnames => ?_, fun b q hvalid hq => ?_⟩
  · rw [hiff.2 hnames] at hw
    obtain rfl : v = w := Except.ok.inj (hv.symm.trans hw)
    exact ⟨hwpath, hwquery⟩
  · obtain ⟨t, ht, -⟩ := Option.bind_eq_some_iff.1 hq
    exact (Gateway.forwards_of_forwarded? htarget ht hq).origin_of_isValid hvalid hhead

/-- A request at an address, with a port, for a path and query. -/
theorem path_of_url_iff_address :
    let r : Request :=
      ⟨"GET", ⟨none, "", "/x?y"⟩, [⟨"host", Utf8.encode "[::1]:8080"⟩], []⟩
    let u : Url := ⟨"http", some ⟨"", some (.ipv6 [0, 0, 0, 0, 0, 0, 0, 1]), some 8080⟩, "/x",
      some "y", none⟩
    Target.parse? "/x?y" = some r.target ∧ "/x?y".toList.head? = some '/' ∧
      r.schemeText ∈ webSchemes ∧ r.url = .ok u ∧ NamesAuthority r.hostText ∧
      ∃ v, Url.parse ("http://localhost" ++ r.target.origin) = .ok v ∧ u.path = v.path ∧
        u.query = v.query := by
  intro r u
  have htarget : Target.parse? "/x?y" = some r.target := by decide +kernel
  have hscheme : r.schemeText ∈ webSchemes := by decide +kernel
  have hurl : r.url = .ok u := eq_ok_of_toOption (by decide +kernel)
  have hnames : NamesAuthority r.hostText := by decide +kernel
  obtain ⟨v, -, hv, -, -, -, -, hsame, -⟩ := path_of_url_iff htarget rfl hscheme hurl
  obtain ⟨hpath, hquery⟩ := hsame hnames
  exact ⟨htarget, rfl, hscheme, hurl, hnames, v, hv, hpath, hquery⟩

/-- A slash in the host is where the path of the URL begins. -/
theorem path_behind_slash :
    let r : Request := ⟨"GET", ⟨none, "", "/x"⟩, [⟨"host", Utf8.encode "[::1]/b"⟩], []⟩
    let u : Url := ⟨"http", some ⟨"", some (.ipv6 [0, 0, 0, 0, 0, 0, 0, 1]), none⟩, "/b/x", none,
      none⟩
    let v : Url := ⟨"http", some ⟨"", some (.name "localhost"), none⟩, "/x", none, none⟩
    Target.parse? "/x" = some r.target ∧ r.schemeText ∈ webSchemes ∧ r.url = .ok u ∧
      Url.parse ("http://localhost" ++ r.target.origin) = .ok v ∧ u.path ≠ v.path := by
  intro r u v
  have hread := @parse_localhost ['/', 'x'] (fun c hc => by cases hc; rfl) rfl
    fun c hc => by cases hc; rfl
  refine ⟨by decide +kernel, by decide +kernel, eq_ok_of_toOption (by decide +kernel), ?_,
    by decide⟩
  exact hread.trans (eq_ok_of_toOption (by decide +kernel))

end Request

end BrowserShell.Http
