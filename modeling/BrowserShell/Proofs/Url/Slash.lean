import BrowserShell.Proofs.Url.Authority
import BrowserShell.Proofs.Url.Segments

/-!
# Reading up to a slash

What is read of a URL up to a slash does not depend on what follows the slash. Of the readers of
name and password, host and port each stops at a slash (`Stops`): it takes the same, or fails, and
leaves the slash and what follows. So the authority before a slash is the same whatever follows, and
only the path is read past it (`readAuthority_slash`).
-/

namespace BrowserShell.Url

/-! ## Authority -/

/-- Whether a reader stops at the slash behind a text: whatever follows the slash, it fails, or it
gives the same and leaves the slash and what follows. -/
def Stops {α : Type} (f : List Char → Except UrlError (α × List Char)) (before : List Char) :
    Prop :=
  (∃ e, ∀ text, f (before ++ '/' :: text) = .error e) ∨
    ∃ a rest, ∀ text, f (before ++ '/' :: text) = .ok (a, rest ++ '/' :: text)

/-- A slash ends the authority. -/
theorem endsAuthority_slash (special : Bool) : endsAuthority special '/' = true := rfl

/-- The authority before a slash is that of the text before it. -/
theorem takeWhile_slash (special : Bool) (before text : List Char) :
    (before ++ '/' :: text).takeWhile (fun c => !endsAuthority special c) =
      before.takeWhile fun c => !endsAuthority special c := by
  induction before with
  | nil => rfl
  | cons c before ih =>
    rw [List.cons_append, List.takeWhile_cons, List.takeWhile_cons, ih]

/-- Dropping no more than what stands before a slash. -/
theorem drop_before {before : List Char} {n : Nat} (h : n ≤ before.length) (text : List Char) :
    (before ++ '/' :: text).drop n = before.drop n ++ '/' :: text :=
  List.drop_append_of_le_length h

/-- Name and password end before a slash. -/
theorem readUserInfo_slash (special : Bool) (before : List Char) :
    Stops (readUserInfo special) before := by
  unfold Stops readUserInfo
  simp only [takeWhile_slash]
  have hlength : ∀ {info after},
      Text.cutLast? '@' (before.takeWhile fun c => !endsAuthority special c) = some (info, after) →
        info.length + 1 ≤ before.length := by
    intro info after hcut
    have htake :=
      (List.takeWhile_prefix (fun c => !endsAuthority special c) (l := before)).length_le
    rw [Text.eq_of_cutLast? hcut, List.length_append, List.length_cons] at htake
    omega
  split
  · exact .inr ⟨[], before, fun text => rfl⟩
  · rename_i after hcut
    have hdrop := drop_before (hlength hcut)
    simp only [List.length_nil, Nat.zero_add] at hdrop
    have hhead : ∀ text, (before.drop 1 ++ '/' :: text).head? = (before.drop 1 ++ ['/']).head? := by
      intro text
      cases before.drop 1 <;> rfl
    simp only [hdrop, hhead]
    split
    · exact .inl ⟨_, fun text => rfl⟩
    · exact .inr ⟨_, _, fun text => rfl⟩
  · rename_i info after _ hcut
    simp only [drop_before (hlength hcut)]
    exact .inr ⟨_, _, fun text => rfl⟩

/-- A host ends before a slash. -/
theorem takeHost_slash (special inBrackets : Bool) (before text : List Char) :
    takeHost special inBrackets (before ++ '/' :: text) = takeHost special inBrackets before := by
  induction before generalizing inBrackets with
  | nil =>
    have hslash : (('/' == ':' && !inBrackets) || endsAuthority special '/') = true := by
      rw [endsAuthority_slash, Bool.or_true]
    exact if_pos hslash
  | cons c before ih => rw [List.cons_append, takeHost, takeHost, ih]

/-- A host is no longer than the text. -/
theorem length_takeHost_le (special inBrackets : Bool) (cs : List Char) :
    (takeHost special inBrackets cs).length ≤ cs.length := by
  induction cs generalizing inBrackets with
  | nil => exact Nat.le_refl _
  | cons c cs ih =>
    rw [takeHost]
    split
    · exact Nat.zero_le _
    · exact Nat.succ_le_succ (ih _)

/-- A port ends before a slash. -/
theorem readPort_slash (port : Option Nat) (before : List Char) :
    Stops (readPort port) before := by
  unfold Stops
  induction before generalizing port with
  | nil => exact .inr ⟨port, [], fun text => rfl⟩
  | cons c before ih =>
    simp only [List.cons_append, readPort]
    split
    · split
      · exact .inl ⟨_, fun text => rfl⟩
      · exact ih _
    · split
      · exact .inr ⟨port, c :: before, fun text => rfl⟩
      · exact .inl ⟨_, fun text => rfl⟩

/-- Host and port end before a slash. -/
theorem readHost_slash (scheme : String) (before : List Char) :
    (∃ e, ∀ text, readHost scheme (before ++ '/' :: text) = .error e) ∨
      ∃ host port rest, ∀ text,
        readHost scheme (before ++ '/' :: text) = .ok (host, port, rest ++ '/' :: text) := by
  unfold readHost
  simp only [takeHost_slash]
  generalize htake : takeHost (isSpecial scheme) false before = host
  have hle : host.length ≤ before.length := htake ▸ length_takeHost_le _ _ _
  simp only [drop_before hle]
  split
  · exact .inl ⟨_, fun text => rfl⟩
  · cases hhost : parseHost scheme host with
    | error e => exact .inl ⟨e, fun text => rfl⟩
    | ok a =>
      simp only [bind, Except.bind]
      cases hrest : before.drop host.length with
      | nil => exact .inr ⟨_, _, [], fun text => rfl⟩
      | cons c rest =>
        by_cases hc : c = ':'
        · subst hc
          simp only [List.cons_append]
          split
          · exact .inl ⟨_, fun text => rfl⟩
          · rcases readPort_slash none rest with ⟨e, he⟩ | ⟨port, left, hport⟩
            · exact .inl ⟨e, fun text => by rw [he]⟩
            · refine .inr ⟨some a, port.filter fun p => defaultPort? scheme != some p, left, ?_⟩
              intro text
              rw [hport]
              rfl
        · refine .inr ⟨if a == .name "" then none else some a, none, c :: rest, fun text => ?_⟩
          simp only [List.cons_append]
          split
          · rename_i heq
            exact absurd (List.cons.inj heq).1 hc
          · rfl

/-- Behind the authority of a URL that is not special, a path begins with its first character or
with a slash put before that. -/
theorem readPathStart_of_ne (isFile : Bool) {c : Char} (hc : c ≠ '?' ∧ c ≠ '#') (cs : List Char) :
    readPathStart false isFile (c :: cs) =
      Path.read false isFile (if c = '/' then [] else ['/']) [] (c :: cs) := by
  unfold readPathStart
  rw [if_neg Bool.false_ne_true]
  split
  · rename_i heq
    cases heq
  · rename_i heq
    exact absurd (List.cons.inj heq).1 hc.1
  · rename_i heq
    exact absurd (List.cons.inj heq).1 hc.2
  · rename_i heq
    rw [if_pos (List.cons.inj heq).1]
  · rename_i hne
    rw [if_neg fun heq => hne cs (by rw [heq])]

/-- The path behind an authority is read past a slash. -/
theorem readPathStart_slash (special isFile : Bool) (before : List Char) :
    Path.Reads special isFile fun text => readPathStart special isFile (before ++ '/' :: text) := by
  cases special with
  | true =>
    unfold readPathStart
    cases before with
    | nil => exact .goesOn ['/'] rfl fun text => rfl
    | cons c before =>
      simp only [List.cons_append, if_true]
      split
      · exact Path.read_slash true isFile ['/'] [] before
      · exact Path.read_slash true isFile ['/'] [] (c :: before)
  | false =>
    cases before with
    | nil => exact Path.read_slash false isFile [] [] []
    | cons c before =>
      by_cases hquery : c = '?'
      · subst hquery
        exact .ended [] '?' before (.inl rfl) fun text => rfl
      · by_cases hhash : c = '#'
        · subst hhash
          exact .ended [] '#' before (.inr rfl) fun text => rfl
        · simp only [List.cons_append, readPathStart_of_ne isFile ⟨hquery, hhash⟩]
          exact Path.read_slash false isFile _ [] (c :: before)

/-- A URL is read from its authority on past a slash: the authority ends before it. -/
theorem readAuthority_slash (scheme : String) (before : List Char) :
    (∃ e, ∀ text, readAuthority scheme (before ++ '/' :: text) = .error e) ∨
      ∃ a rest, ∀ text, readAuthority scheme (before ++ '/' :: text) =
        .ok (ofParts scheme (some a)
          (readPathStart (isSpecial scheme) false (rest ++ '/' :: text)).1
          (readPathStart (isSpecial scheme) false (rest ++ '/' :: text)).2) := by
  unfold readAuthority
  dsimp only
  rcases readUserInfo_slash (isSpecial scheme) before with ⟨e, he⟩ | ⟨info, rest, hinfo⟩
  · exact .inl ⟨e, fun text => by rw [he]; rfl⟩
  · simp only [hinfo, bind, Except.bind]
    rcases readHost_slash scheme rest with ⟨e, he⟩ | ⟨host, port, rest, hhost⟩
    · exact .inl ⟨e, fun text => by rw [he]⟩
    · simp only [hhost]
      split
      · exact .inl ⟨_, fun text => rfl⟩
      · exact .inr ⟨_, rest, fun text => rfl⟩

/-! ## The whole -/

/-- A scheme ends before a slash. -/
theorem readScheme_slash (read before text : List Char) :
    readScheme read (before ++ '/' :: text) =
      (readScheme read before).map fun (scheme, rest) => (scheme, rest ++ '/' :: text) := by
  induction before generalizing read with
  | nil =>
    have hslash : (Char.isAlpha '/' ||
        read != [] && (Char.isDigit '/' || '/' == '+' || '/' == '-' || '/' == '.')) = false := by
      rw [Bool.or_eq_false_iff, Bool.and_eq_false_iff]
      exact ⟨rfl, .inr rfl⟩
    have hnone : readScheme read ('/' :: text) = none := by
      unfold readScheme
      rw [if_neg (by decide), hslash]
      rfl
    rw [List.nil_append, hnone]
    rfl
  | cons c before ih =>
    rw [List.cons_append, readScheme, readScheme]
    split
    · split <;> rfl
    · split
      · exact ih _
      · rfl

/-- What is dropped at the beginning of a text stands before a character that is not dropped. -/
theorem dropWhile_append_cons {p : Char → Bool} {c : Char} (hc : p c = false)
    (before after : List Char) :
    (before ++ c :: after).dropWhile p = before.dropWhile p ++ c :: after := by
  have hstop : (c :: after).dropWhile p = c :: after :=
    List.dropWhile_cons_of_neg (by rw [hc]; exact Bool.false_ne_true)
  rw [List.dropWhile_append, hstop]
  split
  · rename_i h
    rw [List.isEmpty_iff.1 h]
    rfl
  · rfl

/-- What is dropped around and inside a text with a slash. -/
theorem cleaned_slash (before text : List Char) :
    cleaned (before ++ '/' :: text) = inside (before.dropWhile isOuter) ++
      '/' :: inside (text.rdropWhile isOuter) := by
  have hreverse : (before.dropWhile isOuter ++ '/' :: text).reverse =
      text.reverse ++ '/' :: (before.dropWhile isOuter).reverse := by simp
  have hslash : isInner '/' = false := rfl
  rw [cleaned, dropWhile_append_cons (by decide), hreverse, dropWhile_append_cons (by decide)]
  simp [inside, List.rdropWhile, hslash]

/-- A character that paths keep is dropped nowhere. -/
theorem isOuter_of_isKept {c : Char} (h : isKept Percent.path c = true) :
    isOuter c = false ∧ isInner c = false := by
  have hall : ∀ n ≤ 32, isKept Percent.path (Char.ofNat n) = false := by decide
  have houter : isOuter c = false := by
    rw [← Bool.not_eq_true, isOuter, decide_eq_true_eq]
    intro hle
    have hnot := hall c.toNat hle
    rw [Char.ofNat_toNat, h] at hnot
    cases hnot
  refine ⟨houter, ?_⟩
  rw [← Bool.not_eq_true]
  intro hinner
  simp only [isInner, Bool.or_eq_true, beq_iff_eq] at hinner
  rcases hinner with (rfl | rfl) | rfl <;> cases houter

/-- Nothing is dropped from a text of kept characters. -/
theorem inside_of_isKept {q : List Char} (hq : ∀ c ∈ q, isKept Percent.path c = true) :
    inside (q.rdropWhile isOuter) = q := by
  have hend : q.rdropWhile isOuter = q := by
    refine List.rdropWhile_eq_self_iff.2 fun hne => ?_
    rw [(isOuter_of_isKept (hq _ (List.getLast_mem hne))).1]
    exact Bool.false_ne_true
  rw [hend, inside, List.filter_eq_self]
  intro c hc
  rw [(isOuter_of_isKept (hq c hc)).2]
  rfl

/-- The slashes that are dropped before an authority, where they are not all that stands before a
slash. -/
theorem dropWhile_isAnySlash {before : List Char} (h : before.dropWhile isAnySlash ≠ [])
    (text : List Char) : (before ++ '/' :: text).dropWhile isAnySlash =
      before.dropWhile isAnySlash ++ '/' :: text := by
  rw [List.dropWhile_append, if_neg (by simpa using h)]

/-- A URL from its scheme and what follows the colon. -/
def readBehindScheme (scheme : String) (cs : List Char) : Except UrlError Url :=
  if scheme = "file" then readFile cs
  else if isSpecial scheme then readAuthority scheme (cs.dropWhile isAnySlash)
  else readOpaque scheme cs

/-- A URL is read behind its scheme, which ends before a slash, or there is none. -/
theorem parseChars_slash (before : List Char) :
    (∀ text, parseChars (before ++ '/' :: text) = .error .noScheme) ∨
      ∃ scheme rest, readScheme [] (inside (before.dropWhile isOuter)) = some (scheme, rest) ∧
        ∀ text, parseChars (before ++ '/' :: text) = readBehindScheme (String.ofList scheme)
          (rest ++ '/' :: inside (text.rdropWhile isOuter)) := by
  have hread : ∀ text, readScheme [] (cleaned (before ++ '/' :: text)) =
      (readScheme [] (inside (before.dropWhile isOuter))).map fun (scheme, rest) =>
        (scheme, rest ++ '/' :: inside (text.rdropWhile isOuter)) := by
    intro text
    rw [cleaned_slash, readScheme_slash]
  cases hscheme : readScheme [] (inside (before.dropWhile isOuter)) with
  | none =>
    refine .inl fun text => ?_
    rw [parseChars, hread text, hscheme]
    rfl
  | some parts =>
    refine .inr ⟨parts.1, parts.2, rfl, fun text => ?_⟩
    rw [parseChars, hread text, hscheme]
    rfl

/-- A URL has the scheme that it is read with. -/
theorem scheme_of_readAuthority {scheme : String} {cs : List Char} {u : Url}
    (h : readAuthority scheme cs = .ok u) : u.scheme = scheme := by
  unfold readAuthority at h
  obtain ⟨⟨info, rest⟩, -, h⟩ := exists_of_bind_eq_ok h
  obtain ⟨⟨host, port, rest⟩, -, h⟩ := exists_of_bind_eq_ok h
  dsimp only at h
  split at h
  · cases h
  · cases h
    rfl

/-- What is read as a file URL is one. -/
theorem scheme_of_readFile {cs : List Char} {u : Url} (h : readFile cs = .ok u) :
    u.scheme = "file" := by
  have hfile : ∀ (a : Authority) (read : List Char × List Char),
      (.ok (ofParts "file" (some a) (filePath read.1) read.2) : Except UrlError Url) = .ok u →
        u.scheme = "file" := by
    intro a read heq
    cases heq
    rfl
  unfold readFile at h
  dsimp only at h
  split at h
  · split at h
    · split at h
      · exact hfile _ _ h
      · obtain ⟨host, -, h⟩ := exists_of_bind_eq_ok h
        split at h
        · exact hfile _ _ h
        · exact hfile _ _ h
    · split at h
      · exact hfile _ _ h
      · exact hfile _ _ h
  · split at h
    · exact hfile _ _ h
    · exact hfile _ _ h
  · exact hfile _ _ h

/-- A URL has the scheme that it is read behind. -/
theorem scheme_of_readBehindScheme {scheme : String} {cs : List Char} {u : Url}
    (h : readBehindScheme scheme cs = .ok u) : u.scheme = scheme := by
  unfold readBehindScheme at h
  split at h
  · rename_i hfile
    rw [hfile]
    exact scheme_of_readFile h
  · split at h
    · exact scheme_of_readAuthority h
    · unfold readOpaque at h
      split at h
      · exact scheme_of_readAuthority h
      · cases h
        rfl
      · cases h
        rfl

/-- A special URL has a host. -/
theorem readAuthority_nil {scheme : String} (hs : isSpecial scheme = true) :
    readAuthority scheme [] = .error .emptyHost := by
  have hhost : readHost scheme [] = .error .emptyHost := by
    unfold readHost
    rw [hs]
    rfl
  unfold readAuthority
  rw [hs]
  show (readHost scheme []).bind _ = _
  rw [hhost]
  rfl

/-- A special URL, other than a file URL, that is read up to a slash has its authority before it. -/
theorem exists_of_parseChars_slash {before : List Char} {u : Url}
    (h : parseChars (before ++ ['/']) = .ok u) (hs : isSpecial u.scheme = true)
    (hfile : u.scheme ≠ "file") :
    ∃ a rest, ∀ text, parseChars (before ++ '/' :: text) = .ok (ofParts u.scheme (some a)
      (readPathStart true false (rest ++ '/' :: inside (text.rdropWhile isOuter))).1
      (readPathStart true false (rest ++ '/' :: inside (text.rdropWhile isOuter))).2) := by
  rcases parseChars_slash before with herror | ⟨scheme, rest, -, hread⟩
  · rw [herror []] at h
    cases h
  · have hscheme : u.scheme = String.ofList scheme :=
      scheme_of_readBehindScheme ((hread []).symm.trans h)
    rw [← hscheme] at hread
    simp only [readBehindScheme, if_neg hfile, if_pos hs] at hread
    by_cases hall : rest.dropWhile isAnySlash = []
    · -- Slashes alone have no host behind them.
      have hslash : ('/' :: inside ([] : List Char)).dropWhile isAnySlash = [] := rfl
      have hnil : parseChars (before ++ ['/']) = readAuthority u.scheme [] := by
        rw [hread [], List.dropWhile_append, hall]
        exact congrArg _ hslash
      rw [hnil, readAuthority_nil hs] at h
      cases h
    · simp only [dropWhile_isAnySlash hall] at hread
      rcases readAuthority_slash u.scheme (rest.dropWhile isAnySlash) with ⟨e, he⟩ | ⟨a, left, hok⟩
      · rw [hread [], he] at h
        cases h
      · refine ⟨a, left, fun text => ?_⟩
        rw [hread text, hok, hs]

/-- What ends a path is seen in the query or the fragment. -/
theorem readEnd_ne {special : Bool} {c : Char} (hc : c = '?' ∨ c = '#') (rest : List Char) :
    readEnd special (c :: rest) ≠ (none, none) := by
  intro h
  rcases hc with rfl | rfl
  · simp only [readEnd] at h
    split at h <;> cases h
  · cases h

/-- Where a special URL, other than a file URL, is read up to a slash and has neither query nor
fragment, its path ends with the slash and is read on behind it. -/
theorem exists_path_of_parseChars_slash {before : List Char} {u : Url}
    (h : parseChars (before ++ ['/']) = .ok u) (hs : isSpecial u.scheme = true)
    (hfile : u.scheme ≠ "file") (hquery : u.query = none) (hfragment : u.fragment = none) :
    ∃ a path, u = ofParts u.scheme (some a) path [] ∧
      (∀ c ∈ path, isKept Percent.path c = true) ∧
      ∀ text, parseChars (before ++ '/' :: text) = .ok (ofParts u.scheme (some a)
        (Path.read true false path [] (inside (text.rdropWhile isOuter))).1
        (Path.read true false path [] (inside (text.rdropWhile isOuter))).2) := by
  obtain ⟨a, rest, hread⟩ := exists_of_parseChars_slash h hs hfile
  have hu : u = ofParts u.scheme (some a) (readPathStart true false (rest ++ ['/'])).1
      (readPathStart true false (rest ++ ['/'])).2 := Except.ok.inj (h.symm.trans (hread []))
  cases readPathStart_slash true false rest with
  | ended p c left hc hended =>
    have hend : readEnd (isSpecial u.scheme) (c :: left ++ ['/']) = (none, none) := by
      rw [hended []] at hu
      rw [hu] at hquery hfragment
      exact Prod.ext hquery hfragment
    exact absurd hend (readEnd_ne hc _)
  | goesOn path hp hgoes =>
    have hnil : readPathStart true false (rest ++ ['/']) = (path, []) :=
      (hgoes []).trans (congrArg (·, []) (Path.add_nil false path))
    refine ⟨a, path, ?_, fun c hc => ?_, fun text => ?_⟩
    · rwa [hnil] at hu
    · have hread' : c ∈ (readPathStart true false (rest ++ ['/'])).1 := by rwa [hnil]
      exact isKept_of_mem_readPathStart hread'
    · rw [hread text, hgoes]

/-- A URL of the own machine, however its scheme is written. -/
theorem parse_localhost_https {s : String} (rest : List Char)
    (hscheme : readScheme [] (cleaned s.toList) =
      some ("https".toList, '/' :: '/' :: ("localhost".toList ++ '/' :: rest))) :
    parse s = .ok (ofParts "https" (some ⟨"", some (.name "localhost"), none⟩)
      (readPathStart true false ('/' :: rest)).1 (readPathStart true false ('/' :: rest)).2) := by
  have hslashes : ('/' :: '/' :: ("localhost".toList ++ '/' :: rest)).dropWhile isAnySlash =
      "localhost".toList ++ '/' :: rest := rfl
  have hrest : ∀ c ∈ ('/' :: rest).head?, isInAuthority c = false :=
    fun c hc => Option.some.inj hc ▸ rfl
  rw [parse, parseChars, hscheme]
  show readAuthority "https" (List.dropWhile isAnySlash _) = _
  rw [hslashes]
  exact readAuthority_of_isPlain (List.all_eq_true.1 (by decide)) hrest (by decide) (by decide)
    (by decide)

end BrowserShell.Url
