import BrowserShell.Proofs.Url.Slash

/-!
# Names behind a URL

A row of names of simple characters that is put behind a slash at the end of a URL is found at the
end of what is read: the text of the URL grows by the row (`grows_parseChars`). It becomes a part of
the fragment, the query or the path, whichever comes last, and each of them keeps simple characters
as they are. Only behind the slashes of a special URL that has no host yet the first name is the
host (`IsBare`), which is written anew; in other URLs a host is kept as it is, too.
-/

namespace BrowserShell.Url

/-! ## The text of a URL -/

/-- Whether a character is an ASCII letter or digit, a dot, a hyphen, an underscore or a slash: it
stands in every part of a URL as it is. -/
def isSimple (c : Char) : Bool := c.isAlphanum || ['.', '-', '_', '/'].contains c

theorem lt_of_isSimple {c : Char} (h : isSimple c = true) : c.toNat < 128 := by
  rcases Bool.or_eq_true_iff.1 h with h | h
  · have hranges : (decide ('A'.val ≤ c.val ∧ c.val ≤ 'Z'.val) ||
        decide ('a'.val ≤ c.val) && decide (c.val ≤ 'z'.val) ||
        decide ('0'.val ≤ c.val) && decide (c.val ≤ '9'.val)) = true := h
    simp only [Bool.or_eq_true, Bool.and_eq_true, decide_eq_true_eq,
      UInt32.le_iff_toNat_le] at hranges
    have hval : c.val.toNat = c.toNat := rfl
    have hupper : 'Z'.val.toNat = 90 := rfl
    have hlower : 'z'.val.toNat = 122 := rfl
    have hdigit : '9'.val.toNat = 57 := rfl
    omega
  · have hall : ∀ d ∈ ['.', '-', '_', '/'], d.toNat < 128 := by simp
    exact hall c (List.contains_iff_mem.1 h)

theorem ne_of_isSimple {c d : Char} (h : isSimple c = true) (hd : isSimple d = false) : c ≠ d := by
  rintro rfl
  rw [h] at hd
  cases hd

/-- Simple characters are kept in every part of a URL. -/
theorem isKept_of_isSimple {c : Char} (h : isSimple c = true) :
    ∀ isEncoded ∈ [Percent.control, Percent.fragment, Percent.path, Percent.query,
      Percent.specialQuery], isKept isEncoded c = true := by
  have hall : ∀ n < 128, isSimple (Char.ofNat n) = true →
      ∀ isEncoded ∈ [Percent.control, Percent.fragment, Percent.path, Percent.query,
        Percent.specialQuery], isKept isEncoded (Char.ofNat n) = true := by decide
  have hc := hall c.toNat (lt_of_isSimple h)
  rw [Char.ofNat_toNat] at hc
  exact hc h

/-- What stands between scheme and path. -/
def beforeText (authority : Option Authority) (path : List Char) : String :=
  match authority with
  | some a => Authority.render a
  | none => if path.take 2 = ['/', '/'] then "/." else ""

/-- Query and fragment as written. -/
def endText (special : Bool) (rest : List Char) : String :=
  ((readEnd special rest).1.map ("?" ++ ·)).getD "" ++
    ((readEnd special rest).2.map ("#" ++ ·)).getD ""

/-- The text of a URL from its parts. -/
theorem render_ofParts (scheme : String) (authority : Option Authority) (path rest : List Char) :
    (ofParts scheme authority path rest).render =
      scheme ++ ":" ++ beforeText authority path ++ String.ofList path ++
        endText (isSpecial scheme) rest := by
  unfold render ofParts beforePath beforeText endText
  cases authority <;> simp [String.append_assoc]

/-- More characters behind a path do not make it begin with two slashes. -/
theorem beforeText_append (authority : Option Authority) (path : List Char) {q : List Char}
    (hq : q.head? ≠ some '/') : beforeText authority (path ++ q) = beforeText authority path := by
  cases authority with
  | some a => rfl
  | none =>
    have htwo : (path ++ q).take 2 = ['/', '/'] ↔ path.take 2 = ['/', '/'] := by
      match path, q with
      | [], [] => rfl
      | [], c :: q =>
        have hc : c ≠ '/' := fun h => hq (by rw [h]; rfl)
        simp [hc]
      | [d], [] => rfl
      | [d], c :: q =>
        have hc : c ≠ '/' := fun h => hq (by rw [h]; rfl)
        simp [hc]
      | d :: e :: path, q => rfl
    simp only [beforeText, htwo]

/-- The text of a URL grows with its path. -/
theorem render_append_path (scheme : String) (authority : Option Authority) (path : List Char)
    {q : List Char} (hq : q.head? ≠ some '/') :
    (ofParts scheme authority (path ++ q) []).render =
      (ofParts scheme authority path []).render ++ String.ofList q := by
  have hend : endText (isSpecial scheme) [] = "" := rfl
  rw [render_ofParts, render_ofParts, beforeText_append authority path hq, hend]
  simp [String.append_assoc]

/-! ## Rows of names -/

/-- Whether a text is a row of names of simple characters. -/
structure SimpleRow (q : List Char) : Prop where
  /-- The characters are simple. -/
  simple : ∀ c ∈ q, isSimple c = true
  /-- The segments are names. -/
  plain : ∀ p ∈ Text.pieces '/' q, BrowserShell.Path.IsPlain p

namespace SimpleRow

variable {q : List Char} (hq : SimpleRow q)

include hq

/-- A row of names is a row of segments that paths take as they are. -/
theorem row (isFile : Bool) : Path.Row isFile q := by
  intro p hp
  have hsimple : ∀ c ∈ p, isSimple c = true :=
    fun c hc => hq.simple c (Text.mem_of_mem_pieces hp hc)
  refine ⟨hq.plain p hp, fun c hc => isKept_of_isSimple (hsimple c hc) _ (by simp), fun c hc => ?_,
    fun _ => ?_⟩
  · have hslash : c ≠ '/' := fun h => Text.not_mem_of_mem_pieces hp (h ▸ hc)
    exact ⟨ne_of_isSimple (hsimple c hc) (by decide), ne_of_isSimple (hsimple c hc) (by decide),
      hslash⟩
  · rw [← Bool.not_eq_true]
    intro hdrive
    unfold Path.isDrive at hdrive
    split at hdrive
    · rename_i c d
      rw [Bool.and_eq_true, Bool.or_eq_true, beq_iff_eq, beq_iff_eq] at hdrive
      have hd := hsimple d (by simp)
      rcases hdrive.2 with hcolon | hbar
      · exact ne_of_isSimple hd (by decide) hcolon
      · exact ne_of_isSimple hd (by decide) hbar
    · cases hdrive

/-- A row of names does not begin with a slash. -/
theorem head?_ne : q.head? ≠ some '/' := by
  intro hhead
  obtain ⟨cs, rfl⟩ := List.head?_eq_some_iff.1 hhead
  have hempty : BrowserShell.Path.IsPlain [] := hq.plain [] (by simp)
  exact hempty.1 rfl

/-- Simple characters behind a query or fragment are part of it. -/
theorem endText_append (special : Bool) {c : Char} (hc : c = '?' ∨ c = '#') (rest : List Char) :
    endText special (c :: rest ++ q) = endText special (c :: rest) ++ String.ofList q := by
  have hencode : ∀ (isEncoded : Char → Bool) (cs : List Char),
      (∀ c ∈ q, isKept isEncoded c = true) →
        Percent.encode isEncoded (cs ++ q) = Percent.encode isEncoded cs ++ q := by
    intro isEncoded cs h
    rw [Percent.encode, List.flatMap_append]
    exact congrArg _ (encode_of_isKept h)
  have hfragment := fun cs => hencode Percent.fragment cs fun c hc =>
    isKept_of_isSimple (hq.simple c hc) _ (by simp)
  rcases hc with rfl | rfl
  · have hhash : '#' ∉ q := fun h => ne_of_isSimple (hq.simple _ h) (by decide) rfl
    have hset := fun cs => hencode (if special then Percent.specialQuery else Percent.query) cs
      fun c hc => by
        have hkept := isKept_of_isSimple (hq.simple c hc)
        split
        · exact hkept _ (by simp)
        · exact hkept _ (by simp)
    cases hcut : Text.cut? '#' rest with
    | some parts =>
      obtain ⟨a, b⟩ := parts
      obtain ⟨rfl, hnot⟩ := Text.cut?_eq_some_iff.1 hcut
      have hmore : Text.cut? '#' (a ++ '#' :: b ++ q) = some (a, b ++ q) :=
        Text.cut?_eq_some_iff.2 ⟨by simp, hnot⟩
      simp only [endText, readEnd, List.cons_append, hcut, hmore, hfragment]
      simp [String.append_assoc]
    | none =>
      have hmore : Text.cut? '#' (rest ++ q) = none := by
        rw [Text.cut?_eq_none_iff, List.mem_append]
        exact not_or.2 ⟨Text.cut?_eq_none_iff.1 hcut, hhash⟩
      simp only [endText, readEnd, List.cons_append, hcut, hmore, hset]
      simp [String.append_assoc]
  · simp only [endText, readEnd, List.cons_append, hfragment]
    simp [String.append_assoc]

/-- The text of a URL grows with its query or fragment. -/
theorem render_append_rest (scheme : String) (authority : Option Authority) (path : List Char)
    {c : Char} (hc : c = '?' ∨ c = '#') (rest : List Char) :
    (ofParts scheme authority path (c :: rest ++ q)).render =
      (ofParts scheme authority path (c :: rest)).render ++ String.ofList q := by
  rw [render_ofParts, render_ofParts, hq.endText_append (isSpecial scheme) hc rest]
  simp [String.append_assoc]

end SimpleRow

/-! ## URLs that grow -/

/-- Whether the URL that is read, as a function of what follows a slash, has `q` at the end of its
text when that follows. -/
def Grows (q : List Char) (f : List Char → Except UrlError Url) : Prop :=
  (f q).map render = (f []).map fun u => u.render ++ String.ofList q

/-- A URL that grows is one after growing. -/
theorem Grows.exists_grown {q : List Char} {f : List Char → Except UrlError Url} (h : Grows q f)
    {u : Url} (hu : f [] = .ok u) : ∃ v, f q = .ok v ∧ v.render = u.render ++ String.ofList q := by
  rw [Grows, hu] at h
  cases hv : f q with
  | error e =>
    rw [hv] at h
    cases h
  | ok v =>
    rw [hv] at h
    exact ⟨v, rfl, Except.ok.inj h⟩

/-- A URL that has grown was one before. -/
theorem Grows.exists_before {q : List Char} {f : List Char → Except UrlError Url} (h : Grows q f)
    {v : Url} (hv : f q = .ok v) : ∃ u, f [] = .ok u ∧ v.render = u.render ++ String.ofList q := by
  rw [Grows, hv] at h
  cases hu : f [] with
  | error e =>
    rw [hu] at h
    cases h
  | ok u =>
    rw [hu] at h
    exact ⟨u, rfl, Except.ok.inj h⟩

/-- Only nothing and `q` itself are asked for. -/
theorem Grows.congr {q : List Char} {f g : List Char → Except UrlError Url} (h : Grows q g)
    (hgrown : f q = g q) (hnil : f [] = g []) : Grows q f := by
  rw [Grows, hgrown, hnil]
  exact h

/-- What is no URL in any case does not grow. -/
theorem Grows.of_error {q : List Char} {f : List Char → Except UrlError Url} {e : UrlError}
    (h : ∀ text, f text = .error e) : Grows q f := by
  rw [Grows, h, h]
  rfl

/-- A URL grows as its path and rest do. -/
theorem Grows.of_parts {q : List Char} (hq : SimpleRow q) {f : List Char → List Char × List Char}
    (hf : Path.Grows q f) (scheme : String) (authority : Option Authority) :
    Grows q fun text => .ok (ofParts scheme authority (f text).1 (f text).2) := by
  refine congrArg Except.ok ?_
  cases hf with
  | rest p c rest hc hnil hgrown =>
    rw [hnil, hgrown]
    exact hq.render_append_rest scheme authority p hc rest
  | path p hp hnil hgrown =>
    rw [hnil, hgrown]
    exact render_append_path scheme authority p hq.head?_ne

/-- Behind its last slash a path gets no drive letter. -/
theorem startsWithDrive_append {q : List Char} (hq : SimpleRow q) {path : List Char}
    (hp : path.getLast? = some '/') :
    Path.startsWithDrive (path ++ q) = Path.startsWithDrive path := by
  have hslash : ∀ c, Path.isDrive [c, '/'] = false := fun c => by simp [Path.isDrive]
  match path with
  | [] => cases hp
  | [c] =>
    obtain rfl : c = '/' := Option.some.inj hp
    match q with
    | [] => rfl
    | [d] => rfl
    | d :: e :: q =>
      have he : isSimple e = true := hq.simple e (by simp)
      have hdrive : Path.isDrive [d, e] = false := by
        simp only [Path.isDrive, Bool.and_eq_false_iff, Bool.or_eq_false_iff, beq_eq_false_iff_ne]
        exact .inr ⟨ne_of_isSimple he (by decide), ne_of_isSimple he (by decide)⟩
      show (Path.isDrive [d, e] && _) = false
      rw [hdrive, Bool.false_and]
  | [c, d] =>
    obtain rfl : d = '/' := Option.some.inj hp
    by_cases hc : c = '/'
    · subst hc
      cases q <;> rfl
    · unfold Path.startsWithDrive
      simp [hc]
  | c :: d :: e :: rest =>
    by_cases hc : c = '/'
    · subst hc
      cases rest with
      | nil =>
        obtain rfl : e = '/' := Option.some.inj hp
        show (Path.isDrive [d, '/'] && _) = (Path.isDrive [d, '/'] && _)
        rw [hslash, Bool.false_and, Bool.false_and]
      | cons f rest => rfl
    · unfold Path.startsWithDrive
      simp [hc]

/-- The path of a file URL grows as what is read. -/
theorem filePath_append {q : List Char} (hq : SimpleRow q) (path : List Char) :
    filePath (path ++ q) = filePath path ++ q := by
  have hdrop : q.dropWhile (· == '/') = q :=
    Text.dropWhile_of_head? fun c hc => beq_eq_false_iff_ne.2 fun h => hq.head?_ne (h ▸ hc)
  rw [filePath, filePath, List.dropWhile_append, hdrop]
  split
  · rename_i h
    rw [List.isEmpty_iff.1 h]
    rfl
  · rfl

/-- A file URL grows as its path and rest do. -/
theorem Grows.of_file {q : List Char} (hq : SimpleRow q) {f : List Char → List Char × List Char}
    (hf : Path.Grows q f) (a : Authority) :
    Grows q fun text => .ok (ofParts "file"
      (some (if Path.startsWithDrive (f text).1 then ⟨"", none, none⟩ else a))
      (filePath (f text).1) (f text).2) := by
  refine congrArg Except.ok ?_
  cases hf with
  | rest p c rest hc hnil hgrown =>
    rw [hnil, hgrown]
    exact hq.render_append_rest "file" _ (filePath p) hc rest
  | path p hp hnil hgrown =>
    rw [hnil, hgrown]
    dsimp only
    rw [startsWithDrive_append hq hp, filePath_append hq]
    exact render_append_path "file" _ (filePath p) hq.head?_ne

/-! ## A row as the authority and path -/

/-- A row of names is the first and the others behind a slash. -/
theorem SimpleRow.exists_split {q : List Char} (hq : SimpleRow q) :
    ∃ name rest, q = name ++ rest ∧ name ≠ [] ∧ (∀ c ∈ name, isSimple c = true ∧ c ≠ '/') ∧
      (rest = [] ∨ ∃ row, rest = '/' :: row ∧ SimpleRow row) := by
  have hsplit := List.takeWhile_append_dropWhile (p := fun c => decide (c ≠ '/')) (l := q)
  have hfirst := Text.head?_pieces '/' q
  refine ⟨_, _, hsplit.symm, (hq.plain _ (List.mem_of_mem_head? hfirst)).1, fun c hc => ?_, ?_⟩
  · have hne : c ≠ '/' := by simpa using List.all_eq_true.1 List.all_takeWhile c hc
    exact ⟨hq.simple c (List.takeWhile_subset _ hc), hne⟩
  · cases hrest : q.dropWhile fun c => decide (c ≠ '/') with
    | nil => exact .inl rfl
    | cons c row =>
      have hhead := List.head?_dropWhile_not (fun c => decide (c ≠ '/')) q
      rw [hrest] at hhead hsplit
      obtain rfl : c = '/' := by simpa using hhead
      refine .inr ⟨row, rfl, fun d hd => hq.simple d ?_, fun p hp => hq.plain p ?_⟩
      · rw [← hsplit]
        exact List.mem_append_right _ (List.mem_cons_of_mem _ hd)
      · rw [← hsplit, Text.pieces_append_cons]
        exact List.mem_append_right _ hp

section

variable {name rest : List Char} (hname : ∀ c ∈ name, isSimple c = true ∧ c ≠ '/')

include hname

/-- A simple name is a host where any text is one. -/
theorem parseOpaque_name : Host.parseOpaque name = .ok (.name (String.ofList name)) := by
  have hbrackets : Host.bracketed? name = none := by
    unfold Host.bracketed?
    split
    · exact absurd rfl (ne_of_isSimple (hname '[' List.mem_cons_self).1 (by decide))
    · rfl
  have hallowed : name.any Host.isForbidden = false := by
    rw [← Bool.not_eq_true, List.any_eq_true]
    rintro ⟨c, hc, hforbidden⟩
    have hall : "\x00\t\n\r #/:<>?@[\\]^|".toList.all
        (fun d => !isSimple d || d == '/') = true := by
      decide
    have hslash := List.all_eq_true.1 hall c (List.contains_iff_mem.1 hforbidden)
    rw [(hname c hc).1] at hslash
    exact (hname c hc).2 (beq_iff_eq.1 hslash)
  have hencode : Percent.encode Percent.control name = name :=
    encode_of_isKept fun c hc => isKept_of_isSimple (hname c hc).1 _ (by simp)
  rw [Host.parseOpaque, hbrackets, hallowed, hencode]
  rfl

variable (hrest : rest = [] ∨ ∃ row, rest = '/' :: row ∧ SimpleRow row)

include hrest

/-- A simple name is taken as a host up to the slash behind it. -/
theorem takeHost_name : takeHost false false (name ++ rest) = name := by
  have hend : takeHost false false rest = [] := by
    rcases hrest with rfl | ⟨row, rfl, -⟩ <;> rfl
  clear hrest
  induction name with
  | nil => exact hend
  | cons c name ih =>
    obtain ⟨⟨hc, hslash⟩, hname⟩ := List.forall_mem_cons.1 hname
    have hne : ∀ d, isSimple d = false → (c == d) = false := fun d hd =>
      beq_eq_false_iff_ne.2 (ne_of_isSimple hc hd)
    rw [List.cons_append, takeHost]
    simp only [endsAuthority, hne ':' (by decide), hne '?' (by decide), hne '#' (by decide),
      hne '[' (by decide), beq_eq_false_iff_ne.2 hslash, Bool.false_and, Bool.or_false,
      Bool.false_eq_true, if_false, List.cons.injEq, true_and]
    exact ih hname

/-- The host of a URL that is not special, read of a simple name. -/
theorem readHost_name (hne : name ≠ []) {scheme : String} (hs : isSpecial scheme = false) :
    readHost scheme (name ++ rest) = .ok (some (.name (String.ofList name)), none, rest) := by
  have hparse : parseHost scheme name = .ok (.name (String.ofList name)) := by
    rw [parseHost, hs]
    exact parseOpaque_name hname
  have hnonempty : (Host.name (String.ofList name) == .name "") = false := by
    simpa [← String.toList_inj] using hne
  unfold readHost
  rw [hs]
  dsimp only
  rw [takeHost_name hname hrest, List.drop_left, hparse]
  dsimp only [bind, Except.bind]
  rw [Bool.false_and, if_neg Bool.false_ne_true, hnonempty]
  rcases hrest with rfl | ⟨row, rfl, -⟩ <;> rfl

/-- A simple name has no name and password before it. -/
theorem readUserInfo_name : readUserInfo false (name ++ rest) = .ok ([], name ++ rest) := by
  have hchars : ∀ c ∈ name ++ rest, isSimple c = true := by
    intro c hc
    rcases List.mem_append.1 hc with hc | hc
    · exact (hname c hc).1
    · rcases hrest with rfl | ⟨row, rfl, hrow⟩
      · cases hc
      · rcases List.mem_cons.1 hc with rfl | hc
        · decide
        · exact hrow.simple c hc
  have hat : Text.cutLast? '@'
      ((name ++ rest).takeWhile fun c => !endsAuthority false c) = none := by
    refine Option.eq_none_iff_forall_ne_some.2 ?_
    rintro ⟨before, after⟩ hcut
    have hmem : '@' ∈ (name ++ rest).takeWhile fun c => !endsAuthority false c := by
      rw [Text.eq_of_cutLast? hcut]
      simp
    exact ne_of_isSimple (hchars _ (List.takeWhile_subset _ hmem)) (by decide) rfl
  rw [readUserInfo, hat]

end

/-- The slash behind a name begins the path. -/
theorem readPathStart_name {rest : List Char}
    (hrest : rest = [] ∨ ∃ row, rest = '/' :: row ∧ SimpleRow row) :
    readPathStart false false rest = (rest, []) := by
  rcases hrest with rfl | ⟨row, rfl, hrow⟩
  · rfl
  · have hslash : readPathStart false false ('/' :: row) = Path.read false false ['/'] [] row := rfl
    rw [hslash, Path.read_row false (hrow.row false)]
    rfl

/-- A URL that is not special and ends with the slashes before its authority grows by that. -/
theorem grows_readAuthority_bare {q : List Char} (hq : SimpleRow q) {scheme : String}
    (hs : isSpecial scheme = false) : Grows q (readAuthority scheme) := by
  obtain ⟨name, rest, rfl, hne, hname, hrest⟩ := hq.exists_split
  have hgrown : readAuthority scheme (name ++ rest) =
      .ok (ofParts scheme (some ⟨"", some (.name (String.ofList name)), none⟩) rest []) := by
    unfold readAuthority
    rw [hs]
    dsimp only
    rw [readUserInfo_name hname hrest]
    dsimp only [bind, Except.bind]
    rw [readHost_name hname hrest hne hs]
    dsimp only
    rw [readPathStart_name hrest]
    rfl
  have hbare : readAuthority scheme [] = .ok (ofParts scheme (some ⟨"", none, none⟩) [] []) := by
    have hhost : readHost scheme [] = .ok (none, none, []) := by
      unfold readHost parseHost
      rw [hs]
      rfl
    unfold readAuthority
    rw [hs]
    show (readHost scheme []).bind _ = _
    rw [hhost]
    rfl
  have hend : endText (isSpecial scheme) [] = "" := rfl
  rw [Grows, hgrown, hbare]
  refine congrArg Except.ok ?_
  show render _ = render _ ++ _
  rw [render_ofParts, render_ofParts, hend, ← String.toList_inj]
  simp [beforeText, Authority.render, Host.render]

/-- A URL read from its authority on grows behind a slash. -/
theorem grows_readAuthority {q : List Char} (hq : SimpleRow q) (scheme : String)
    (before : List Char) : Grows q fun text => readAuthority scheme (before ++ '/' :: text) := by
  rcases readAuthority_slash scheme before with ⟨e, he⟩ | ⟨a, rest, hread⟩
  · exact .of_error he
  · simp only [hread]
    exact .of_parts hq ((readPathStart_slash _ false rest).grows (hq.row false)) scheme (some a)

/-! ## URLs that are not special -/

/-- A path behind one slash. -/
theorem readOpaque_slash (scheme : String) {cs : List Char} (h : cs.head? ≠ some '/') :
    readOpaque scheme ('/' :: cs) = .ok (ofParts scheme none
      (Path.read false false ['/'] [] cs).1 (Path.read false false ['/'] [] cs).2) := by
  unfold readOpaque
  split
  · rename_i rest heq
    rw [(List.cons.inj heq).2] at h
    exact absurd rfl h
  · rename_i heq
    rw [(List.cons.inj heq).2]
  · rename_i hne
    exact absurd rfl (hne cs)

/-- Whether a character is part of a path that is not read as segments. -/
def isInOpaque (c : Char) : Bool := c != '?' && c != '#'

/-- A path that is not read as segments, and what follows it. -/
def opaqueParts (cs : List Char) : List Char × List Char :=
  (Percent.encode Percent.control (cs.takeWhile isInOpaque), cs.dropWhile isInOpaque)

/-- Reading a path that is not read as segments. -/
theorem readOpaque_of_ne (scheme : String) {cs : List Char} (h : cs.head? ≠ some '/') :
    readOpaque scheme cs = .ok (ofParts scheme none (opaqueParts cs).1 (opaqueParts cs).2) := by
  have hdrop : cs.drop (cs.takeWhile isInOpaque).length = cs.dropWhile isInOpaque := by
    have hsplit := List.takeWhile_append_dropWhile (p := isInOpaque) (l := cs)
    exact (congrArg (List.drop _) hsplit).symm.trans List.drop_left
  unfold readOpaque
  split
  · exact absurd rfl h
  · exact absurd rfl h
  · rw [opaqueParts, ← hdrop]
    rfl

/-- A path that is not read as segments grows behind a slash. -/
theorem grows_opaqueParts {q : List Char} (hq : SimpleRow q) (before : List Char) :
    Path.Grows q fun text => opaqueParts (before ++ '/' :: text) := by
  unfold opaqueParts
  by_cases hall : ∀ c ∈ before, isInOpaque c = true
  · have hmore : ∀ text, (∀ c ∈ text, isSimple c = true) →
        ∀ c ∈ before ++ '/' :: text, isInOpaque c = true := by
      intro text htext c hc
      rcases List.mem_append.1 hc with hc | hc
      · exact hall c hc
      · have hsimple : isSimple c = true := by
          rcases List.mem_cons.1 hc with rfl | hc
          · decide
          · exact htext c hc
        rw [isInOpaque, Bool.and_eq_true, bne_iff_ne, bne_iff_ne]
        exact ⟨ne_of_isSimple hsimple (by decide), ne_of_isSimple hsimple (by decide)⟩
    have hencode : ∀ text, (∀ c ∈ text, isSimple c = true) →
        Percent.encode Percent.control (before ++ '/' :: text) =
          Percent.encode Percent.control before ++ '/' :: text := by
      intro text htext
      rw [Percent.encode, List.flatMap_append]
      refine congrArg _ (encode_of_isKept fun c hc => ?_)
      rcases List.mem_cons.1 hc with rfl | hc
      · decide
      · exact isKept_of_isSimple (htext c hc) _ (by simp)
    have hparts : ∀ text, (∀ c ∈ text, isSimple c = true) →
        (Percent.encode Percent.control ((before ++ '/' :: text).takeWhile isInOpaque),
          (before ++ '/' :: text).dropWhile isInOpaque) =
        (Percent.encode Percent.control before ++ '/' :: text, []) := by
      intro text htext
      rw [List.takeWhile_eq_self_iff.2 (hmore text htext),
        List.dropWhile_eq_nil_iff.2 (hmore text htext), hencode text htext]
    refine .path (Percent.encode Percent.control before ++ ['/']) List.getLast?_concat ?_ ?_
    · exact hparts [] (by simp)
    · rw [hparts q hq.simple]
      simp
  · -- The path ends before the slash.
    have hsplit := List.takeWhile_append_dropWhile (p := isInOpaque) (l := before)
    have hhead := List.head?_dropWhile_not isInOpaque before
    have hinside : ∀ c ∈ before.takeWhile isInOpaque, isInOpaque c = true := fun c hc =>
      List.all_eq_true.1 List.all_takeWhile c hc
    obtain ⟨c, rest, hrest⟩ := List.exists_cons_of_ne_nil (mt List.dropWhile_eq_nil_iff.1 hall)
    rw [hrest] at hsplit hhead
    generalize before.takeWhile isInOpaque = path at hsplit hinside
    have hc : isInOpaque c = false := by simpa using hhead
    have hend : c = '?' ∨ c = '#' := by
      rwa [isInOpaque, Bool.and_eq_false_iff, bne_eq_false_iff_eq, bne_eq_false_iff_eq] at hc
    have hparts : ∀ text,
        (Percent.encode Percent.control ((before ++ '/' :: text).takeWhile isInOpaque),
          (before ++ '/' :: text).dropWhile isInOpaque) =
        (Percent.encode Percent.control path, c :: rest ++ '/' :: text) := by
      intro text
      have hnext : ∀ d ∈ (c :: rest ++ '/' :: text).head?, isInOpaque d = false :=
        fun d hd => Option.some.inj hd ▸ hc
      rw [← hsplit, List.append_assoc, Text.takeWhile_append_of_head? hinside hnext,
        Text.dropWhile_append_of_head? hinside hnext]
    refine .rest (Percent.encode Percent.control path) c (rest ++ ['/']) hend (hparts []) ?_
    rw [hparts q]
    simp

/-- A URL that is not special grows behind a slash. -/
theorem grows_readOpaque {q : List Char} (hq : SimpleRow q) {scheme : String}
    (hs : isSpecial scheme = false) (before : List Char) :
    Grows q fun text => readOpaque scheme (before ++ '/' :: text) := by
  cases before with
  | nil =>
    have hreads : Path.Reads false false (Path.read false false ['/'] []) :=
      .goesOn ['/'] rfl fun _ => rfl
    refine Grows.congr (.of_parts hq (hreads.grows (hq.row false)) scheme none) ?_ ?_
    · exact readOpaque_slash scheme hq.head?_ne
    · exact readOpaque_slash scheme (by simp)
  | cons c before =>
    by_cases hc : c = '/'
    · subst hc
      cases before with
      | nil => exact grows_readAuthority_bare hq hs
      | cons d before =>
        by_cases hd : d = '/'
        · subst hd
          exact grows_readAuthority hq scheme before
        · have hhead : ∀ text, (d :: before ++ '/' :: text).head? ≠ some '/' := by
            simpa using hd
          have hread := fun text => readOpaque_slash scheme (hhead text)
          simp only [List.cons_append] at hread ⊢
          simp only [hread]
          exact .of_parts hq
            ((Path.read_slash false false ['/'] [] (d :: before)).grows (hq.row false)) scheme none
    · have hhead : ∀ text, (c :: before ++ '/' :: text).head? ≠ some '/' := by
        simpa using hc
      have hread := fun text => readOpaque_of_ne scheme (hhead text)
      simp only [hread]
      exact .of_parts hq (grows_opaqueParts hq (c :: before)) scheme none

/-! ## File URLs -/

/-- A file URL without a host, from its path and what follows. -/
def fileOf (read : List Char × List Char) : Url :=
  ofParts "file" (some ⟨"", none, none⟩) (filePath read.1) read.2

/-- A path of a file URL without a slash before it. -/
theorem readFile_of_ne {cs : List Char} (h : ∀ c ∈ cs.head?, Path.isSlash true c = false) :
    readFile cs = .ok (fileOf (Path.read true true ['/'] [] cs)) := by
  unfold readFile
  match cs with
  | [] => rfl
  | [c] =>
    have hc := h c rfl
    simp only [hc, Bool.false_eq_true, if_false]
    rfl
  | c :: d :: rest =>
    have hc := h c rfl
    simp only [hc, Bool.false_and, Bool.false_eq_true, if_false]
    rfl

/-- A path of a file URL behind one slash. -/
theorem readFile_slash {c : Char} (hc : Path.isSlash true c = true) {cs : List Char}
    (h : ∀ d ∈ cs.head?, Path.isSlash true d = false) :
    readFile (c :: cs) = .ok (fileOf (Path.read true true [] [] (c :: cs))) := by
  unfold readFile
  match cs with
  | [] =>
    simp only [hc, if_true]
    rfl
  | d :: rest =>
    have hd := h d rfl
    simp only [hc, hd, Bool.and_false, Bool.false_eq_true, if_false, if_true]
    rfl

/-- A file URL without a host grows as its path and rest do. -/
theorem Grows.of_fileOf {q : List Char} (hq : SimpleRow q) {f : List Char → List Char × List Char}
    (hf : Path.Reads true true f) : Grows q fun text => .ok (fileOf (f text)) := by
  have hgrows := Grows.of_file hq (hf.grows (hq.row true)) ⟨"", none, none⟩
  simp only [ite_self] at hgrows
  exact hgrows

/-- A file URL whose host, if it has one, ends before a slash grows behind the slash. -/
theorem grows_readFile_host {q : List Char} (hq : SimpleRow q) {c d : Char}
    (hc : Path.isSlash true c = true) (hd : Path.isSlash true d = true) (before : List Char) :
    Grows q fun text => readFile (c :: d :: (before ++ '/' :: text)) := by
  have hle := (List.takeWhile_prefix (fun c => !endsAuthority true c) (l := before)).length_le
  unfold readFile
  simp only [hc, hd, Bool.and_self, if_true, takeWhile_slash]
  split
  · exact .of_fileOf hq (Path.read_slash true true ['/'] [] before)
  · cases hhost : Host.parse (before.takeWhile fun c => !endsAuthority true c) with
    | error e => exact .of_error (e := e) fun _ => rfl
    | ok host =>
      simp only [bind, Except.bind, drop_before hle]
      split
      · exact .of_fileOf hq (Path.read_slash true true ['/'] [] _)
      · exact .of_file hq ((readPathStart_slash true true _).grows (hq.row true))
          ⟨"", some host, none⟩

/-- Whether what follows a special scheme is slashes only, two of them in a file URL: what comes
next is read as a host. -/
def IsBare (scheme : String) (cs : List Char) : Prop :=
  isSpecial scheme = true ∧ (∀ c ∈ cs, isAnySlash c = true) ∧
    (scheme = "file" → cs.length = 2)

/-- A file URL grows behind a slash that is not the second of two before a host. -/
theorem grows_readFile {q : List Char} (hq : SimpleRow q) {before : List Char}
    (hbare : ¬ IsBare "file" (before ++ ['/'])) :
    Grows q fun text => readFile (before ++ '/' :: text) := by
  have hhead : ∀ c ∈ q.head?, Path.isSlash true c = false := by
    intro c hc
    have hne : c ≠ '/' := fun h => hq.head?_ne (h ▸ hc)
    have hback : c ≠ '\\' :=
      ne_of_isSimple (hq.simple _ (List.mem_of_mem_head? hc)) (by decide)
    simp [Path.isSlash, hne, hback]
  cases before with
  | nil =>
    have hgrows := Grows.of_fileOf hq (Path.read_slash true true [] [] [])
    refine hgrows.congr ?_ ?_
    · exact readFile_slash rfl hhead
    · exact readFile_slash rfl (by simp)
  | cons c before =>
    by_cases hc : Path.isSlash true c = true
    · cases before with
      | nil =>
        refine absurd ⟨rfl, fun d hd => ?_, fun _ => rfl⟩ hbare
        rcases List.mem_cons.1 hd with rfl | hd
        · exact hc
        · obtain rfl := List.mem_singleton.1 hd
          rfl
      | cons d before =>
        by_cases hd : Path.isSlash true d = true
        · exact grows_readFile_host hq hc hd before
        · have hnext : ∀ text, ∀ e ∈ (d :: before ++ '/' :: text).head?,
              Path.isSlash true e = false := by
            simpa using hd
          have hread := fun text => readFile_slash hc (hnext text)
          simp only [List.cons_append] at hread ⊢
          simp only [hread]
          exact .of_fileOf hq (Path.read_slash true true [] [] (c :: d :: before))
    · have hnext : ∀ text, ∀ e ∈ (c :: before ++ '/' :: text).head?,
          Path.isSlash true e = false := by
        simpa using hc
      have hread := fun text => readFile_of_ne (hnext text)
      simp only [hread]
      exact .of_fileOf hq (Path.read_slash true true ['/'] [] (c :: before))

/-! ## The whole -/

/-- Behind its scheme a URL grows behind a slash that is not the last before a host. -/
theorem grows_readBehindScheme {q : List Char} (hq : SimpleRow q) {scheme : String}
    {rest : List Char} (hbare : ¬ IsBare scheme (rest ++ ['/'])) :
    Grows q fun text => readBehindScheme scheme (rest ++ '/' :: text) := by
  unfold readBehindScheme
  split
  · rename_i hfile
    subst hfile
    exact grows_readFile hq hbare
  · rename_i hfile
    split
    · rename_i hs
      -- The slashes that are dropped before an authority are not all of the text.
      have hrest : rest.dropWhile isAnySlash ≠ [] := by
        intro hall
        refine hbare ⟨hs, fun c hc => ?_, fun h => absurd h hfile⟩
        rcases List.mem_append.1 hc with hc | hc
        · exact List.dropWhile_eq_nil_iff.1 hall c hc
        · obtain rfl := List.mem_singleton.1 hc
          rfl
      simp only [dropWhile_isAnySlash hrest]
      exact grows_readAuthority hq _ _
    · rename_i hs
      exact grows_readOpaque hq (Bool.eq_false_iff.2 hs) rest

/-- What is read as a URL grows behind a slash, unless a host would follow the slash. -/
theorem grows_parseChars {q : List Char} (hq : SimpleRow q) (before : List Char) :
    (Grows q fun text => parseChars (before ++ '/' :: text)) ∨
      ∃ scheme rest, readScheme [] (inside (before.dropWhile isOuter)) = some (scheme, rest) ∧
        IsBare (String.ofList scheme) (rest ++ ['/']) ∧
        ∀ text, inside (text.rdropWhile isOuter) = text → parseChars (before ++ '/' :: text) =
          readBehindScheme (String.ofList scheme) (rest ++ '/' :: text) := by
  rcases parseChars_slash before with herror | ⟨scheme, rest, hscheme, hread⟩
  · exact .inl (.of_error herror)
  · have htext : ∀ text, inside (text.rdropWhile isOuter) = text →
        parseChars (before ++ '/' :: text) =
          readBehindScheme (String.ofList scheme) (rest ++ '/' :: text) := by
      intro text hclean
      rw [hread, hclean]
    by_cases hbare : IsBare (String.ofList scheme) (rest ++ ['/'])
    · exact .inr ⟨scheme, rest, hscheme, hbare, htext⟩
    · refine .inl ((grows_readBehindScheme hq hbare).congr ?_ ?_)
      · exact htext q (inside_of_isKept (hq.row false).kept)
      · exact htext [] rfl

/-! ## A name as the host -/

/-- Slashes alone are dropped before a host. -/
theorem readBehindScheme_bare {scheme : String} (hfile : scheme ≠ "file") {rest text : List Char}
    (hbare : IsBare scheme (rest ++ ['/'])) (htext : ∀ c ∈ text.head?, isAnySlash c = false) :
    readBehindScheme scheme (rest ++ '/' :: text) = readAuthority scheme text := by
  obtain ⟨hs, hslashes, -⟩ := hbare
  have hdrop : (rest ++ '/' :: text).dropWhile isAnySlash = text := by
    have hsplit : rest ++ '/' :: text = rest ++ ['/'] ++ text := by simp
    rw [hsplit, Text.dropWhile_append_of_head? hslashes htext]
  rw [readBehindScheme, if_neg hfile, if_pos hs, hdrop]

/-- Before a host there are two slashes in a file URL. -/
theorem IsBare.exists_singleton {rest : List Char} (h : IsBare "file" (rest ++ ['/'])) :
    ∃ c, rest = [c] ∧ isAnySlash c = true := by
  obtain ⟨-, hslashes, hlength⟩ := h
  have hone : rest.length = 1 := by
    have htwo := hlength rfl
    rw [List.length_append] at htwo
    exact Nat.succ.inj htwo
  obtain ⟨c, rfl⟩ := List.length_eq_one_iff.1 hone
  exact ⟨c, rfl, hslashes c (by simp)⟩

/-- The two slashes of a file URL are read without a host. -/
theorem readFile_bare {c : Char} (hc : isAnySlash c = true) :
    readFile [c, '/'] = .ok (fileOf (['/'], [])) := by
  have hfirst : Path.isSlash true c = true := hc
  have hslash : Path.isSlash true '/' = true := rfl
  unfold readFile
  simp only [hfirst, hslash, Bool.and_self, if_true]
  rfl

/-- A letter behind the two slashes of a file URL is its host. -/
theorem readFile_letter {c : Char} (hc : isAnySlash c = true) :
    readFile [c, '/', 'a'] =
      .ok (ofParts "file" (some ⟨"", some (.name "a"), none⟩) ['/'] []) := by
  have hfirst : Path.isSlash true c = true := hc
  have hslash : Path.isSlash true '/' = true := rfl
  have hhost : Host.parse ['a'] = .ok (.name "a") :=
    Host.parse_of_isPlain (s := "a") (List.all_eq_true.1 (by decide)) (by decide) (by decide)
  have htake : ['a'].takeWhile (fun c => !endsAuthority true c) = ['a'] := rfl
  unfold readFile
  simp only [hfirst, hslash, Bool.and_self, if_true, htake, hhost]
  rfl

/-- A letter behind slashes alone is the host of a special URL. -/
theorem readBehindScheme_letter {scheme : String} {rest : List Char}
    (hbare : IsBare scheme (rest ++ ['/'])) :
    readBehindScheme scheme (rest ++ ['/', 'a']) =
      .ok (ofParts scheme (some ⟨"", some (.name "a"), none⟩) ['/'] []) := by
  by_cases hfile : scheme = "file"
  · subst hfile
    obtain ⟨c, rfl, hc⟩ := hbare.exists_singleton
    exact readFile_letter hc
  · have hhead : ∀ c ∈ ['a'].head?, isAnySlash c = false := fun c hc => Option.some.inj hc ▸ rfl
    rw [readBehindScheme_bare hfile hbare hhead]
    have hletter : ∀ c ∈ "a".toList, Domain.isPlain c = true := List.all_eq_true.1 (by decide)
    exact readAuthority_of_isPlain hletter (by simp) hbare.1 (by decide) (by decide)

end BrowserShell.Url
