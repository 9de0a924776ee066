import BrowserShell.Proofs.File.Path
import BrowserShell.Proofs.Url.Path

/-!
# Segments behind a slash

What is read of a path up to a slash does not depend on what follows the slash: the path has ended
before it, or reading goes on from a path that ends with a slash (`Path.read_slash`). From there a
row of segments, none of them dots and none of its characters one to encode, is added as it stands
(`Path.read_row`). Every character that a path gets is one that paths keep
(`Path.isKept_of_mem_read`).
-/

namespace BrowserShell.Url

/-! ## Kept characters -/

/-- Whether a part of a URL has a character as it is. -/
def isKept (isEncoded : Char → Bool) (c : Char) : Bool := c.toNat < 0x80 && !isEncoded c

/-- A text of kept characters stands in a URL as it is. -/
theorem encode_of_isKept {isEncoded : Char → Bool} {cs : List Char}
    (h : ∀ c ∈ cs, isKept isEncoded c = true) : Percent.encode isEncoded cs = cs := by
  induction cs with
  | nil => rfl
  | cons c cs ih =>
    obtain ⟨hc, hcs⟩ := List.forall_mem_cons.1 h
    have hchar : Percent.encodeChar isEncoded c = [c] := if_pos hc
    rw [Percent.encode, List.flatMap_cons, hchar]
    exact congrArg (c :: ·) (ih hcs)

/-- Percent signs and hexadecimal digits are kept in a path. -/
theorem isKept_hexDigit : isKept Percent.path '%' = true ∧
    ∀ n < 16, isKept Percent.path (Percent.hexDigit n) = true := by decide

/-- The encoded text has characters only that are kept. -/
theorem isKept_of_mem_encode {cs : List Char} {c : Char}
    (h : c ∈ Percent.encode Percent.path cs) : isKept Percent.path c = true := by
  obtain ⟨d, -, hcd⟩ := List.mem_flatMap.1 h
  unfold Percent.encodeChar at hcd
  split at hcd
  · rename_i hkept
    rw [List.mem_singleton] at hcd
    exact hcd ▸ hkept
  · obtain ⟨b, -, hb⟩ := List.mem_flatMap.1 hcd
    have hbyte : b.toNat < 256 := b.toNat_lt
    simp only [Percent.encodeByte, List.mem_cons, List.not_mem_nil, or_false] at hb
    rcases hb with rfl | rfl | rfl
    · exact isKept_hexDigit.1
    · exact isKept_hexDigit.2 _ (by omega)
    · exact isKept_hexDigit.2 _ (by omega)

/-! ## Rows of segments -/

namespace Path

/-- Whether a segment is taken into a path as it is: it is not empty and no dots, its characters are
kept, and there is no percent sign, which may write a dot, and no backslash, which may be a slash;
in a file URL it is no drive letter. -/
structure IsTaken (isFile : Bool) (segment : List Char) : Prop where
  /-- It is a name. -/
  plain : BrowserShell.Path.IsPlain segment
  /-- Its characters are kept. -/
  kept : ∀ c ∈ segment, isKept Percent.path c = true
  /-- None of its characters means something else. -/
  ne : ∀ c ∈ segment, c ≠ '%' ∧ c ≠ '\\' ∧ c ≠ '/'
  /-- It is no drive letter. -/
  drive : isFile = true → isDrive segment = false

/-- Whether a text is a row of segments that are taken as they are. -/
def Row (isFile : Bool) (q : List Char) : Prop := ∀ p ∈ Text.pieces '/' q, IsTaken isFile p

/-- The characters of a row are kept. -/
theorem Row.kept {isFile : Bool} {q : List Char} (hq : Row isFile q) :
    ∀ c ∈ q, isKept Percent.path c = true := by
  intro c hc
  rw [← Text.joined_pieces '/' q] at hc
  rcases Text.mem_joined hc with rfl | ⟨p, hp, hcp⟩
  · decide
  · exact (hq p hp).kept c hcp

/-- A segment that counts as one dot or two is dots or has a percent sign. -/
theorem mem_of_isDot {segment : List Char} (h : isDots segment = true ∨ isDot segment = true) :
    segment = ['.', '.'] ∨ segment = ['.'] ∨ '%' ∈ segment := by
  have hof : ∀ s : String, String.ofList segment = s → segment = s.toList := fun s hs => by
    rw [← hs, String.toList_ofList]
  simp only [isDots, isDot, List.contains_iff_mem, List.mem_cons, List.not_mem_nil, or_false] at h
  rcases h with (h | h | h | h | h | h | h | h | h) | h | h | h
  all_goals rw [hof _ h]; decide

/-- A segment that is no dots and no drive letter is put behind the path. -/
theorem add_of_plain {isFile : Bool} (path : List Char) {segment : List Char} (slash : Bool)
    (hdots : isDots segment = false) (hdot : isDot segment = false)
    (hdrive : isFile = true → isDrive segment = false) :
    add isFile path segment slash = path ++ segment ++ if slash then ['/'] else [] := by
  have hno : (isFile && path.length == 1 && isDrive segment) = false := by
    cases isFile with
    | false => rfl
    | true => rw [hdrive rfl, Bool.and_false]
  rw [add, hdots, hdot, hno]
  rfl

/-- The end of a path at a slash adds nothing. -/
theorem add_nil (isFile : Bool) (path : List Char) : add isFile path [] false = path := by
  rw [add_of_plain path false (by decide) (by decide) fun _ => rfl]
  simp

/-- A segment with a slash behind it leaves a path that ends with a slash. -/
theorem getLast?_add (isFile : Bool) (path segment : List Char) :
    (add isFile path segment true).getLast? = some '/' := by
  have hend : ∀ p : List Char, (p ++ ['/']).getLast? = some '/' := fun p => List.getLast?_concat
  unfold add
  dsimp only
  split
  · split
    · exact hend _
    · rename_i h
      simpa using h
  · split
    · split
      · assumption
      · exact hend _
    · split
      · simp
      · exact hend _

/-- Reading goes through a segment to its end. -/
theorem read_segment (special isFile : Bool) (path segment : List Char) {p : List Char}
    (hp : ∀ c ∈ p, c ≠ '?' ∧ c ≠ '#' ∧ isSlash special c = false) (rest : List Char) :
    read special isFile path segment (p ++ rest) =
      read special isFile path (p.reverse ++ segment) rest := by
  induction p generalizing segment with
  | nil => rfl
  | cons c p ih =>
    obtain ⟨⟨hquery, hhash, hslash⟩, hp⟩ := List.forall_mem_cons.1 hp
    rw [List.cons_append, read, if_neg (by simp [hquery, hhash]), hslash, if_neg Bool.false_ne_true,
      ih (c :: segment) hp, List.reverse_cons, List.append_assoc, List.singleton_append]

/-- How a path and the rest of a text are read, as a function of what follows a slash: the path has
ended before the slash, or it ends with the slash and reading goes on behind it. -/
inductive Reads (special isFile : Bool) (f : List Char → List Char × List Char) : Prop
  /-- The path has ended at a question mark or number sign. -/
  | ended (p : List Char) (c : Char) (rest : List Char) (hc : c = '?' ∨ c = '#')
      (h : ∀ text, f text = (p, c :: rest ++ '/' :: text))
  /-- Reading goes on behind the slash. -/
  | goesOn (p : List Char) (hp : p.getLast? = some '/')
      (h : ∀ text, f text = read special isFile p [] text)

/-- What is read of a path up to a slash does not depend on what follows the slash. -/
theorem read_slash (special isFile : Bool) (path segment before : List Char) :
    Reads special isFile fun text => read special isFile path segment (before ++ '/' :: text) := by
  induction before generalizing path segment with
  | nil =>
    refine .goesOn _ (getLast?_add isFile path (Percent.encode Percent.path segment.reverse))
      fun text => ?_
    have hslash : isSlash special '/' = true := rfl
    rw [List.nil_append, read, if_neg (by decide), if_pos hslash]
  | cons c before ih =>
    by_cases hend : c = '?' ∨ c = '#'
    · refine .ended (add isFile path (Percent.encode Percent.path segment.reverse) false) c before
        hend fun text => ?_
      rw [List.cons_append, read, if_pos hend]
    · simp only [List.cons_append, read, if_neg hend]
      split
      · exact ih (add isFile path (Percent.encode Percent.path segment.reverse) true) []
      · exact ih path (c :: segment)

namespace IsTaken

variable {isFile : Bool} {segment : List Char}

/-- A segment that is taken as it is is no dots in any writing. -/
theorem not_dots (h : IsTaken isFile segment) :
    isDots segment = false ∧ isDot segment = false := by
  rw [← Bool.not_eq_true, ← Bool.not_eq_true, ← not_or]
  intro hdots
  rcases mem_of_isDot hdots with hdots | hdots | hpercent
  · exact h.plain.2.2 hdots
  · exact h.plain.2.1 hdots
  · exact (h.ne _ hpercent).1 rfl

/-- A segment that is taken as it is is put behind the path. -/
theorem add_eq (h : IsTaken isFile segment) (path : List Char) (slash : Bool) :
    add isFile path (Percent.encode Percent.path segment.reverse.reverse) slash =
      path ++ segment ++ if slash then ['/'] else [] := by
  rw [List.reverse_reverse, encode_of_isKept h.kept]
  exact add_of_plain path slash h.not_dots.1 h.not_dots.2 h.drive

/-- Reading goes through a segment that is taken as it is. -/
theorem read_eq (h : IsTaken isFile segment) (special : Bool) (path rest : List Char) :
    read special isFile path [] (segment ++ rest) =
      read special isFile path segment.reverse rest := by
  have hthrough : ∀ c ∈ segment, c ≠ '?' ∧ c ≠ '#' ∧ isSlash special c = false := by
    intro c hc
    have hkept := h.kept c hc
    obtain ⟨-, hback, hslash⟩ := h.ne c hc
    refine ⟨?_, ?_, by simp [isSlash, hback, hslash]⟩
    · rintro rfl
      exact absurd hkept (by decide)
    · rintro rfl
      exact absurd hkept (by decide)
  rw [read_segment special isFile path [] hthrough, List.append_nil]

end IsTaken

/-- The segments of a row are put behind the path. -/
theorem read_joined (special : Bool) {isFile : Bool} {names : List (List Char)} (hne : names ≠ [])
    (h : ∀ p ∈ names, IsTaken isFile p) (path : List Char) :
    read special isFile path [] (Text.joined '/' names) = (path ++ Text.joined '/' names, []) := by
  induction names generalizing path with
  | nil => exact absurd rfl hne
  | cons p names ih =>
    obtain ⟨hp, hnames⟩ := List.forall_mem_cons.1 h
    by_cases hlast : names = []
    · subst hlast
      have hread := hp.read_eq special path []
      rw [List.append_nil, read, hp.add_eq] at hread
      simpa [Text.joined] using hread
    · have hslash : isSlash special '/' = true := rfl
      rw [Text.joined_cons p hlast, hp.read_eq, read, if_neg (by decide), if_pos hslash, hp.add_eq,
        ih hlast hnames]
      simp

/-- A row of segments is put behind the path. -/
theorem read_row (special : Bool) {isFile : Bool} {q : List Char} (hq : Row isFile q)
    (path : List Char) : read special isFile path [] q = (path ++ q, []) := by
  have hread := read_joined special (Text.pieces_ne_nil '/' q) hq path
  rwa [Text.joined_pieces] at hread

/-- The characters of a path with one more segment are those of both, slashes and colons. -/
theorem mem_of_mem_add {isFile slash : Bool} {path segment : List Char} {c : Char}
    (h : c ∈ add isFile path segment slash) : c ∈ path ∨ c ∈ segment ∨ c = '/' ∨ c = ':' := by
  have hshort : ∀ {d}, d ∈ shorten isFile (dropSlash path) → d ∈ path := by
    intro d hd
    have hdrop : dropSlash path <+: path := by
      unfold dropSlash
      split
      · split
        · split
          · exact List.prefix_rfl
          · exact List.dropLast_prefix path
        · exact List.prefix_rfl
      · exact List.prefix_rfl
    unfold shorten at hd
    split at hd
    · exact hdrop.subset hd
    · exact hdrop.subset ((List.rdropWhile_prefix _ _).subset hd)
  unfold add at h
  dsimp only at h
  split at h
  · split at h
    · rcases List.mem_append.1 h with h | h
      · exact .inl (hshort h)
      · exact .inr (.inr (.inl (List.mem_singleton.1 h)))
    · exact .inl (hshort h)
  · split at h
    · split at h
      · exact .inl h
      · rcases List.mem_append.1 h with h | h
        · exact .inl h
        · exact .inr (.inr (.inl (List.mem_singleton.1 h)))
    · have htail : ∀ {d}, d ∈ (if slash = true then ['/'] else []) → d = '/' := by
        intro d hd
        split at hd
        · exact List.mem_singleton.1 hd
        · cases hd
      split at h
      · rcases List.mem_append.1 h with h | h
        · rcases List.mem_append.1 h with h | h
          · exact .inl h
          · exact .inr (.inl (List.mem_of_mem_take h))
        · rcases List.mem_cons.1 h with h | h
          · exact .inr (.inr (.inr h))
          · exact .inr (.inr (.inl (htail h)))
      · rcases List.mem_append.1 h with h | h
        · exact (List.mem_append.1 h).imp_right .inl
        · exact .inr (.inr (.inl (htail h)))

/-- Whether a path and the rest of a text, as a function of what follows a slash, grow by `q` when
it follows: the rest, if there is one, and else the path. -/
inductive Grows (q : List Char) (f : List Char → List Char × List Char) : Prop
  /-- The rest grows. -/
  | rest (p : List Char) (c : Char) (rest : List Char) (hc : c = '?' ∨ c = '#')
      (hnil : f [] = (p, c :: rest)) (hgrown : f q = (p, c :: rest ++ q))
  /-- The path grows behind its slash. -/
  | path (p : List Char) (hp : p.getLast? = some '/') (hnil : f [] = (p, []))
      (hgrown : f q = (p ++ q, []))

/-- What is read past a slash grows by a row of segments. -/
theorem Reads.grows {special isFile : Bool} {f : List Char → List Char × List Char}
    (hf : Reads special isFile f) {q : List Char} (hq : Row isFile q) : Grows q f := by
  cases hf with
  | ended p c rest hc h =>
    refine .rest p c (rest ++ ['/']) hc (h []) ?_
    rw [h q]
    simp
  | goesOn p hp h =>
    refine .path p hp ?_ ?_
    · rw [h [], read]
      exact congrArg (·, []) (add_nil isFile p)
    · rw [h q, read_row special hq]

/-- Every character that a path gets is kept. -/
theorem isKept_of_mem_read {special isFile : Bool} {path segment text : List Char} {c : Char}
    (h : c ∈ (read special isFile path segment text).1) :
    c ∈ path ∨ isKept Percent.path c = true := by
  have hadd : ∀ {path segment slash},
      c ∈ add isFile path (Percent.encode Percent.path segment) slash →
        c ∈ path ∨ isKept Percent.path c = true := by
    intro path segment slash hc
    rcases mem_of_mem_add hc with hc | hc | rfl | rfl
    · exact .inl hc
    · exact .inr (isKept_of_mem_encode hc)
    · exact .inr (by decide)
    · exact .inr (by decide)
  induction text generalizing path segment with
  | nil => exact hadd h
  | cons d text ih =>
    rw [read] at h
    split at h
    · exact hadd h
    · split at h
      · rcases ih h with h | h
        · exact hadd h
        · exact .inr h
      · exact ih h

/-- Nothing is left of a text without question marks and number signs. -/
theorem read_snd {text : List Char} (h : ∀ c ∈ text, c ≠ '?' ∧ c ≠ '#') (special isFile : Bool)
    (path segment : List Char) : (read special isFile path segment text).2 = [] := by
  induction text generalizing path segment with
  | nil => rfl
  | cons c text ih =>
    obtain ⟨⟨hquery, hhash⟩, htext⟩ := List.forall_mem_cons.1 h
    rw [read, if_neg (by simp [hquery, hhash])]
    split
    · exact ih htext _ _
    · exact ih htext _ _

end Path

/-- Every character of the path behind an authority is kept. -/
theorem isKept_of_mem_readPathStart {special isFile : Bool} {text : List Char} {c : Char}
    (h : c ∈ (readPathStart special isFile text).1) : isKept Percent.path c = true := by
  have hread : ∀ {path text}, path = [] ∨ path = ['/'] →
      c ∈ (Path.read special isFile path [] text).1 → isKept Percent.path c = true := by
    intro path text hpath hc
    rcases Path.isKept_of_mem_read hc with hc | hc
    · rcases hpath with rfl | rfl
      · cases hc
      · obtain rfl := List.mem_singleton.1 hc
        decide
    · exact hc
  unfold readPathStart at h
  split at h
  · rename_i hs
    subst hs
    split at h
    · exact hread (.inr rfl) h
    · exact hread (.inr rfl) h
  · rename_i hs
    obtain rfl : special = false := Bool.eq_false_iff.2 hs
    split at h
    · cases h
    · cases h
    · cases h
    · exact hread (.inl rfl) h
    · exact hread (.inr rfl) h

end BrowserShell.Url
