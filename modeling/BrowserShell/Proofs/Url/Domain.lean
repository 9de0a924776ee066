import BrowserShell.Proofs.Text.Split
import BrowserShell.Proofs.Text.Utf8
import BrowserShell.Proofs.Unicode.Ascii
import BrowserShell.Url.Host

/-!
# Plain domain names

A name of lower-case letters, digits and dots passes all checks and is kept as it is
(`Domain.toAscii?_of_isPlain`); it is a host unless it is empty or ends in a number
(`Host.parse_of_isPlain`).
-/

namespace BrowserShell

namespace Domain

open Unicode

/-! ## Plain names -/

/-- A visible ASCII character attaches to nothing. -/
theorem isMark_of_lt {c : Char} (h : c.toNat < 0x7F) : isMark c = false := by
  unfold isMark Category.of?
  cases hfind : Category.numbered.find? c.toNat with
  | none => rfl
  | some k =>
    obtain ⟨_, -, hk⟩ := RangeMap.exists_of_find?_ofText h
      (p := fun e => (Category.all[e.2]?).any (fun k =>
        [Category.nonspacingMark, .spacingMark, .enclosingMark].contains k) = false)
      (fun rest => rfl) hfind
    simpa using hk

/-- A visible ASCII character does not run from right to left. -/
theorem runsLeft_of_lt {c : Char} (h : c.toNat < 0x7F) : runsLeft c = false := by
  unfold runsLeft direction
  cases hfind : directions.find? c.toNat with
  | none => rfl
  | some k =>
    obtain ⟨_, -, hk⟩ := RangeMap.exists_of_find?_ofText h
      (p := fun e => [Direction.rightToLeft, .arabicLetter, .arabicNumber].contains
        ((Direction.all[e.2]?).getD .leftToRight) = false)
      (fun rest => rfl) hfind
    simpa using hk

/-- Whether a character may stand anywhere in a domain name and stays as it is: a lower-case letter,
a digit or a dot. -/
def isPlain (c : Char) : Bool :=
  0x61 ≤ c.toNat && c.toNat ≤ 0x7A || 0x30 ≤ c.toNat && c.toNat ≤ 0x39 || c.toNat == 0x2E

theorem isPlain_iff {c : Char} : isPlain c = true ↔
    0x61 ≤ c.toNat ∧ c.toNat ≤ 0x7A ∨ 0x30 ≤ c.toNat ∧ c.toNat ≤ 0x39 ∨ c.toNat = 0x2E := by
  simp [isPlain, or_assoc]

theorem lt_of_isPlain {c : Char} (h : isPlain c = true) : c.toNat < 0x7F := by
  rw [isPlain_iff] at h
  omega

theorem ne_of_isPlain {c d : Char} (h : isPlain c = true) (hd : isPlain d = false) : c ≠ d := by
  rintro rfl
  rw [h] at hd
  cases hd

/-- A plain character may stand in a domain name. -/
theorem isForbidden_of_isPlain {c : Char} (h : isPlain c = true) : isForbidden c = false := by
  have hother : "%#/:<>?@[\\]^|".toList.contains c = false := by
    have hnone : ("%#/:<>?@[\\]^|".toList.all fun d => !isPlain d) = true := by decide
    rw [List.contains_eq_mem, decide_eq_false_iff_not]
    intro hc
    simpa [h] using List.all_eq_true.1 hnone c hc
  have hlt := lt_of_isPlain h
  rw [isPlain_iff] at h
  unfold isForbidden
  rw [hother, Bool.or_false, Bool.or_eq_false_iff, decide_eq_false_iff_not, beq_eq_false_iff_ne]
  omega

/-- A text of plain characters is kept by the mapping. -/
theorem mapped?_of_isPlain {cs : List Char} (h : ∀ c ∈ cs, isPlain c = true) :
    mapped? cs = some cs := by
  have hmap : cs.mapM (fun c => domainMap? c.toNat) = some (cs.map fun c => [c.toNat]) := by
    refine mapM_eq_some_map fun c hc => ?_
    have hplain := h c hc
    have hcapital : ¬ (0x41 ≤ c.toNat ∧ c.toNat ≤ 0x5A) := by
      rw [isPlain_iff] at hplain
      omega
    exact domainMap?_of_lt (lt_of_isPlain (h c hc)) hcapital
  have hflatten : (cs.map fun c => [c.toNat]).flatten = cs.map Char.toNat := by
    rw [← List.flatMap_def, List.map_eq_flatMap]
  have hascii : ∀ n ∈ cs.map Char.toNat, n < 0x80 := by
    intro n hn
    obtain ⟨c, hc, rfl⟩ := List.mem_map.1 hn
    exact (lt_of_isPlain (h c hc)).trans (by decide)
  rw [mapped?, hmap]
  show some ((normal (cs.map fun c => [c.toNat]).flatten).map Char.ofNat) = some cs
  have hback : (cs.map Char.toNat).map Char.ofNat = cs := by
    rw [List.map_map]
    exact List.map_id'' Char.ofNat_toNat cs
  rw [hflatten, normal_of_ascii hascii, hback]

/-- Plain characters are no joiners. -/
theorem joinersFit_of_isPlain (before : List Char) {cs : List Char}
    (h : ∀ c ∈ cs, isPlain c = true) : joinersFit before cs = true := by
  induction cs generalizing before with
  | nil => rfl
  | cons c cs ih =>
    obtain ⟨hc, hcs⟩ := List.forall_mem_cons.1 h
    have hnon : c ≠ '\u200C' := ne_of_isPlain hc (by decide)
    have hjoiner : c ≠ '\u200D' := ne_of_isPlain hc (by decide)
    rw [joinersFit, ih (c :: before) hcs]
    simp [hnon, hjoiner]

/-- A label of plain characters passes the checks. -/
theorem label?_of_isPlain {label : List Char} (h : ∀ c ∈ label, isPlain c = true) :
    label? label = some label := by
  have hmark : Text.after? mark label = none := by
    rw [Option.eq_none_iff_forall_ne_some]
    intro rest hrest
    have hhyphen : '-' ∈ label := by
      rw [Text.eq_append_of_after? hrest]
      simp [mark]
    exact absurd (h _ hhyphen) (by decide)
  have hfits : labelFits label = true := by
    have hall : (label.all fun c => !isForbidden c) = true :=
      List.all_eq_true.2 fun c hc => by rw [isForbidden_of_isPlain (h c hc)]; rfl
    have hhead : label.head?.any isMark = false := by
      cases label with
      | nil => rfl
      | cons c cs =>
        rw [List.head?_cons, Option.any_some]
        exact isMark_of_lt (lt_of_isPlain (h c List.mem_cons_self))
    rw [labelFits, hall, hhead, joinersFit_of_isPlain [] h]
    rfl
  unfold label?
  rw [hmark]
  exact if_pos hfits

/-- A domain name of plain characters is kept as it is. -/
theorem toAscii?_of_isPlain {s : String} (h : ∀ c ∈ s.toList, isPlain c = true) :
    toAscii? (Utf8.encode s) = some s := by
  have hpieces : ∀ label ∈ Text.pieces '.' s.toList, ∀ c ∈ label, isPlain c = true :=
    fun label hlabel c hc => h c (Text.mem_of_mem_pieces hlabel hc)
  have hmap : (Text.pieces '.' s.toList).mapM label? = some (Text.pieces '.' s.toList) := by
    have hsome := mapM_eq_some_map fun label hlabel => label?_of_isPlain (hpieces label hlabel)
    rwa [List.map_id'] at hsome
  have hleft : ((Text.pieces '.' s.toList).any fun l => l.any runsLeft) = false := by
    simp only [List.any_eq_false, Bool.not_eq_true]
    intro label hlabel c hc
    exact runsLeft_of_lt (lt_of_isPlain (hpieces label hlabel c hc))
  have hwritten : (Text.pieces '.' s.toList).map written = Text.pieces '.' s.toList := by
    refine (List.map_congr_left fun label hlabel => ?_).trans (List.map_id _)
    refine if_pos (List.all_eq_true.2 fun c hc => ?_)
    exact decide_eq_true ((lt_of_isPlain (hpieces label hlabel c hc)).trans (by decide))
  have hjoined : String.ofList (Text.joined '.' (Text.pieces '.' s.toList)) = s := by
    rw [Text.joined_pieces, String.ofList_toList]
  rw [toAscii?, Utf8.decode?_encode]
  show (mapped? s.toList).bind _ = some s
  rw [mapped?_of_isPlain h, Option.bind_some]
  show ((Text.pieces '.' s.toList).mapM label?).bind _ = some s
  rw [hmap, Option.bind_some, hleft, hwritten, hjoined]
  rfl

end Domain

/-! ## Hosts -/

/-- A text without percent signs stands for its bytes. -/
theorem Percent.decode_of_not_mem {cs : List Char} (h : '%' ∉ cs) :
    decode cs = cs.flatMap String.utf8EncodeChar := by
  induction cs with
  | nil => rfl
  | cons c cs ih =>
    obtain ⟨hc, hcs⟩ := not_or.1 (mt List.mem_cons.2 h)
    rw [decode, ih hcs, List.flatMap_cons]
    rintro a b rest heq
    exact absurd heq (Ne.symm hc)

/-- A name of plain characters is the host it writes, if it is no address. -/
theorem Host.parse_of_isPlain {s : String} (h : ∀ c ∈ s.toList, Domain.isPlain c = true)
    (hne : s ≠ "") (hnumber : Ipv4.endsInNumber s.toList = false) : parse s.toList = .ok (.name s) := by
  have hbrackets : bracketed? s.toList = none := by
    unfold bracketed?
    split
    · rename_i inner heq
      exact absurd (h '[' (heq ▸ List.mem_cons_self)) (by decide)
    · rfl
  have hpercent : '%' ∉ s.toList := fun hmem => absurd (h _ hmem) (by decide)
  have hname : Domain.toAscii? (Percent.decode s.toList) = some s := by
    rw [Percent.decode_of_not_mem hpercent]
    exact Domain.toAscii?_of_isPlain h
  rw [parse, hbrackets, hname, Option.getD_none]
  split
  · rename_i heq
    cases heq
  · rename_i heq
    exact absurd (Option.some.inj heq) hne
  · rename_i name _ heq
    obtain rfl : s = name := Option.some.inj heq
    rw [hnumber]
    rfl

end BrowserShell
