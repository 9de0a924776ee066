import BrowserShell.File.Tree
import BrowserShell.Proofs.File.Path
import Mathlib.Tactic.Set

/-!
# Following a path and listing the files

The files below a directory are found in two ways: a path is followed name by name
(`FileTree.walk`), or all files are listed (`FileTree.filesBelow`). A row of names joined to a
directory is a file's exactly if the names are listed and the joined path is not too long
(`FileTree.isFile_join_iff`).
-/

namespace BrowserShell

namespace Folder

/-- A listed file has a name. -/
theorem ne_nil_of_mem_files {d : Folder} {names : List (List Char)} {b : Bytes}
    (h : (names, b) ∈ d.files) : names ≠ [] := by
  induction d with
  | empty => simp [files] at h
  | file m c others ih =>
    simp only [files, List.mem_cons, Prod.mk.injEq] at h
    rcases h with ⟨rfl, -⟩ | h
    · exact List.cons_ne_nil _ _
    · exact ih h
  | folder m inner others _ ih =>
    simp only [files, List.mem_append, List.mem_map, Prod.mk.injEq] at h
    rcases h with ⟨_, -, rfl, -⟩ | h
    · exact List.cons_ne_nil _ _
    · exact ih h

/-- A listed file is an entry, or is listed in the directory that its first name stands for. -/
theorem mem_files_cons {d : Folder} (hd : d.WellFormed) {n : List Char} {names : List (List Char)}
    {b : Bytes} :
    (n :: names, b) ∈ d.files ↔
      (names = [] ∧ d.get? n = some (.file b)) ∨
        ∃ inner, d.get? n = some (.folder inner) ∧ (names, b) ∈ inner.files := by
  induction d with
  | empty => simp [files, get?]
  | file m c others ih =>
    simp only [files, get?, List.mem_cons, Prod.mk.injEq, List.cons.injEq]
    rw [ih hd.2.2]
    by_cases h : m = n
    · -- The entries behind this one do not have its name.
      subst h
      rw [if_pos rfl, hd.2.1]
      grind
    · rw [if_neg h]
      grind
  | folder m inner others _ ih =>
    simp only [files, get?, List.mem_append, List.mem_map, Prod.mk.injEq, List.cons.injEq,
      Prod.exists]
    rw [ih hd.2.2.2]
    by_cases h : m = n
    · subst h
      rw [if_pos rfl, hd.2.1]
      grind
    · rw [if_neg h]
      grind

/-- An entry's name is one that an entry can have. -/
theorem isName_of_get? {d : Folder} (hd : d.WellFormed) {n : List Char} {e : Entry}
    (h : d.get? n = some e) : isName n := by
  induction d with
  | empty => simp [get?] at h
  | file m c others ih =>
    simp only [get?] at h
    split at h
    · rename_i heq
      exact heq ▸ hd.1
    · exact ih hd.2.2 h
  | folder m inner others _ ih =>
    simp only [get?] at h
    split at h
    · rename_i heq
      exact heq ▸ hd.1
    · exact ih hd.2.2.2 h

/-- The names on the way to a listed file are names that entries can have. -/
theorem isName_of_mem_files {d : Folder} (hd : d.WellFormed) {names : List (List Char)} {b : Bytes}
    (h : (names, b) ∈ d.files) : ∀ n ∈ names, isName n := by
  induction names generalizing d with
  | nil => simp
  | cons n names ih =>
    rw [mem_files_cons hd] at h
    intro m hm
    rw [List.mem_cons] at hm
    rcases h with ⟨rfl, hg⟩ | ⟨inner, hg, hin⟩
    · rcases hm with rfl | hm
      · exact isName_of_get? hd hg
      · simp at hm
    · rcases hm with rfl | hm
      · exact isName_of_get? hd hg
      · exact ih (hd.of_get? hg) hin m hm

/-- A name that an entry can have is one that a path can have as a step. -/
theorem isPlain_of_isName {n : List Char} (h : isName n) : Path.IsPlain n := by
  simp only [isName, Bool.and_eq_true, bne_iff_ne] at h
  exact ⟨h.1.1.1.1.1, h.1.1.1.1.2, h.1.1.1.2⟩

/-- A name that an entry can have has no slash and no NUL, and is not too long. -/
theorem not_mem_of_isName {n : List Char} (h : isName n) :
    '/' ∉ n ∧ '\x00' ∉ n ∧ Text.byteCount n ≤ maxName := by
  simp only [isName, Bool.and_eq_true, Bool.not_eq_true', List.contains_eq_mem,
    decide_eq_false_iff_not, decide_eq_true_eq] at h
  exact ⟨h.1.1.2, h.1.2, h.2⟩

end Folder

namespace FileTree

/-- A path through well-formed directories leads to one. -/
theorem wellFormed_of_walk {above : List Folder} {d d' : Folder} {ps : List (List Char)}
    (ha : ∀ a ∈ above, a.WellFormed) (hd : d.WellFormed)
    (h : walk above d ps = .ok (.folder d')) : d'.WellFormed := by
  induction ps generalizing above d with
  | nil =>
    cases h
    exact hd
  | cons p ps ih =>
    unfold walk at h
    split at h
    · exact ih ha hd h
    · split at h
      · cases above with
        | nil => exact ih ha hd h
        | cons up above =>
          simp only [List.mem_cons, forall_eq_or_imp] at ha
          exact ih ha.2 ha.1 h
      · split at h
        · cases h
        · split at h
          · cases h
          · rename_i inner _ hg
            refine ih ?_ (hd.of_get? hg) h
            simp only [List.mem_cons, forall_eq_or_imp]
            exact ⟨hd, ha⟩
          · cases h
          · cases h

/-- How the first piece of a path is followed. -/
theorem walk_cons (above : List Folder) (d : Folder) (p : List Char) (ps : List (List Char)) :
    walk above d (p :: ps) =
      if p = [] ∨ p = ['.'] then walk above d ps
      else if p = ['.', '.'] then
        match above with
        | [] => walk [] d ps
        | up :: above => walk above up ps
      else if Text.byteCount p > Folder.maxName then .error .nameTooLong
      else
        match d.get? p, ps with
        | none, _ => .error .missing
        | some (.folder inner), ps => walk (d :: above) inner ps
        | some (.file content), [] => .ok (.file content)
        | some (.file _), _ :: _ => .error .notFolder :=
  walk.eq_def above d (p :: ps)

/-- Two paths one after the other: the second is followed from where the first leads to, and
nothing stands below a file. -/
theorem walk_append (above : List Folder) (d : Folder) (ps : List (List Char))
    {qs : List (List Char)} (hq : qs ≠ []) :
    ∃ above', walk above d (ps ++ qs) =
      match walk above d ps with
      | .ok (.folder d') => walk above' d' qs
      | .ok (.file _) => .error .notFolder
      | .error e => .error e := by
  induction ps generalizing above d with
  | nil => exact ⟨above, rfl⟩
  | cons p ps ih =>
    rw [List.cons_append, walk_cons, walk_cons]
    by_cases h0 : p = [] ∨ p = ['.']
    · rw [if_pos h0, if_pos h0]
      exact ih above d
    · rw [if_neg h0, if_neg h0]
      by_cases h1 : p = ['.', '.']
      · rw [if_pos h1, if_pos h1]
        cases above with
        | nil => exact ih [] d
        | cons up above => exact ih above up
      · rw [if_neg h1, if_neg h1]
        by_cases h2 : Text.byteCount p > Folder.maxName
        · rw [if_pos h2, if_pos h2]
          exact ⟨[], rfl⟩
        · rw [if_neg h2, if_neg h2]
          cases d.get? p with
          | none => exact ⟨[], rfl⟩
          | some e =>
            cases e with
            | folder inner => exact ih (d :: above) inner
            | file c =>
              refine ⟨[], ?_⟩
              cases ps with
              | nil =>
                obtain ⟨q, qs, rfl⟩ := List.exists_cons_of_ne_nil hq
                rfl
              | cons p' ps => rfl

/-- A row of names leads to the file that is listed under it. -/
theorem walk_eq_file_iff {above : List Folder} {d : Folder} (hd : d.WellFormed)
    {names : List (List Char)} (hn : ∀ n ∈ names, Path.IsPlain n) {b : Bytes} :
    walk above d names = .ok (.file b) ↔ (names, b) ∈ d.files := by
  induction names generalizing above d with
  | nil =>
    constructor
    · intro h
      cases h
    · exact fun h => absurd rfl (Folder.ne_nil_of_mem_files h)
  | cons n names ih =>
    simp only [List.mem_cons, forall_eq_or_imp] at hn
    rw [Folder.mem_files_cons hd]
    rw [walk_cons, if_neg (by simp [hn.1.1, hn.1.2.1]), if_neg hn.1.2.2]
    cases hg : d.get? n with
    | none =>
      split
      · simp
      · simp
    | some e =>
      have hlen := (Folder.not_mem_of_isName (Folder.isName_of_get? hd hg)).2.2
      rw [if_neg (by omega)]
      cases e with
      | folder inner =>
        dsimp only
        rw [ih (hd.of_get? hg) hn.2]
        simp
      | file c => cases names <;> simp

/-- The root directory is well formed. -/
theorem wellFormed_root (t : FileTree) : t.root.WellFormed := by
  obtain ⟨top, here, htop, hnames⟩ := t
  dsimp only [root]
  induction here with
  | nil => exact htop
  | cons n ns ih =>
    simp only [List.all_cons, Bool.and_eq_true] at hnames
    exact ⟨hnames.1, rfl, ih hnames.2, trivial⟩

/-- What a path stands for is found by following it, unless it is no path at all. -/
theorem resolve_eq_ok_iff {t : FileTree} {p : Path} {e : Folder.Entry} :
    t.resolve p = .ok e ↔
      '\x00' ∉ p.toList ∧ p ≠ "" ∧ Text.byteCount p.toList < maxPath ∧
        walk [] t.root (t.start p ++ Text.pieces '/' p.toList) = .ok e := by
  have hempty : p.toList = [] ↔ p = "" := String.toList_eq_nil_iff
  dsimp only [resolve]
  split
  · simp_all
  · split
    · simp_all
    · split
      · rename_i h
        simp [Nat.not_lt.2 h]
      · simp_all

/-- The path of a directory leads to a well-formed one. -/
theorem wellFormed_of_resolve {t : FileTree} {p : Path} {d : Folder}
    (h : t.resolve p = .ok (.folder d)) : d.WellFormed :=
  wellFormed_of_walk (by simp) t.wellFormed_root (resolve_eq_ok_iff.1 h).2.2.2

/-- What is joined to a directory begins where the directory does. -/
theorem start_join (t : FileTree) {base c : Path} (hb : base ≠ "")
    (hc : c.toList.head? ≠ some '/') : t.start (base.join c) = t.start base := by
  unfold start
  rw [Path.head?_join hb hc]

/-- A relative path joined to a directory is followed from the directory. -/
theorem walk_join (t : FileTree) {base c : Path} (hb : base ≠ "") (hc : c.toList.head? ≠ some '/') :
    ∃ above, walk [] t.root (t.start (base.join c) ++ Text.pieces '/' (base.join c).toList) =
      match walk [] t.root (t.start base ++ Text.pieces '/' base.toList) with
      | .ok (.folder d) => walk above d (Text.pieces '/' c.toList)
      | .ok (.file _) => .error .notFolder
      | .error e => .error e := by
  obtain ⟨b, hj, hbase⟩ := Path.toList_join hb hc
  rw [start_join t hb hc, hj, Text.pieces_append_cons, ← List.append_assoc]
  obtain ⟨above, hw⟩ := walk_append [] t.root (t.start base ++ Text.pieces '/' b)
    (Text.pieces_ne_nil '/' c.toList)
  refine ⟨above, ?_⟩
  rw [hw]
  rcases hbase with h | h
  · rw [h]
  · -- The slash at the end of the directory changes nothing, unless a file stands before it.
    obtain ⟨above', hw'⟩ := walk_append [] t.root (t.start base ++ Text.pieces '/' b)
      (List.cons_ne_nil [] [])
    have hlast : Text.pieces '/' ([] : List Char) = [[]] := rfl
    rw [h, Text.pieces_append_cons, hlast, ← List.append_assoc, hw']
    cases walk [] t.root (t.start base ++ Text.pieces '/' b) with
    | error e => rfl
    | ok e =>
      cases e with
      | file c => rfl
      | folder d => simp [walk_cons, walk]

/-- What is read is the content of the file that the path stands for. -/
theorem read_eq_ok_iff {t : FileTree} {p : Path} {b : Bytes} :
    t.read p = .ok b ↔ t.resolve p = .ok (.file b) := by
  unfold read
  split <;> simp_all

/-- What can be read is a file. -/
theorem isFile_iff {t : FileTree} {p : Path} : t.isFile p = true ↔ ∃ b, t.read p = .ok b := by
  simp only [read_eq_ok_iff]
  unfold isFile
  split <;> simp_all

/-- The listed files of a directory. -/
theorem mem_filesBelow_iff {t : FileTree} {p : Path} {names : List (List Char)} :
    names ∈ t.filesBelow p ↔
      ∃ d b, t.resolve p = .ok (.folder d) ∧ (names, b) ∈ d.files ∧ canList p names.dropLast := by
  unfold filesBelow
  split
  · rename_i d h
    simp [h, List.mem_filter]
  · rename_i h
    simp only [List.not_mem_nil, false_iff]
    rintro ⟨d, b, hd, -⟩
    exact h d hd

/-- The directory of a file whose path is not too long can be listed. -/
theorem canList_dropLast {base c : Path} (hc : c.toList.head? ≠ some '/')
    (h : Text.byteCount (base.join c).toList < maxPath) :
    canList base (Text.pieces '/' c.toList).dropLast := by
  obtain ⟨last, hlast⟩ := Text.joined_dropLast_isPrefix '/' (Text.pieces '/' c.toList)
  rw [Text.joined_pieces] at hlast
  set dir := Text.joined '/' (Text.pieces '/' c.toList).dropLast with hdir
  have hrel : (String.ofList dir).toList.head? ≠ some '/' := by
    rw [String.toList_ofList]
    intro hs
    apply hc
    rw [← hlast, List.head?_append, hs]
    rfl
  unfold canList
  rw [← hdir, Path.join_eq_stem base hrel, Bool.or_eq_true, decide_eq_true_eq]
  right
  rw [Path.join_eq_stem base hc, String.toList_append, Text.byteCount_append, ← hlast,
    Text.byteCount_append] at h
  rw [String.toList_append, Text.byteCount_append, String.toList_ofList]
  omega

/-- A row of names joined to a directory is a file's exactly if the names are listed there and the
joined path is not too long. -/
theorem isFile_join_iff {t : FileTree} {base c : Path} (hb : base ≠ "") (hc : c.Plain) :
    t.isFile (base.join c) = true ↔
      Text.pieces '/' c.toList ∈ t.filesBelow base ∧
        Text.byteCount (base.join c).toList < maxPath := by
  have hrel := Path.head?_of_plain hc
  obtain ⟨above, hw⟩ := walk_join t hb hrel
  have hcount := Path.byteCount_le_join hb hrel
  simp only [isFile_iff, read_eq_ok_iff]
  constructor
  · rintro ⟨b, hr⟩
    obtain ⟨hnul, -, hlen, hwalk⟩ := resolve_eq_ok_iff.1 hr
    refine ⟨mem_filesBelow_iff.2 ?_, hlen⟩
    -- The file stands below a directory, which is the one at the base path.
    rw [hw] at hwalk
    split at hwalk
    · rename_i d hd
      have hres : t.resolve base = .ok (.folder d) := by
        rw [resolve_eq_ok_iff]
        rw [Path.mem_join hb hrel] at hnul
        exact ⟨fun h => hnul (Or.inl h), hb, by omega, hd⟩
      exact ⟨d, b, hres, (walk_eq_file_iff (wellFormed_of_resolve hres) hc).1 hwalk,
        canList_dropLast hrel hlen⟩
    · cases hwalk
    · cases hwalk
  · rintro ⟨hlist, hlen⟩
    obtain ⟨d, b, hres, hfile, -⟩ := mem_filesBelow_iff.1 hlist
    obtain ⟨hnul, -, -, hwalk⟩ := resolve_eq_ok_iff.1 hres
    have hd := wellFormed_of_resolve hres
    refine ⟨b, resolve_eq_ok_iff.2 ⟨?_, ?_, hlen, ?_⟩⟩
    · rw [Path.mem_join hb hrel]
      rintro (h | h | h)
      · exact hnul h
      · simp at h
      · rw [← Text.joined_pieces '/' c.toList] at h
        rcases Text.mem_joined h with h | ⟨n, hn, hin⟩
        · simp at h
        · exact (Folder.not_mem_of_isName (Folder.isName_of_mem_files hd hfile n hn)).2.1 hin
    · exact Path.join_ne_empty hb hrel
    · rw [hw, hwalk]
      exact (walk_eq_file_iff hd hc).2 hfile

/-- A root directory with one file, which is the current directory. -/
def single (name : String) (content : Bytes) (h : Folder.isName name.toList) : FileTree :=
  ⟨.file name.toList content .empty, [], ⟨h, rfl, trivial⟩, rfl⟩

section

variable {name : String} {content : Bytes} {h : Folder.isName name.toList}

/-- The only file of a tree is read under its name. -/
theorem read_single : (single name content h).read (Path.join "." name) = .ok content := by
  obtain ⟨hslash, hnul, hlen⟩ := Folder.not_mem_of_isName h
  have hplain := Folder.isPlain_of_isName h
  have hjoin : (Path.join "." name).toList = ['.', '/'] ++ name.toList :=
    Path.toList_join_of_getLast (by decide) (by decide) (Path.head?_of_not_mem hslash)
  have hpieces : Text.pieces '/' (['.', '/'] ++ name.toList) = [['.'], name.toList] := by
    have hcut := Text.pieces_append_cons '/' ['.'] name.toList
    rw [Text.pieces_of_not_mem hslash] at hcut
    exact hcut
  have hstart : (single name content h).start (Path.join "." name) = [] := by
    unfold start
    split <;> rfl
  have hget : (single name content h).top.get? name.toList = some (.file content) := if_pos rfl
  refine read_eq_ok_iff.2 (resolve_eq_ok_iff.2 ⟨?_, ?_, ?_, ?_⟩)
  · rw [hjoin]
    simpa using hnul
  · rw [ne_eq, ← String.toList_inj, hjoin]
    simp
  · have htwo : Text.byteCount ['.', '/'] = 2 := by decide
    have hmax : maxPath = 4096 := rfl
    have hlongest : Folder.maxName = 255 := rfl
    rw [hjoin, Text.byteCount_append]
    omega
  · rw [hjoin, hpieces, hstart]
    show walk [] (single name content h).top [['.'], name.toList] = _
    rw [walk_cons, if_pos (.inr rfl), walk_cons, if_neg (by simp [hplain.1, hplain.2.1]),
      if_neg hplain.2.2, if_neg (by omega), hget]

/-- The only file of a tree is named by no other row of names. -/
theorem isFile_single_iff {p : Path} (hp : p.Plain) :
    (single name content h).isFile (Path.join "." p) = true ↔ p = name := by
  refine ⟨fun hfile => ?_, fun heq => heq ▸ isFile_iff.2 ⟨content, read_single⟩⟩
  obtain ⟨hlist, -⟩ := (isFile_join_iff (by decide) hp).1 hfile
  obtain ⟨d, b, hres, hmem, -⟩ := mem_filesBelow_iff.1 hlist
  have hpath : Text.pieces '/' ".".toList = [['.']] := rfl
  have hroot : (single name content h).resolve "." = .ok (.folder (single name content h).top) := by
    refine resolve_eq_ok_iff.2 ⟨by decide, by decide, by decide, ?_⟩
    rw [hpath]
    show walk [] _ [['.']] = _
    rw [walk_cons, if_pos (.inr rfl), walk]
    rfl
  obtain rfl : (single name content h).top = d := by
    rw [hroot] at hres
    cases hres
    rfl
  have hpieces : Text.pieces '/' p.toList = [name.toList] := by
    have hfiles : (single name content h).top.files = [([name.toList], content)] := rfl
    rw [hfiles, List.mem_singleton] at hmem
    exact congrArg Prod.fst hmem
  exact String.toList_inj.1 (Text.eq_of_pieces_eq_singleton hpieces).symm

end

end FileTree

end BrowserShell
