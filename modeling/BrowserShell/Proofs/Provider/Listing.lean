import BrowserShell.Proofs.Page.Candidates
import BrowserShell.Proofs.Provider.Index

/-!
# The index is the file tree

The index of a directory is the listing of its files (`build_iff_files`): a contained path is in it
exactly if its segments are the names on the way to a file, and its pages are the files' paths, one
for each file, in the increasing order of their bytes. The base may be spelled in any way. All of
this is about trees of directories and files without links, whose names are texts, and about a walk
that comes by everything in a directory that it can list, once.

On disk a page of the index is a file as well, but for one thing: the walk stays below the limit on
the length of a path with the directories that it lists, and not with the files in them. A file
whose joined path reaches the limit is listed and cannot be opened (`contains_of_not_isFile`).
-/

namespace BrowserShell

namespace Folder

/-- A directory lists no file twice. -/
theorem nodup_files {d : Folder} (hd : d.WellFormed) : (d.files.map Prod.fst).Nodup := by
  -- A name of the other entries is not the name of this one.
  have hother : ∀ {n : List Char} {names : List (List Char)} {others : Folder},
      others.WellFormed → others.get? n = none → n :: names ∉ others.files.map Prod.fst := by
    intro n names others hwf hnone hmem
    obtain ⟨⟨_, content⟩, hfile, rfl⟩ := List.mem_map.1 hmem
    rcases (mem_files_cons hwf).1 hfile with ⟨-, hget⟩ | ⟨inner, hget, -⟩
    · rw [hnone] at hget
      cases hget
    · rw [hnone] at hget
      cases hget
  induction d with
  | empty => exact List.nodup_nil
  | file n content others ih =>
    rw [files, List.map_cons, List.nodup_cons]
    exact ⟨hother hd.2.2 hd.2.1, ih hd.2.2⟩
  | folder n inner others ihinner ih =>
    have hinner : ((inner.files.map Prod.fst).map (n :: ·)).Nodup :=
      List.Pairwise.map _ (fun _ _ hne heq => hne (List.cons.inj heq).2) (ihinner hd.2.2.1)
    rw [List.map_map] at hinner
    rw [files, List.map_append, List.map_map, List.nodup_append]
    refine ⟨hinner, ih hd.2.2.2, ?_⟩
    intro names hnames names' hnames' heq
    obtain ⟨⟨rest, content⟩, -, rfl⟩ := List.mem_map.1 hnames
    exact hother hd.2.2.2 hd.2.1 (heq ▸ hnames')

end Folder

namespace PageIndex

/-- The path that the names on the way to a file spell. -/
def pathOf (names : List (List Char)) : String := String.ofList (Text.joined '/' names)

/-- The names on the way to a listed file are the segments of its path. -/
theorem pieces_pathOf {d : Folder} (hd : d.WellFormed) {names : List (List Char)}
    (h : names ∈ d.files.map Prod.fst) : Text.pieces '/' (pathOf names).toList = names := by
  obtain ⟨⟨_, content⟩, hfile, rfl⟩ := List.mem_map.1 h
  rw [pathOf, String.toList_ofList]
  refine Text.pieces_joined (Folder.ne_nil_of_mem_files hfile) fun n hn => ?_
  exact (Folder.not_mem_of_isName (Folder.isName_of_mem_files hd hfile n hn)).1

/-- The pages of an index are in the increasing order of their bytes. -/
theorem pairwise_ofList (paths : List String) :
    (ofList paths).pages.Pairwise fun p q => Utf8.encode p < Utf8.encode q :=
  (Text.sorted_distinct (Text.pairwise_le_mergeSort paths)).imp Utf8.encode_lt

/-- The pages of an index of different paths are these. -/
theorem perm_ofList {paths : List String} (h : paths.Nodup) : (ofList paths).pages.Perm paths := by
  have hsorted := Text.sorted_distinct (Text.pairwise_le_mergeSort paths)
  refine (List.perm_ext_iff_of_nodup (hsorted.imp ?_) h).2 fun p => ?_
  · intro p q hpq heq
    exact String.lt_irrefl q (heq ▸ hpq)
  · exact (Text.mem_distinct _).trans List.mem_mergeSort

/-- The pages of a directory's index: a path for each file in a directory that can be listed. -/
theorem perm_build {t : FileTree} {base : Path} {d : Folder}
    (h : t.resolve base = .ok (.folder d)) :
    (build t base).pages.Perm
      (((d.files.map Prod.fst).filter fun names => FileTree.canList base names.dropLast).map
        pathOf) := by
  have hd := FileTree.wellFormed_of_resolve h
  have hlisted : t.filesBelow base =
      (d.files.map Prod.fst).filter fun names => FileTree.canList base names.dropLast := by
    rw [FileTree.filesBelow, h]
  have hnodup : ((t.filesBelow base).map pathOf).Nodup := by
    rw [hlisted, List.Nodup, List.pairwise_map]
    refine ((Folder.nodup_files hd).filter _).imp_of_mem ?_
    intro names names' hnames hnames' hne heq
    apply hne
    rw [← pieces_pathOf hd (List.mem_filter.1 hnames).1, heq,
      pieces_pathOf hd (List.mem_filter.1 hnames').1]
  rw [← hlisted]
  exact perm_ofList hnodup

/-- The index of a directory in a tree without links is the listing of its files. A path is in the
index exactly if its segments lead from the directory to a file, in a directory whose path is short
enough to be listed, and a contained path is a file's on disk if moreover its own path is. The pages
are the paths in the index, in the increasing order of their bytes, one for each of these files. -/
theorem build_iff_files (t : FileTree) {base : Path} (hb : base ≠ "") :
    (∀ p, (build t base).contains p = true ↔
      ∃ d content, t.resolve base = .ok (.folder d) ∧
        (Text.pieces '/' p.toList, content) ∈ d.files ∧
        FileTree.canList base (Text.pieces '/' p.toList).dropLast) ∧
    (∀ p, Page.isContained p →
      (t.isFile (base.join p) = true ↔
        (build t base).contains p = true ∧
          Text.byteCount (base.join p).toList < FileTree.maxPath)) ∧
    (∀ p, p ∈ (build t base).pages ↔ (build t base).contains p = true) ∧
    (build t base).pages.Pairwise (fun p q => Utf8.encode p < Utf8.encode q) ∧
    ∀ d, t.resolve base = .ok (.folder d) →
      (build t base).pages.Perm
        (((d.files.map Prod.fst).filter fun names => FileTree.canList base names.dropLast).map
          pathOf) := by
  refine ⟨fun p => ?_, fun p hp => ?_, fun p => ?_, pairwise_ofList _, fun d => perm_build⟩
  · rw [contains_build_iff, FileTree.mem_filesBelow_iff]
  · exact isFile_iff_contains hb (Page.isContained_iff.1 hp).2
  · rw [contains, List.contains_iff_mem]

/-- A root directory with one file. -/
def oneFile : FileTree := .single "abcdef" [] (by decide)

/-- The file of a directory is a page of its index, and a file on disk. -/
theorem build_iff_files_oneFile :
    ("." : Path) ≠ "" ∧ (build oneFile ".").contains "abcdef" = true ∧
      oneFile.isFile (Path.join "." "abcdef") = true := by
  have hne : ("." : Path) ≠ "" := by decide
  obtain ⟨hpage, hfile, -⟩ := build_iff_files oneFile hne
  have hcontains : (build oneFile ".").contains "abcdef" = true :=
    (hpage "abcdef").2 ⟨oneFile.top, [], rfl, List.mem_cons_self, rfl⟩
  exact ⟨hne, hcontains, (hfile "abcdef" (by decide)).2 ⟨hcontains, by decide⟩⟩

/-- The path of `n` dots with a slash behind each. -/
def dots (n : Nat) : Path := String.ofList (List.replicate n ['.', '/']).flatten

/-- Dots take two bytes with their slashes. -/
theorem byteCount_dots (n : Nat) : Text.byteCount (dots n).toList = 2 * n := by
  rw [dots, String.toList_ofList]
  induction n with
  | zero => rfl
  | succ n ih =>
    have hdot : Text.byteCount ['.', '/'] = 2 := by decide
    rw [List.replicate_succ, List.flatten_cons, Text.byteCount_append, ih, hdot]
    omega

/-- Dots lead nowhere. -/
theorem walk_dots (above : List Folder) (d : Folder) (n : Nat) :
    FileTree.walk above d (Text.pieces '/' (dots n).toList) = .ok (.folder d) := by
  rw [dots, String.toList_ofList]
  induction n with
  | zero =>
    have hempty : Text.pieces '/' ([] : List Char) = [[]] := rfl
    rw [List.replicate_zero, List.flatten_nil, hempty, FileTree.walk_cons, if_pos (.inl rfl),
      FileTree.walk]
  | succ n ih =>
    have hpieces : Text.pieces '/' (List.replicate (n + 1) ['.', '/']).flatten =
        ['.'] :: Text.pieces '/' (List.replicate n ['.', '/']).flatten :=
      Text.pieces_append_cons '/' ['.'] _
    rw [hpieces, FileTree.walk_cons, if_pos (.inr rfl)]
    exact ih

/-- A row of names joined to a directory is no shorter than both together. -/
theorem byteCount_add_le_join (base : Path) {p : Path} (hp : p.Plain) :
    Text.byteCount base.toList + Text.byteCount p.toList ≤ Text.byteCount (base.join p).toList := by
  have hstem : Text.byteCount base.toList ≤ Text.byteCount base.stem.toList := by
    unfold Path.stem
    split
    · exact Nat.le_refl _
    · rw [String.toList_append, Text.byteCount_append]
      omega
  rw [Path.join_eq_stem base (Path.head?_of_plain hp), String.toList_append, Text.byteCount_append]
  omega

/-- A file that the index has need not be one for the disk: behind 2045 dots with their slashes the
path of a file with a name of six letters has 4096 bytes, one too many. -/
theorem contains_of_not_isFile :
    dots 2045 ≠ "" ∧ Page.isContained "abcdef" ∧
      (build oneFile (dots 2045)).contains "abcdef" = true ∧
      oneFile.isFile ((dots 2045).join "abcdef") = false := by
  have hcontained : Page.isContained "abcdef" := by decide
  have hplain := (Page.isContained_iff.1 hcontained).2
  have hne : dots 2045 ≠ "" := by
    intro h
    have hcount := byteCount_dots 2045
    rw [h] at hcount
    cases hcount
  have hres : oneFile.resolve (dots 2045) = .ok (.folder oneFile.top) := by
    refine FileTree.resolve_eq_ok_iff.2 ⟨?_, hne, ?_, ?_⟩
    · rw [dots, String.toList_ofList, List.mem_flatten]
      rintro ⟨l, hl, hnul⟩
      rw [List.eq_of_mem_replicate hl] at hnul
      exact absurd hnul (by decide)
    · rw [byteCount_dots]
      decide
    · have hstart : oneFile.start (dots 2045) = [] := by
        unfold FileTree.start
        split <;> rfl
      rw [hstart, List.nil_append]
      exact walk_dots [] _ 2045
  have hcontains : (build oneFile (dots 2045)).contains "abcdef" = true := by
    rw [contains_build_iff, FileTree.mem_filesBelow_iff]
    exact ⟨_, [], hres, List.mem_cons_self, rfl⟩
  refine ⟨hne, hcontained, hcontains, ?_⟩
  rw [← Bool.not_eq_true, isFile_iff_contains hne hplain]
  rintro ⟨-, hlt⟩
  have hle := byteCount_add_le_join (dots 2045) hplain
  have hname : Text.byteCount "abcdef".toList = 6 := by decide
  rw [byteCount_dots, hname] at hle
  have hmax : FileTree.maxPath = 4096 := rfl
  omega

end PageIndex

end BrowserShell
