import BrowserShell.Proofs.File.Walk
import BrowserShell.Proofs.Text.Order
import BrowserShell.Provider.Index

/-!
# What an index has

The index of a directory has the paths whose names are listed (`contains_build_iff`). A row of names
that it has is a file's on disk, unless the joined path is too long (`isFile_iff_contains`), and
other paths than rows of names it does not have (`plain_of_contains`).
-/

namespace BrowserShell.PageIndex

/-- The index of some paths has just these. -/
theorem contains_ofList {paths : List String} {c : String} :
    (ofList paths).contains c = true ↔ c ∈ paths := by
  unfold contains ofList
  rw [List.contains_iff_mem, Text.mem_distinct, List.mem_mergeSort]

/-- The index of a directory has the paths whose names are listed below it. -/
theorem contains_build_iff {t : FileTree} {base : Path} {c : String} :
    (build t base).contains c = true ↔ Text.pieces '/' c.toList ∈ t.filesBelow base := by
  unfold build
  rw [contains_ofList, List.mem_map]
  constructor
  · rintro ⟨names, hnames, rfl⟩
    obtain ⟨d, b, hres, hfile, -⟩ := FileTree.mem_filesBelow_iff.1 hnames
    have hd := FileTree.wellFormed_of_resolve hres
    rw [String.toList_ofList, Text.pieces_joined (Folder.ne_nil_of_mem_files hfile)]
    · exact hnames
    · exact fun n hn => (Folder.not_mem_of_isName (Folder.isName_of_mem_files hd hfile n hn)).1
  · intro h
    exact ⟨_, h, by rw [Text.joined_pieces, String.ofList_toList]⟩

/-- What an index has is a row of names. -/
theorem plain_of_contains {t : FileTree} {base : Path} {c : String}
    (h : (build t base).contains c = true) : Path.Plain c := by
  obtain ⟨d, b, hres, hfile, -⟩ := FileTree.mem_filesBelow_iff.1 (contains_build_iff.1 h)
  have hd := FileTree.wellFormed_of_resolve hres
  exact fun n hn => Folder.isPlain_of_isName (Folder.isName_of_mem_files hd hfile n hn)

/-- Without a path there is no index. -/
theorem contains_build_empty (t : FileTree) (c : String) : (build t "").contains c = false := by
  rw [← Bool.not_eq_true, contains_build_iff]
  intro h
  obtain ⟨d, b, hres, -⟩ := FileTree.mem_filesBelow_iff.1 h
  exact (FileTree.resolve_eq_ok_iff.1 hres).2.1 rfl

/-- A row of names is a file's on disk if the index has it and the joined path is not too long. -/
theorem isFile_iff_contains {t : FileTree} {base : Path} {c : String} (hb : base ≠ "")
    (hc : Path.Plain c) :
    t.isFile (base.join c) = true ↔
      (build t base).contains c = true ∧ Text.byteCount (base.join c).toList < FileTree.maxPath := by
  rw [FileTree.isFile_join_iff hb hc, contains_build_iff]

/-- A row of names that the index does not have is no file's on disk. -/
theorem isFile_of_not_contains {t : FileTree} {base : Path} {c : String} (hb : base ≠ "")
    (hc : Path.Plain c) (h : (build t base).contains c = false) :
    t.isFile (base.join c) = false := by
  rw [← Bool.not_eq_true, isFile_iff_contains hb hc, h]
  simp

/-- No index has a row of names behind a dot. -/
theorem not_contains_dot {t : FileTree} {base : Path} (rest : String) :
    (build t base).contains ("./" ++ rest) = false := by
  rw [← Bool.not_eq_true]
  intro h
  have hdot := plain_of_contains h ['.'] (by simp [String.toList_append, Text.pieces])
  exact hdot.2.1 rfl

end BrowserShell.PageIndex
