import BrowserShell.Text.Split
import BrowserShell.Text.Utf8

/-!
# Directories

A directory as a value: its entries by name, each a file with its content or a directory, in the
order of their creation. `Folder.files` lists the files below it. `Folder.WellFormed` says what
holds of every directory on disk, that its entries have names that a file can have, no two alike;
what changes a directory keeps this.
-/

namespace BrowserShell

/-- A directory: its entries by name, each a file with its content or a directory. -/
inductive Folder where
  /-- No entry. -/
  | empty
  /-- A file, and the other entries. -/
  | file (name : List Char) (content : Bytes) (others : Folder)
  /-- A directory, and the other entries. -/
  | folder (name : List Char) (inner others : Folder)
deriving Repr

namespace Folder

/-- What a name stands for. -/
inductive Entry where
  /-- A file with its content. -/
  | file (content : Bytes)
  /-- A directory. -/
  | folder (inner : Folder)

/-- The entry of this name. -/
def get? (name : List Char) : Folder → Option Entry
  | .empty => none
  | .file n content others => if n = name then some (.file content) else others.get? name
  | .folder n inner others => if n = name then some (.folder inner) else others.get? name

/-- The directory without the entry of this name. -/
def erase (name : List Char) : Folder → Folder
  | .empty => .empty
  | .file n content others =>
    if n = name then others.erase name else .file n content (others.erase name)
  | .folder n inner others =>
    if n = name then others.erase name else .folder n inner (others.erase name)

/-- The directory with a file of this name and content in place of what had the name; a directory
keeps its name. -/
def put (name : List Char) (content : Bytes) : Folder → Folder
  | .empty => .file name content .empty
  | .file n old others =>
    if n = name then .file n content others else .file n old (others.put name content)
  | .folder n inner others =>
    if n = name then .folder n inner others else .folder n inner (others.put name content)

/-- The directory with the inner directory of this name replaced, or added where the name is free; a
file keeps its name. -/
def putFolder (name : List Char) (new : Folder) : (d : Folder) → Folder
  | .empty => .folder name new .empty
  | .file n content others =>
    if n = name then .file n content others else .file n content (putFolder name new others)
  | .folder n inner others =>
    if n = name then .folder n new others else .folder n inner (putFolder name new others)

/-- Every file below the directory: the names on the way to it, and its content. -/
def files : Folder → List (List (List Char) × Bytes)
  | .empty => []
  | .file n content others => ([n], content) :: others.files
  | .folder n inner others =>
    inner.files.map (fun (names, content) => (n :: names, content)) ++ others.files

/-- The directory with a file written at the names, the directories on the way made as needed;
unchanged where a file stands in the way or a directory has the last name. -/
def write (content : Bytes) : (names : List (List Char)) → Folder → Folder
  | [], d => d
  | [n], d => d.put n content
  | n :: m :: names, d =>
    match d.get? n with
    | none => putFolder n (write content (m :: names) .empty) d
    | some (.folder inner) => putFolder n (write content (m :: names) inner) d
    | some (.file _) => d

/-- The directory with directories made at the names as far as they are missing. -/
def make : (names : List (List Char)) → Folder → Folder
  | [], d => d
  | n :: names, d =>
    match d.get? n with
    | none => putFolder n (make names .empty) d
    | some (.folder inner) => putFolder n (make names inner) d
    | some (.file _) => d

/-- The directory without what stands at the names. -/
def remove : (names : List (List Char)) → Folder → Folder
  | [], _ => .empty
  | [n], d => d.erase n
  | n :: m :: names, d =>
    match d.get? n with
    | some (.folder inner) => putFolder n (remove (m :: names) inner) d
    | _ => d

/-! ## Directories on disk -/

/-- The longest name of a file, in bytes. -/
def maxName : Nat := 255

/-- Whether an entry can have this name: it is neither empty nor one or two dots, it has no slash
and no NUL, and it is not too long. -/
def isName (n : List Char) : Bool :=
  n != [] && n != ['.'] && n != ['.', '.'] && !n.contains '/' && !n.contains '\x00' &&
    Text.byteCount n ≤ maxName

/-- Whether a directory can stand on disk: its entries, and those of the directories in it, have
names that an entry can have, and no two entries of a directory have the same. -/
def WellFormed : Folder → Prop
  | .empty => True
  | .file n _ others => isName n ∧ others.get? n = none ∧ others.WellFormed
  | .folder n inner others =>
    isName n ∧ others.get? n = none ∧ inner.WellFormed ∧ others.WellFormed

/-- A directory in a well-formed one is well formed. -/
theorem WellFormed.of_get? {n : List Char} {d inner : Folder} (hd : d.WellFormed)
    (h : d.get? n = some (.folder inner)) : inner.WellFormed := by
  induction d with
  | empty => simp [get?] at h
  | file m c others ih =>
    simp only [get?] at h
    split at h
    · simp at h
    · exact ih hd.2.2 h
  | folder m i others _ ih =>
    simp only [get?] at h
    split at h
    · cases h; exact hd.2.2.1
    · exact ih hd.2.2.2 h

/-- Writing a file leaves the other names as they are. -/
theorem get?_put_of_ne {n m : List Char} (c : Bytes) (h : n ≠ m) (d : Folder) :
    (d.put n c).get? m = d.get? m := by
  induction d with
  | empty => simp [put, get?, h]
  | file k old others ih => by_cases hk : k = n <;> grind [put, get?]
  | folder k inner others _ ih => by_cases hk : k = n <;> grind [put, get?]

/-- Replacing a directory leaves the other names as they are. -/
theorem get?_putFolder_of_ne {n m : List Char} (new : Folder) (h : n ≠ m) (d : Folder) :
    (putFolder n new d).get? m = d.get? m := by
  induction d with
  | empty => simp [putFolder, get?, h]
  | file k old others ih => by_cases hk : k = n <;> grind [putFolder, get?]
  | folder k inner others _ ih => by_cases hk : k = n <;> grind [putFolder, get?]

/-- A name that is free stays free when an entry is erased. -/
theorem get?_erase_of_none {n m : List Char} {d : Folder} (h : d.get? m = none) :
    (d.erase n).get? m = none := by
  induction d with
  | empty => rfl
  | file k c others ih => grind [erase, get?]
  | folder k inner others _ ih => grind [erase, get?]

/-- Writing a file keeps a directory well formed. -/
theorem WellFormed.put {n : List Char} {d : Folder} (hd : d.WellFormed) (hn : isName n) (c : Bytes) :
    (d.put n c).WellFormed := by
  induction d with
  | empty => exact ⟨hn, rfl, trivial⟩
  | file k old others ih =>
    unfold Folder.put
    split
    · exact hd
    · rename_i hk
      exact ⟨hd.1, by rw [get?_put_of_ne c (Ne.symm hk)]; exact hd.2.1, ih hd.2.2⟩
  | folder k inner others _ ih =>
    unfold Folder.put
    split
    · exact hd
    · rename_i hk
      exact ⟨hd.1, by rw [get?_put_of_ne c (Ne.symm hk)]; exact hd.2.1, hd.2.2.1, ih hd.2.2.2⟩

/-- Putting a well-formed directory into one keeps it well formed. -/
theorem WellFormed.putFolder {n : List Char} {d new : Folder} (hd : d.WellFormed) (hn : isName n)
    (hnew : new.WellFormed) : (Folder.putFolder n new d).WellFormed := by
  induction d with
  | empty => exact ⟨hn, rfl, hnew, trivial⟩
  | file k old others ih =>
    unfold Folder.putFolder
    split
    · exact hd
    · rename_i hk
      exact ⟨hd.1, by rw [get?_putFolder_of_ne new (Ne.symm hk)]; exact hd.2.1, ih hd.2.2⟩
  | folder k inner others _ ih =>
    unfold Folder.putFolder
    split
    · exact ⟨hd.1, hd.2.1, hnew, hd.2.2.2⟩
    · rename_i hk
      exact ⟨hd.1, by rw [get?_putFolder_of_ne new (Ne.symm hk)]; exact hd.2.1, hd.2.2.1,
        ih hd.2.2.2⟩

/-- Erasing an entry keeps a directory well formed. -/
theorem WellFormed.erase (n : List Char) {d : Folder} (hd : d.WellFormed) :
    (d.erase n).WellFormed := by
  induction d with
  | empty => trivial
  | file k c others ih =>
    unfold Folder.erase
    split
    · exact ih hd.2.2
    · exact ⟨hd.1, get?_erase_of_none hd.2.1, ih hd.2.2⟩
  | folder k inner others _ ih =>
    unfold Folder.erase
    split
    · exact ih hd.2.2.2
    · exact ⟨hd.1, get?_erase_of_none hd.2.1, hd.2.2.1, ih hd.2.2.2⟩

/-- Writing a file below keeps a directory well formed. -/
theorem WellFormed.write (c : Bytes) (names : List (List Char)) {d : Folder}
    (hn : names.all isName) (hd : d.WellFormed) : (Folder.write c names d).WellFormed := by
  induction names generalizing d with
  | nil => exact hd
  | cons n names ih =>
    simp only [List.all_cons, Bool.and_eq_true] at hn
    cases names with
    | nil => exact hd.put hn.1 c
    | cons m names =>
      unfold Folder.write
      split
      · exact hd.putFolder hn.1 (ih hn.2 (d := .empty) trivial)
      · rename_i h
        exact hd.putFolder hn.1 (ih hn.2 (hd.of_get? h))
      · exact hd

/-- Making directories below keeps a directory well formed. -/
theorem WellFormed.make (names : List (List Char)) {d : Folder} (hn : names.all isName)
    (hd : d.WellFormed) : (Folder.make names d).WellFormed := by
  induction names generalizing d with
  | nil => exact hd
  | cons n names ih =>
    simp only [List.all_cons, Bool.and_eq_true] at hn
    unfold Folder.make
    split
    · exact hd.putFolder hn.1 (ih hn.2 (d := .empty) trivial)
    · rename_i h
      exact hd.putFolder hn.1 (ih hn.2 (hd.of_get? h))
    · exact hd

/-- Removing what stands below keeps a directory well formed. -/
theorem WellFormed.remove (names : List (List Char)) {d : Folder} (hn : names.all isName)
    (hd : d.WellFormed) : (Folder.remove names d).WellFormed := by
  induction names generalizing d with
  | nil => trivial
  | cons n names ih =>
    simp only [List.all_cons, Bool.and_eq_true] at hn
    cases names with
    | nil => exact hd.erase n
    | cons m names =>
      unfold Folder.remove
      split
      · rename_i h
        exact hd.putFolder hn.1 (ih hn.2 (hd.of_get? h))
      · exact hd

end Folder

end BrowserShell
