import BrowserShell.File.Tree

/-!
# Access to files

A computation that asks the file system is kept as the questions it asks, each with what it does
next for each answer. `Access.run` answers the questions by a tree; `Access.trace` tells which were
asked and what was answered, so that what a computation touches can be spoken of.
-/

namespace BrowserShell

/-- A computation that asks which paths are files and what the files hold. -/
inductive Access (α : Type) where
  /-- The result. -/
  | done (a : α)
  /-- Asks whether a path is a file's. -/
  | test (p : Path) (next : Bool → Access α)
  /-- Asks for the content of the file at a path. -/
  | load (p : Path) (next : Except FileTree.ReadError Bytes → Access α)

namespace Access

variable {α β : Type}

/-- A computation, and then another on its result. -/
def bind (x : Access α) (f : α → Access β) : Access β :=
  match x with
  | .done a => f a
  | .test p next => .test p fun answer => (next answer).bind f
  | .load p next => .load p fun answer => (next answer).bind f

instance : Monad Access where
  pure := .done
  bind := .bind

/-- Whether the path is a file's. -/
def isFile (p : Path) : Access Bool := .test p .done

/-- The content of the file at the path. -/
def read (p : Path) : Access (Except FileTree.ReadError Bytes) := .load p .done

/-- The content of the file at the path, empty if it cannot be read. -/
def content (p : Path) : Access Bytes := do
  match ← read p with
  | .ok content => return content
  | .error _ => return []

/-- The first of some paths that is a file's. -/
def firstFile : (paths : List Path) → Access (Option Path)
  | [] => return none
  | p :: ps => do
    if ← isFile p then return some p else firstFile ps

/-- The result where the files are those of a tree. -/
def run (t : FileTree) : Access α → α
  | .done a => a
  | .test p next => (next (t.isFile p)).run t
  | .load p next => (next (t.read p)).run t

/-- A question, with its answer. -/
inductive Event where
  /-- Whether a path was a file's. -/
  | tested (p : Path) (answer : Bool)
  /-- What the file at a path held. -/
  | loaded (p : Path) (answer : Except FileTree.ReadError Bytes)

/-- The path that was asked about. -/
def Event.path : Event → Path
  | .tested p _ | .loaded p _ => p

/-- The path and the content that were read, none where nothing was. -/
def Event.loaded? : Event → Option (Path × Bytes)
  | .loaded p (.ok content) => some (p, content)
  | _ => none

/-- The questions that are asked where the files are those of a tree, in their order. -/
def trace (t : FileTree) : Access α → List Event
  | .done _ => []
  | .test p next => .tested p (t.isFile p) :: (next (t.isFile p)).trace t
  | .load p next => .loaded p (t.read p) :: (next (t.read p)).trace t

/-- The paths that are asked about. -/
def paths (t : FileTree) (x : Access α) : List Path := (x.trace t).map Event.path

/-! ## Results and traces of compound computations -/

@[simp] theorem run_pure (t : FileTree) (a : α) : (pure a : Access α).run t = a := rfl

@[simp] theorem trace_pure (t : FileTree) (a : α) : (pure a : Access α).trace t = [] := rfl

@[simp] theorem run_bind (t : FileTree) (x : Access α) (f : α → Access β) :
    (x >>= f).run t = (f (x.run t)).run t := by
  show (x.bind f).run t = _
  induction x with
  | done a => rfl
  | test p next ih => exact ih _
  | load p next ih => exact ih _

@[simp] theorem trace_bind (t : FileTree) (x : Access α) (f : α → Access β) :
    (x >>= f).trace t = x.trace t ++ (f (x.run t)).trace t := by
  show (x.bind f).trace t = _
  induction x with
  | done a => rfl
  | test p next ih => exact congrArg _ (ih _)
  | load p next ih => exact congrArg _ (ih _)

@[simp] theorem run_isFile (t : FileTree) (p : Path) : (isFile p).run t = t.isFile p := rfl

@[simp] theorem trace_isFile (t : FileTree) (p : Path) :
    (isFile p).trace t = [.tested p (t.isFile p)] := rfl

@[simp] theorem run_read (t : FileTree) (p : Path) : (read p).run t = t.read p := rfl

@[simp] theorem trace_read (t : FileTree) (p : Path) :
    (read p).trace t = [.loaded p (t.read p)] := rfl

/-- The content is what is read, empty where reading fails. -/
@[simp] theorem run_content (t : FileTree) (p : Path) :
    (content p).run t = (t.read p).toOption.getD [] := by
  simp only [content, run_bind, run_read]
  cases t.read p <;> rfl

@[simp] theorem trace_content (t : FileTree) (p : Path) :
    (content p).trace t = [.loaded p (t.read p)] := by
  simp only [content, trace_bind, trace_read, run_read]
  cases t.read p <;> rfl

@[simp] theorem paths_pure (t : FileTree) (a : α) : (pure a : Access α).paths t = [] := rfl

@[simp] theorem paths_bind (t : FileTree) (x : Access α) (f : α → Access β) :
    (x >>= f).paths t = x.paths t ++ (f (x.run t)).paths t := by
  simp [paths]

@[simp] theorem paths_isFile (t : FileTree) (p : Path) : (isFile p).paths t = [p] := rfl

@[simp] theorem paths_content (t : FileTree) (p : Path) : (content p).paths t = [p] := by
  simp [paths, Event.path]

@[simp] theorem run_firstFile (t : FileTree) (ps : List Path) :
    (firstFile ps).run t = ps.find? t.isFile := by
  induction ps with
  | nil => rfl
  | cons p ps ih =>
    unfold firstFile
    cases hp : t.isFile p <;> simp [hp, ih]

/-- The paths are tested up to the first that is a file's. -/
theorem paths_firstFile_cons (t : FileTree) (p : Path) (ps : List Path) :
    (firstFile (p :: ps)).paths t = p :: if t.isFile p then [] else (firstFile ps).paths t := by
  rw [firstFile]
  cases hp : t.isFile p <;> simp [hp]

/-- No other paths are tested. -/
theorem mem_of_mem_paths_firstFile {t : FileTree} {p : Path} {ps : List Path}
    (h : p ∈ (firstFile ps).paths t) : p ∈ ps := by
  induction ps with
  | nil => cases h
  | cons q ps ih =>
    rw [paths_firstFile_cons, List.mem_cons] at h
    rcases h with rfl | h
    · exact List.mem_cons_self
    · split at h
      · cases h
      · exact List.mem_cons_of_mem q (ih h)

end Access

end BrowserShell
