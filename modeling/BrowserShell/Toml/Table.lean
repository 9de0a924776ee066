import BrowserShell.Toml.Value

/-!
# Building TOML tables

What may be added to a table. A dotted key adds to tables that dotted keys made, on the way to its
value also through implied ones; a header defines a table once, and a header in double brackets
another element of its array. No key gets two values.
-/

namespace BrowserShell.Toml.Table

/-- The table with the last of the tables in it changed. -/
def onLast? (f : Table → Option Table) (elements : List Table) : Option Value :=
  match elements.getLast? with
  | some last => (f last).map fun t => .tables (elements.dropLast ++ [t])
  | none => none

/-- The table with a change made in the table at a path of headers: tables on the way are implied
where there are none, an array of tables stands for its last element, and tables in braces are
closed. -/
def change? (f : Table → Option Table) : (path : List String) → Table → Option Table
  | [], t => f t
  | k :: path, t => do
    let v ← match t.get? k with
      | none => (change? f path []).map (.table .implied)
      | some (.table .braced _) => none
      | some (.table origin inner) => (change? f path inner).map (.table origin)
      | some (.tables elements) => onLast? (change? f path) elements
      | some _ => none
    return t.put k v

/-- The table with a value for a key that has none. -/
def addNew? (key : String) (v : Value) (t : Table) : Option Table :=
  if (t.get? key).isSome then none else some (t.put key v)

/-- The table with a value for a dotted key, `path` being its parts before the last: the value goes
into a table that dotted keys made, and the way to it leads through no defined table. -/
def addDotted? (key : String) (v : Value) : (path : List String) → Table → Option Table
  | [], t => addNew? key v t
  | k :: path, t => do
    let isLast := path = []
    let inner ← match t.get? k with
      | none => (addDotted? key v path []).map (.table .dotted)
      | some (.table .dotted inner) => (addDotted? key v path inner).map (.table .dotted)
      | some (.table .implied inner) =>
        if isLast then none else (addDotted? key v path inner).map (.table .implied)
      | some (.tables elements) =>
        if isLast then none else onLast? (addDotted? key v path) elements
      | some _ => none
    return t.put k inner

/-- A key, its parts before the last and the last, and its value. -/
structure Pair where
  /-- The parts before the last. -/
  path : List String
  /-- The last part. -/
  key : String
  /-- The value. -/
  value : Value
deriving Repr

/-- The table with pairs added one after the other. -/
def addPairs? (pairs : List Pair) (t : Table) : Option Table :=
  pairs.foldlM (fun t p => addDotted? p.key p.value p.path t) t

/-- The table with the table of a header defined, the pairs after the header in it. An implied table
keeps what is in it. -/
def define? (key : String) (pairs : List Pair) (t : Table) : Option Table := do
  let inner ← match t.get? key with
    | none => addPairs? pairs []
    | some (.table .implied inner) => addPairs? pairs inner
    | some _ => none
  return t.put key (.table .defined inner)

/-- The table with another element in an array of tables, the pairs after the header in it. -/
def addElement? (key : String) (pairs : List Pair) (t : Table) : Option Table := do
  let element ← addPairs? pairs []
  match t.get? key with
  | none => return t.put key (.tables [element])
  | some (.tables elements) => return t.put key (.tables (elements ++ [element]))
  | some _ => none

end BrowserShell.Toml.Table
