/-!
# TOML values

What a TOML text says: a table of values by key. A table knows how it came about, since that decides
what may still be added to it while the text is read.
-/

namespace BrowserShell.Toml

/-- How a table came about. -/
inductive Origin where
  /-- It stands in braces, and nothing can be added to it. -/
  | braced
  /-- It has a header of its own. -/
  | defined
  /-- The header of a table below it names it. -/
  | implied
  /-- A dotted key names it. -/
  | dotted
deriving DecidableEq, Repr

/-- A value. -/
inductive Value where
  /-- A string. -/
  | string (text : String)
  /-- A whole number. -/
  | integer (n : Int)
  /-- A number with a fraction or an exponent, or none at all, as it is written. -/
  | float (written : String)
  /-- A truth value. -/
  | boolean (b : Bool)
  /-- A date, a time, or both, as it is written. -/
  | time (written : String)
  /-- A list of values in brackets. -/
  | array (items : List Value)
  /-- A table. -/
  | table (origin : Origin) (entries : List (String × Value))
  /-- The tables of the headers with one name in double brackets. -/
  | tables (elements : List (List (String × Value)))
deriving Repr

/-- The entries of a table: values by key, in the order of their first mention. -/
abbrev Table := List (String × Value)

namespace Table

/-- The value of a key. -/
def get? (t : Table) (key : String) : Option Value := (t.find? fun e => e.1 = key).map Prod.snd

/-- The table with a value for a key, in place of the one it had. -/
def put (t : Table) (key : String) (v : Value) : Table :=
  if (t.get? key).isSome then t.map fun e => if e.1 = key then (key, v) else e
  else t ++ [(key, v)]

end Table

end BrowserShell.Toml
