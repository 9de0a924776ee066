import BrowserShell.Text.Split

/-!
# Targets of HTTP requests

What a request asks for: a path and query, these after a scheme and an authority, an authority
alone, or a star. `Target.parse?` reads one; a fragment is dropped, and nothing is decoded or
resolved.
-/

namespace BrowserShell.Http

/-- What a request asks for. -/
structure Target where
  /-- The scheme, if there is one. -/
  scheme : Option String
  /-- The authority, empty if there is none. -/
  authority : String
  /-- The path and query as written. -/
  pathAndQuery : String
deriving DecidableEq, Repr

namespace Target

/-- The longest target, in bytes. -/
def maxLength : Nat := 65534

/-- The longest scheme. -/
def maxScheme : Nat := 64

/-- Whether a character may stand in a scheme. -/
def isSchemeChar (c : Char) : Bool := c.isAlphanum || c = '+' || c = '-' || c = '.'

/-- Whether a character may stand in a path. -/
def isPathChar (c : Char) : Bool :=
  '!' ≤ c && c != '#' && c != '<' && c != '>' && c != '?' && c != '\x60'

/-- Whether a character may stand in a query. -/
def isQueryChar (c : Char) : Bool := '!' ≤ c && c != '"' && c != '#' && c != '<' && c != '>'

/-- Whether a character may stand in an authority, brackets, colons and such included. -/
def isAuthorityChar (c : Char) : Bool :=
  c.isAlphanum || "!$&'()*+,-.:;=@[]_~%".toList.contains c

/-- What is known of an authority after some of its characters. -/
structure AuthorityScan where
  /-- The count of colons since the last `@` or `]`. -/
  colons : Nat
  /-- Whether there was an opening bracket. -/
  opened : Bool
  /-- Whether there was a closing bracket. -/
  closed : Bool
  /-- Whether there was a percent sign since the last `@` or `]`. -/
  percent : Bool
deriving DecidableEq, Repr

/-- What is known after one more character, none if it cannot stand there. -/
def AuthorityScan.step? (a : AuthorityScan) (c : Char) : Option AuthorityScan :=
  if !isAuthorityChar c then none
  else if c = ':' then if a.colons < 8 then some { a with colons := a.colons + 1 } else none
  else if c = '[' then if a.percent ∨ a.opened then none else some { a with opened := true }
  else if c = ']' then
    if !a.opened ∨ a.closed then none
    else some { a with closed := true, colons := 0, percent := false }
  else if c = '@' then some { a with colons := 0, percent := false }
  else if c = '%' then some { a with percent := true }
  else some a

/-- Whether some characters are an authority, or none at all: brackets come in a pair, there is at
most one colon outside, percent signs stand in the user's name only, and something follows that. -/
def isAuthority (cs : List Char) : Bool :=
  match cs.foldlM AuthorityScan.step? ⟨0, false, false, false⟩ with
  | none => false
  | some a => a.opened == a.closed && a.colons ≤ 1 && !a.percent && cs.getLast? != some '@'

/-- The path and query that some characters are, up to a fragment. -/
def pathAndQuery? (cs : List Char) : Option (List Char) :=
  let text := cs.takeWhile (· ≠ '#')
  let path := text.takeWhile (· ≠ '?')
  let query := text.drop (path.length + 1)
  if path.all isPathChar ∧ query.all isQueryChar then some text else none

/-- The scheme at the beginning of a text, if there is one, and the text after it and its slashes. A
scheme that is too long is an error. -/
def scheme? (cs : List Char) : Option (Option (List Char) × List Char) :=
  let name := cs.takeWhile isSchemeChar
  match cs.drop name.length with
  | ':' :: '/' :: '/' :: rest =>
    if maxScheme < name.length then none else some (some name, rest)
  | _ => some (none, cs)

/-- The target that a text is. -/
def parse? (s : String) : Option Target := do
  let cs := s.toList
  if maxLength < Text.byteCount cs ∨ cs = [] then none
  else if cs = ['*'] then return ⟨none, "", "*"⟩
  else if cs.head? = some '/' then return ⟨none, "", String.ofList (← pathAndQuery? cs)⟩
  else
    let (scheme, rest) ← scheme? cs
    let authority := rest.takeWhile fun c => c != '/' && c != '?' && c != '#'
    if !isAuthority authority then none
    else
      match scheme with
      | none => if authority = rest then return ⟨none, s, ""⟩ else none
      | some scheme =>
        if authority = [] then none
        else
          let path ← pathAndQuery? (rest.drop authority.length)
          return ⟨some (String.ofList scheme), String.ofList authority, String.ofList path⟩

/-- The path as written: a slash where a target with a scheme has none, and nothing where it is an
authority alone. -/
def path (t : Target) : String :=
  let p := t.pathAndQuery.toList.takeWhile (· ≠ '?')
  if p ≠ [] then String.ofList p
  else if t.pathAndQuery = "" ∧ t.scheme = none then ""
  else "/"

/-- The path and query that a server is asked for: a slash if there is none. -/
def origin (t : Target) : String := if t.pathAndQuery = "" then "/" else t.pathAndQuery

/-- The text of a target. -/
def render (t : Target) : String :=
  (t.scheme.map (· ++ "://")).getD "" ++ t.authority ++ t.path ++
    String.ofList (t.pathAndQuery.toList.dropWhile (· ≠ '?'))

end Target

end BrowserShell.Http
