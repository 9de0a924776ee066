import BrowserShell.Pattern.Matcher

/-!
# Rules

A rule puts its replacement in the place of what its pattern matches. A list of rules changes a body
by all of them in turn (`Rules.replaceAll`), and redirects a path by the first of them that matches
all of it (`Rules.redirect?`). A rule whose pattern is malformed does neither.
-/

namespace BrowserShell

open Pattern

/-- A rule as it is configured. -/
structure RuleText where
  /-- What is replaced. -/
  pattern : String
  /-- What takes its place. -/
  replacement : String
deriving DecidableEq, Repr, Inhabited

/-- A rule ready for use. -/
structure Rule where
  /-- The rule as it is configured. -/
  text : RuleText
  /-- What finds the pattern in a body, none if the pattern is malformed. -/
  finder : Option Matcher
  /-- What matches the pattern with a whole path, none if that is no pattern. -/
  whole : Option Matcher
  /-- The pieces of the replacement. -/
  template : List Template.Piece
deriving Repr

namespace Rule

/-- The pattern that matches what `pattern` matches, from the beginning to the end of a text. -/
def wholePattern (pattern : List Char) : List Char :=
  ['^', '(', '?', ':'] ++ pattern ++ [')', '$']

/-- The rule of a configured text. -/
def ofText (t : RuleText) : Rule :=
  let pattern := t.pattern.toList
  let finder := Matcher.ofChars? .bytes pattern
  { text := t
    finder := finder
    whole := finder.bind fun _ => Matcher.ofChars? .text (wholePattern pattern)
    template := Template.pieces (Template.braced t.replacement.toList) }

/-- Whether the pattern of the rule is well formed. -/
def isValid (r : Rule) : Bool := r.finder.isSome

/-- The body with the replacement in the place of every match. -/
def replaceAll (r : Rule) (body : Bytes) : Bytes :=
  match r.finder with
  | some m => m.replaceAll r.template body
  | none => body

/-- What a path is redirected to, none if the rule does not match all of it. -/
def redirect? (r : Rule) (path : String) : Option String := do
  return Utf8.lossy (← (← r.whole).replaceFirst? r.template (Utf8.encode path))

end Rule

/-- Rules in the order in which they apply. -/
abbrev Rules := List Rule

namespace Rules

/-- The rules of configured texts. -/
def ofTexts (ts : List RuleText) : Rules := ts.map Rule.ofText

/-- What the first rule that matches all of a path redirects it to. -/
def redirect? (rs : Rules) (path : String) : Option String := rs.findSome? (Rule.redirect? · path)

/-- The path that a path leads to. -/
def redirected (rs : Rules) (path : String) : String := (redirect? rs path).getD path

/-- The body changed by every rule in turn. -/
def replaceAll (rs : Rules) (body : Bytes) : Bytes :=
  rs.foldl (fun body r => r.replaceAll body) body

end Rules

end BrowserShell
