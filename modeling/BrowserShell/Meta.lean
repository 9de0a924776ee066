import BrowserShell.Pattern.Class
import BrowserShell.Rule

/-!
# Rules in a page

The startup page may carry settings: tags of the form `<meta name="…" content="…">`, in which the
name is a kind and an argument with a bar between them. A tag of the kind `redirect` or `replace` is
a rule whose pattern is the content and whose replacement is the argument. `Meta.parse` finds the
tags in a page; everything between them is passed over.
-/

namespace BrowserShell

/-- The settings of a page: the name and content of each tag, in the order of the page. -/
structure Meta where
  /-- Name and content of each tag. -/
  tags : List (String × String)
deriving DecidableEq, Repr

namespace Meta

/-! ### Tags -/

/-- The text after a word, which may be written in any case. -/
def word? : (word : List Char) → List Char → Option (List Char)
  | [], cs => some cs
  | _ :: _, [] => none
  | w :: ws, c :: cs => if Text.lower c = w then word? ws cs else none

/-- The text after the blanks at its beginning. -/
def blanks (cs : List Char) : List Char := cs.dropWhile Pattern.Class.isBlank

/-- The text after the blanks at its beginning, of which there has to be one. -/
def blanks? : List Char → Option (List Char)
  | c :: cs => if Pattern.Class.isBlank c then some (blanks cs) else none
  | [] => none

/-- The value of an attribute, and the text after it: an equals sign, blanks around it or not, and a
quoted text. -/
def value? (cs : List Char) : Option (List Char × List Char) :=
  match blanks cs with
  | '=' :: rest =>
    match blanks rest with
    | '"' :: rest => Text.cut? '"' rest
    | _ => none
  | _ => none

/-- Name and content of the tag at the beginning of a text, as far as its content, and the text
after that. The name is not empty. -/
def tag? (cs : List Char) : Option ((List Char × List Char) × List Char) := do
  let cs ← blanks? (← word? "<meta".toList cs)
  let (name, cs) ← value? (← word? "name".toList cs)
  if name = [] then none
  else
    let cs ← blanks? cs
    let (content, cs) ← value? (← word? "content".toList cs)
    return ((name, content), cs)

/-- The tags of a text after its first `skip` characters. -/
def tagsFrom : (skip : Nat) → List Char → List (List Char × List Char)
  | _, [] => []
  | skip + 1, _ :: cs => tagsFrom skip cs
  | 0, c :: cs =>
    match tag? (c :: cs) with
    | some (tag, rest) => tag :: tagsFrom (cs.length - rest.length) cs
    | none => tagsFrom 0 cs

/-- The settings of a page. -/
def parse (html : String) : Meta :=
  ⟨(tagsFrom 0 html.toList).map fun (name, content) => (String.ofList name, String.ofList content)⟩

/-! ### Settings -/

/-- The content of the last tag with a name. -/
def content? (m : Meta) (name : String) : Option String :=
  (m.tags.reverse.find? fun t => t.1 = name).map Prod.snd

/-- The content of the last tag with a kind and an argument. -/
def get? (m : Meta) (kind argument : String) : Option String := m.content? (kind ++ "|" ++ argument)

/-- The names of the tags in increasing order, each once, with the content of its last tag. -/
def entries (m : Meta) : List (String × String) :=
  let names := (m.tags.map Prod.fst).mergeSort fun a b => decide (a ≤ b)
  let distinct := names.foldr (fun n ns => if ns.head? = some n then ns else n :: ns) []
  distinct.filterMap fun n => (m.content? n).map fun c => (n, c)

/-- The rule of a tag of some kind: its content is the pattern and the argument of its name, up to a
second bar, the replacement. -/
def rule? (kind : String) (tag : String × String) : Option RuleText :=
  match Text.split '|' tag.1 with
  | k :: argument :: _ => if k = kind then some ⟨tag.2, argument⟩ else none
  | _ => none

/-- The redirect rules, in the order of the page. -/
def redirect (m : Meta) : List RuleText := m.tags.filterMap (rule? "redirect")

/-- The replace rules, in the order of the page. -/
def replace (m : Meta) : List RuleText := m.tags.filterMap (rule? "replace")

end Meta

end BrowserShell
