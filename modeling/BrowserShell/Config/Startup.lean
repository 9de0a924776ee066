import BrowserShell.Config.Validation
import BrowserShell.File.Tree
import BrowserShell.Meta

/-!
# Finishing a configuration

The rules that the startup page carries come after the configured ones (`Config.applyMeta`), and the
result is checked (`Config.finish`). A page that is there and cannot be read is an error; one that
is missing changes nothing. `Config.settle` finishes a configuration in place, where what was changed
before an error stays.
-/

namespace BrowserShell

/-- Why there is no configuration. -/
inductive ConfigError where
  /-- A file cannot be read. -/
  | read (e : FileTree.ReadError)
  /-- The text is no configuration. -/
  | malformed
  /-- The configuration breaks conditions. -/
  | invalid (problems : List ConfigProblem)
deriving DecidableEq, Repr

/-- The wording of an error; that of a malformed text is left open. -/
def ConfigError.message : ConfigError → String
  | .read e => "IO error: " ++ e.message
  | .malformed => ""
  | .invalid ps =>
    "Validation failed: " ++ ", ".intercalate (ps.map ConfigProblem.message)

namespace Config

/-- The configuration with the rules of the startup page, and its settings if there is one. -/
def applyMeta (t : FileTree) (c : Config) : Except ConfigError (Config × Option Meta) :=
  let path := c.content.startupPagePath
  if !c.content.loadStartupMeta || !t.isFile path then .ok (c, none)
  else
    match t.readText path with
    | .error e => .error (.read e)
    | .ok html =>
      let m := Meta.parse html
      .ok ({ c with
        rules :=
          { redirect := c.rules.redirect ++ m.redirect
            replace := c.rules.replace ++ m.replace } }, some m)

/-- The configuration, if nothing is wrong with it. -/
def checked (c : Config) : Except ConfigError Config :=
  if c.problems = [] then .ok c else .error (.invalid c.problems)

/-- The configuration with the rules of the startup page, if nothing is wrong with it. -/
def finish (t : FileTree) (c : Config) : Except ConfigError Config := do
  let (c, _) ← c.applyMeta t
  c.checked

/-! ### In place -/

/-- A step that changes a configuration in place and may end with an error. -/
abbrev Change := ExceptT ConfigError (StateM Config)

/-- The step that appends the rules of the startup page. -/
def appendMeta (t : FileTree) : Change (Option Meta) := do
  let c ← get
  let path := c.content.startupPagePath
  if !c.content.loadStartupMeta || !t.isFile path then
    return none
  else
    match t.readText path with
    | .error e => throw (.read e)
    | .ok html =>
      let m := Meta.parse html
      modify fun c => { c with rules.redirect := c.rules.redirect ++ m.redirect }
      modify fun c => { c with rules.replace := c.rules.replace ++ m.replace }
      return some m

/-- The step that appends the rules of the startup page and checks the result. -/
def settle (t : FileTree) : Change Unit := do
  let _ ← appendMeta t
  let c ← get
  if c.problems = [] then
    return ()
  else
    throw (.invalid c.problems)

end Config

end BrowserShell
