import BrowserShell.CommandLine.Help
import BrowserShell.Config.Reader
import BrowserShell.Context
import BrowserShell.Text.Quoted

/-!
# Running a command

What the program prints for its arguments, and the code it ends with: zero, one where the command
fails, and two where the arguments are refused. A command to serve is handed on.
-/

namespace BrowserShell.CommandLine

/-- What comes of running the program. -/
inductive Outcome where
  /-- It ends with a code after printing a text. -/
  | ended (code : Nat) (output : String)
  /-- It answers requests over HTTP. -/
  | serving (c : Config)
deriving DecidableEq, Repr

/-- What is printed for a response. -/
def resolved : Option Response → String
  | none => "not intercepted\n"
  | some r =>
    "status: " ++ r.status.repr ++ " " ++ r.statusText ++ "\nmime:   " ++ r.mime ++
      "\nbytes:  " ++ r.body.length.repr ++ "\n"

/-- What comes of a command with a configuration. -/
def Command.run (t : FileTree) (c : Config) : Command → Outcome
  | .serve => .serving c
  | .resolve url =>
    match Url.parse url with
    | .error _ => .ended 1 ""
    | .ok url =>
      let request : Request := ⟨url, "GET", [], none, Mime.ofUrl⟩
      .ended 0 (resolved ((Context.ofConfig c t).resolve t request).1)
  | .siteKey host =>
    .ended 0 ("site key: " ++ Quoted.quote (Site.key host) ++ "\nscript:   " ++
      (Site.script? c.content.pagesPath host).getD "none" ++ "\n")
  | .index =>
    .ended 0 (String.join ((PageIndex.build t c.content.pagesPath).pages.map (· ++ "\n")))

/-- What comes of running the program with some arguments. -/
def run (t : FileTree) (args : List String) : Outcome :=
  match Reading.ofArgs args with
  | .refused => .ended 2 ""
  | .help topic => .ended 0 topic.text
  | .run file command =>
    match Config.prepare t file with
    | .error _ => .ended 1 ""
    | .ok c => command.run t c

end BrowserShell.CommandLine
