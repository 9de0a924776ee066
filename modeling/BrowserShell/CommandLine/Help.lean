import BrowserShell.CommandLine.Invocation

/-!
# Help texts

What the program prints about itself and its commands: what they do, how they are called, and a
table of their parts.
-/

namespace BrowserShell.CommandLine

/-- The name of the program. -/
def programName : String := "resource-shell"

/-- What a command does. -/
def CommandName.about : CommandName → String
  | .serve => "Run the dev host"
  | .resolve => "Resolve one URL through the provider chain"
  | .siteKey => "Print the site key and injection script for a host"
  | .index => "List the bundled page index"

/-- The name of the argument of a command. -/
def CommandName.argument? : CommandName → Option String
  | .resolve => some "<URL>"
  | .siteKey => some "<HOST>"
  | _ => none

/-- What the help command does. -/
def aboutHelp : String := "Print this message or the help of the given subcommand(s)"

/-- A table with a title: the second column begins two places behind the longest entry of the
first. -/
def table (title : String) (rows : List (String × String)) : String :=
  let width := (rows.map fun r => r.1.length).foldl max 0
  title ++ ":\n" ++ String.join (rows.map fun (a, b) =>
    "  " ++ a ++ String.ofList (List.replicate (width - a.length + 2) ' ') ++ b ++ "\n")

/-- A help text: its parts with an empty line between them. -/
def page (about usage : String) (tables : List String) : String :=
  "\n".intercalate ((about ++ "\n") :: ("Usage: " ++ programName ++ " " ++ usage ++ "\n") :: tables)

/-- The row of the option for help. -/
def helpRow : String × String := ("-h, --help", "Print help")

/-- A help text. -/
def Topic.text : Topic → String
  | .program =>
    page "Local content resolution and response rewriting for a browser shell"
      "[OPTIONS] <COMMAND>" [
        table "Commands"
          (CommandName.all.map (fun c => (c.text, c.about)) ++ [("help", aboutHelp)]),
        table "Options" [("-c, --config <CONFIG>", "Path to the TOML configuration file"), helpRow]]
  | .command name =>
    match name.argument? with
    | some argument =>
      page name.about (name.text ++ " " ++ argument)
        [table "Arguments" [(argument, "")], table "Options" [helpRow]]
    | none => page name.about name.text [table "Options" [helpRow]]
  | .help =>
    page aboutHelp "help [COMMAND]..."
      [table "Arguments" [("[COMMAND]...", "Print help for the subcommand(s)")]]

end BrowserShell.CommandLine
