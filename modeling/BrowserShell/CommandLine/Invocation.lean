import BrowserShell.File.Path

/-!
# Reading the command line

The arguments of the program: options, a command, and the command's own arguments. `Reading.ofArgs`
says what they ask for: a command to be run, or a help text; or that they ask for nothing.
-/

namespace BrowserShell.CommandLine

/-- What the program can do. -/
inductive Command where
  /-- Answers requests over HTTP. -/
  | serve
  /-- Resolves a URL. -/
  | resolve (url : String)
  /-- Prints the site key and the script of a host. -/
  | siteKey (host : String)
  /-- Lists the pages. -/
  | index
deriving DecidableEq, Repr

/-- The names of the commands. -/
inductive CommandName where
  | serve
  | resolve
  | siteKey
  | index
deriving DecidableEq, Repr

/-- How a command is written. -/
def CommandName.text : CommandName → String
  | .serve => "serve"
  | .resolve => "resolve"
  | .siteKey => "site-key"
  | .index => "index"

/-- All commands, in the order in which they are listed. -/
def CommandName.all : List CommandName := [.serve, .resolve, .siteKey, .index]

/-- What a help text is about. -/
inductive Topic where
  /-- The program. -/
  | program
  /-- A command. -/
  | command (name : CommandName)
  /-- The command that prints help texts. -/
  | help
deriving DecidableEq, Repr

/-- What the arguments ask for. -/
inductive Reading where
  /-- A command is to be run, with the configuration in a file or the defaults. -/
  | run (config : Option Path) (command : Command)
  /-- A help text. -/
  | help (topic : Topic)
  /-- Nothing that there is. -/
  | refused
deriving DecidableEq, Repr

/-- An argument by its form. -/
inductive Argument where
  /-- Two hyphens, after which there are no options. -/
  | separator
  /-- An option with a long name, and what follows an equals sign. -/
  | long (name : List Char) (value : Option (List Char))
  /-- Options with short names, and the text after the first. -/
  | short (name : Char) (rest : List Char)
  /-- Anything else. -/
  | plain
deriving DecidableEq, Repr

/-- The form of an argument. -/
def Argument.ofText (s : String) : Argument :=
  match s.toList with
  | '-' :: '-' :: [] => .separator
  | '-' :: '-' :: cs =>
    match Text.cut? '=' cs with
    | some (name, value) => .long name (some value)
    | none => .long cs none
  | '-' :: c :: cs => .short c cs
  | _ => .plain

/-- Whether an argument asks for help. -/
def Argument.isHelp : Argument → Bool
  | .long name none => name == "help".toList
  | .short c _ => c == 'h'
  | _ => false

/-- The command with at most one argument, given the arguments after those that `value` was read
from; none if they are refused. -/
def readValue (topic : Topic) (limit : Nat) (make : List String → Option Command) :
    (values : List String) → List String → Except Reading Command
  | values, [] =>
    match make values with
    | some command => .ok command
    | none => .error .refused
  | values, a :: args =>
    match Argument.ofText a with
    | .separator =>
      match make (values ++ args) with
      | some command => .ok command
      | none => .error .refused
    | .plain =>
      if values.length < limit then readValue topic limit make (values ++ [a]) args
      else .error .refused
    | arg => if arg.isHelp then .error (.help topic) else .error .refused

/-- The command of a name with its arguments. -/
def readCommand (name : CommandName) (args : List String) : Except Reading Command :=
  match name with
  | .serve => readValue (.command name) 0 (fun vs => if vs = [] then some .serve else none) [] args
  | .index => readValue (.command name) 0 (fun vs => if vs = [] then some .index else none) [] args
  | .resolve => readValue (.command name) 1 (fun
    | [url] => some (.resolve url)
    | _ => none) [] args
  | .siteKey => readValue (.command name) 1 (fun
    | [host] => some (.siteKey host)
    | _ => none) [] args

/-- The help text that the arguments of the help command name. -/
def readTopic : List String → Reading
  | [] => .help .program
  | [name] =>
    if name = "help" then .help .help
    else
      match CommandName.all.find? fun c => c.text = name with
      | some c => .help (.command c)
      | none => .refused
  | _ => .refused

/-- The option for the configuration as far as it was read. -/
structure ConfigOption where
  /-- Its value. -/
  value : Option Path
  /-- A later occurrence that is not checked yet: its value, if that was read. -/
  open? : Option (Option String)
deriving DecidableEq, Repr

namespace ConfigOption

/-- The option with a value: it has one only once, and that is not empty. -/
def take? (o : ConfigOption) (value : String) : Option ConfigOption :=
  if value = "" ∨ o.value.isSome then none else some ⟨some value, none⟩

/-- The option with its last occurrence checked. -/
def settle? (o : ConfigOption) : Option ConfigOption :=
  match o.open? with
  | none => some o
  | some none => none
  | some (some value) => take? ⟨o.value, none⟩ value

/-- The option with another occurrence, and its value if that is attached. -/
def begin? (o : ConfigOption) (attached : Option (List Char)) : Option ConfigOption := do
  let o ← o.settle?
  match attached with
  | some value => o.take? (String.ofList value)
  | none => return ⟨o.value, some none⟩

end ConfigOption

/-- What is attached to an option with a short name. -/
def attached : (rest : List Char) → Option (List Char)
  | [] => none
  | '=' :: value => some value
  | value => some value

/-- What the arguments ask for, those before them having been read. -/
def readFrom (o : ConfigOption) : List String → Reading
  | [] => .refused
  | a :: args =>
    let arg := Argument.ofText a
    let continueWith := fun (o : Option ConfigOption) =>
      match o with
      | some o => readFrom o args
      | none => .refused
    if o.open? = some none then
      if arg = .plain then readFrom { o with open? := some (some a) } args else .refused
    else
      match CommandName.all.find? fun c => c.text = a with
      | some name =>
        match readCommand name args with
        | .error reading => reading
        | .ok command =>
          match o.settle? with
          | some o => .run o.value command
          | none => .refused
      | none =>
        if a = "help" then readTopic args
        else if arg.isHelp then if o.settle?.isSome then .help .program else .refused
        else
          match arg with
          | .long name value =>
            if name = "config".toList then continueWith (o.begin? value) else .refused
          | .short 'c' rest => continueWith (o.begin? (attached rest))
          | _ => .refused

/-- What the arguments ask for. -/
def Reading.ofArgs (args : List String) : Reading := readFrom ⟨none, none⟩ args

end BrowserShell.CommandLine
