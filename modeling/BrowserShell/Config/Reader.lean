import BrowserShell.Config.Startup
import BrowserShell.Toml.Document

/-!
# Reading a configuration

A configuration is written in TOML, a table for each group of settings. A group may also be an array
with its settings in order, of which the last may be left out. Settings that are left out have their
defaults, and what has no meaning here is passed over. `Config.load` reads a file and checks what it
says.
-/

namespace BrowserShell

open Toml

namespace Config

/-- A group of settings as it is written. -/
inductive Group where
  /-- By name. -/
  | named (entries : Table)
  /-- In order. -/
  | row (items : List Value)

namespace Group

/-- The group that a value is; a date is one without settings. -/
def of? : Value → Option Group
  | .table _ entries => some (.named entries)
  | .array items => some (.row items)
  | .tables elements => some (.row (elements.map (.table .defined)))
  | .time _ => some (.named [])
  | _ => none

/-- The value of a setting, given its place and its name. -/
def value? (g : Group) (place : Nat) (name : String) : Option Value :=
  match g with
  | .named entries => entries.get? name
  | .row items => items[place]?

/-- A setting, or its default if it is left out; none if it is malformed. -/
def read? {α : Type} (g : Group) (place : Nat) (name : String) (as? : Value → Option α)
    (default : α) : Option α :=
  match g.value? place name with
  | none => some default
  | some v => as? v

/-- A setting that cannot be left out. -/
def required? {α : Type} (g : Group) (place : Nat) (name : String) (as? : Value → Option α) :
    Option α :=
  (g.value? place name).bind as?

end Group

/-- A value as a text. -/
def text? : Value → Option String
  | .string s => some s
  | _ => none

/-- A value as a truth value. -/
def flag? : Value → Option Bool
  | .boolean b => some b
  | _ => none

/-- A value as a size. -/
def size? : Value → Option Nat
  | .integer n => if 0 ≤ n then some n.toNat else none
  | _ => none

/-- A value as a list. -/
def list? {α : Type} (as? : Value → Option α) : Value → Option (List α)
  | .array items => items.mapM as?
  | .tables elements => elements.mapM fun t => as? (.table .defined t)
  | _ => none

/-- A rule. -/
def rule? (v : Value) : Option RuleText := do
  let g ← Group.of? v
  return ⟨← g.required? 0 "pattern" text?, ← g.required? 1 "replacement" text?⟩

/-- Where local content is. -/
def content? (v : Value) : Option ContentConfig := do
  let g ← Group.of? v
  let d : ContentConfig := {}
  return {
    appDir := ← g.read? 0 "app_path" text? d.appDir
    debug := ← g.read? 1 "debug" flag? d.debug
    pagesDir := ← g.read? 2 "pages_dir" text? d.pagesDir
    dataDir := ← g.read? 3 "data_dir" text? d.dataDir
    dataPrefix := ← g.read? 4 "data_prefix" text? d.dataPrefix
    startupPage := ← g.read? 5 "startup_page" text? d.startupPage
    loadStartupMeta := ← g.read? 6 "load_startup_meta" flag? d.loadStartupMeta }

/-- The rules. -/
def rules? (v : Value) : Option RulesConfig := do
  let g ← Group.of? v
  return {
    redirect := ← g.read? 0 "redirect" (list? rule?) []
    replace := ← g.read? 1 "replace" (list? rule?) [] }

/-- How requests are taken. -/
def listener? (v : Value) : Option ListenerConfig := do
  let g ← Group.of? v
  let d : ListenerConfig := {}
  return {
    bindAddress := ← g.read? 0 "bind_address" text? d.bindAddress
    maxBodySize := ← g.read? 1 "max_body_size" size? d.maxBodySize
    requestTimeoutSecs := ← g.read? 2 "request_timeout_secs" size? d.requestTimeoutSecs }

/-- Where requests go that no provider claims. -/
def backend? (v : Value) : Option BackendConfig := do
  let g ← Group.of? v
  return {
    address := ← g.required? 0 "address" text?
    scheme := ← g.read? 1 "scheme" text? "http" }

/-- How bodies are filtered. -/
def filter? (v : Value) : Option FilterConfig := do
  let g ← Group.of? v
  let d : FilterConfig := {}
  return { outputCapacity := ← g.read? 0 "output_capacity" size? d.outputCapacity }

/-- What is logged and measured. -/
def observability? (v : Value) : Option ObservabilityConfig := do
  let g ← Group.of? v
  let d : ObservabilityConfig := {}
  return {
    logLevel := ← g.read? 0 "log_level" text? d.logLevel
    logFormat := ← g.read? 1 "log_format" text? d.logFormat
    metricsEnabled := ← g.read? 2 "metrics_enabled" flag? d.metricsEnabled
    metricsAddress := ← g.read? 3 "metrics_address" text? d.metricsAddress }

/-- The configuration that a table says. -/
def ofTable? (t : Table) : Option Config := do
  let g := Group.named t
  return {
    content := ← g.read? 0 "content" content? {}
    rules := ← g.read? 1 "rules" rules? {}
    listener := ← g.read? 2 "listener" listener? {}
    backend := ← g.read? 3 "upstream" (fun v => (backend? v).map some) none
    filter := ← g.read? 4 "filter" filter? {}
    observability := ← g.read? 5 "observability" observability? {} }

/-- The configuration that a text says. -/
def parse? (s : String) : Option Config := do ofTable? (← Document.parse? s)

/-- The configuration in a file, if nothing is wrong with it. -/
def load (t : FileTree) (path : Path) : Except ConfigError Config :=
  match t.readText path with
  | .error e => .error (.read e)
  | .ok s =>
    match parse? s with
    | none => .error .malformed
    | some c => c.checked

/-- The configuration in a file, or the defaults where none is named. -/
def loadOrDefault (t : FileTree) : Option Path → Except ConfigError Config
  | some path => load t path
  | none => .ok {}

/-- The configuration in a file, or the defaults, with the rules of the startup page. -/
def prepare (t : FileTree) (path : Option Path) : Except ConfigError Config := do
  (← loadOrDefault t path).finish t

end Config

end BrowserShell
