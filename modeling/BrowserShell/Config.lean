import BrowserShell.File.Path
import BrowserShell.Rule

/-!
# Configuration

The settings of the shell and their defaults, in the groups in which they are written.
-/

namespace BrowserShell

/-- Where local content is. -/
structure ContentConfig where
  /-- The directory of the application. -/
  appDir : Path := "."
  /-- Whether pages are looked up on disk for every request. -/
  debug : Bool := false
  /-- The pages directory, below the application's. -/
  pagesDir : String := "page"
  /-- The data directory, below the application's. -/
  dataDir : String := "data"
  /-- What the URLs of data files begin with. -/
  dataPrefix : String := "https://localhost/"
  /-- The page with settings, below the pages directory. -/
  startupPage : String := "startup.html"
  /-- Whether the settings of that page are read. -/
  loadStartupMeta : Bool := true
deriving DecidableEq, Repr

namespace ContentConfig

/-- The path of the pages directory. -/
def pagesPath (c : ContentConfig) : Path := c.appDir.join c.pagesDir

/-- The path of the data directory. -/
def dataPath (c : ContentConfig) : Path := c.appDir.join c.dataDir

/-- The path of the page with settings. -/
def startupPagePath (c : ContentConfig) : Path := c.pagesPath.join c.startupPage

end ContentConfig

/-- The rules. -/
structure RulesConfig where
  /-- Rules that redirect page paths. -/
  redirect : List RuleText := []
  /-- Rules that change bodies. -/
  replace : List RuleText := []
deriving DecidableEq, Repr

/-- How requests are taken. -/
structure ListenerConfig where
  /-- The address to listen at. -/
  bindAddress : String := "127.0.0.1:8080"
  /-- The greatest size of a body. -/
  maxBodySize : Nat := 8 * 1024 * 1024
  /-- The greatest time for a request, in seconds. -/
  requestTimeoutSecs : Nat := 30
deriving DecidableEq, Repr

/-- Where requests go that no provider claims. -/
structure BackendConfig where
  /-- The address. -/
  address : String
  /-- The scheme of the URLs that bodies from there are filtered under. -/
  scheme : String := "http"
deriving DecidableEq, Repr

/-- How bodies are filtered. -/
structure FilterConfig where
  /-- The least size of the buffer for a changed body. -/
  outputCapacity : Nat := 1024 * 1024
deriving DecidableEq, Repr

/-- What is logged and measured. -/
structure ObservabilityConfig where
  /-- The level of the log. -/
  logLevel : String := "info"
  /-- The format of the log. -/
  logFormat : String := "pretty"
  /-- Whether measurements are served. -/
  metricsEnabled : Bool := false
  /-- The address where measurements are served. -/
  metricsAddress : String := "127.0.0.1:9090"
deriving DecidableEq, Repr

/-- The settings of the shell. -/
structure Config where
  content : ContentConfig := {}
  rules : RulesConfig := {}
  listener : ListenerConfig := {}
  backend : Option BackendConfig := none
  filter : FilterConfig := {}
  observability : ObservabilityConfig := {}
deriving DecidableEq, Repr

/-- The selection of log entries for a level. -/
def ObservabilityConfig.directive (c : ObservabilityConfig) : String :=
  "resource_shell=" ++ c.logLevel ++ ",tower_http=info"

end BrowserShell
