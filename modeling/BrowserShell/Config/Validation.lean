import BrowserShell.Config
import BrowserShell.SocketAddress
import BrowserShell.Url.Parser

/-!
# Checking a configuration

`Config.problems` lists what is wrong with a configuration, in the order of the checks: one entry
for each condition that does not hold.
-/

namespace BrowserShell

/-- Which list a rule is in. -/
inductive RuleKind where
  | redirect
  | replace
deriving DecidableEq, Repr

/-- The name of a list of rules. -/
def RuleKind.name : RuleKind → String
  | .redirect => "redirect"
  | .replace => "replace"

/-- Something wrong with a configuration. -/
inductive ConfigProblem where
  /-- There is no application directory. -/
  | emptyAppPath
  /-- The beginning of data URLs is no URL. -/
  | badDataPrefix (value : String)
  /-- A setting is no socket address. -/
  | badAddress (field value : String)
  /-- A setting is zero. -/
  | zero (field : String)
  /-- A rule has no pattern. -/
  | emptyPattern (kind : RuleKind) (index : Nat)
  /-- The format of the log is unknown. -/
  | badLogFormat (value : String)
deriving DecidableEq, Repr

/-- The wording of a problem. -/
def ConfigProblem.message : ConfigProblem → String
  | .emptyAppPath => "content.app_path must not be empty"
  | .badDataPrefix v => "content.data_prefix `" ++ v ++ "` is not an absolute URL"
  | .badAddress f v => f ++ ": `" ++ v ++ "` is not a socket address"
  | .zero f => f ++ " must be greater than zero"
  | .emptyPattern k i => "rules." ++ k.name ++ "[" ++ i.repr ++ "] has an empty pattern"
  | .badLogFormat v => "observability.log_format must be `pretty` or `json`, got `" ++ v ++ "`"

namespace Config

/-- The problem, if a condition does not hold. -/
def problemUnless (holds : Bool) (p : ConfigProblem) : List ConfigProblem :=
  if holds then [] else [p]

/-- The rules without a pattern, those from the number `index` on. -/
def emptyPatterns (kind : RuleKind) (index : Nat) : List RuleText → List ConfigProblem
  | [] => []
  | r :: rs =>
    problemUnless (r.pattern != "") (.emptyPattern kind index) ++ emptyPatterns kind (index + 1) rs

/-- Whether a text is an absolute URL. -/
def isUrl (s : String) : Bool :=
  match Url.parse s with
  | .ok _ => true
  | .error _ => false

/-- The problem of a setting that is no socket address. -/
def addressProblem (field value : String) : List ConfigProblem :=
  problemUnless (SocketAddress.isValid value) (.badAddress field value)

/-- What is wrong with a configuration, in the order of the checks. -/
def problems (c : Config) : List ConfigProblem :=
  problemUnless (c.content.appDir != "") .emptyAppPath ++
  problemUnless (isUrl c.content.dataPrefix) (.badDataPrefix c.content.dataPrefix) ++
  addressProblem "listener.bind_address" c.listener.bindAddress ++
  (match c.backend with
    | some u => addressProblem "upstream.address" u.address
    | none => []) ++
  (if c.observability.metricsEnabled then
    addressProblem "observability.metrics_address" c.observability.metricsAddress
  else []) ++
  problemUnless (c.listener.maxBodySize != 0) (.zero "listener.max_body_size") ++
  problemUnless (c.listener.requestTimeoutSecs != 0) (.zero "listener.request_timeout_secs") ++
  problemUnless (c.filter.outputCapacity != 0) (.zero "filter.output_capacity") ++
  emptyPatterns .redirect 0 c.rules.redirect ++
  emptyPatterns .replace 0 c.rules.replace ++
  problemUnless (c.observability.logFormat == "pretty" || c.observability.logFormat == "json")
    (.badLogFormat c.observability.logFormat)

end Config

end BrowserShell
