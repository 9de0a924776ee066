import BrowserShell.Provider.Chain
import BrowserShell.Provider.Directory
import BrowserShell.Provider.Dump

/-!
# Providers

The kinds of providers that answer requests in place of the network.
-/

namespace BrowserShell

/-- A provider of responses. -/
inductive Provider where
  /-- Static pages. -/
  | pages (p : Pages)
  /-- Dumps of requests. -/
  | dump
  /-- A directory under a URL. -/
  | directory (d : Directory)

namespace Provider

/-- The name of a kind. -/
def name : Provider → String
  | .pages _ => "pages"
  | .dump => "dump"
  | .directory _ => "directory"

/-- The answer of a provider to a request, and the provider afterwards. -/
def handle (t : FileTree) (r : Request) : Provider → Option Response × Provider
  | .pages p =>
    let (response, p) := p.handle t r
    (response, .pages p)
  | .dump => (Dump.handle r, .dump)
  | .directory d => (d.handle t r, .directory d)

end Provider

end BrowserShell
