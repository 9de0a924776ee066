import BrowserShell.CommandLine.Help
import BrowserShell.CommandLine.Invocation
import BrowserShell.CommandLine.Run
import BrowserShell.Config
import BrowserShell.Config.Reader
import BrowserShell.Config.Startup
import BrowserShell.Config.Validation
import BrowserShell.Context
import BrowserShell.File.Access
import BrowserShell.File.Folder
import BrowserShell.File.Path
import BrowserShell.File.Tree
import BrowserShell.Filter
import BrowserShell.Header
import BrowserShell.Http.Field
import BrowserShell.Http.Gateway
import BrowserShell.Http.Message
import BrowserShell.Http.Target
import BrowserShell.Injection
import BrowserShell.Main
import BrowserShell.Meta
import BrowserShell.Mime
import BrowserShell.Page
import BrowserShell.Pattern.CharSet
import BrowserShell.Pattern.Class
import BrowserShell.Pattern.Matcher
import BrowserShell.Pattern.Node
import BrowserShell.Pattern.Parser
import BrowserShell.Pattern.Program
import BrowserShell.Pattern.Search
import BrowserShell.Pattern.Size
import BrowserShell.Pattern.Syntax
import BrowserShell.Pattern.Template
import BrowserShell.Proofs.Config.Problems
import BrowserShell.Proofs.Config.Startup
import BrowserShell.Proofs.Context
import BrowserShell.Proofs.File.Path
import BrowserShell.Proofs.File.Walk
import BrowserShell.Proofs.Filter.Life
import BrowserShell.Proofs.Filter.Malformed
import BrowserShell.Proofs.Filter.Pass
import BrowserShell.Proofs.Filter.Relay
import BrowserShell.Proofs.Filter.Script
import BrowserShell.Proofs.Filter.Trim
import BrowserShell.Proofs.Http.Authority
import BrowserShell.Proofs.Http.Gateway
import BrowserShell.Proofs.Http.Limit
import BrowserShell.Proofs.Http.Target
import BrowserShell.Proofs.Injection
import BrowserShell.Proofs.Meta
import BrowserShell.Proofs.Page.Candidates
import BrowserShell.Proofs.Page.Contained
import BrowserShell.Proofs.Pattern.Anchored
import BrowserShell.Proofs.Pattern.Bracket
import BrowserShell.Proofs.Pattern.Found
import BrowserShell.Proofs.Pattern.Groups
import BrowserShell.Proofs.Pattern.Match
import BrowserShell.Proofs.Pattern.Names
import BrowserShell.Proofs.Pattern.Program
import BrowserShell.Proofs.Pattern.Reader
import BrowserShell.Proofs.Pattern.Reads
import BrowserShell.Proofs.Pattern.Replace
import BrowserShell.Proofs.Pattern.Search
import BrowserShell.Proofs.Pattern.Subject
import BrowserShell.Proofs.Pattern.Takes
import BrowserShell.Proofs.Pattern.Template
import BrowserShell.Proofs.Pattern.Token
import BrowserShell.Proofs.Pattern.Unicode
import BrowserShell.Proofs.Pattern.Walk
import BrowserShell.Proofs.Provider.Bodies
import BrowserShell.Proofs.Provider.Cache
import BrowserShell.Proofs.Provider.Containment
import BrowserShell.Proofs.Provider.Directory
import BrowserShell.Proofs.Provider.Headers
import BrowserShell.Proofs.Provider.Index
import BrowserShell.Proofs.Provider.Listing
import BrowserShell.Proofs.Provider.Markup
import BrowserShell.Proofs.Provider.Modes
import BrowserShell.Proofs.Provider.Pages
import BrowserShell.Proofs.Provider.Prefix
import BrowserShell.Proofs.Provider.Registration
import BrowserShell.Proofs.Provider.Release
import BrowserShell.Proofs.Provider.Resolution
import BrowserShell.Proofs.Provider.Types
import BrowserShell.Proofs.Provider.Unchanged
import BrowserShell.Proofs.Result
import BrowserShell.Proofs.Rule.Encoding
import BrowserShell.Proofs.Rule.Lists
import BrowserShell.Proofs.Rule.Redirect
import BrowserShell.Proofs.Rule.Replacement
import BrowserShell.Proofs.Rule.Whole
import BrowserShell.Proofs.Session
import BrowserShell.Proofs.Site.Canonical
import BrowserShell.Proofs.Site.Folders
import BrowserShell.Proofs.Site.Key
import BrowserShell.Proofs.SocketAddress
import BrowserShell.Proofs.Text.Json
import BrowserShell.Proofs.Text.JsonString
import BrowserShell.Proofs.Text.Order
import BrowserShell.Proofs.Text.Split
import BrowserShell.Proofs.Text.Utf8
import BrowserShell.Proofs.Unicode.Ascii
import BrowserShell.Proofs.Url.Append
import BrowserShell.Proofs.Url.Authority
import BrowserShell.Proofs.Url.Domain
import BrowserShell.Proofs.Url.Host
import BrowserShell.Proofs.Url.Path
import BrowserShell.Proofs.Url.Segments
import BrowserShell.Proofs.Url.Slash
import BrowserShell.Proofs.Url.WellFormed
import BrowserShell.Provider
import BrowserShell.Provider.Cache
import BrowserShell.Provider.Chain
import BrowserShell.Provider.Directory
import BrowserShell.Provider.Dump
import BrowserShell.Provider.Index
import BrowserShell.Provider.Pages
import BrowserShell.Resource
import BrowserShell.Rule
import BrowserShell.Session
import BrowserShell.Site
import BrowserShell.SocketAddress
import BrowserShell.Text.JsonString
import BrowserShell.Text.Quoted
import BrowserShell.Text.Split
import BrowserShell.Text.Utf8
import BrowserShell.Toml.Document
import BrowserShell.Toml.Number
import BrowserShell.Toml.Table
import BrowserShell.Toml.Text
import BrowserShell.Toml.Value
import BrowserShell.Unicode.Category
import BrowserShell.Unicode.Composition
import BrowserShell.Unicode.Direction
import BrowserShell.Unicode.DomainMap
import BrowserShell.Unicode.Fold
import BrowserShell.Unicode.Normal
import BrowserShell.Unicode.Property
import BrowserShell.Unicode.Script
import BrowserShell.Unicode.Table
import BrowserShell.Url
import BrowserShell.Url.Domain
import BrowserShell.Url.Host
import BrowserShell.Url.Parser
import BrowserShell.Url.Percent
import BrowserShell.Url.Punycode
