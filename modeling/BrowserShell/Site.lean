import BrowserShell.File.Path

/-!
# Sites

A *site key* names the folder that the hosts of one site share. It is made of the last labels of a
host: enough of them that the first is longer than three bytes, but at least two. Each site may have
a script, below the script root, in a folder named for the host itself or for its key;
`Site.scripts` lists both places, the host's own first.
-/

namespace BrowserShell.Site

/-- The first labels that three-label hosts drop. -/
def droppedLabels : List (List Char) :=
  ["www".toList, "ftp".toList, "git".toList, "raw".toList]

/-- A label of at most this many bytes is taken to be part of a public suffix. -/
def maxSuffixLabel : Nat := 3

/-- The folder of a site's script. -/
def scriptFolder : String := "script"

/-- The file of a site's script. -/
def scriptFile : String := "inject.js"

/-- Whether some characters are a port: digits, and at least one. -/
def isPort (cs : List Char) : Bool := !cs.isEmpty && cs.all Char.isDigit

/-- The characters of a host without the colon and port at its end. -/
def withoutPort (host : List Char) : List Char :=
  match Text.cutLast? ':' host with
  | some (name, port) => if isPort port then name else host
  | none => host

/-- The host without the colon and port at its end. -/
def stripPort (host : String) : String := String.ofList (withoutPort host.toList)

/-- The labels of a key, given the labels still to the left, last first, and those collected to the
right: the walk ends with the first long label that has some label behind it. -/
def keyLabels? : (left right : List (List Char)) → Option (List (List Char))
  | [], _ => none
  | label :: left, right =>
    if Text.byteCount label > maxSuffixLabel ∧ right ≠ [] then some (label :: right)
    else keyLabels? left (label :: right)

/-- The key of a host that has no port, as characters. -/
def keyOf (host : List Char) : List Char :=
  let labels := Text.pieces '.' host
  match labels with
  | [label] => label
  | [a, b, c] =>
    if a ∈ droppedLabels then Text.joined '.' [b, c]
    else Text.joined '.' ((keyLabels? [c, b, a] []).getD [b, c])
  | labels =>
    Text.joined '.' ((keyLabels? labels.reverse []).getD (labels.drop (labels.length - 2)))

/-- The site key of a host, empty if the host is. -/
def key (host : String) : String := String.ofList (keyOf (withoutPort host.toList))

/-- The script of the site whose folder is `folder`. -/
def scriptIn (root : Path) (folder : String) : Path :=
  ((root.join folder).join scriptFolder).join scriptFile

/-- The script of the host's site, none if the host has no key. -/
def script? (root : Path) (host : String) : Option Path :=
  if key host = "" then none else some (scriptIn root (key host))

/-- The places of a host's script: below the folder of the host, then below that of its key where
this is another path. -/
def scripts (root : Path) (host : String) : List Path :=
  let exact := if stripPort host = "" then [] else [scriptIn root (stripPort host)]
  match script? root host with
  | some p => if exact.any (Path.same p) then exact else exact ++ [p]
  | none => exact

end BrowserShell.Site
