import BrowserShell.Url

/-!
# Reading URLs

`Url.parse` reads an absolute URL. Blanks and controls around it and line ends and tabs inside it
are dropped; a backslash in a special URL is a slash. Scheme, authority, path, query and fragment
are then read one after the other, each by a function that gives the rest of the text.

The path is built segment by segment (`Path.add`): a segment of one dot adds nothing, one of two
dots takes the last segment back.
-/

namespace BrowserShell.Url

/-! ### Path -/

namespace Path

/-- Whether a segment is a drive letter: a letter and a colon or bar. -/
def isDrive : List Char → Bool
  | [c, d] => c.isAlpha && (d == ':' || d == '|')
  | _ => false

/-- Whether a segment is a drive letter with a colon. -/
def isPlainDrive (segment : List Char) : Bool := isDrive segment && segment.getLast? == some ':'

/-- Whether a path begins with a drive letter behind its slash. -/
def startsWithDrive : List Char → Bool
  | '/' :: c :: d :: rest =>
    isDrive [c, d] && (rest.isEmpty || (rest.head?.any ['/', '\\', '?', '#'].contains))
  | _ => false

/-- Whether a segment counts as one dot. -/
def isDot (segment : List Char) : Bool := ["." , "%2e", "%2E"].contains (String.ofList segment)

/-- Whether a segment counts as two dots. -/
def isDots (segment : List Char) : Bool :=
  ["..", "%2e%2e", "%2e%2E", "%2E%2e", "%2E%2E", "%2e.", "%2E.", ".%2e", ".%2E"].contains
    (String.ofList segment)

/-- The characters up to the last slash, which is kept. -/
def toLastSlash (path : List Char) : List Char :=
  (path.reverse.dropWhile fun c => c != '/').reverse

/-- The characters after the last slash. -/
def lastSegment (path : List Char) : List Char :=
  (path.reverse.takeWhile fun c => c != '/').reverse

/-- The path without its last slash, unless that slash is its first or ends a drive letter. -/
def dropSlash (path : List Char) : List Char :=
  if path.getLast? = some '/' then
    match Text.cutLast? '/' path.dropLast with
    | some (before, _) =>
      if startsWithDrive (path.drop before.length) then path else path.dropLast
    | none => path
  else path

/-- The path without its last segment; in a file URL a drive letter stays. -/
def shorten (isFile : Bool) (path : List Char) : List Char :=
  if isFile && isPlainDrive (lastSegment path) then path else toLastSlash path

/-- The path with one more segment, behind which a slash stands if `slash` holds. The first segment
of a file URL that is a drive letter gets a colon. -/
def add (isFile : Bool) (path segment : List Char) (slash : Bool) : List Char :=
  let tail := if slash then ['/'] else []
  if isDots segment then
    let path := shorten isFile (dropSlash path)
    if slash && path.getLast? != some '/' then path ++ ['/'] else path
  else if isDot segment then
    if path.getLast? = some '/' then path else path ++ ['/']
  else if isFile && path.length == 1 && isDrive segment then
    path ++ segment.take 1 ++ ':' :: tail
  else path ++ segment ++ tail

/-- Whether the character ends a segment. -/
def isSlash (special : Bool) (c : Char) : Bool := c == '/' || special && c == '\\'

/-- Reads the path from `path` on, up to a question mark or number sign; `segment` is the segment
being read, last character first. -/
def read (special isFile : Bool) (path segment : List Char) : List Char → List Char × List Char
  | [] => (add isFile path (Percent.encode Percent.path segment.reverse) false, [])
  | c :: cs =>
    if c = '?' ∨ c = '#' then
      (add isFile path (Percent.encode Percent.path segment.reverse) false, c :: cs)
    else if isSlash special c then
      read special isFile
        (add isFile path (Percent.encode Percent.path segment.reverse) true) [] cs
    else read special isFile path (c :: segment) cs

end Path

/-! ### Scheme -/

/-- Reads a scheme, `read` being its characters so far, last first. -/
def readScheme (read : List Char) : List Char → Option (List Char × List Char)
  | [] => none
  | c :: cs =>
    if c = ':' then if read = [] then none else some (read.reverse, cs)
    else if c.isAlpha || read != [] && (c.isDigit || c == '+' || c == '-' || c == '.') then
      readScheme (Text.lower c :: read) cs
    else none

/-! ### Authority -/

/-- Whether a character ends the authority. -/
def endsAuthority (special : Bool) (c : Char) : Bool :=
  c == '/' || c == '?' || c == '#' || special && c == '\\'

/-- Name and password as written: the first colon parts them, and is left out with an empty
password. -/
def renderUserInfo (cs : List Char) : List Char :=
  let encode := Percent.encode Percent.userInfo
  let written :=
    match Text.cut? ':' cs with
    | none => encode cs
    | some (name, []) => encode name
    | some (name, password) => encode name ++ ':' :: encode password
  if written = [] then [] else written ++ ['@']

/-- Name and password, and the rest of the authority: the last `@` ends them. Without anything
before it a host must follow. -/
def readUserInfo (special : Bool) (cs : List Char) : Except UrlError (List Char × List Char) :=
  match Text.cutLast? '@' (cs.takeWhile fun c => !endsAuthority special c) with
  | none => .ok ([], cs)
  | some ([], _) =>
    let rest := cs.drop 1
    if rest.head?.any (endsAuthority special) then .error .emptyHost else .ok ([], rest)
  | some (info, _) => .ok (renderUserInfo info, cs.drop (info.length + 1))

/-- The characters of a host, up to a colon outside brackets or the end of the authority. -/
def takeHost (special : Bool) : (inBrackets : Bool) → List Char → List Char
  | _, [] => []
  | inBrackets, c :: cs =>
    if c == ':' && !inBrackets || endsAuthority special c then []
    else c :: takeHost special (c == '[' || inBrackets && c != ']') cs

/-- Reads the digits of a port, of which `port` are read; none if there are none. A slash, a
question mark or a number sign ends the port. -/
def readPort (port : Option Nat) : List Char → Except UrlError (Option Nat × List Char)
  | [] => .ok (port, [])
  | c :: cs =>
    if c.isDigit then
      let port := port.getD 0 * 10 + (c.toNat - '0'.toNat)
      if port > 65535 then .error .badPort else readPort (some port) cs
    else if ['/', '\\', '?', '#'].contains c then .ok (port, c :: cs)
    else .error .badPort

/-- The host that a text writes in a URL with the scheme. -/
def parseHost (scheme : String) (text : List Char) : Except UrlError Host :=
  if isSpecial scheme then Host.parse text else Host.parseOpaque text

/-- Reads host and port. -/
def readHost (scheme : String) (cs : List Char) :
    Except UrlError (Option Host × Option Nat × List Char) := do
  let text := takeHost (isSpecial scheme) false cs
  let rest := cs.drop text.length
  if isSpecial scheme && text.isEmpty then throw .emptyHost
  let host ← parseHost scheme text
  let isEmpty := host == .name ""
  let host := if isEmpty then none else some host
  match rest with
  | ':' :: rest =>
    if isEmpty then throw .emptyHost
    let (port, rest) ← readPort none rest
    return (host, port.filter fun p => defaultPort? scheme != some p, rest)
  | rest => return (host, none, rest)

/-! ### The parts after the host -/

/-- The path after an authority, and the rest of the text. -/
def readPathStart (special isFile : Bool) (cs : List Char) : List Char × List Char :=
  if special then
    match cs with
    | c :: rest => Path.read special isFile ['/'] [] (if Path.isSlash special c then rest else cs)
    | [] => Path.read special isFile ['/'] [] []
  else
    match cs with
    | [] => ([], [])
    | '?' :: _ | '#' :: _ => ([], cs)
    | '/' :: _ => Path.read special isFile [] [] cs
    | _ => Path.read special isFile ['/'] [] cs

/-- The path of a file URL: the slashes at its beginning become one. -/
def filePath (path : List Char) : List Char := '/' :: path.dropWhile (· == '/')

/-- Query and fragment, of which the text is what follows the path. -/
def readEnd (special : Bool) (cs : List Char) : Option String × Option String :=
  let fragment := fun f : List Char => String.ofList (Percent.encode Percent.fragment f)
  match cs with
  | '#' :: f => (none, some (fragment f))
  | '?' :: rest =>
    let set := if special then Percent.specialQuery else Percent.query
    match Text.cut? '#' rest with
    | some (q, f) => (some (String.ofList (Percent.encode set q)), some (fragment f))
    | none => (some (String.ofList (Percent.encode set rest)), none)
  | _ => (none, none)

/-- A URL from its parts and the text of its query and fragment. -/
def ofParts (scheme : String) (authority : Option Authority) (path rest : List Char) : Url :=
  let (query, fragment) := readEnd (isSpecial scheme) rest
  ⟨scheme, authority, String.ofList path, query, fragment⟩

/-! ### The three kinds of URLs -/

/-- Reads a URL from the text after the two slashes before its authority. -/
def readAuthority (scheme : String) (cs : List Char) : Except UrlError Url := do
  let special := isSpecial scheme
  let (info, cs) ← readUserInfo special cs
  let (host, port, cs) ← readHost scheme cs
  if host == none && info != [] then throw .emptyHost
  let (path, rest) := readPathStart special false cs
  return ofParts scheme (some ⟨String.ofList info, host, port⟩) path rest

/-- Reads a URL that is not special. -/
def readOpaque (scheme : String) (cs : List Char) : Except UrlError Url :=
  match cs with
  | '/' :: '/' :: rest => readAuthority scheme rest
  | '/' :: rest =>
    let (path, rest) := Path.read false false ['/'] [] rest
    .ok (ofParts scheme none path rest)
  | cs =>
    let path := cs.takeWhile fun c => c != '?' && c != '#'
    .ok (ofParts scheme none (Percent.encode Percent.control path) (cs.drop path.length))

/-- Reads a file URL. It has no host if the text names `localhost` or the path begins with a drive
letter. -/
def readFile (cs : List Char) : Except UrlError Url := do
  let none : Authority := ⟨"", none, none⟩
  let finish := fun (authority : Authority) (read : List Char × List Char) =>
    ofParts "file" (some authority) (filePath read.1) read.2
  match cs with
  | c :: d :: rest =>
    if Path.isSlash true c && Path.isSlash true d then
      let text := rest.takeWhile fun c => !endsAuthority true c
      if Path.isDrive text || text == [] then
        return finish none (Path.read true true ['/'] [] rest)
      let host ← Host.parse text
      let rest := rest.drop text.length
      if host == .name "localhost" then return finish none (Path.read true true ['/'] [] rest)
      let read := readPathStart true true rest
      return finish (if Path.startsWithDrive read.1 then none else ⟨"", some host, .none⟩) read
    else if Path.isSlash true c then return finish none (Path.read true true [] [] cs)
    else return finish none (Path.read true true ['/'] [] cs)
  | c :: rest =>
    if Path.isSlash true c then return finish none (Path.read true true [] [] (c :: rest))
    else return finish none (Path.read true true ['/'] [] (c :: rest))
  | [] => return finish none (Path.read true true ['/'] [] [])

/-! ### The whole -/

/-- Blanks and controls, dropped around a URL. -/
def isOuter (c : Char) : Bool := c.toNat ≤ 0x20

/-- Tabs and line ends, dropped inside a URL. -/
def isInner (c : Char) : Bool := c == '\t' || c == '\n' || c == '\r'

/-- The text without what is dropped around and inside it. -/
def cleaned (cs : List Char) : List Char :=
  (((cs.dropWhile isOuter).reverse.dropWhile isOuter).reverse).filter fun c => !isInner c

/-- Reads an absolute URL. -/
def parseChars (cs : List Char) : Except UrlError Url :=
  match readScheme [] (cleaned cs) with
  | none => .error .noScheme
  | some (scheme, rest) =>
    let scheme := String.ofList scheme
    if scheme = "file" then readFile rest
    else if isSpecial scheme then
      readAuthority scheme (rest.dropWhile fun c => c == '/' || c == '\\')
    else readOpaque scheme rest

/-- Reads an absolute URL. -/
def parse (s : String) : Except UrlError Url := parseChars s.toList

/-- The URL with another scheme, none where that would change its kind: between special and other
schemes, to `file` with an authority, and to a special scheme without a host. A port that is usual
with the new scheme is dropped. -/
def withScheme? (u : Url) (scheme : String) : Option Url := do
  let cs := scheme.toList.filter fun c => !isInner c
  let (new, rest) ← (readScheme [] cs).or (readScheme [] (cs ++ [':']))
  let new := String.ofList new
  if rest ≠ [] ∨ isSpecial new ≠ isSpecial u.scheme ∨ (new = "file" ∧ u.authority.isSome) ∨
      (isSpecial new ∧ u.hostText? = none) then none
  else
    some { u with
      scheme := new
      authority := u.authority.map fun a =>
        { a with port := a.port.filter fun p => defaultPort? new != some p } }

end BrowserShell.Url
