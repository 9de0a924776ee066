import BrowserShell.Text.Split

/-!
# Header lists

The headers of a request or response in the order of their arrival, names in the case in which they
came. Look-up does not tell upper from lower case in ASCII.
-/

namespace BrowserShell

/-- Headers in the order of arrival: name and value. -/
abbrev Headers := List (String × String)

namespace Headers

/-- The list with a header added at its end. -/
def append (hs : Headers) (name value : String) : Headers := hs ++ [(name, value)]

/-- The values of all headers of this name, in order. -/
def getAll (hs : Headers) (name : String) : List String :=
  (hs.filter fun h => Text.sameLetters h.1 name).map Prod.snd

/-- The value of the first header of this name. -/
def get? (hs : Headers) (name : String) : Option String := (hs.getAll name).head?

end Headers

end BrowserShell
