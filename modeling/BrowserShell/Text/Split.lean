/-!
# Cutting text at separators

Texts are cut on lists of characters, and the same functions are offered on `String`. `pieces` cuts
at every separator and keeps empty pieces, so that joining the pieces with the separator gives the
text back; `cut?` cuts at the first separator and `cutLast?` at the last.
-/

namespace BrowserShell.Text

variable {α : Type} [DecidableEq α]

/-- The pieces between the separators, one more than there are separators. -/
def pieces (sep : α) : List α → List (List α)
  | [] => [[]]
  | c :: cs =>
    if c = sep then [] :: pieces sep cs
    else
      match pieces sep cs with
      | [] => [[c]]
      | p :: ps => (c :: p) :: ps

/-- The pieces put together again, with the separator between them. -/
def joined (sep : α) : List (List α) → List α
  | [] => []
  | [p] => p
  | p :: ps => p ++ sep :: joined sep ps

/-- What stands before the first separator and what after it. -/
def cut? (sep : α) : List α → Option (List α × List α)
  | [] => none
  | c :: cs =>
    if c = sep then some ([], cs) else (cut? sep cs).map fun (a, b) => (c :: a, b)

/-- What stands before the last separator and what after it. -/
def cutLast? (sep : α) (cs : List α) : Option (List α × List α) :=
  (cut? sep cs.reverse).map fun (a, b) => (b.reverse, a.reverse)

/-- The rest of a text that begins with `start`. -/
def after? : (start text : List α) → Option (List α)
  | [], cs => some cs
  | _ :: _, [] => none
  | p :: ps, c :: cs => if p = c then after? ps cs else none

/-- Whether `part` occurs in a text. -/
def occursIn (part : List α) : List α → Bool
  | [] => part.isEmpty
  | c :: cs => (after? part (c :: cs)).isSome || occursIn part cs

/-- Whether a text ends with `tail`. -/
def endsWith (tail cs : List α) : Bool := (after? tail.reverse cs.reverse).isSome

end BrowserShell.Text

namespace BrowserShell

/-- The pieces of a text between the separators. -/
def Text.split (sep : Char) (s : String) : List String :=
  (Text.pieces sep s.toList).map String.ofList

/-- The texts joined with a character between them. -/
def Text.join (sep : Char) (ss : List String) : String :=
  String.ofList (Text.joined sep (ss.map String.toList))

/-- Whether the text `part` occurs in `s`. -/
def Text.contains (s part : String) : Bool := Text.occursIn part.toList s.toList

/-- Whether the text `s` ends with `tail`. -/
def Text.hasEnd (s tail : String) : Bool := Text.endsWith tail.toList s.toList

/-- The count of bytes in the UTF-8 form of some characters. -/
def Text.byteCount : List Char → Nat
  | [] => 0
  | c :: cs => c.utf8Size + Text.byteCount cs

/-- The lower case of an ASCII capital, any other character itself. -/
def Text.lower (c : Char) : Char := if c.isUpper then c.toLower else c

/-- Whether two texts differ at most in the case of ASCII letters. -/
def Text.sameLetters (a b : String) : Bool :=
  a.toList.map Text.lower == b.toList.map Text.lower

/-- The text with its ASCII capitals in lower case. -/
def Text.lowered (s : String) : String := String.ofList (s.toList.map Text.lower)

end BrowserShell
