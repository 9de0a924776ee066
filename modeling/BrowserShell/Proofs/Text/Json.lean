import BrowserShell.Proofs.Text.JsonString
import BrowserShell.Proofs.Text.Split

/-!
# JSON texts

The grammar of JSON (`Json.Writes`) says which texts write a value, blanks between the parts
included; strings are the literals of `JsonString.Literal`. A reader beside it (`Json.parse?`) takes
one value from a text. It reads whatever the grammar writes (`parse?_of_writes`), so that a text
writes one value at most (`Writes.unique`).

A closing bracket or a comma cannot be part of what stands before it, but a number has no mark at
its end: it is read up to the first character that no number has, and what follows a value must not
begin with one (`Ends`).
-/

namespace BrowserShell

/-- A JSON value. A number is kept as it is written, and the members of an object in their order. -/
inductive Json where
  | null
  | bool (b : Bool)
  | number (digits : List Char)
  | string (s : String)
  | array (elements : List Json)
  | object (members : List (String × Json))

namespace Json

/-! ## Grammar -/

/-- The characters that may stand around the parts of a text. -/
def isBlank (c : Char) : Bool := c == ' ' || c == '\t' || c == '\n' || c == '\r'

/-- Whether there is nothing but blanks. -/
def Blank (cs : List Char) : Prop := ∀ c ∈ cs, isBlank c = true

/-- The characters of numbers. -/
def isNumberChar (c : Char) : Bool := c.isDigit || ['+', '-', '.', 'e', 'E'].contains c

/-- What follows a row of digits, none where there is no digit. -/
def afterDigits? : List Char → Option (List Char)
  | [] => none
  | c :: cs => if c.isDigit then some (cs.dropWhile Char.isDigit) else none

/-- What follows the whole part of a number: a zero by itself, or a row of digits. -/
def afterWhole? : List Char → Option (List Char)
  | '0' :: cs => some cs
  | cs => afterDigits? cs

/-- What follows the fraction of a number, if it has one. -/
def afterFraction? : List Char → Option (List Char)
  | '.' :: cs => afterDigits? cs
  | cs => some cs

/-- What follows the exponent of a number, if it has one. -/
def afterExponent? : List Char → Option (List Char)
  | [] => some []
  | c :: cs =>
    if c = 'e' ∨ c = 'E' then
      match cs with
      | '+' :: cs | '-' :: cs => afterDigits? cs
      | cs => afterDigits? cs
    else some (c :: cs)

/-- Whether some characters are a number: a sign, a whole part, a fraction and an exponent. -/
def isNumber (cs : List Char) : Bool :=
  let unsigned := if cs.head? = some '-' then cs.tail else cs
  cs.all isNumberChar &&
    ((afterWhole? unsigned).bind afterFraction? |>.bind afterExponent?) == some []

/-- What a part of a text may stand for. -/
inductive Part where
  /-- A value. -/
  | value (v : Json)
  /-- A value with the blanks around it. -/
  | element (v : Json)
  /-- The elements of an array, at least one. -/
  | elements (vs : List Json)
  /-- A member of an object. -/
  | member (m : String × Json)
  /-- The members of an object, at least one. -/
  | members (ms : List (String × Json))

/-- Whether some characters write a part. -/
inductive Writes : List Char → Part → Prop where
  | null : Writes ['n', 'u', 'l', 'l'] (.value .null)
  | yes : Writes ['t', 'r', 'u', 'e'] (.value (.bool true))
  | no : Writes ['f', 'a', 'l', 's', 'e'] (.value (.bool false))
  | number {w : List Char} (h : isNumber w = true) : Writes w (.value (.number w))
  | string {w cs : List Char} (h : JsonString.Literal w cs) :
      Writes w (.value (.string (String.ofList cs)))
  | noElements {b : List Char} (hb : Blank b) : Writes ('[' :: b ++ [']']) (.value (.array []))
  | array {w : List Char} {vs : List Json} (h : Writes w (.elements vs)) :
      Writes ('[' :: w ++ [']']) (.value (.array vs))
  | noMembers {b : List Char} (hb : Blank b) :
      Writes ('\x7b' :: b ++ ['\x7d']) (.value (.object []))
  | object {w : List Char} {ms : List (String × Json)} (h : Writes w (.members ms)) :
      Writes ('\x7b' :: w ++ ['\x7d']) (.value (.object ms))
  | padded {before w after : List Char} {v : Json} (hb : Blank before) (h : Writes w (.value v))
      (ha : Blank after) : Writes (before ++ w ++ after) (.element v)
  | oneElement {w : List Char} {v : Json} (h : Writes w (.element v)) : Writes w (.elements [v])
  | moreElements {w ws : List Char} {v : Json} {vs : List Json} (h : Writes w (.element v))
      (hs : Writes ws (.elements vs)) : Writes (w ++ ',' :: ws) (.elements (v :: vs))
  | member {before key cs after w : List Char} {v : Json} (hb : Blank before)
      (hk : JsonString.Literal key cs) (ha : Blank after) (h : Writes w (.element v)) :
      Writes (before ++ key ++ after ++ ':' :: w) (.member (String.ofList cs, v))
  | oneMember {w : List Char} {m : String × Json} (h : Writes w (.member m)) :
      Writes w (.members [m])
  | moreMembers {w ws : List Char} {m : String × Json} {ms : List (String × Json)}
      (h : Writes w (.member m)) (hs : Writes ws (.members ms)) :
      Writes (w ++ ',' :: ws) (.members (m :: ms))

/-! ## Reader -/

/-- The text without the blanks at its beginning. -/
def skip (cs : List Char) : List Char := cs.dropWhile isBlank

/-- The word at the beginning of a text, and what follows it. -/
def word? : List Char → Option (Json × List Char)
  | 'n' :: 'u' :: 'l' :: 'l' :: cs => some (.null, cs)
  | 't' :: 'r' :: 'u' :: 'e' :: cs => some (.bool true, cs)
  | 'f' :: 'a' :: 'l' :: 's' :: 'e' :: cs => some (.bool false, cs)
  | _ => none

/-- The number at the beginning of a text, and what follows it. -/
def number? (cs : List Char) : Option (Json × List Char) :=
  let w := cs.takeWhile isNumberChar
  if isNumber w then some (.number w, cs.drop w.length) else none

mutual

/-- The value at the beginning of a text, blanks before it aside, and what follows it and the blanks
after it. Each value that is part of another one, and each list of parts, takes one of `fuel`. -/
def element? : (fuel : Nat) → List Char → Option (Json × List Char)
  | 0, _ => none
  | fuel + 1, cs =>
    match skip cs with
    | [] => none
    | c :: cs =>
      if c = '"' then do
        let (s, cs) ← JsonString.decode? (c :: cs)
        return (.string (String.ofList s), skip cs)
      else if c = '[' then
        match skip cs with
        | ']' :: rest => some (.array [], skip rest)
        | _ => do
          let (vs, cs) ← elements? fuel cs
          return (.array vs, skip cs)
      else if c = '\x7b' then
        match skip cs with
        | '\x7d' :: rest => some (.object [], skip rest)
        | _ => do
          let (ms, cs) ← members? fuel cs
          return (.object ms, skip cs)
      else do
        let (v, cs) ← (word? (c :: cs)).or (number? (c :: cs))
        return (v, skip cs)

/-- The elements of an array up to its closing bracket, and what follows that. -/
def elements? : (fuel : Nat) → List Char → Option (List Json × List Char)
  | 0, _ => none
  | fuel + 1, cs => do
    let (v, cs) ← element? fuel cs
    match cs with
    | ',' :: cs => do
      let (vs, cs) ← elements? fuel cs
      return (v :: vs, cs)
    | ']' :: cs => return ([v], cs)
    | _ => none

/-- The members of an object up to its closing brace, and what follows that. -/
def members? : (fuel : Nat) → List Char → Option (List (String × Json) × List Char)
  | 0, _ => none
  | fuel + 1, cs => do
    let (m, cs) ← member? fuel cs
    match cs with
    | ',' :: cs => do
      let (ms, cs) ← members? fuel cs
      return (m :: ms, cs)
    | '\x7d' :: cs => return ([m], cs)
    | _ => none

/-- The member of an object at the beginning of a text, and what follows it. -/
def member? : (fuel : Nat) → List Char → Option ((String × Json) × List Char)
  | 0, _ => none
  | fuel + 1, cs => do
    let (key, cs) ← JsonString.decode? (skip cs)
    let cs ← Text.after? [':'] (skip cs)
    let (v, cs) ← element? fuel cs
    return ((String.ofList key, v), cs)

end

/-- The value that a text writes. -/
def parse? (s : String) : Option Json :=
  match element? (2 * s.toList.length) s.toList with
  | some (v, []) => some v
  | _ => none

/-! ## Where a part begins and ends -/

/-- Whether what follows a value leaves it as it is: no blank and no character of a number. -/
def Ends (rest : List Char) : Prop := ∀ c ∈ rest.head?, isBlank c = false ∧ isNumberChar c = false

/-- Blanks in front of a text are skipped. -/
theorem skip_append {b : List Char} (hb : Blank b) (rest : List Char) :
    skip (b ++ rest) = skip rest :=
  List.dropWhile_append_of_pos hb

/-- Nothing is skipped in front of a character that is no blank. -/
theorem skip_cons {c : Char} (hc : isBlank c = false) (cs : List Char) :
    skip (c :: cs) = c :: cs :=
  List.dropWhile_cons_of_neg (by simp [hc])

/-- Nothing is skipped where a value ends. -/
theorem skip_of_ends {rest : List Char} (h : Ends rest) : skip rest = rest :=
  Text.dropWhile_of_head? fun c hc => (h c hc).1

/-- A value ends before the marks of arrays and objects. -/
theorem ends_cons {c : Char} (hc : c ∈ [',', ']', '\x7d']) (cs : List Char) : Ends (c :: cs) := by
  intro d hd
  obtain rfl : c = d := Option.some.inj hd
  simp only [List.mem_cons, List.not_mem_nil, or_false] at hc
  rcases hc with rfl | rfl | rfl <;> decide

/-- No character of a number is a blank. -/
theorem isBlank_of_isNumberChar {c : Char} (h : isNumberChar c = true) : isBlank c = false := by
  rw [Bool.eq_false_iff]
  intro hb
  simp only [isBlank, Bool.or_eq_true, beq_iff_eq] at hb
  rcases hb with ((rfl | rfl) | rfl) | rfl <;> exact absurd h (by decide)

/-- The characters of a number, of which there is at least one. -/
theorem exists_cons_of_isNumber {w : List Char} (h : isNumber w = true) :
    ∃ c cs, w = c :: cs ∧ ∀ d ∈ w, isNumberChar d = true := by
  cases w with
  | nil => exact absurd h (by decide)
  | cons c cs =>
    simp only [isNumber, Bool.and_eq_true] at h
    exact ⟨c, cs, rfl, List.all_eq_true.1 h.1⟩

/-- The first character of a value is no blank and closes nothing. -/
theorem exists_cons_of_writes {w : List Char} {v : Json} (h : Writes w (.value v)) :
    ∃ c cs, w = c :: cs ∧ isBlank c = false ∧ c ≠ ']' := by
  cases h with
  | null => exact ⟨_, _, rfl, by decide, by decide⟩
  | yes => exact ⟨_, _, rfl, by decide, by decide⟩
  | no => exact ⟨_, _, rfl, by decide, by decide⟩
  | number h =>
    obtain ⟨c, cs, rfl, hall⟩ := exists_cons_of_isNumber h
    have hc : isNumberChar c = true := hall c List.mem_cons_self
    refine ⟨c, cs, rfl, isBlank_of_isNumberChar hc, ?_⟩
    rintro rfl
    exact absurd hc (by decide)
  | string h =>
    obtain ⟨inner, rfl, -⟩ := h
    exact ⟨_, _, rfl, by decide, by decide⟩
  | noElements hb => exact ⟨_, _, rfl, by decide, by decide⟩
  | array h => exact ⟨_, _, rfl, by decide, by decide⟩
  | noMembers hb => exact ⟨_, _, rfl, by decide, by decide⟩
  | object h => exact ⟨_, _, rfl, by decide, by decide⟩

/-- What begins with a list of elements does not close the array. -/
theorem skip_elements {w : List Char} {vs : List Json} (h : Writes w (.elements vs))
    (rest : List Char) : ∃ c cs, skip (w ++ rest) = c :: cs ∧ c ≠ ']' := by
  have hpadded : ∀ {w : List Char} {v : Json} (rest : List Char), Writes w (.element v) →
      ∃ c cs, skip (w ++ rest) = c :: cs ∧ c ≠ ']' := by
    intro w v rest h
    cases h with
    | padded hb h ha =>
      obtain ⟨c, cs, rfl, hc, hne⟩ := exists_cons_of_writes h
      rw [List.append_assoc, List.append_assoc, skip_append hb, List.cons_append, skip_cons hc]
      exact ⟨c, _, rfl, hne⟩
  cases h with
  | oneElement h => exact hpadded rest h
  | moreElements h hs =>
    rw [List.append_assoc]
    exact hpadded _ h

/-- What begins with a list of members begins with a quote. -/
theorem skip_members {w : List Char} {ms : List (String × Json)} (h : Writes w (.members ms))
    (rest : List Char) : ∃ cs, skip (w ++ rest) = '"' :: cs := by
  have hkey : ∀ {w : List Char} {m : String × Json} (rest : List Char), Writes w (.member m) →
      ∃ cs, skip (w ++ rest) = '"' :: cs := by
    intro w m rest h
    cases h with
    | member hb hk ha h =>
      obtain ⟨inner, rfl, -⟩ := hk
      rw [List.append_assoc, List.append_assoc, List.append_assoc, skip_append hb]
      exact ⟨_, skip_cons (by decide) _⟩
  cases h with
  | oneMember h => exact hkey rest h
  | moreMembers h hs =>
    rw [List.append_assoc]
    exact hkey _ h

/-! ## Reading what is written -/

/-- Whether the reader takes a part from its writing, given as much fuel as the text is long at
least, and leaves what follows. -/
def Read (w : List Char) : Part → Prop
  | .value v => ∀ fuel rest, 2 * w.length ≤ fuel → (∀ c ∈ rest.head?, isNumberChar c = false) →
      element? fuel (w ++ rest) = some (v, skip rest)
  | .element v => ∀ fuel rest, 2 * w.length ≤ fuel → Ends rest →
      element? fuel (w ++ rest) = some (v, rest)
  | .elements vs => ∀ fuel rest, 2 * w.length < fuel →
      elements? fuel (w ++ ']' :: rest) = some (vs, rest)
  | .member m => ∀ fuel rest, 2 * w.length ≤ fuel → Ends rest →
      member? fuel (w ++ rest) = some (m, rest)
  | .members ms => ∀ fuel rest, 2 * w.length < fuel →
      members? fuel (w ++ '\x7d' :: rest) = some (ms, rest)

/-- Blanks in front of a value are passed over. -/
theorem element?_append {b : List Char} (hb : Blank b) (fuel : Nat) (cs : List Char) :
    element? fuel (b ++ cs) = element? fuel cs := by
  cases fuel with
  | zero => rfl
  | succ fuel => rw [element?, element?, skip_append hb]

/-- A number is read up to where it ends. -/
theorem number?_append {w rest : List Char} (h : isNumber w = true)
    (hrest : ∀ c ∈ rest.head?, isNumberChar c = false) :
    number? (w ++ rest) = some (.number w, rest) := by
  obtain ⟨-, -, -, hall⟩ := exists_cons_of_isNumber h
  have htake : (w ++ rest).takeWhile isNumberChar = w :=
    Text.takeWhile_append_of_head? hall hrest
  unfold number?
  rw [htake]
  dsimp only
  rw [if_pos h, List.drop_left]

/-- A number is read as a value. -/
theorem read_number {w : List Char} (h : isNumber w = true) : Read w (.value (.number w)) := by
  intro fuel rest hfuel hrest
  obtain ⟨c, cs, rfl, hall⟩ := exists_cons_of_isNumber h
  have hc : isNumberChar c = true := hall c List.mem_cons_self
  have hne : ∀ d : Char, isNumberChar d = false → c ≠ d := by
    rintro d hd rfl
    rw [hd] at hc
    cases hc
  have hword : word? (c :: (cs ++ rest)) = none := by
    unfold word?
    split
    · rename_i heq
      exact absurd (List.cons.inj heq).1 (hne 'n' (by decide))
    · rename_i heq
      exact absurd (List.cons.inj heq).1 (hne 't' (by decide))
    · rename_i heq
      exact absurd (List.cons.inj heq).1 (hne 'f' (by decide))
    · rfl
  obtain ⟨fuel, rfl⟩ := Nat.exists_eq_add_one_of_ne_zero (n := fuel) (by
    rw [List.length_cons] at hfuel
    omega)
  rw [element?, List.cons_append, skip_cons (isBlank_of_isNumberChar hc)]
  dsimp only
  rw [if_neg (hne '"' (by decide)), if_neg (hne '[' (by decide)),
    if_neg (hne '\x7b' (by decide)), hword, Option.none_or, ← List.cons_append,
    number?_append h hrest]
  rfl

/-- A string is read as a value. -/
theorem read_string {w cs : List Char} (h : JsonString.Literal w cs) :
    Read w (.value (.string (String.ofList cs))) := by
  intro fuel rest hfuel hrest
  have hread := h.decode? rest
  obtain ⟨inner, rfl, -⟩ := h
  obtain ⟨fuel, rfl⟩ := Nat.exists_eq_add_one_of_ne_zero (n := fuel) (by
    simp only [List.length_append, List.length_cons] at hfuel
    omega)
  rw [List.cons_append, List.cons_append] at hread ⊢
  rw [element?, skip_cons (by decide)]
  dsimp only
  rw [if_pos rfl, hread]
  rfl

/-- A part of length is read with fuel. -/
theorem exists_fuel {w : List Char} {fuel : Nat} (hw : w ≠ []) (h : 2 * w.length ≤ fuel) :
    ∃ less, fuel = less + 1 := by
  have hpos : 0 < w.length := List.length_pos_iff.2 hw
  exact ⟨fuel - 1, by omega⟩

/-- An array with elements is read as a value if they are read. -/
theorem read_array {w : List Char} {vs : List Json} (h : Writes w (.elements vs))
    (hread : Read w (.elements vs)) : Read ('[' :: w ++ [']']) (.value (.array vs)) := by
  intro fuel rest hfuel hrest
  obtain ⟨fuel, rfl⟩ := exists_fuel (by simp) hfuel
  have hlength : 2 * w.length < fuel := by
    simp only [List.length_append, List.length_cons, List.length_nil] at hfuel
    omega
  obtain ⟨c, cs, hskip, hne⟩ := skip_elements h (']' :: rest)
  have htext : '[' :: w ++ [']'] ++ rest = '[' :: (w ++ ']' :: rest) := by simp
  rw [htext, element?, skip_cons (by decide)]
  dsimp only
  rw [if_neg (by decide), if_pos rfl, hskip]
  split
  · rename_i heq
    exact absurd (List.cons.inj heq).1 hne
  · rw [hread fuel rest hlength]
    rfl

/-- An object with members is read as a value if they are read. -/
theorem read_object {w : List Char} {ms : List (String × Json)} (h : Writes w (.members ms))
    (hread : Read w (.members ms)) : Read ('\x7b' :: w ++ ['\x7d']) (.value (.object ms)) := by
  intro fuel rest hfuel hrest
  obtain ⟨fuel, rfl⟩ := exists_fuel (by simp) hfuel
  have hlength : 2 * w.length < fuel := by
    simp only [List.length_append, List.length_cons, List.length_nil] at hfuel
    omega
  obtain ⟨cs, hskip⟩ := skip_members h ('\x7d' :: rest)
  have htext : '\x7b' :: w ++ ['\x7d'] ++ rest = '\x7b' :: (w ++ '\x7d' :: rest) := by simp
  rw [htext, element?, skip_cons (by decide)]
  dsimp only
  rw [if_neg (by decide), if_neg (by decide), if_pos rfl, hskip]
  split
  · rename_i heq
    exact absurd (List.cons.inj heq).1 (by decide)
  · rw [hread fuel rest hlength]
    rfl

/-- A value is read with the blanks around it. -/
theorem read_padded {before w after : List Char} {v : Json} (hb : Blank before) (ha : Blank after)
    (hread : Read w (.value v)) : Read (before ++ w ++ after) (.element v) := by
  intro fuel rest hfuel hrest
  have hlength : 2 * w.length ≤ fuel := by
    simp only [List.length_append] at hfuel
    omega
  -- A blank ends a number, as does what follows the blanks.
  have hends : ∀ c ∈ (after ++ rest).head?, isNumberChar c = false := by
    cases after with
    | nil => exact fun c hc => (hrest c hc).2
    | cons a after =>
      intro c hc
      obtain rfl : a = c := Option.some.inj hc
      rw [Bool.eq_false_iff]
      intro hnumber
      have hblank := ha a List.mem_cons_self
      rw [isBlank_of_isNumberChar hnumber] at hblank
      cases hblank
  rw [List.append_assoc, List.append_assoc, element?_append hb, hread fuel _ hlength hends,
    skip_append ha, skip_of_ends hrest]

/-- A member is read if its value is. -/
theorem read_member {before key cs after w : List Char} {v : Json} (hb : Blank before)
    (hk : JsonString.Literal key cs) (ha : Blank after) (hread : Read w (.element v)) :
    Read (before ++ key ++ after ++ ':' :: w) (.member (String.ofList cs, v)) := by
  intro fuel rest hfuel hrest
  obtain ⟨fuel, rfl⟩ := exists_fuel (by simp) hfuel
  have hlength : 2 * w.length ≤ fuel := by
    simp only [List.length_append, List.length_cons] at hfuel
    omega
  have htext : before ++ key ++ after ++ ':' :: w ++ rest =
      before ++ (key ++ (after ++ ':' :: (w ++ rest))) := by simp
  have hskip : skip (key ++ (after ++ ':' :: (w ++ rest))) =
      key ++ (after ++ ':' :: (w ++ rest)) := by
    obtain ⟨inner, rfl, -⟩ := hk
    exact skip_cons (by decide) _
  have hcolon : skip (after ++ ':' :: (w ++ rest)) = [':'] ++ (w ++ rest) := by
    rw [skip_append ha]
    exact skip_cons (by decide) _
  rw [htext, member?, skip_append hb, hskip, hk.decode?]
  dsimp only [Option.bind_eq_bind, Option.bind_some]
  rw [hcolon, Text.after?_append]
  dsimp only [Option.bind_some]
  rw [hread fuel rest hlength hrest]
  rfl

/-- What is written is read. -/
theorem read_of_writes {w : List Char} {p : Part} (h : Writes w p) : Read w p := by
  induction h with
  | null =>
    intro fuel rest hfuel hrest
    obtain ⟨fuel, rfl⟩ := exists_fuel (by simp) hfuel
    rfl
  | yes =>
    intro fuel rest hfuel hrest
    obtain ⟨fuel, rfl⟩ := exists_fuel (by simp) hfuel
    rfl
  | no =>
    intro fuel rest hfuel hrest
    obtain ⟨fuel, rfl⟩ := exists_fuel (by simp) hfuel
    rfl
  | number h => exact read_number h
  | string h => exact read_string h
  | @noElements b hb =>
    intro fuel rest hfuel hrest
    obtain ⟨fuel, rfl⟩ := exists_fuel (by simp) hfuel
    have htext : '[' :: b ++ [']'] ++ rest = '[' :: (b ++ ']' :: rest) := by simp
    rw [htext, element?, skip_cons (by decide)]
    dsimp only
    rw [if_neg (by decide), if_pos rfl, skip_append hb, skip_cons (by decide)]
    rfl
  | array h ih => exact read_array h ih
  | @noMembers b hb =>
    intro fuel rest hfuel hrest
    obtain ⟨fuel, rfl⟩ := exists_fuel (by simp) hfuel
    have htext : '\x7b' :: b ++ ['\x7d'] ++ rest = '\x7b' :: (b ++ '\x7d' :: rest) := by simp
    rw [htext, element?, skip_cons (by decide)]
    dsimp only
    rw [if_neg (by decide), if_neg (by decide), if_pos rfl, skip_append hb, skip_cons (by decide)]
    rfl
  | object h ih => exact read_object h ih
  | padded hb h ha ih => exact read_padded hb ha ih
  | @oneElement w v h ih =>
    intro fuel rest hfuel
    obtain ⟨fuel, rfl⟩ : ∃ less, fuel = less + 1 := ⟨fuel - 1, by omega⟩
    rw [elements?, ih fuel _ (by omega) (ends_cons (by decide) rest)]
    rfl
  | @moreElements w ws v vs h hs ih ihs =>
    intro fuel rest hfuel
    simp only [List.length_append, List.length_cons] at hfuel
    obtain ⟨fuel, rfl⟩ : ∃ less, fuel = less + 1 := ⟨fuel - 1, by omega⟩
    rw [elements?, List.append_assoc, List.cons_append,
      ih fuel _ (by omega) (ends_cons (by decide) _)]
    show ((elements? fuel (ws ++ ']' :: rest)).bind fun (vs, cs) => some (v :: vs, cs)) = _
    rw [ihs fuel rest (by omega)]
    rfl
  | member hb hk ha h ih => exact read_member hb hk ha ih
  | @oneMember w m h ih =>
    intro fuel rest hfuel
    obtain ⟨fuel, rfl⟩ : ∃ less, fuel = less + 1 := ⟨fuel - 1, by omega⟩
    rw [members?, ih fuel _ (by omega) (ends_cons (by decide) rest)]
    rfl
  | @moreMembers w ws m ms h hs ih ihs =>
    intro fuel rest hfuel
    simp only [List.length_append, List.length_cons] at hfuel
    obtain ⟨fuel, rfl⟩ : ∃ less, fuel = less + 1 := ⟨fuel - 1, by omega⟩
    rw [members?, List.append_assoc, List.cons_append,
      ih fuel _ (by omega) (ends_cons (by decide) _)]
    show ((members? fuel (ws ++ '\x7d' :: rest)).bind fun (ms, cs) => some (m :: ms, cs)) = _
    rw [ihs fuel rest (by omega)]
    rfl

/-- A text is read as what it writes. -/
theorem parse?_of_writes {s : String} {v : Json} (h : Writes s.toList (.element v)) :
    parse? s = some v := by
  have hread := read_of_writes h (2 * s.toList.length) [] (Nat.le_refl _) (by simp [Ends])
  rw [List.append_nil] at hread
  unfold parse?
  rw [hread]

/-- A text writes one value at most. -/
theorem Writes.unique {s : String} {v v' : Json} (h : Writes s.toList (.element v))
    (h' : Writes s.toList (.element v')) : v = v' :=
  Option.some.inj ((parse?_of_writes h).symm.trans (parse?_of_writes h'))

end Json

end BrowserShell
