import BrowserShell.Proofs.Url.Domain
import BrowserShell.Url.Parser
import Mathlib.Data.List.DropRight

/-!
# Where the authority ends

The name and password, the host and the port of a URL are read one after the other, and each leaves
what it does not take to the next. None of them takes a character that ends the authority, and the
last one leaves nothing else: the path of a special URL is read from the first such character on,
whatever stands before it (`eq_ofParts_of_readAuthority`). Where that is a plain name, the URL is
read (`readAuthority_of_isPlain`).
-/

namespace BrowserShell.Url

/-- Whether a character is part of the authority of a special URL. -/
def isInAuthority (c : Char) : Bool := !endsAuthority true c

/-- What follows the authority of a special URL. -/
def behindAuthority (cs : List Char) : List Char := cs.dropWhile isInAuthority

/-- What is read of an authority is followed by what follows the authority. -/
theorem behindAuthority_append {read : List Char} (h : ∀ c ∈ read, isInAuthority c = true)
    (rest : List Char) : behindAuthority (read ++ rest) = behindAuthority rest :=
  List.dropWhile_append_of_pos h

/-- A text that begins with the end of the authority follows it. -/
theorem behindAuthority_eq_self {rest : List Char}
    (h : ∀ c ∈ rest.head?, isInAuthority c = false) : behindAuthority rest = rest :=
  Text.dropWhile_of_head? h

/-- What follows the authority does not begin with a character of it. -/
theorem head?_behindAuthority (cs : List Char) :
    ∀ c ∈ (behindAuthority cs).head?, isInAuthority c = false := by
  intro c hc
  have hnot := List.head?_dropWhile_not isInAuthority cs
  rw [behindAuthority, Option.mem_def] at hc
  rwa [hc] at hnot

/-- Dropping no more than the authority leaves what follows it. -/
theorem behindAuthority_drop {cs : List Char} {n : Nat}
    (h : n ≤ (cs.takeWhile isInAuthority).length) :
    behindAuthority (cs.drop n) = behindAuthority cs := by
  have hall : ∀ c ∈ (cs.takeWhile isInAuthority).drop n, isInAuthority c = true := fun c hc =>
    List.all_eq_true.1 List.all_takeWhile c (List.mem_of_mem_drop hc)
  have hsplit : cs.drop n = (cs.takeWhile isInAuthority).drop n ++ behindAuthority cs := by
    rw [← List.drop_append_of_le_length h, behindAuthority, List.takeWhile_append_dropWhile]
  rw [hsplit, behindAuthority_append hall, behindAuthority_eq_self (head?_behindAuthority cs)]

/-! ## Reading -/

/-- Name and password take nothing behind the authority. -/
theorem behindAuthority_of_readUserInfo {cs info rest : List Char}
    (h : readUserInfo true cs = .ok (info, rest)) : behindAuthority rest = behindAuthority cs := by
  unfold readUserInfo at h
  split at h
  · cases h
    rfl
  · rename_i after hcut
    have hlength : 1 ≤ (cs.takeWhile isInAuthority).length := by
      have heq : cs.takeWhile isInAuthority = [] ++ '@' :: after := Text.eq_of_cutLast? hcut
      rw [heq]
      simp
    dsimp only at h
    split at h
    · cases h
    · cases h
      exact behindAuthority_drop hlength
  · rename_i before after _ hcut
    have hlength : before.length + 1 ≤ (cs.takeWhile isInAuthority).length := by
      have heq : cs.takeWhile isInAuthority = before ++ '@' :: after := Text.eq_of_cutLast? hcut
      rw [heq]
      simp
    cases h
    exact behindAuthority_drop hlength

/-- A host takes characters of the authority, up to a colon or the end of the authority. -/
theorem takeHost_cases (inBrackets : Bool) (cs : List Char) :
    ∃ rest, cs = takeHost true inBrackets cs ++ rest ∧
      (∀ c ∈ takeHost true inBrackets cs, isInAuthority c = true) ∧
      ∀ c ∈ rest.head?, c = ':' ∨ isInAuthority c = false := by
  induction cs generalizing inBrackets with
  | nil => exact ⟨[], rfl, by simp [takeHost], by simp⟩
  | cons c cs ih =>
    rw [takeHost]
    split
    · rename_i hstop
      refine ⟨c :: cs, rfl, by simp, ?_⟩
      rintro d hd
      obtain rfl : c = d := Option.some.inj hd
      simp only [Bool.or_eq_true, Bool.and_eq_true, beq_iff_eq] at hstop
      rcases hstop with ⟨hcolon, -⟩ | hend
      · exact .inl hcolon
      · exact .inr (by rw [isInAuthority, hend]; rfl)
    · rename_i hgo
      obtain ⟨rest, hsplit, hall, hrest⟩ := ih (c == '[' || inBrackets && c != ']')
      refine ⟨rest, congrArg (c :: ·) hsplit, List.forall_mem_cons.2 ⟨?_, hall⟩, hrest⟩
      rw [Bool.or_eq_true, not_or] at hgo
      rw [isInAuthority, Bool.eq_false_iff.2 hgo.2]
      rfl

/-- A digit does not end the authority. -/
theorem isInAuthority_of_isDigit {c : Char} (h : c.isDigit = true) : isInAuthority c = true := by
  have hne : ∀ d : Char, d.isDigit = false → (c == d) = false := by
    intro d hd
    rw [beq_eq_false_iff_ne]
    rintro rfl
    exact absurd h (Bool.eq_false_iff.1 hd)
  simp [isInAuthority, endsAuthority, hne]

/-- The digits of a port are followed by the end of the authority. -/
theorem behindAuthority_of_readPort {port port' : Option Nat} {cs rest : List Char}
    (h : readPort port cs = .ok (port', rest)) : rest = behindAuthority cs := by
  induction cs generalizing port with
  | nil =>
    cases h
    rfl
  | cons c cs ih =>
    rw [readPort] at h
    split at h
    · rename_i hdigit
      have hin : isInAuthority c = true := isInAuthority_of_isDigit hdigit
      dsimp only at h
      split at h
      · cases h
      · rw [ih h]
        exact (List.dropWhile_cons_of_pos hin).symm
    · split at h
      · rename_i hend
        cases h
        refine (behindAuthority_eq_self fun d hd => ?_).symm
        obtain rfl : c = d := Option.some.inj hd
        simp only [List.contains_eq_mem, List.mem_cons, List.not_mem_nil, or_false,
          decide_eq_true_eq] at hend
        rcases hend with rfl | rfl | rfl | rfl <;> rfl
      · cases h

/-- Host and port are followed by the end of the authority. -/
theorem behindAuthority_of_readHost {scheme : String} (hs : isSpecial scheme = true)
    {cs rest : List Char} {host : Option Host} {port : Option Nat}
    (h : readHost scheme cs = .ok (host, port, rest)) : rest = behindAuthority cs := by
  obtain ⟨after, hsplit, hall, hafter⟩ := takeHost_cases false cs
  have hbehind : behindAuthority cs = behindAuthority after := by
    rw [hsplit, behindAuthority_append hall]
  have hdrop : cs.drop (takeHost true false cs).length = after :=
    (congrArg (List.drop _) hsplit).trans List.drop_left
  unfold readHost at h
  rw [hs] at h
  dsimp only at h
  rw [hdrop] at h
  split at h
  · cases h
  · obtain ⟨found, -, h⟩ := exists_of_bind_eq_ok h
    rw [hbehind]
    split at h
    · rename_i text
      split at h
      · cases h
      · obtain ⟨⟨number, left⟩, hport, h⟩ := exists_of_bind_eq_ok h
        cases h
        rw [behindAuthority_of_readPort hport]
        exact (List.dropWhile_cons_of_pos rfl).symm
    · rename_i hcolon
      cases h
      refine (behindAuthority_eq_self fun c hc => (hafter c hc).resolve_left ?_).symm
      rintro rfl
      obtain ⟨text, htext⟩ := List.head?_eq_some_iff.1 hc
      exact hcolon text htext

/-- The path of a special URL is read from the end of the authority on. -/
theorem eq_ofParts_of_readAuthority {scheme : String} (hs : isSpecial scheme = true)
    {cs : List Char} {u : Url} (h : readAuthority scheme cs = .ok u) :
    ∃ a, u = ofParts scheme a (readPathStart true false (behindAuthority cs)).1
      (readPathStart true false (behindAuthority cs)).2 := by
  unfold readAuthority at h
  rw [hs] at h
  obtain ⟨⟨info, rest⟩, hinfo, h⟩ := exists_of_bind_eq_ok h
  obtain ⟨⟨host, port, rest'⟩, hhost, h⟩ := exists_of_bind_eq_ok h
  have hbehind : rest' = behindAuthority cs := by
    rw [behindAuthority_of_readHost hs hhost, behindAuthority_of_readUserInfo hinfo]
  dsimp only at h
  split at h
  · cases h
  · cases h
    rw [hbehind]
    exact ⟨_, rfl⟩

/-! ## Plain hosts -/

section

variable {name : String} {rest : List Char} (hname : ∀ c ∈ name.toList, Domain.isPlain c = true)
  (hrest : ∀ c ∈ rest.head?, isInAuthority c = false)

/-- A plain character does not end the authority. -/
theorem isInAuthority_of_isPlain {c : Char} (h : Domain.isPlain c = true) :
    isInAuthority c = true := by
  have hne : ∀ d : Char, Domain.isPlain d = false → (c == d) = false := fun d hd =>
    beq_eq_false_iff_ne.2 (Domain.ne_of_isPlain h hd)
  simp [isInAuthority, endsAuthority, hne '/' (by decide), hne '?' (by decide),
    hne '#' (by decide), hne '\\' (by decide)]

include hname hrest

/-- A plain host is taken up to the end of the authority. -/
theorem takeHost_of_isPlain : takeHost true false (name.toList ++ rest) = name.toList := by
  generalize name.toList = cs at hname
  induction cs with
  | nil =>
    cases rest with
    | nil => rfl
    | cons c cs =>
      have hend : endsAuthority true c = true := by simpa [isInAuthority] using hrest c rfl
      rw [List.nil_append, takeHost, if_pos (by rw [hend, Bool.or_true])]
  | cons c cs ih =>
    obtain ⟨hc, hcs⟩ := List.forall_mem_cons.1 hname
    have hend : endsAuthority true c = false := by
      simpa [isInAuthority] using isInAuthority_of_isPlain hc
    have hcolon : (c == ':') = false := beq_eq_false_iff_ne.2 (Domain.ne_of_isPlain hc (by decide))
    have hbracket : (c == '[') = false :=
      beq_eq_false_iff_ne.2 (Domain.ne_of_isPlain hc (by decide))
    rw [List.cons_append, takeHost, hend, hcolon, hbracket]
    exact congrArg (c :: ·) (ih hcs)

/-- A plain host has no name and password before it. -/
theorem readUserInfo_of_isPlain :
    readUserInfo true (name.toList ++ rest) = .ok ([], name.toList ++ rest) := by
  have htake : (name.toList ++ rest).takeWhile isInAuthority = name.toList :=
    Text.takeWhile_append_of_head? (fun c hc => isInAuthority_of_isPlain (hname c hc)) hrest
  have hcut : Text.cutLast? '@'
      ((name.toList ++ rest).takeWhile fun c => !endsAuthority true c) = none := by
    refine (congrArg _ htake).trans (Option.eq_none_iff_forall_ne_some.2 ?_)
    rintro ⟨before, after⟩ hcut
    have hat : '@' ∈ name.toList := by
      rw [Text.eq_of_cutLast? hcut]
      simp
    exact absurd (hname _ hat) (by decide)
  rw [readUserInfo, hcut]

/-- Reading the authority of a special URL that names a plain host and nothing else. -/
theorem readAuthority_of_isPlain {scheme : String} (hs : isSpecial scheme = true) (hne : name ≠ "")
    (hnumber : Ipv4.endsInNumber name.toList = false) :
    readAuthority scheme (name.toList ++ rest) =
      .ok (ofParts scheme (some ⟨"", some (.name name), none⟩) (readPathStart true false rest).1
        (readPathStart true false rest).2) := by
  have hdrop : (name.toList ++ rest).drop name.toList.length = rest := List.drop_left
  have hhost : readHost scheme (name.toList ++ rest) = .ok (some (.name name), none, rest) := by
    have hparse : parseHost scheme name.toList = .ok (.name name) := by
      rw [parseHost, hs]
      exact Host.parse_of_isPlain hname hne hnumber
    have hempty : name.toList.isEmpty = false := by
      simpa using hne
    have hnonempty : (Host.name name == .name "") = false := by
      simpa using hne
    unfold readHost
    rw [hs]
    dsimp only
    rw [takeHost_of_isPlain hname hrest, hdrop, hempty, hparse]
    dsimp only [bind, Except.bind]
    rw [Bool.and_false, if_neg Bool.false_ne_true, hnonempty]
    split
    · exact absurd (hrest ':' rfl) (by decide)
    · rfl
  unfold readAuthority
  rw [hs]
  dsimp only
  rw [readUserInfo_of_isPlain hname hrest]
  dsimp only [bind, Except.bind]
  rw [hhost]
  rfl

end

/-! ## The whole -/

/-- A text without what is dropped inside a URL. -/
def inside (cs : List Char) : List Char := cs.filter fun c => !isInner c

/-- Whether a character is a slash in a special URL. -/
def isAnySlash (c : Char) : Bool := c == '/' || c == '\\'

/-- The schemes of web pages. -/
def webSchemes : List String := ["http", "https"]

/-- A text with nothing to drop around it loses what is dropped inside. -/
theorem cleaned_eq_inside {cs : List Char} (hhead : ∀ c ∈ cs.head?, isOuter c = false)
    (hlast : ∀ c ∈ cs.getLast?, isOuter c = false) : cleaned cs = inside cs := by
  have hstart : cs.dropWhile isOuter = cs := Text.dropWhile_of_head? hhead
  have hend : (cs.reverse.dropWhile isOuter).reverse = cs := by
    refine List.rdropWhile_eq_self_iff.2 fun hne => ?_
    rw [hlast _ (List.getLast?_eq_some_getLast hne)]
    exact Bool.false_ne_true
  rw [cleaned, hstart, hend, inside]

/-- A text that ends with another one has nothing to drop at its end, if neither has. -/
theorem isOuter_getLast?_append {cs ds : List Char} (hcs : ∀ c ∈ cs.getLast?, isOuter c = false)
    (hds : ∀ c ∈ ds.getLast?, isOuter c = false) :
    ∀ c ∈ (cs ++ ds).getLast?, isOuter c = false := by
  intro c hc
  rw [List.getLast?_append] at hc
  rcases Option.or_eq_some_iff.1 hc with hc | ⟨-, hc⟩
  · exact hds c hc
  · exact hcs c hc

/-- What follows the scheme of a web page is read from its authority on, behind any slashes. -/
theorem parse_web {scheme : String} (hs : scheme ∈ webSchemes) {text : String}
    (hend : ∀ c ∈ text.toList.getLast?, isOuter c = false) :
    parse (scheme ++ "://" ++ text) =
      readAuthority scheme ((inside text.toList).dropWhile isAnySlash) := by
  have hlast : ∀ c ∈ (scheme ++ "://" ++ text).toList.getLast?, isOuter c = false := by
    rw [String.toList_append, String.toList_append]
    refine isOuter_getLast?_append (fun c hc => ?_) hend
    obtain rfl : '/' = c := by simpa using hc
    rfl
  unfold parse parseChars
  rcases List.mem_cons.1 hs with rfl | hs
  · rw [cleaned_eq_inside (by simp [isOuter]) hlast, String.toList_append]
    rfl
  · obtain rfl := List.mem_singleton.1 hs
    rw [cleaned_eq_inside (by simp [isOuter]) hlast, String.toList_append]
    rfl

end BrowserShell.Url
