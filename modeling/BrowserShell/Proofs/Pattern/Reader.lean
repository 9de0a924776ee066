import BrowserShell.Proofs.Pattern.Bracket

/-!
# Patterns inside a group

A pattern is read one step after the other (`run_succ`). A step that is made at some place of a
pattern is made there as well if the pattern stands in a group (`step?_append`), and so is a whole
run, up to the end of the group (`run_append`). So a pattern in a group between the marks for the
beginning and the end of a line has the tree that one expects (`parse?_anchored`), unless a comment
at its end takes the end of the group with it.
-/

namespace BrowserShell.Pattern

namespace Parser

variable {v : Bool} {c : Char} {cs rest rest' : List Char} {st st' final : State}

/-! ## Steps -/

/-- The state with its last part repeated, and the rest behind the repetition; `mark` says whether
it is reluctant and has the rest. -/
def repeatedPart? (st : State) (least : Nat) (most : Option Nat) (mark : Bool × List Char) :
    Option (State × List Char) :=
  (st.repeated? least most mark.1).map fun st => (st, mark.2)

/-- Whether a question mark follows behind blanks, and the rest after it; the blanks stay where none
follows. -/
def reluctantBehind (v : Bool) (rest : List Char) : Bool × List Char :=
  match skip v rest with
  | '?' :: left => (true, left)
  | _ => (false, rest)

/-- What a character of a pattern makes of the state, and the rest of the text after it. -/
def step? (st : State) (c : Char) (rest : List Char) : Option (State × List Char) :=
  match c with
  | '(' => do
    let (opening, rest) ← opening? st.verbose rest
    return (← st.opened? opening, rest)
  | ')' => st.closed?.map fun st => (st, rest)
  | '|' =>
    some ({ st with parts := [], branches := .inSequence st.parts.reverse :: st.branches }, rest)
  | '[' => (bracketed? st.verbose rest).map fun (s, rest) => (st.add s, rest)
  | '?' => repeatedPart? st 0 (some 1) (reluctant rest)
  | '*' => repeatedPart? st 0 none (reluctant rest)
  | '+' => repeatedPart? st 1 none (reluctant rest)
  | '\x7b' => do
    let (least, most, rest) ← bounds? st.verbose rest
    repeatedPart? st least most (reluctantBehind st.verbose rest)
  | '\\' => (escape? st.verbose rest).map fun (e, rest) => (st.add (ofEscape e), rest)
  | '.' => some (st.add .dot, rest)
  | '^' => some (st.add (.mark .lineStart), rest)
  | '$' => some (st.add (.mark .lineEnd), rest)
  | c => some (st.add (.literal ⟨c, false⟩), rest)

/-- Blanks before a pattern make no difference to it. -/
theorem run_skip (fuel : Nat) (st : State) (cs : List Char) :
    run fuel st (skip st.verbose cs) = run fuel st cs := by
  cases fuel with
  | zero => rfl
  | succ fuel => rw [run, run, skip_skip]

/-- A repetition leaves the open groups and the ignoring of blanks as they are. -/
theorem eq_of_repeated? {least : Nat} {most : Option Nat} {isReluctant : Bool}
    (h : st.repeated? least most isReluctant = some st') :
    st' = { st with parts := st'.parts } := by
  unfold State.repeated? at h
  split at h
  · cases h
  · cases h
  · cases h
    rfl

/-- Blanks between a repetition and what is behind it make no difference. -/
theorem run_reluctantBehind (fuel : Nat) (least : Nat) (most : Option Nat) (rest : List Char) :
    ((repeatedPart? st least most (reluctant (skip st.verbose rest))).bind fun next =>
        run fuel next.1 next.2) =
      (repeatedPart? st least most (reluctantBehind st.verbose rest)).bind fun next =>
        run fuel next.1 next.2 := by
  unfold reluctantBehind
  split
  · rename_i left hskip
    rw [hskip]
    rfl
  · rename_i hne
    have hnot : reluctant (skip st.verbose rest) = (false, skip st.verbose rest) := by
      unfold reluctant
      split
      · rename_i left hskip
        exact absurd hskip (hne left)
      · rfl
    rw [hnot]
    unfold repeatedPart?
    cases hread : st.repeated? least most false with
    | none => rfl
    | some st' =>
      have hverbose : st'.verbose = st.verbose := by
        rw [eq_of_repeated? hread]
      show run fuel st' (skip st.verbose rest) = run fuel st' rest
      rw [← hverbose, run_skip]

/-- A pattern is read one step after the other. -/
theorem run_succ (fuel : Nat) (st : State) (cs : List Char) :
    run (fuel + 1) st cs =
      match skip st.verbose cs with
      | [] => some st
      | c :: rest => (step? st c rest).bind fun next => run fuel next.1 next.2 := by
  rw [run]
  cases skip st.verbose cs with
  | nil => rfl
  | cons c rest =>
    dsimp only
    have hrepeated : ∀ least most rest,
        (do run fuel (← st.repeated? least most (reluctant rest).1) (reluctant rest).2) =
          (repeatedPart? st least most (reluctant rest)).bind fun next =>
            run fuel next.1 next.2 := by
      intro least most rest
      unfold repeatedPart?
      cases st.repeated? least most (reluctant rest).1 <;> rfl
    -- Only a counted repetition skips blanks where the step leaves them.
    unfold step?
    split
    · cases opening? st.verbose rest with
      | none => rfl
      | some result =>
        obtain ⟨opening, rest⟩ := result
        simp only [Option.bind_eq_bind, Option.bind_some]
        cases st.opened? opening <;> rfl
    · cases st.closed? <;> rfl
    · rfl
    · cases bracketed? st.verbose rest <;> rfl
    · exact hrepeated ..
    · exact hrepeated ..
    · exact hrepeated ..
    · cases bounds? st.verbose rest with
      | none => rfl
      | some result =>
        obtain ⟨least, most, rest⟩ := result
        exact (hrepeated least most (skip st.verbose rest)).trans (run_reluctantBehind ..)
    · cases escape? st.verbose rest <;> rfl
    · rfl
    · rfl
    · rfl
    · simp_all

/-! ## Steps and runs inside a group -/

/-- The state inside one more group around all the open ones. -/
def State.under (st : State) (frame : Frame) : State := { st with stack := st.stack ++ [frame] }

variable {frame : Frame}

/-- What a parenthesis opens does not depend on the groups around. -/
theorem opened?_under {opening : Opening} :
    (st.under frame).opened? opening = (st.opened? opening).map (·.under frame) := by
  unfold State.opened?
  cases opening with
  | flags changes => rfl
  | plain changes => rfl
  | capturing name =>
    cases name with
    | none => rfl
    | some name =>
      by_cases hname : st.names.any fun n => n.1 = name
      · simp only [State.under, hname, if_true]
        rfl
      · simp only [State.under, hname]
        rfl

/-- A parenthesis that closes a group closes the same one inside one more. -/
theorem closed?_under (h : st.closed? = some st') :
    (st.under frame).closed? = some (st'.under frame) := by
  unfold State.closed? at h ⊢
  split at h
  · cases h
  · rename_i f stack hstack
    cases h
    simp only [State.under, hstack, List.cons_append]
    rfl

/-- A repetition does not depend on the groups around. -/
theorem repeated?_under {least : Nat} {most : Option Nat} {isReluctant : Bool} :
    (st.under frame).repeated? least most isReluctant =
      (st.repeated? least most isReluctant).map (·.under frame) := by
  unfold State.repeated? State.under
  dsimp only
  split <;> rfl

/-- The end of a group has no question mark. -/
theorem reluctant_append (cs : List Char) :
    reluctant (cs ++ closing) = ((reluctant cs).1, (reluctant cs).2 ++ closing) := by
  cases cs with
  | nil => rfl
  | cons c r =>
    by_cases hc : c = '?'
    · subst hc
      rfl
    · simp [reluctant, hc]

/-- Nor does one come about behind blanks, be they the last of the text or not. -/
theorem reluctantBehind_append (v : Bool) (cs : List Char) :
    reluctantBehind v (cs ++ closing) =
      ((reluctantBehind v cs).1, (reluctantBehind v cs).2 ++ closing) := by
  unfold reluctantBehind
  cases hskip : skip v cs with
  | cons c r =>
    simp only [skip_append hskip]
    split <;> split <;> simp_all
  | nil =>
    rcases skip_closing hskip with hclosing | hclosing
    · simp only [hclosing]
      rfl
    · simp only [hclosing]

/-- A repetition with its mark is the same inside a group. -/
theorem repeatedPart?_under {least : Nat} {most : Option Nat} {mark : Bool × List Char}
    (h : repeatedPart? st least most mark = some (st', rest')) :
    repeatedPart? (st.under frame) least most (mark.1, mark.2 ++ closing) =
      some (st'.under frame, rest' ++ closing) := by
  obtain ⟨st'', hrepeated, heq⟩ := Option.map_eq_some_iff.1 h
  cases heq
  unfold repeatedPart?
  rw [repeated?_under, hrepeated]
  rfl

/-- A parenthesis at the end of a pattern opens a group without a name. -/
theorem eq_of_opening? {opening : Opening} (hskip : skip v cs = [])
    (h : opening? v cs = some (opening, rest)) : opening = .capturing none ∧ rest = [] := by
  unfold opening? at h
  rw [hskip] at h
  cases h
  exact ⟨rfl, rfl⟩

/-- What a character makes of the state is the same inside a group with its end behind the text,
unless the text ends in a parenthesis. -/
theorem step?_append (h : step? st c rest = some (st', rest'))
    (hopen : rest' = [] → st'.stack = []) :
    step? (st.under frame) c (rest ++ closing) = some (st'.under frame, rest' ++ closing) := by
  have hverbose : (st.under frame).verbose = st.verbose := rfl
  unfold step? at h ⊢
  rw [hverbose]
  split at h
  · obtain ⟨⟨opening, r⟩, hopening, h⟩ := Option.bind_eq_some_iff.1 h
    obtain ⟨st'', hopened, h⟩ := Option.bind_eq_some_iff.1 h
    cases h
    cases hskip : skip st.verbose rest with
    | nil =>
      -- The group that is opened at the end of the text would have to be closed.
      obtain ⟨rfl, rfl⟩ := eq_of_opening? hskip hopening
      cases hopened
      cases hopen rfl
    | cons d left =>
      simp only [opening?_append hskip hopening, Option.bind_eq_bind, Option.bind_some,
        opened?_under, hopened, Option.map_some]
      rfl
  · obtain ⟨st'', hclosed, h⟩ := Option.map_eq_some_iff.1 h
    cases h
    simp only [closed?_under hclosed, Option.map_some]
  · cases h
    rfl
  · obtain ⟨⟨s, r⟩, hread, h⟩ := Option.map_eq_some_iff.1 h
    cases h
    simp only [keepsReading_bracketed? hread, Option.map_some]
    rfl
  · simp only [reluctant_append]
    exact repeatedPart?_under h
  · simp only [reluctant_append]
    exact repeatedPart?_under h
  · simp only [reluctant_append]
    exact repeatedPart?_under h
  · obtain ⟨⟨least, most, r⟩, hbounds, h⟩ := Option.bind_eq_some_iff.1 h
    simp only [bounds?_append hbounds, Option.bind_eq_bind, Option.bind_some,
      reluctantBehind_append]
    exact repeatedPart?_under h
  · obtain ⟨⟨e, r⟩, hread, h⟩ := Option.map_eq_some_iff.1 h
    cases h
    simp only [keepsReading_escape? hread, Option.map_some]
    rfl
  · cases h
    rfl
  · cases h
    rfl
  · cases h
    rfl
  · cases h
    rfl

/-- A pattern that is read to its end is read inside a group up to the end of the group, unless a
comment takes that end. -/
theorem run_append (k : Nat) {fuel : Nat} (h : run fuel st cs = some final)
    (hstack : final.stack = []) :
    (∃ fuel' ≥ k, run (fuel + k) (st.under frame) (cs ++ closing) =
      run fuel' (final.under frame) closing) ∨
      run (fuel + k) (st.under frame) (cs ++ closing) = some (final.under frame) := by
  induction fuel generalizing st cs with
  | zero => cases h
  | succ fuel ih =>
    have hfuel : fuel + 1 + k = fuel + k + 1 := by omega
    have hverbose : (st.under frame).verbose = st.verbose := rfl
    rw [run_succ] at h
    cases hskip : skip st.verbose cs with
    | nil =>
      rw [hskip] at h
      cases h
      rcases skip_closing hskip with hclosing | hclosing
      · refine Or.inl ⟨fuel + 1 + k, Nat.le_add_left k _, ?_⟩
        rw [← run_skip, hverbose, hclosing]
      · -- A comment takes the end of the group.
        right
        rw [← run_skip, hverbose, hclosing, hfuel, run_succ, skip_nil]
    | cons c rest =>
      rw [hskip] at h
      obtain ⟨⟨st', rest'⟩, hstep, h⟩ := Option.bind_eq_some_iff.1 h
      dsimp only at h
      have hopen : rest' = [] → st'.stack = [] := by
        rintro rfl
        -- Nothing is left to close a group with.
        cases fuel with
        | zero => cases h
        | succ fuel =>
          rw [run_succ, skip_nil] at h
          cases h
          exact hstack
      have hstep' : step? (st.under frame) c (rest ++ closing) =
          some (st'.under frame, rest' ++ closing) := step?_append hstep hopen
      have hrun : run (fuel + 1 + k) (st.under frame) (cs ++ closing) =
          run (fuel + k) (st'.under frame) (rest' ++ closing) := by
        rw [hfuel, run_succ, hverbose, skip_append hskip]
        dsimp only
        rw [hstep']
        rfl
      rw [hrun]
      exact ih h

/-- The end of a group before the end of a line closes the group and adds the mark. -/
theorem run_closing (fuel : Nat) (hstack : st.stack = []) :
    run (fuel + 3) (st.under frame) closing =
      some { st with
        parts := .mark .lineEnd :: .group frame.kind st.content :: frame.parts
        branches := frame.branches
        stack := []
        verbose := frame.verbose } := by
  have hclosing : ∀ v, skip v closing = closing := by
    intro v
    cases v <;> rfl
  have hclosed : (st.under frame).closed? = some { st with
      parts := .group frame.kind st.content :: frame.parts
      branches := frame.branches
      stack := []
      verbose := frame.verbose } := by
    unfold State.closed? State.under
    rw [hstack]
    rfl
  have hmark : ∀ v, skip v ['$'] = ['$'] := by
    intro v
    cases v <;> rfl
  rw [run_succ, hclosing]
  simp only [closing, step?, hclosed, Option.map_some, Option.bind_some]
  rw [run_succ, hmark]
  simp only [step?, Option.bind_some]
  rw [run_succ, skip_nil]
  rfl

end Parser

/-- What is read of a pattern is what the state at its end has, where no group is open. -/
theorem exists_run_of_parse? {cs : List Char} {p : Parsed} (h : parse? cs = some p) :
    ∃ st, Parser.run (cs.length + 1) {} cs = some st ∧ st.stack = [] ∧
      p = ⟨st.content, st.groups, st.names⟩ := by
  obtain ⟨st, hrun, h⟩ := Option.bind_eq_some_iff.1 h
  split at h
  · rename_i hend
    cases h
    exact ⟨st, hrun, List.isEmpty_iff.1 (Bool.and_eq_true_iff.1 hend).1, rfl⟩
  · cases h

/-- What is read of a pattern in a group between the marks for the beginning and the end of a line:
the tree of the pattern in a group between the two marks. -/
theorem parse?_anchored {cs : List Char} {p q : Parsed} (hp : parse? cs = some p)
    (hq : parse? (['^', '(', '?', ':'] ++ cs ++ [')', '$']) = some q) :
    q.tree = .sequence [.mark .lineStart, .group (.plain []) p.tree, .mark .lineEnd] ∧
      q.groups = p.groups ∧ q.names = p.names := by
  obtain ⟨st, hrun, hstack, rfl⟩ := exists_run_of_parse? hp
  obtain ⟨st', hrun', hstack', rfl⟩ := exists_run_of_parse? hq
  -- What stands before the pattern leads to its beginning inside the group.
  have hbegin : Parser.run (cs.length + 1 + 4)
      (Parser.State.under {} ⟨.plain [], [.mark .lineStart], [], false⟩) (cs ++ Parser.closing) =
        some st' := by
    have hlength : (['^', '(', '?', ':'] ++ cs ++ [')', '$']).length + 1 =
        cs.length + 1 + 4 + 1 + 1 := by
      simp
    rw [hlength] at hrun'
    exact hrun'
  rcases Parser.run_append 4 hrun hstack with ⟨fuel, hfuel, hclosing⟩ | hclosing
  · obtain ⟨fuel, rfl⟩ : ∃ k, fuel = k + 3 := ⟨fuel - 3, by omega⟩
    rw [Parser.run_closing fuel hstack, hbegin] at hclosing
    cases hclosing
    exact ⟨rfl, rfl, rfl⟩
  · -- A comment that takes the end of the group leaves the group open.
    rw [hbegin] at hclosing
    cases hclosing
    simp [Parser.State.under] at hstack'

end BrowserShell.Pattern
