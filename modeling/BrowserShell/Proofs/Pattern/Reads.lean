import BrowserShell.Pattern.Node
import BrowserShell.Proofs.Pattern.Program

/-!
# How patterns are read

`Node.Reads` says how the tree of a pattern is read under flags, one rule for each kind of tree; a
row of patterns is read from its first one on. What holds of all patterns that are read is proved by
induction on these rules. A pattern that numbers its groups from one on is read as one that does so
(`Node.Reads.numbered`).
-/

namespace BrowserShell.Pattern

namespace Node

/-- How a pattern is read under the flags in force, with the flags in force after it. -/
inductive Reads (subject : Subject) : Flags → Syntax → Node → Flags → Prop where
  /-- Nothing is read as nothing. -/
  | empty {f : Flags} : Reads subject f .empty .empty f
  /-- A character is read as the flags say. -/
  | literal {f : Flags} {l : Literal} {n : Node} :
      ofLiteral? subject f l = some n → Reads subject f (.literal l) n f
  /-- So is the dot. -/
  | dot {f : Flags} {n : Node} : ofDot? subject f = some n → Reads subject f .dot n f
  /-- A mark is read as a condition. -/
  | mark {f : Flags} {m : Mark} : Reads subject f (.mark m) (.assertion (ofMark f m)) f
  /-- A shorthand is read as its set. -/
  | shorthand {f : Flags} {negated : Bool} {s : Shorthand} {set : CharSet} :
      ofShorthand? subject f negated s = some set →
      Reads subject f (.shorthand negated s) (ofCharSet f set) f
  /-- So is a property. -/
  | property {f : Flags} {negated : Bool} {q : PropertyQuery} {set : CharSet} :
      ofProperty? f negated q = some set → Reads subject f (.property negated q) (.scalar set) f
  /-- So is a class, if its bytes are allowed. -/
  | bracketed {f : Flags} {negated : Bool} {s : SetSyntax} {set allowed : CharSet} :
      ofSet? subject f s = some set →
      bytesAllowed? subject f (foldAndNegate f negated set) = some allowed →
      Reads subject f (.bracketed negated s) (ofCharSet f allowed) f
  /-- Flags are in force from then on. -/
  | flags {f : Flags} {changes : FlagChanges} :
      Reads subject f (.flags changes) .empty (f.apply changes)
  /-- A group keeps its number, and the flags in force inside it end with it. -/
  | capturing {f f' : Flags} {index : Nat} {inner : Syntax} {n : Node} :
      Reads subject f inner n f' →
      Reads subject f (.group (.capturing index) inner) (.group index n) f
  /-- A group without a number may begin with flags of its own. -/
  | plain {f f' : Flags} {changes : FlagChanges} {inner : Syntax} {n : Node} :
      Reads subject (f.apply changes) inner n f' →
      Reads subject f (.group (.plain changes) inner) n f
  /-- A repetition repeats what is read. -/
  | repeated {f f' : Flags} {least : Nat} {most : Option Nat} {reluctant : Bool} {inner : Syntax}
      {n : Node} :
      Reads subject f inner n f' →
      Reads subject f (.repeated least most reluctant inner)
        (repeat_ least most (reluctant == f'.swapGreed) n) f'
  /-- An empty row is read as nothing. -/
  | noSequence {f : Flags} : Reads subject f (.sequence []) .empty f
  /-- A row of one is read as that one. -/
  | oneInSequence {f f' : Flags} {s : Syntax} {n : Node} :
      Reads subject f s n f' → Reads subject f (.sequence [s]) n f'
  /-- The rest of a row is read under the flags that its first part leaves. -/
  | sequence {f f' f'' : Flags} {s s' : Syntax} {rest : List Syntax} {a b : Node} :
      Reads subject f s a f' → Reads subject f' (.sequence (s' :: rest)) b f'' →
      Reads subject f (.sequence (s :: s' :: rest)) (.cat a b) f''
  /-- A choice between nothing is read as nothing. -/
  | noChoice {f : Flags} : Reads subject f (.choice []) .empty f
  /-- A choice of one is read as that one. -/
  | oneInChoice {f f' : Flags} {s : Syntax} {n : Node} :
      Reads subject f s n f' → Reads subject f (.choice [s]) n f'
  /-- The other branches are read under the flags that the first one leaves. -/
  | choice {f f' f'' : Flags} {s s' : Syntax} {rest : List Syntax} {a b : Node} :
      Reads subject f s a f' → Reads subject f' (.choice (s' :: rest)) b f'' →
      Reads subject f (.choice (s :: s' :: rest)) (.alt a b) f''

mutual

/-- What a tree is read as, it is read as by the rules. -/
theorem reads_of_ofSyntax? {subject : Subject} {f f' : Flags} {n : Node} (s : Syntax)
    (h : ofSyntax? subject f s = some (n, f')) : Reads subject f s n f' := by
  cases s with
  | empty =>
    cases h
    exact .empty
  | literal l =>
    obtain ⟨a, ha, h⟩ := Option.bind_eq_some_iff.1 h
    cases h
    exact .literal ha
  | dot =>
    obtain ⟨a, ha, h⟩ := Option.bind_eq_some_iff.1 h
    cases h
    exact .dot ha
  | mark m =>
    cases h
    exact .mark
  | shorthand negated s =>
    obtain ⟨a, ha, h⟩ := Option.bind_eq_some_iff.1 h
    cases h
    exact .shorthand ha
  | property negated q =>
    obtain ⟨a, ha, h⟩ := Option.bind_eq_some_iff.1 h
    cases h
    exact .property ha
  | bracketed negated set =>
    obtain ⟨a, ha, h⟩ := Option.bind_eq_some_iff.1 h
    obtain ⟨b, hb, h⟩ := Option.bind_eq_some_iff.1 h
    cases h
    exact .bracketed ha hb
  | flags changes =>
    cases h
    exact .flags
  | group kind inner =>
    cases kind with
    | capturing index =>
      obtain ⟨⟨a, fa⟩, ha, h⟩ := Option.bind_eq_some_iff.1 h
      cases h
      exact .capturing (reads_of_ofSyntax? inner ha)
    | plain changes =>
      obtain ⟨⟨a, fa⟩, ha, h⟩ := Option.bind_eq_some_iff.1 h
      cases h
      exact .plain (reads_of_ofSyntax? inner ha)
  | repeated least most reluctant inner =>
    obtain ⟨⟨a, fa⟩, ha, h⟩ := Option.bind_eq_some_iff.1 h
    cases h
    exact .repeated (reads_of_ofSyntax? inner ha)
  | sequence parts => exact reads_of_ofSequence? parts h
  | choice branches => exact reads_of_ofChoice? branches h

/-- So is a row of trees. -/
theorem reads_of_ofSequence? {subject : Subject} {f f' : Flags} {n : Node} (parts : List Syntax)
    (h : ofSequence? subject f parts = some (n, f')) : Reads subject f (.sequence parts) n f' := by
  match parts with
  | [] =>
    cases h
    exact .noSequence
  | [s] => exact .oneInSequence (reads_of_ofSyntax? s h)
  | s :: s' :: rest =>
    obtain ⟨⟨a, fa⟩, ha, h⟩ := Option.bind_eq_some_iff.1 h
    obtain ⟨⟨b, fb⟩, hb, h⟩ := Option.bind_eq_some_iff.1 h
    cases h
    exact .sequence (reads_of_ofSyntax? s ha) (reads_of_ofSequence? (s' :: rest) hb)

/-- So is a choice between trees. -/
theorem reads_of_ofChoice? {subject : Subject} {f f' : Flags} {n : Node} (branches : List Syntax)
    (h : ofChoice? subject f branches = some (n, f')) :
    Reads subject f (.choice branches) n f' := by
  match branches with
  | [] =>
    cases h
    exact .noChoice
  | [s] => exact .oneInChoice (reads_of_ofSyntax? s h)
  | s :: s' :: rest =>
    obtain ⟨⟨a, fa⟩, ha, h⟩ := Option.bind_eq_some_iff.1 h
    obtain ⟨⟨b, fb⟩, hb, h⟩ := Option.bind_eq_some_iff.1 h
    cases h
    exact .choice (reads_of_ofSyntax? s ha) (reads_of_ofChoice? (s' :: rest) hb)

end

end Node

/-! ## The numbers of groups -/

mutual

/-- Whether a pattern numbers its groups from one on. -/
def Syntax.Numbered : Syntax → Prop
  | .group (.capturing index) inner => 0 < index ∧ inner.Numbered
  | .group (.plain _) inner => inner.Numbered
  | .repeated _ _ _ inner => inner.Numbered
  | .sequence parts => Syntax.AllNumbered parts
  | .choice branches => Syntax.AllNumbered branches
  | _ => True

/-- Whether each of some patterns does so. -/
def Syntax.AllNumbered : List Syntax → Prop
  | [] => True
  | s :: rest => s.Numbered ∧ Syntax.AllNumbered rest

end

namespace Syntax

theorem allNumbered_iff {parts : List Syntax} : AllNumbered parts ↔ ∀ s ∈ parts, s.Numbered := by
  induction parts with
  | nil => simp [AllNumbered]
  | cons s rest ih => rw [AllNumbered, ih, List.forall_mem_cons]

/-- A row of patterns has the groups of its parts. -/
theorem numbered_inSequence {parts : List Syntax} (h : ∀ s ∈ parts, s.Numbered) :
    (inSequence parts).Numbered := by
  unfold inSequence
  split
  · trivial
  · exact h _ (List.mem_singleton_self _)
  · exact allNumbered_iff.2 h

/-- A choice has the groups of its branches. -/
theorem numbered_inChoice {branches : List Syntax} (h : ∀ s ∈ branches, s.Numbered) :
    (inChoice branches).Numbered := by
  unfold inChoice
  split
  · trivial
  · exact h _ (List.mem_singleton_self _)
  · exact allNumbered_iff.2 h

end Syntax

namespace Node

/-- Repetition numbers no groups. -/
theorem Numbered.repeat_ {n : Node} (hn : n.Numbered) (least : Nat) (most : Option Nat)
    (greedy : Bool) : (repeat_ least most greedy n).Numbered := by
  unfold Node.repeat_
  split
  split
  · trivial
  · split
    · exact hn
    · exact hn

/-- The groups keep the numbers that they are written with. -/
theorem Reads.numbered {subject : Subject} {f f' : Flags} {s : Syntax} {n : Node}
    (h : Reads subject f s n f') (hs : s.Numbered) : n.Numbered := by
  -- What takes a character or a byte has no groups, and a group brings its own number.
  have hcharSet : ∀ (f : Flags) (set : CharSet), (ofCharSet f set).Numbered := by
    intro f set
    unfold ofCharSet
    split <;> trivial
  induction h with
  | empty | mark | property | flags | noSequence | noChoice => trivial
  | literal h =>
    obtain ⟨v, -, h⟩ := Option.bind_eq_some_iff.1 h
    split at h
    · cases h
      trivial
    · split at h
      · cases h
        trivial
      · split at h <;> cases h <;> trivial
  | dot h =>
    unfold ofDot? at h
    split at h
    · cases h
    · cases h
      exact hcharSet _ _
  | shorthand => exact hcharSet _ _
  | bracketed => exact hcharSet _ _
  | capturing _ ih => exact ⟨hs.1, ih hs.2⟩
  | plain _ ih => exact ih hs
  | repeated _ ih => exact (ih hs).repeat_ _ _ _
  | oneInSequence _ ih => exact ih hs.1
  | sequence _ _ ihfirst ihrest => exact ⟨ihfirst hs.1, ihrest hs.2⟩
  | oneInChoice _ ih => exact ih hs.1
  | choice _ _ ihfirst ihrest => exact ⟨ihfirst hs.1, ihrest hs.2⟩

end Node

end BrowserShell.Pattern
