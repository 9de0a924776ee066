import BrowserShell.Pattern.Matcher
import BrowserShell.Proofs.Pattern.Reads

/-!
# Patterns for text and for bytes

What is read for text is what is read for bytes, since text only refuses some patterns
(`Node.Reads.ofSyntax?`). In particular a pattern is read in one way only.
-/

namespace BrowserShell.Pattern

/-- Whether one kind of subject allows whatever the other does. -/
def Subject.Within (subject subject' : Subject) : Prop := subject = .text ∨ subject = subject'

namespace Node

variable {subject subject' : Subject} {f f' : Flags}

theorem literalValue?_of_within (h : subject.Within subject') {l : Literal} {v : Char ⊕ Nat}
    (hv : literalValue? subject f l = some v) : literalValue? subject' f l = some v := by
  rcases h with rfl | rfl
  · unfold literalValue? at hv ⊢
    split at hv
    · rename_i hchar
      rwa [if_pos hchar]
    · cases hv
  · exact hv

theorem bytesAllowed?_of_within (h : subject.Within subject') {s t : CharSet}
    (hs : bytesAllowed? subject f s = some t) : bytesAllowed? subject' f s = some t := by
  rcases h with rfl | rfl
  · unfold bytesAllowed? at hs ⊢
    split at hs
    · cases hs
    · rename_i hascii
      rw [if_neg, hs]
      intro hnot
      simp only [Bool.and_eq_true] at hnot
      exact hascii (by simp [hnot.1.1, hnot.2])
  · exact hs

theorem ofLiteral?_of_within (h : subject.Within subject') {l : Literal} {n : Node}
    (hn : ofLiteral? subject f l = some n) : ofLiteral? subject' f l = some n := by
  obtain ⟨v, hv, hn⟩ := Option.bind_eq_some_iff.1 hn
  rw [ofLiteral?, literalValue?_of_within h hv]
  exact hn

theorem ofShorthand?_of_within (h : subject.Within subject') {negated : Bool} {s : Shorthand}
    {set : CharSet} (hs : ofShorthand? subject f negated s = some set) :
    ofShorthand? subject' f negated s = some set := by
  unfold ofShorthand? at hs ⊢
  split
  · rwa [if_pos ‹_›] at hs
  · rw [if_neg ‹_›] at hs
    exact bytesAllowed?_of_within h hs

theorem point?_of_within (h : subject.Within subject') {l : Literal} {k : Nat}
    (hk : point? subject f l = some k) : point? subject' f l = some k := by
  obtain ⟨v, hv, hk⟩ := Option.bind_eq_some_iff.1 hk
  rw [point?, literalValue?_of_within h hv]
  exact hk

theorem ofDot?_of_within (h : subject.Within subject') {n : Node}
    (hn : ofDot? subject f = some n) : ofDot? subject' f = some n := by
  rcases h with rfl | rfl
  · unfold ofDot? at hn ⊢
    split at hn
    · cases hn
    · rename_i hunicode
      have hon : f.unicode = true := by simpa using hunicode
      rw [if_neg (by simp [hon]), ← hn]
  · exact hn

mutual

/-- The set of a class is the same for a kind of subject that allows more. -/
theorem ofSet?_of_within (h : subject.Within subject') (s : SetSyntax) {set : CharSet}
    (hs : ofSet? subject f s = some set) : ofSet? subject' f s = some set := by
  cases s with
  | literal l =>
    obtain ⟨k, hk, rfl⟩ := Option.map_eq_some_iff.1 hs
    rw [ofSet?, point?_of_within h hk]
    rfl
  | range a b =>
    obtain ⟨first, hfirst, hs⟩ := Option.bind_eq_some_iff.1 hs
    obtain ⟨last, hlast, hs⟩ := Option.bind_eq_some_iff.1 hs
    rw [ofSet?, point?_of_within h hfirst, point?_of_within h hlast]
    exact hs
  | ascii negated ranges => exact bytesAllowed?_of_within h hs
  | shorthand negated s => exact ofShorthand?_of_within h hs
  | property negated q => exact hs
  | bracketed negated inner =>
    obtain ⟨t, ht, hs⟩ := Option.bind_eq_some_iff.1 hs
    rw [ofSet?, ofSet?_of_within h inner ht]
    exact bytesAllowed?_of_within h hs
  | items items => exact ofSets?_of_within h items hs
  | operation op left right =>
    obtain ⟨a, ha, hs⟩ := Option.bind_eq_some_iff.1 hs
    obtain ⟨b, hb, hs⟩ := Option.bind_eq_some_iff.1 hs
    rw [ofSet?, ofSet?_of_within h left ha, ofSet?_of_within h right hb]
    exact hs

/-- So is that of items one after the other. -/
theorem ofSets?_of_within (h : subject.Within subject') (items : List SetSyntax) {set : CharSet}
    (hs : ofSets? subject f items = some set) : ofSets? subject' f items = some set := by
  match items with
  | [] => exact hs
  | s :: rest =>
    obtain ⟨a, ha, hs⟩ := Option.bind_eq_some_iff.1 hs
    obtain ⟨b, hb, hs⟩ := Option.bind_eq_some_iff.1 hs
    rw [ofSets?, ofSet?_of_within h s ha, ofSets?_of_within h rest hb]
    exact hs

end

/-- A pattern that is read by the rules is what its tree is read as, also for a kind of subject that
allows more. -/
theorem Reads.ofSyntax? {s : Syntax} {n : Node} (hreads : Reads subject f s n f')
    (h : subject.Within subject') : ofSyntax? subject' f s = some (n, f') := by
  induction hreads with
  | empty | mark | flags | noSequence | noChoice => rfl
  | literal hn =>
    rw [Node.ofSyntax?, ofLiteral?_of_within h hn]
    rfl
  | dot hn =>
    rw [Node.ofSyntax?, ofDot?_of_within h hn]
    rfl
  | shorthand hs =>
    rw [Node.ofSyntax?, ofShorthand?_of_within h hs]
    rfl
  | property hs =>
    rw [Node.ofSyntax?, hs]
    rfl
  | bracketed hset hallowed =>
    rw [Node.ofSyntax?, ofSet?_of_within h _ hset]
    exact congrArg (Option.bind · _) (bytesAllowed?_of_within h hallowed)
  | capturing _ ih =>
    rw [Node.ofSyntax?, ih]
    rfl
  | plain _ ih =>
    rw [Node.ofSyntax?, ih]
    rfl
  | repeated _ ih =>
    rw [Node.ofSyntax?, ih]
    rfl
  | oneInSequence _ ih => exact ih
  | sequence _ _ ihfirst ihrest =>
    rw [Node.ofSyntax?, ofSequence?, ihfirst]
    · exact congrArg (Option.bind · _) ihrest
    · exact List.cons_ne_nil _ _
  | oneInChoice _ ih => exact ih
  | choice _ _ ihfirst ihrest =>
    rw [Node.ofSyntax?, ofChoice?, ihfirst]
    · exact congrArg (Option.bind · _) ihrest
    · exact List.cons_ne_nil _ _

end Node

end BrowserShell.Pattern
