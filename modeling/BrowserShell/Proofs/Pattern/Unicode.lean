import BrowserShell.Pattern.Matcher
import BrowserShell.Proofs.Pattern.Reads

/-!
# Patterns that keep to Unicode

A pattern takes bytes that are no characters only where it switches Unicode off, and only of
subjects that are no text. A pattern that does so nowhere takes whole characters, whatever other
flags it switches and however its parts are nested (`Node.Reads.takesCharacters`).
-/

namespace BrowserShell.Pattern

mutual

/-- Whether a pattern switches Unicode off anywhere. -/
def Syntax.switchesUnicodeOff : Syntax → Bool
  | .flags changes => changes.contains (.unicode, false)
  | .group (.capturing _) inner => inner.switchesUnicodeOff
  | .group (.plain changes) inner =>
    changes.contains (.unicode, false) || inner.switchesUnicodeOff
  | .repeated _ _ _ inner => inner.switchesUnicodeOff
  | .sequence parts => Syntax.anySwitchesUnicodeOff parts
  | .choice branches => Syntax.anySwitchesUnicodeOff branches
  | _ => false

/-- Whether one of some patterns switches Unicode off. -/
def Syntax.anySwitchesUnicodeOff : List Syntax → Bool
  | [] => false
  | s :: rest => s.switchesUnicodeOff || Syntax.anySwitchesUnicodeOff rest

end

/-- Whether the text of a pattern switches Unicode off anywhere. -/
def switchesUnicodeOff (pattern : List Char) : Bool :=
  (parse? pattern).any fun p => p.tree.switchesUnicodeOff

/-- Unicode stays on under changes that do not switch it off. -/
theorem Flags.unicode_apply {f : Flags} {changes : FlagChanges} (hf : f.unicode = true)
    (h : changes.contains (.unicode, false) = false) : (f.apply changes).unicode = true := by
  have hchanges : (Flag.unicode, false) ∉ changes := by simpa using h
  clear h
  unfold apply
  induction changes generalizing f with
  | nil => exact hf
  | cons c cs ih =>
    rw [List.mem_cons, not_or] at hchanges
    obtain ⟨hc, hcs⟩ := hchanges
    refine ih ?_ hcs
    rcases c with ⟨flag, b⟩
    cases flag with
    | unicode =>
      cases b with
      | true => rfl
      | false => exact absurd rfl hc
    | _ => exact hf

namespace Node

/-- Repetition takes what the pattern takes. -/
theorem TakesCharacters.repeat_ {n : Node} (hn : n.TakesCharacters) (least : Nat)
    (most : Option Nat) (greedy : Bool) : (repeat_ least most greedy n).TakesCharacters := by
  unfold Node.repeat_
  split
  split
  · trivial
  · split
    · exact hn
    · exact hn

/-- A literal stands for its character in text or with Unicode. -/
theorem takesCharacters_of_ofLiteral? {subject : Subject} {f : Flags} {n : Node} {l : Literal}
    (hf : subject = .text ∨ f.unicode = true) (h : ofLiteral? subject f l = some n) :
    n.TakesCharacters := by
  obtain ⟨v, hv, h⟩ := Option.bind_eq_some_iff.1 h
  cases v with
  | inl c =>
    dsimp only at h
    split at h
    · cases h
      trivial
    · split at h <;> cases h <;> trivial
  | inr b =>
    -- Bytes are named only without Unicode, and not in text.
    unfold literalValue? at hv
    split at hv
    · cases hv
    · rename_i hchar
      split at hv
      · cases hv
      · rename_i htext
        rcases hf with hf | hf
        · exact absurd hf htext
        · simp [hf] at hchar

/-- A set that is allowed is one of characters in text or with Unicode. -/
theorem takesCharacters_of_bytesAllowed? {subject : Subject} {f : Flags} {s set : CharSet}
    (hf : subject = .text ∨ f.unicode = true) (h : bytesAllowed? subject f s = some set) :
    (ofCharSet f set).TakesCharacters := by
  unfold bytesAllowed? at h
  unfold ofCharSet
  split at h
  · cases h
  · rename_i hallowed
    cases h
    split
    · trivial
    · rename_i hunicode
      have htext := hf.resolve_right hunicode
      have hascii : s.isAscii = true := by simpa [hunicode, htext] using hallowed
      exact hascii

/-- So is the set of a shorthand. -/
theorem takesCharacters_of_ofShorthand? {subject : Subject} {f : Flags} {negated : Bool}
    {s : Shorthand} {set : CharSet} (hf : subject = .text ∨ f.unicode = true)
    (h : ofShorthand? subject f negated s = some set) : (ofCharSet f set).TakesCharacters := by
  unfold ofShorthand? at h
  split at h
  · rename_i hunicode
    rw [ofCharSet, if_pos hunicode]
    trivial
  · exact takesCharacters_of_bytesAllowed? hf h

/-- The dot takes a character in text or with Unicode. -/
theorem takesCharacters_of_ofDot? {subject : Subject} {f : Flags} {n : Node}
    (hf : subject = .text ∨ f.unicode = true) (h : ofDot? subject f = some n) :
    n.TakesCharacters := by
  unfold ofDot? at h
  split at h
  · cases h
  · rename_i hallowed
    cases h
    have hunicode : f.unicode = true := by
      rcases hf with hf | hf
      · simpa [hf] using hallowed
      · exact hf
    rw [ofCharSet, if_pos hunicode]
    trivial

/-- A pattern for text takes whole characters; so does one that does not switch Unicode off, and it
leaves Unicode on. -/
theorem Reads.takesCharacters {subject : Subject} {f f' : Flags} {s : Syntax} {n : Node}
    (h : Reads subject f s n f') (hf : subject = .text ∨ f.unicode = true)
    (hs : subject = .text ∨ s.switchesUnicodeOff = false) :
    n.TakesCharacters ∧ (subject = .text ∨ f'.unicode = true) := by
  have hboth : ∀ {a b : Bool}, subject = .text ∨ (a || b) = false →
      (subject = .text ∨ a = false) ∧ (subject = .text ∨ b = false) := by
    rintro a b (htext | hab)
    · exact ⟨Or.inl htext, Or.inl htext⟩
    · obtain ⟨ha, hb⟩ := Bool.or_eq_false_iff.1 hab
      exact ⟨Or.inr ha, Or.inr hb⟩
  have happly : ∀ {f : Flags} {changes : FlagChanges}, (subject = .text ∨ f.unicode = true) →
      (subject = .text ∨ changes.contains (.unicode, false) = false) →
        subject = .text ∨ (f.apply changes).unicode = true := by
    rintro f changes (htext | hf) (htext' | hchanges)
    · exact Or.inl htext
    · exact Or.inl htext
    · exact Or.inl htext'
    · exact Or.inr (Flags.unicode_apply hf hchanges)
  induction h with
  | empty | mark | noSequence | noChoice => exact ⟨trivial, hf⟩
  | property => exact ⟨trivial, hf⟩
  | literal h => exact ⟨takesCharacters_of_ofLiteral? hf h, hf⟩
  | dot h => exact ⟨takesCharacters_of_ofDot? hf h, hf⟩
  | shorthand h => exact ⟨takesCharacters_of_ofShorthand? hf h, hf⟩
  | bracketed _ h => exact ⟨takesCharacters_of_bytesAllowed? hf h, hf⟩
  | flags => exact ⟨trivial, happly hf hs⟩
  | capturing _ ih => exact ⟨(ih hf hs).1, hf⟩
  | plain _ ih =>
    obtain ⟨hchanges, hinner⟩ := hboth hs
    exact ⟨(ih (happly hf hchanges) hinner).1, hf⟩
  | repeated _ ih =>
    obtain ⟨hn, hflags⟩ := ih hf hs
    exact ⟨hn.repeat_ _ _ _, hflags⟩
  | oneInSequence _ ih => exact ih hf (hboth hs).1
  | oneInChoice _ ih => exact ih hf (hboth hs).1
  | sequence _ _ ihfirst ihrest =>
    obtain ⟨hfirst, hrest⟩ := hboth hs
    obtain ⟨ha, hflags⟩ := ihfirst hf hfirst
    obtain ⟨hb, hflags'⟩ := ihrest hflags hrest
    exact ⟨⟨ha, hb⟩, hflags'⟩
  | choice _ _ ihfirst ihrest =>
    obtain ⟨hfirst, hrest⟩ := hboth hs
    obtain ⟨ha, hflags⟩ := ihfirst hf hfirst
    obtain ⟨hb, hflags'⟩ := ihrest hflags hrest
    exact ⟨⟨ha, hb⟩, hflags'⟩

end Node

namespace Matcher

/-- A matcher runs the program of the pattern that is read. -/
theorem exists_reads {subject : Subject} {pattern : List Char} {m : Matcher}
    (h : ofChars? subject pattern = some m) :
    ∃ parsed n f, parse? pattern = some parsed ∧ Node.Reads subject flags parsed.tree n f ∧
      m = ⟨n.program, parsed.groups, parsed.names⟩ := by
  obtain ⟨parsed, hparsed, h⟩ := Option.bind_eq_some_iff.1 h
  obtain ⟨⟨n, f⟩, hn, h⟩ := Option.bind_eq_some_iff.1 h
  dsimp only at h
  split at h
  · cases h
    exact ⟨parsed, n, f, hparsed, Node.reads_of_ofSyntax? parsed.tree hn, rfl⟩
  · cases h

/-- The program of a matcher takes whole characters unless its pattern switches Unicode off. -/
theorem exists_program {subject : Subject} {pattern : List Char} {m : Matcher}
    (h : ofChars? subject pattern = some m) :
    ∃ n : Node, m.program = n.program ∧
      (switchesUnicodeOff pattern = false → n.TakesCharacters) := by
  obtain ⟨parsed, n, f, hparsed, hreads, rfl⟩ := exists_reads h
  refine ⟨n, rfl, fun hunicode => ?_⟩
  rw [switchesUnicodeOff, hparsed, Option.any_some] at hunicode
  exact (hreads.takesCharacters (Or.inr rfl) (Or.inr hunicode)).1

end Matcher

end BrowserShell.Pattern
