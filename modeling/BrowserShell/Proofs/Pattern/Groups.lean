import BrowserShell.Proofs.Pattern.Reader
import BrowserShell.Proofs.Pattern.Reads

/-!
# The numbers of groups

A parenthesis that opens a group gives it the next number after those given before. So every step of
the reader keeps the groups numbered from one on (`numbered_of_step?`), and the groups of a pattern
are (`numbered_of_parse?`): zero is left to the match itself.
-/

namespace BrowserShell.Pattern

namespace Parser

variable {c : Char} {cs rest rest' : List Char} {st st' final : State}

/-- A state in which all groups, the open ones among them, are numbered from one on. -/
structure State.Numbered (st : State) : Prop where
  parts : ∀ s ∈ st.parts, s.Numbered
  branches : ∀ s ∈ st.branches, s.Numbered
  kinds : ∀ f ∈ st.stack, f.kind ≠ .capturing 0
  stack : ∀ f ∈ st.stack, ∀ s ∈ f.parts ++ f.branches, s.Numbered

/-- A part without wrong numbers may be added. -/
theorem State.Numbered.add (h : st.Numbered) {s : Syntax} (hs : s.Numbered) :
    (st.add s).Numbered :=
  { h with parts := List.forall_mem_cons.2 ⟨hs, h.parts⟩ }

/-- A group may be opened under any number but zero. -/
theorem State.Numbered.open_ (h : st.Numbered) {kind : GroupKind} (hkind : kind ≠ .capturing 0)
    (verbose : Bool) : (st.open_ kind verbose).Numbered where
  parts := by simp [State.open_]
  branches := by simp [State.open_]
  kinds := List.forall_mem_cons.2 ⟨hkind, h.kinds⟩
  stack := List.forall_mem_cons.2 ⟨List.forall_mem_append.2 ⟨h.parts, h.branches⟩, h.stack⟩

/-- What is read so far has the groups of its parts. -/
theorem State.Numbered.content (h : st.Numbered) : st.content.Numbered := by
  refine Syntax.numbered_inChoice fun s hs => ?_
  rcases List.mem_cons.1 (List.mem_reverse.1 hs) with rfl | hs
  · exact Syntax.numbered_inSequence fun s hs => h.parts s (List.mem_reverse.1 hs)
  · exact h.branches s hs

/-- A parenthesis opens a group under the next number. -/
theorem State.Numbered.opened? (h : st.Numbered) {opening : Opening}
    (hopened : st.opened? opening = some st') : st'.Numbered := by
  unfold State.opened? at hopened
  split at hopened
  · cases hopened
    exact { h.add (s := .flags _) trivial with }
  · cases hopened
    exact h.open_ (by simp) _
  · have hnext : (st.open_ (.capturing (st.groups + 1)) st.verbose).Numbered :=
      h.open_ (by simp) _
    dsimp only at hopened
    split at hopened
    · cases hopened
      exact { hnext with }
    · split at hopened
      · cases hopened
      · cases hopened
        exact { hnext with }

/-- A closed group is a part with the number that it was opened with. -/
theorem State.Numbered.closed? (h : st.Numbered) (hclosed : st.closed? = some st') :
    st'.Numbered := by
  unfold State.closed? at hclosed
  split at hclosed
  · cases hclosed
  · rename_i f stack hstack
    cases hclosed
    obtain ⟨hkind, hkinds⟩ := List.forall_mem_cons.1 (hstack ▸ h.kinds)
    obtain ⟨hframe, hframes⟩ := List.forall_mem_cons.1 (hstack ▸ h.stack)
    obtain ⟨hparts, hbranches⟩ := List.forall_mem_append.1 hframe
    refine ⟨List.forall_mem_cons.2 ⟨?_, hparts⟩, hbranches, hkinds, hframes⟩
    cases hk : f.kind with
    | capturing index =>
      have hpos : index ≠ 0 := fun hzero => hkind (by rw [hk, hzero])
      exact ⟨Nat.pos_of_ne_zero hpos, h.content⟩
    | plain changes => exact h.content

/-- A repeated part has the groups that it had. -/
theorem State.Numbered.repeated? (h : st.Numbered) {least : Nat} {most : Option Nat}
    {isReluctant : Bool} (hrepeated : st.repeated? least most isReluctant = some st') :
    st'.Numbered := by
  unfold State.repeated? at hrepeated
  split at hrepeated
  · cases hrepeated
  · cases hrepeated
  · rename_i s parts hparts
    cases hrepeated
    obtain ⟨hs, hrest⟩ := List.forall_mem_cons.1 (hparts ▸ h.parts)
    exact { h with parts := List.forall_mem_cons.2 ⟨hs, hrest⟩ }

/-- A step keeps the groups numbered from one on. -/
theorem numbered_of_step? (h : st.Numbered) (hstep : step? st c rest = some (st', rest')) :
    st'.Numbered := by
  have hrepeated : ∀ {least most mark},
      repeatedPart? st least most mark = some (st', rest') → st'.Numbered := by
    intro least most mark hread
    obtain ⟨st'', hst, heq⟩ := Option.map_eq_some_iff.1 hread
    cases heq
    exact h.repeated? hst
  unfold step? at hstep
  split at hstep
  · obtain ⟨⟨opening, r⟩, -, hstep⟩ := Option.bind_eq_some_iff.1 hstep
    obtain ⟨st'', hopened, heq⟩ := Option.bind_eq_some_iff.1 hstep
    cases heq
    exact h.opened? hopened
  · obtain ⟨st'', hclosed, heq⟩ := Option.map_eq_some_iff.1 hstep
    cases heq
    exact h.closed? hclosed
  · cases hstep
    have hbranch := Syntax.numbered_inSequence fun s hs => h.parts s (List.mem_reverse.1 hs)
    exact ⟨by simp, List.forall_mem_cons.2 ⟨hbranch, h.branches⟩, h.kinds, h.stack⟩
  · obtain ⟨⟨s, r⟩, hread, heq⟩ := Option.map_eq_some_iff.1 hstep
    cases heq
    obtain ⟨_, -, hread⟩ := Option.bind_eq_some_iff.1 hread
    obtain ⟨_, -, hread⟩ := Option.bind_eq_some_iff.1 hread
    cases hread
    exact h.add trivial
  · exact hrepeated hstep
  · exact hrepeated hstep
  · exact hrepeated hstep
  · obtain ⟨_, -, hstep⟩ := Option.bind_eq_some_iff.1 hstep
    exact hrepeated hstep
  · obtain ⟨⟨e, r⟩, -, heq⟩ := Option.map_eq_some_iff.1 hstep
    cases heq
    refine h.add ?_
    cases e <;> trivial
  all_goals
    cases hstep
    exact h.add trivial

/-- So does a whole run. -/
theorem numbered_of_run {fuel : Nat} (h : st.Numbered) (hrun : run fuel st cs = some final) :
    final.Numbered := by
  induction fuel generalizing st cs with
  | zero => cases hrun
  | succ fuel ih =>
    rw [run_succ] at hrun
    split at hrun
    · cases hrun
      exact h
    · obtain ⟨⟨st', rest'⟩, hstep, hrun⟩ := Option.bind_eq_some_iff.1 hrun
      exact ih (numbered_of_step? h hstep) hrun

end Parser

/-- The groups of a pattern are numbered from one on. -/
theorem numbered_of_parse? {cs : List Char} {p : Parsed} (h : parse? cs = some p) :
    p.tree.Numbered := by
  obtain ⟨st, hrun, -, rfl⟩ := exists_run_of_parse? h
  have hstart : Parser.State.Numbered {} := ⟨by simp, by simp, by simp, by simp⟩
  exact (Parser.numbered_of_run hstart hrun).content

end BrowserShell.Pattern
