import BrowserShell.Proofs.Pattern.Reader

/-!
# The names of groups

No number is the name of a group, since a name does not begin with a digit; and a pattern has no
more groups than characters (`named_of_parse?`). Only a parenthesis brings a name or a group about.
-/

namespace BrowserShell.Pattern

/-- A letter is no digit. -/
theorem Class.isDigit_eq_false {c : Char} (h : Class.isLetter c = true) : c.isDigit = false := by
  rw [← Bool.not_eq_true]
  intro hdigit
  have hrange : 48 ≤ c.val.toNat ∧ c.val.toNat ≤ 57 := by
    simpa [Char.isDigit, UInt32.le_iff_toNat_le] using hdigit
  unfold isLetter Char.toNat at h
  rw [if_pos (by omega)] at h
  rcases Bool.or_eq_true_iff.1 h with hupper | hlower
  · have hfirst : 'A'.val ≤ c.val := (of_decide_eq_true hupper).1
    have hle : 65 ≤ c.val.toNat := UInt32.le_iff_toNat_le.1 hfirst
    omega
  · have hfirst : 'a'.val ≤ c.val := of_decide_eq_true (Bool.and_eq_true_iff.1 hlower).1
    have hle : 97 ≤ c.val.toNat := UInt32.le_iff_toNat_le.1 hfirst
    omega

namespace Parser

variable {c : Char} {cs rest rest' : List Char} {st st' final : State} {bound : Nat}

/-- Whether a name begins with a character that is no digit. -/
def IsName (name : List Char) : Prop := ∃ c ∈ name.head?, c.isDigit = false

/-- What is read as a name is one; so is what has been read of it, if anything has. -/
theorem isName_of_groupName? {read name : List Char} (h : groupName? read cs = some (name, rest))
    (hread : read ≠ [] → IsName read.reverse) : IsName name := by
  induction cs generalizing read with
  | nil => cases h
  | cons c cs ih =>
    rw [groupName?] at h
    split at h
    · split at h
      · cases h
      · rename_i hne
        cases h
        exact hread hne
    · split at h
      · rename_i hchar
        refine ih h fun _ => ?_
        rw [List.reverse_cons]
        cases read with
        | nil =>
          -- The first character of a name is a letter or an underscore.
          refine ⟨c, rfl, ?_⟩
          rw [List.isEmpty_nil, isNameChar, if_pos rfl] at hchar
          rcases Bool.or_eq_true_iff.1 hchar with hline | hletter
          · rw [eq_of_beq hline]
            rfl
          · exact Class.isDigit_eq_false hletter
        | cons d read =>
          obtain ⟨e, he, hdigit⟩ := hread (List.cons_ne_nil d read)
          rw [Option.mem_def] at he
          exact ⟨e, by rw [List.head?_append, he]; rfl, hdigit⟩
      · cases h

/-- What holds of the names and groups of a state: no name begins with a digit, and there are at
most `bound` groups. -/
structure State.Named (st : State) (bound : Nat) : Prop where
  names : ∀ n ∈ st.names, IsName n.1
  groups_le : st.groups ≤ bound

/-- The name that a parenthesis gives to its group is one. -/
theorem isName_of_opening? {v : Bool} {name : List Char}
    (h : opening? v cs = some (.capturing (some name), rest)) : IsName name := by
  unfold opening? at h
  split at h
  -- The four conditions on what is around, and then the two ways of writing a name.
  · cases h
  · cases h
  · cases h
  · cases h
  · obtain ⟨⟨name', rest'⟩, hname, heq⟩ := Option.map_eq_some_iff.1 h
    cases heq
    exact isName_of_groupName? hname (by simp)
  · obtain ⟨⟨name', rest'⟩, hname, heq⟩ := Option.map_eq_some_iff.1 h
    cases heq
    exact isName_of_groupName? hname (by simp)
  · obtain ⟨⟨letters, close, rest'⟩, -, h⟩ := Option.bind_eq_some_iff.1 h
    dsimp only at h
    split at h
    · split at h <;> cases h
    · cases h
  · cases h

/-- A parenthesis opens one group at most, under its name. -/
theorem State.Named.opened? (h : st.Named bound) {opening : Opening}
    (hname : ∀ name, opening = .capturing (some name) → IsName name)
    (hopened : st.opened? opening = some st') : st'.Named (bound + 1) := by
  unfold State.opened? at hopened
  split at hopened
  · cases hopened
    exact ⟨h.names, Nat.le_succ_of_le h.groups_le⟩
  · cases hopened
    exact ⟨h.names, Nat.le_succ_of_le h.groups_le⟩
  · dsimp only at hopened
    split at hopened
    · cases hopened
      exact ⟨h.names, Nat.succ_le_succ h.groups_le⟩
    · rename_i name
      split at hopened
      · cases hopened
      · cases hopened
        exact ⟨List.forall_mem_cons.2 ⟨hname name rfl, h.names⟩, Nat.succ_le_succ h.groups_le⟩

/-- A step brings one group about at most. -/
theorem named_of_step? (h : st.Named bound) (hstep : step? st c rest = some (st', rest')) :
    st'.Named (bound + 1) := by
  have hrepeated : ∀ {least most mark},
      repeatedPart? st least most mark = some (st', rest') → st'.Named (bound + 1) := by
    intro least most mark hread
    obtain ⟨st'', hst, heq⟩ := Option.map_eq_some_iff.1 hread
    cases heq
    rw [eq_of_repeated? hst]
    exact ⟨h.names, Nat.le_succ_of_le h.groups_le⟩
  unfold step? at hstep
  split at hstep
  · -- An opening parenthesis is the one character that changes the groups and the names.
    obtain ⟨⟨opening, r⟩, hread, hstep⟩ := Option.bind_eq_some_iff.1 hstep
    obtain ⟨st'', hopened, heq⟩ := Option.bind_eq_some_iff.1 hstep
    cases heq
    refine h.opened? (fun name hname => ?_) hopened
    subst hname
    exact isName_of_opening? hread
  · -- A closing one takes a frame off the stack.
    obtain ⟨st'', hclosed, heq⟩ := Option.map_eq_some_iff.1 hstep
    cases heq
    unfold State.closed? at hclosed
    split at hclosed
    · cases hclosed
    · cases hclosed
      exact ⟨h.names, Nat.le_succ_of_le h.groups_le⟩
  · cases hstep
    exact ⟨h.names, Nat.le_succ_of_le h.groups_le⟩
  · obtain ⟨⟨s, r⟩, -, heq⟩ := Option.map_eq_some_iff.1 hstep
    cases heq
    exact ⟨h.names, Nat.le_succ_of_le h.groups_le⟩
  · -- The four ways of writing a repetition.
    exact hrepeated hstep
  · exact hrepeated hstep
  · exact hrepeated hstep
  · obtain ⟨_, -, hstep⟩ := Option.bind_eq_some_iff.1 hstep
    exact hrepeated hstep
  · obtain ⟨⟨e, r⟩, -, heq⟩ := Option.map_eq_some_iff.1 hstep
    cases heq
    exact ⟨h.names, Nat.le_succ_of_le h.groups_le⟩
  all_goals
    cases hstep
    exact ⟨h.names, Nat.le_succ_of_le h.groups_le⟩

/-- A run brings as many groups about as it has steps at most. -/
theorem named_of_run {fuel : Nat} (h : st.Named bound) (hrun : run fuel st cs = some final) :
    final.Named (bound + fuel) := by
  induction fuel generalizing st cs bound with
  | zero => cases hrun
  | succ fuel ih =>
    rw [run_succ] at hrun
    split at hrun
    · cases hrun
      exact ⟨h.names, Nat.le_trans h.groups_le (Nat.le_add_right _ _)⟩
    · obtain ⟨⟨st', rest'⟩, hstep, hrun⟩ := Option.bind_eq_some_iff.1 hrun
      have hnamed := ih (named_of_step? h hstep) hrun
      rwa [Nat.add_assoc, Nat.add_comm 1] at hnamed

end Parser

/-- The names of a pattern's groups do not begin with digits, and there are no more groups than the
pattern has characters, give or take one. -/
theorem named_of_parse? {cs : List Char} {p : Parsed} (h : parse? cs = some p) :
    (∀ n ∈ p.names, Parser.IsName n.1) ∧ p.groups ≤ cs.length + 1 := by
  obtain ⟨st, hrun, -, rfl⟩ := exists_run_of_parse? h
  have hstart : Parser.State.Named {} 0 := ⟨by simp, Nat.le_refl 0⟩
  have hnamed := Parser.named_of_run hstart hrun
  exact ⟨hnamed.names, by simpa using hnamed.groups_le⟩

end BrowserShell.Pattern
