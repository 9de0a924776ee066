import BrowserShell.Pattern.Search

/-!
# What a search finds

`Reaches` says by which steps of a program a thread comes about, one step for each kind of
instruction. The rows that a search keeps hold such threads only, so that what it finds are the
slots of a thread that comes to the end of the program (`accepts_of_search`). What holds of all
matches is proved by induction on these steps, without a look at rows.
-/

namespace BrowserShell.Pattern

/-- The position behind the first `offset` bytes of a subject. -/
def Position.behind (subject : Bytes) (offset : Nat) : Position :=
  ⟨(subject.take offset).reverse, subject.drop offset⟩

/-- There is a byte at an offset that bytes go on from. -/
theorem lt_of_drop_eq_cons {subject rest : Bytes} {offset : Nat} {b : UInt8}
    (h : subject.drop offset = b :: rest) : offset < subject.length := by
  have hlen := congrArg List.length h
  rw [List.length_drop, List.length_cons] at hlen
  omega

/-- The position one byte further. -/
theorem Position.behind_succ {subject rest : Bytes} {offset : Nat} {b : UInt8}
    (h : subject.drop offset = b :: rest) :
    Position.behind subject (offset + 1) = ⟨b :: (subject.take offset).reverse, rest⟩ := by
  have htake : subject.take (offset + 1) = subject.take offset ++ [b] := by
    rw [List.take_add, h]
    rfl
  have hdrop : subject.drop (offset + 1) = rest := by
    rw [← List.drop_drop, h]
    rfl
  rw [behind, htake, hdrop, List.reverse_append]
  rfl

/-- The threads that come about at each offset of a subject when a program is run on it from the
offset `start` on. -/
inductive Reaches (program : Array Instruction) (slots : Nat) (subject : Bytes) (start : Nat) :
    Nat → Thread → Prop where
  /-- A thread may start at any offset. -/
  | start {offset : Nat} : start ≤ offset → offset ≤ subject.length →
      Reaches program slots subject start offset ⟨0, 0, List.replicate slots none⟩
  /-- It passes a condition that holds. -/
  | assertion {offset : Nat} {t : Thread} {a : Assertion} :
      Reaches program slots subject start offset t → t.wait = 0 →
      program[t.place]? = some (.assertion a) →
      (Position.behind subject offset).meets a = true →
      Reaches program slots subject start offset { t with place := t.place + 1 }
  /-- It keeps the offset. -/
  | save {offset slot : Nat} {t : Thread} :
      Reaches program slots subject start offset t → t.wait = 0 →
      program[t.place]? = some (.save slot) →
      Reaches program slots subject start offset ⟨t.place + 1, 0, t.slots.set slot (some offset)⟩
  /-- It goes on elsewhere. -/
  | jump {offset target : Nat} {t : Thread} :
      Reaches program slots subject start offset t → t.wait = 0 →
      program[t.place]? = some (.jump target) →
      Reaches program slots subject start offset { t with place := target }
  /-- It goes on at the first of two places. -/
  | first {offset first second : Nat} {t : Thread} :
      Reaches program slots subject start offset t → t.wait = 0 →
      program[t.place]? = some (.split first second) →
      Reaches program slots subject start offset { t with place := first }
  /-- It goes on at the second of two places. -/
  | second {offset first second : Nat} {t : Thread} :
      Reaches program slots subject start offset t → t.wait = 0 →
      program[t.place]? = some (.split first second) →
      Reaches program slots subject start offset { t with place := second }
  /-- It passes a byte. -/
  | pass {offset : Nat} {t t' : Thread} {b : UInt8} {rest : Bytes} :
      Reaches program slots subject start offset t → subject.drop offset = b :: rest →
      t.pass? program b rest = some t' →
      Reaches program slots subject start (offset + 1) t'

variable {program : Array Instruction} {slots start : Nat} {subject : Bytes}

/-- A thread passes a byte of the character it has taken, or takes a character or a byte. -/
theorem cases_of_pass {t t' : Thread} {b : UInt8} {rest : Bytes}
    (h : t.pass? program b rest = some t') :
    (∃ wait, t.wait = wait + 1 ∧ t' = { t with wait := wait }) ∨
      (∃ set c width, t.wait = 0 ∧ program[t.place]? = some (.scalar set) ∧
        Utf8.first b rest = (some c, width) ∧ t' = ⟨t.place + 1, width - 1, t.slots⟩) ∨
      (∃ set, t.wait = 0 ∧ program[t.place]? = some (.byte set) ∧ set.has b.toNat = true ∧
        t' = ⟨t.place + 1, 0, t.slots⟩) := by
  unfold Thread.pass? at h
  split at h
  · rename_i wait hwait
    exact Or.inl ⟨wait, hwait, (Option.some.inj h).symm⟩
  · rename_i hwait
    split at h
    · rename_i set hi
      split at h
      · rename_i c width hfirst
        split at h
        · exact Or.inr (Or.inl ⟨set, c, width, hwait, hi, hfirst, (Option.some.inj h).symm⟩)
        · cases h
      · cases h
    · rename_i set hi
      split at h
      · rename_i hhas
        exact Or.inr (Or.inr ⟨set, hwait, hi, hhas, (Option.some.inj h).symm⟩)
      · cases h
    · cases h

/-- The slots of a thread that comes to the end of the program. -/
def Accepts (program : Array Instruction) (slots : Nat) (subject : Bytes) (start : Nat)
    (kept : Slots) : Prop :=
  ∃ offset t, Reaches program slots subject start offset t ∧ t.wait = 0 ∧
    program[t.place]? = some .accept ∧ t.slots = kept

/-- A row whose threads come about at an offset, and whose match is that of such a thread. -/
structure Row.Reached (r : Row) (program : Array Instruction) (slots : Nat) (subject : Bytes)
    (start offset : Nat) : Prop where
  threads : ∀ t ∈ r.threads, Reaches program slots subject start offset t
  accepted : ∀ kept, r.accepted = some kept → Accepts program slots subject start kept

/-- Following threads that come about gives such a row. -/
theorem reached_follow {offset : Nat} (fuel seen : Nat) {row threads : List Thread}
    (hrow : ∀ t ∈ row, Reaches program slots subject start offset t)
    (hthreads : ∀ t ∈ threads, Reaches program slots subject start offset t) :
    (follow program (.behind subject offset) offset fuel seen row threads).Reached program slots
      subject start offset := by
  have hdone : ∀ {row : List Thread}, (∀ t ∈ row, Reaches program slots subject start offset t) →
      Row.Reached ⟨row.reverse, none⟩ program slots subject start offset := fun hrow =>
    ⟨fun t ht => hrow t (List.mem_reverse.1 ht), fun _ h => nomatch h⟩
  -- A thread is dropped, put into the row, followed by one step, or has come to the end.
  fun_induction follow program (.behind subject offset) offset fuel seen row threads with
  | case1 => exact hdone hrow
  | case2 => exact hdone hrow
  | case3 fuel seen row t rest hseen ih =>
    exact ih hrow (List.forall_mem_cons.1 hthreads).2
  | case4 fuel seen row t rest hseen seen' hwait ih =>
    obtain ⟨ht, hrest⟩ := List.forall_mem_cons.1 hthreads
    exact ih (List.forall_mem_cons.2 ⟨ht, hrow⟩) hrest
  | case5 fuel seen row t rest hseen seen' hwait hnone ih =>
    exact ih hrow (List.forall_mem_cons.1 hthreads).2
  | case6 fuel seen row t rest hseen seen' hwait set hset ih =>
    obtain ⟨ht, hrest⟩ := List.forall_mem_cons.1 hthreads
    exact ih (List.forall_mem_cons.2 ⟨ht, hrow⟩) hrest
  | case7 fuel seen row t rest hseen seen' hwait set hset ih =>
    obtain ⟨ht, hrest⟩ := List.forall_mem_cons.1 hthreads
    exact ih (List.forall_mem_cons.2 ⟨ht, hrow⟩) hrest
  | case8 fuel seen row t rest hseen seen' hwait a hmeets ha ih =>
    obtain ⟨ht, hrest⟩ := List.forall_mem_cons.1 hthreads
    have hnext := ht.assertion (Nat.eq_zero_of_not_pos hwait) ha hmeets
    exact ih hrow (List.forall_mem_cons.2 ⟨hnext, hrest⟩)
  | case9 fuel seen row t rest hseen seen' hwait a hmeets ha ih =>
    exact ih hrow (List.forall_mem_cons.1 hthreads).2
  | case10 fuel seen row t rest hseen seen' hwait slot hslot ih =>
    obtain ⟨ht, hrest⟩ := List.forall_mem_cons.1 hthreads
    have hnext := ht.save (Nat.eq_zero_of_not_pos hwait) hslot
    exact ih hrow (List.forall_mem_cons.2 ⟨hnext, hrest⟩)
  | case11 fuel seen row t rest hseen seen' hwait target htarget ih =>
    obtain ⟨ht, hrest⟩ := List.forall_mem_cons.1 hthreads
    have hnext := ht.jump (Nat.eq_zero_of_not_pos hwait) htarget
    exact ih hrow (List.forall_mem_cons.2 ⟨hnext, hrest⟩)
  | case12 fuel seen row t rest hseen seen' hwait first second hsplit ih =>
    obtain ⟨ht, hrest⟩ := List.forall_mem_cons.1 hthreads
    have hfirst := ht.first (Nat.eq_zero_of_not_pos hwait) hsplit
    have hsecond := ht.second (Nat.eq_zero_of_not_pos hwait) hsplit
    exact ih hrow (List.forall_mem_cons.2 ⟨hfirst, List.forall_mem_cons.2 ⟨hsecond, hrest⟩⟩)
  | case13 fuel seen row t rest hseen hwait haccept =>
    have ht := (List.forall_mem_cons.1 hthreads).1
    refine ⟨(hdone hrow).threads, fun kept hkept => ?_⟩
    exact ⟨offset, t, ht, Nat.eq_zero_of_not_pos hwait, haccept, Option.some.inj hkept⟩

/-- The row at an offset holds threads that come about there. -/
theorem reached_rowAt {offset : Nat} {threads : List Thread} (found : Option Slots)
    (hstart : start ≤ offset) (hend : offset ≤ subject.length)
    (hthreads : ∀ t ∈ threads, Reaches program slots subject start offset t) :
    (rowAt program slots (.behind subject offset) offset threads found).Reached program slots
      subject start offset := by
  unfold rowAt
  refine reached_follow _ _ (by simp) fun t ht => ?_
  rcases List.mem_append.1 ht with ht | ht
  · exact hthreads t ht
  · split at ht
    · rw [List.mem_singleton] at ht
      exact ht ▸ .start hstart hend
    · simp at ht

/-- What running a program finds are the slots of a thread at its end, or those found before. -/
theorem accepts_of_run {offset : Nat} {threads : List Thread} {found : Option Slots}
    (after : Bytes) (hstart : start ≤ offset) (hend : offset ≤ subject.length)
    (hafter : subject.drop offset = after)
    (hthreads : ∀ t ∈ threads, Reaches program slots subject start offset t)
    (hfound : ∀ kept, found = some kept → Accepts program slots subject start kept)
    {kept : Slots}
    (h : run program slots (subject.take offset).reverse offset threads found after = some kept) :
    Accepts program slots subject start kept := by
  -- The position moves one byte at a time, and the match found so far is kept beside the threads.
  induction after generalizing offset threads found with
  | nil =>
    have hrow := reached_rowAt found hstart hend hthreads
    rw [Position.behind, hafter] at hrow
    rcases Option.or_eq_some_iff.1 h with h | ⟨-, h⟩
    · exact hrow.accepted kept h
    · exact hfound kept h
  | cons b rest ih =>
    have hrow := reached_rowAt found hstart hend hthreads
    rw [Position.behind, hafter] at hrow
    rw [run] at h
    generalize rowAt program slots _ offset threads found = next at hrow h
    have hor : ∀ kept, next.accepted.or found = some kept →
        Accepts program slots subject start kept := by
      intro kept hkept
      rcases Option.or_eq_some_iff.1 hkept with hkept | ⟨-, hkept⟩
      · exact hrow.accepted kept hkept
      · exact hfound kept hkept
    split at h
    · exact hor kept h
    · -- One byte further the position is the one behind it.
      have hlt := lt_of_drop_eq_cons hafter
      obtain ⟨hbefore, hrest⟩ := Position.mk.inj (Position.behind_succ hafter)
      rw [← hbefore] at h
      refine ih (by omega) (by omega) hrest (fun t ht => ?_) hor h
      obtain ⟨t', ht', hpass⟩ := List.mem_filterMap.1 ht
      exact (hrow.threads t' ht').pass hafter hpass

/-- What a search finds are the slots of a thread that comes to the end of the program. -/
theorem accepts_of_search {offset : Nat} (hend : offset ≤ subject.length) {kept : Slots}
    (h : search program slots (.behind subject offset) offset = some kept) :
    Accepts program slots subject offset kept :=
  accepts_of_run (subject.drop offset) (Nat.le_refl offset) hend rfl (by simp) (by simp) h

end BrowserShell.Pattern
