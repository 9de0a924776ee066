import BrowserShell.Pattern.Matcher
import BrowserShell.Proofs.Pattern.Takes
import Mathlib.Data.Finset.Card
import Mathlib.Data.Finset.Range

/-!
# Searches that find nothing

A row of threads leaves out the threads whose place another one has come to before, and each
position has a limit on how many threads are followed. Neither loses a match: where nothing is
accepted, the places that have been seen are closed under the steps that take nothing
(`exists_followed`), and so no thread of them leads to the end of the program
(`lost_of_run`). A search therefore finds a match exactly if the pattern takes something
somewhere (`Matcher.isSome_find?_iff`).
-/

namespace BrowserShell.Pattern

variable {program : Array Instruction} {subject : Bytes} {p : Position}
  {slots offset seen bound fuel : Nat} {row row' threads rest : List Thread} {t : Thread}

/-! ## Places that have been seen -/

/-- Seeing a key sets its bit and no other. -/
theorem testBit_see (seen k j : Nat) :
    (seen ||| 1 <<< k).testBit j = (seen.testBit j || decide (k = j)) := by
  rw [Nat.testBit_or, Nat.one_shiftLeft, Nat.testBit_two_pow]

/-- How many places of a program have not been seen. -/
def unseen (program : Array Instruction) (seen : Nat) : Nat :=
  ((Finset.range program.size).filter fun place => seen.testBit (4 * place) = false).card

/-- Seeing a key leaves no more places unseen. -/
theorem unseen_see_le (program : Array Instruction) (seen k : Nat) :
    unseen program (seen ||| 1 <<< k) ≤ unseen program seen := by
  refine Finset.card_le_card fun place h => ?_
  rw [Finset.mem_filter, testBit_see, Bool.or_eq_false_iff] at h
  exact Finset.mem_filter.2 ⟨h.1, h.2.1⟩

/-- Seeing a place of the program for the first time leaves one less. -/
theorem unseen_see_lt {place : Nat} (hplace : place < program.size)
    (hseen : seen.testBit (4 * place) = false) :
    unseen program (seen ||| 1 <<< (4 * place)) < unseen program seen := by
  refine Finset.card_lt_card ((Finset.ssubset_iff_of_subset fun q h => ?_).2 ⟨place, ?_, ?_⟩)
  · rw [Finset.mem_filter, testBit_see, Bool.or_eq_false_iff] at h
    exact Finset.mem_filter.2 ⟨h.1, h.2.1⟩
  · exact Finset.mem_filter.2 ⟨Finset.mem_range.2 hplace, hseen⟩
  · rw [Finset.mem_filter, testBit_see]
    simp

/-! ## Following threads -/

/-- Whether a thread waits for the rest of a character or stands before something to take. -/
def Thread.Stays (program : Array Instruction) (t : Thread) : Prop :=
  t.wait = 0 → ∃ i, program[t.place]? = some i ∧ i.IsTaking

/-- Whether a place has been seen, or a thread that does not wait is still to be followed from
there. -/
def Pending (seen : Nat) (threads : List Thread) (place : Nat) : Prop :=
  seen.testBit (4 * place) = true ∨ ∃ t ∈ threads, t.place = place ∧ t.wait = 0

/-- What holds of the keys that have been seen while threads are followed: each of them has been
dealt with, as a thread of the row or by going on. -/
structure Followed (program : Array Instruction) (p : Position) (bound seen : Nat)
    (row threads : List Thread) : Prop where
  /-- Only threads that wait or take something are put into the row. -/
  rows : ∀ t ∈ row, t.wait ≤ bound ∧ t.Stays program
  /-- No thread waits longer than `bound`. -/
  bounded : ∀ t ∈ threads, t.wait ≤ bound
  /-- The key of a thread that waits stands for one in the row. -/
  waits : ∀ place wait, 0 < wait → wait < 4 → seen.testBit (4 * place + wait) = true →
    ∃ t ∈ row, t.place = place ∧ t.wait = wait
  /-- So does that of a place where something is taken. -/
  takes : ∀ place i, seen.testBit (4 * place) = true → program[place]? = some i → i.IsTaking →
    ∃ t ∈ row, t.place = place ∧ t.wait = 0
  /-- What any other place goes on to is pending. -/
  goes : ∀ place i, seen.testBit (4 * place) = true → program[place]? = some i →
    ∀ q ∈ i.next p place, Pending seen threads q
  /-- No place is the end of the program. -/
  ends : ∀ place, seen.testBit (4 * place) = true → program[place]? ≠ some .accept

/-- What is pending stays so when the first thread is done with, its key being seen. -/
theorem Pending.of_cons {seen' : Nat} {threads' : List Thread} {place : Nat}
    (h : Pending seen (t :: rest) place)
    (hkept : ∀ k, seen.testBit k = true → seen'.testBit k = true)
    (ht : seen'.testBit t.key = true) (hrest : ∀ t' ∈ rest, t' ∈ threads') :
    Pending seen' threads' place := by
  rcases h with hseen | ⟨t', ht', rfl, hwait⟩
  · exact Or.inl (hkept _ hseen)
  · rcases List.mem_cons.1 ht' with rfl | ht'
    · rw [Thread.key, hwait, Nat.add_zero] at ht
      exact Or.inl ht
    · exact Or.inr ⟨t', hrest t' ht', rfl, hwait⟩

/-- The order of a row does not matter. -/
theorem Followed.of_row (h : Followed program p bound seen row threads)
    (hmem : ∀ t, t ∈ row' ↔ t ∈ row) : Followed program p bound seen row' threads where
  rows t ht := h.rows t ((hmem t).1 ht)
  bounded := h.bounded
  waits place wait hpos hlt hseen := by
    obtain ⟨t, ht, heq⟩ := h.waits place wait hpos hlt hseen
    exact ⟨t, (hmem t).2 ht, heq⟩
  takes place i hseen hi htakes := by
    obtain ⟨t, ht, heq⟩ := h.takes place i hseen hi htakes
    exact ⟨t, (hmem t).2 ht, heq⟩
  goes := h.goes
  ends := h.ends

/-- A thread whose key has been seen may be dropped. -/
theorem Followed.drop (h : Followed program p bound seen row (t :: rest))
    (hseen : seen.testBit t.key = true) : Followed program p bound seen row rest where
  rows := h.rows
  bounded := (List.forall_mem_cons.1 h.bounded).2
  waits := h.waits
  takes := h.takes
  goes place i hplace hi q hq :=
    (h.goes place i hplace hi q hq).of_cons (fun _ => id) hseen fun _ => id
  ends := h.ends

/-- Seeing a key keeps the others, and has it among them. -/
theorem see_keeps (seen k : Nat) :
    (∀ j, seen.testBit j = true → (seen ||| 1 <<< k).testBit j = true) ∧
      (seen ||| 1 <<< k).testBit k = true := by
  refine ⟨fun j hj => ?_, ?_⟩
  · rw [testBit_see, hj, Bool.true_or]
  · rw [testBit_see, decide_eq_true rfl, Bool.or_true]

/-- A key that has been seen behind one more thread is the thread's or had been seen before. -/
theorem cases_see (hbound : t.wait < 4) (place wait : Nat) (hwait : wait < 4)
    (h : (seen ||| 1 <<< t.key).testBit (4 * place + wait) = true) :
    seen.testBit (4 * place + wait) = true ∨ t.place = place ∧ t.wait = wait := by
  rw [testBit_see, Bool.or_eq_true, decide_eq_true_eq] at h
  refine h.imp id fun hkey => ?_
  rw [Thread.key] at hkey
  omega

/-- A thread that waits or takes something is put into the row. -/
theorem Followed.stay (h : Followed program p bound seen row (t :: rest)) (hbound : bound < 4)
    (hstays : t.Stays program) :
    Followed program p bound (seen ||| 1 <<< t.key) (t :: row) rest := by
  obtain ⟨ht, hrest⟩ := List.forall_mem_cons.1 h.bounded
  have hlt : t.wait < 4 := Nat.lt_of_le_of_lt ht hbound
  obtain ⟨hkeeps, hkey⟩ := see_keeps seen t.key
  refine ⟨List.forall_mem_cons.2 ⟨⟨ht, hstays⟩, h.rows⟩, hrest, ?waits, ?takes, ?goes, ?ends⟩
  case waits =>
    intro place wait hpos hwait hsee
    rcases cases_see hlt place wait hwait hsee with hseen | heq
    · obtain ⟨t', ht', heq⟩ := h.waits place wait hpos hwait hseen
      exact ⟨t', List.mem_cons_of_mem _ ht', heq⟩
    · exact ⟨t, List.mem_cons_self, heq⟩
  case takes =>
    intro place i hsee hi htakes
    rcases cases_see hlt place 0 (by decide) hsee with hseen | heq
    · obtain ⟨t', ht', heq⟩ := h.takes place i hseen hi htakes
      exact ⟨t', List.mem_cons_of_mem _ ht', heq⟩
    · exact ⟨t, List.mem_cons_self, heq⟩
  case goes =>
    intro place i hsee hi q hq
    rcases cases_see hlt place 0 (by decide) hsee with hseen | ⟨rfl, hwait⟩
    · exact (h.goes place i hseen hi q hq).of_cons hkeeps hkey fun _ => id
    · -- An instruction that takes something goes on nowhere without.
      obtain ⟨j, hj, htakes⟩ := hstays hwait
      rw [hi] at hj
      cases hj
      rw [htakes.next_eq_nil] at hq
      cases hq
  case ends =>
    intro place hsee
    rcases cases_see hlt place 0 (by decide) hsee with hseen | ⟨rfl, hwait⟩
    · exact h.ends place hseen
    · obtain ⟨j, hj, htakes⟩ := hstays hwait
      rw [hj]
      rintro heq
      cases heq
      exact htakes

/-- Threads that one goes on as: they stand at the next places of its instruction. -/
structure GoesOn (program : Array Instruction) (p : Position) (t : Thread) (ts : List Thread) :
    Prop where
  wait : t.wait = 0
  ne_accept : program[t.place]? ≠ some .accept
  next : ∀ i, program[t.place]? = some i → ¬ i.IsTaking ∧ ts.map Thread.place = i.next p t.place
  waits : ∀ t' ∈ ts, t'.wait = 0
  none_of_none : program[t.place]? = none → ts = []

/-- A thread goes on to the next places. -/
theorem Followed.goOn (h : Followed program p bound seen row (t :: rest)) (hbound : bound < 4)
    {ts : List Thread} (hgoes : GoesOn program p t ts) :
    Followed program p bound (seen ||| 1 <<< t.key) row (ts ++ rest) := by
  obtain ⟨ht, hrest⟩ := List.forall_mem_cons.1 h.bounded
  have hlt : t.wait < 4 := Nat.lt_of_le_of_lt ht hbound
  obtain ⟨hkeeps, hkey⟩ := see_keeps seen t.key
  refine ⟨h.rows, ?bounded, ?waits, ?takes, ?goes, ?ends⟩
  case bounded =>
    intro t' ht'
    rcases List.mem_append.1 ht' with ht' | ht'
    · rw [hgoes.waits t' ht']
      exact Nat.zero_le _
    · exact hrest t' ht'
  case waits =>
    intro place wait hpos hwait hsee
    rcases cases_see hlt place wait hwait hsee with hseen | ⟨-, heq⟩
    · exact h.waits place wait hpos hwait hseen
    · rw [hgoes.wait] at heq
      omega
  case takes =>
    intro place i hsee hi htakes
    rcases cases_see hlt place 0 (by decide) hsee with hseen | ⟨rfl, -⟩
    · exact h.takes place i hseen hi htakes
    · exact absurd htakes (hgoes.next i hi).1
  case goes =>
    intro place i hsee hi q hq
    rcases cases_see hlt place 0 (by decide) hsee with hseen | ⟨rfl, -⟩
    · exact (h.goes place i hseen hi q hq).of_cons hkeeps hkey fun _ => List.mem_append_right ts
    · -- The next places of the thread itself are pending as the threads it goes on as.
      rw [← (hgoes.next i hi).2] at hq
      obtain ⟨t', ht', rfl⟩ := List.mem_map.1 hq
      exact Or.inr ⟨t', List.mem_append_left _ ht', rfl, hgoes.waits t' ht'⟩
  case ends =>
    intro place hsee
    rcases cases_see hlt place 0 (by decide) hsee with hseen | ⟨rfl, -⟩
    · exact h.ends place hseen
    · exact hgoes.ne_accept

/-- The threads that one goes on as are paid for by its place, which is seen for the first time. -/
theorem GoesOn.length_le {ts : List Thread} (h : GoesOn program p t ts)
    (hseen : seen.testBit t.key = false) :
    ts.length + 2 * unseen program (seen ||| 1 <<< t.key) ≤ 2 * unseen program seen := by
  have hkey : t.key = 4 * t.place := by rw [Thread.key, h.wait, Nat.add_zero]
  cases hi : program[t.place]? with
  | none =>
    rw [h.none_of_none hi, List.length_nil, Nat.zero_add]
    exact Nat.mul_le_mul_left 2 (unseen_see_le program seen t.key)
  | some i =>
    have hlength : ts.length ≤ 2 := by
      have hmap := congrArg List.length (h.next i hi).2
      rw [List.length_map] at hmap
      rw [hmap]
      cases i with
      | assertion a =>
        rw [Instruction.next]
        split <;> simp
      | scalar | byte | save | jump | split | accept => simp [Instruction.next]
    rw [hkey] at hseen ⊢
    have hlt := unseen_see_lt (Array.getElem?_eq_some_iff.1 hi).1 hseen
    omega

/-- What is done with the first of the threads to follow, its key not having been seen: it is put
into the row, has come to the end, or goes on. -/
theorem follow_cons (fuel : Nat) (rest : List Thread) (hseen : seen.testBit t.key = false) :
    (follow program p offset (fuel + 1) seen row (t :: rest) =
        follow program p offset fuel (seen ||| 1 <<< t.key) (t :: row) rest ∧ t.Stays program) ∨
      (follow program p offset (fuel + 1) seen row (t :: rest)).accepted ≠ none ∨
      ∃ ts, GoesOn program p t ts ∧
        follow program p offset (fuel + 1) seen row (t :: rest) =
          follow program p offset fuel (seen ||| 1 <<< t.key) row (ts ++ rest) := by
  rw [follow, if_neg (by simp [hseen])]
  dsimp only
  split
  · rename_i hwait
    exact Or.inl ⟨rfl, fun hzero => by omega⟩
  · rename_i hwait
    have hzero : t.wait = 0 := Nat.eq_zero_of_not_pos hwait
    cases hi : program[t.place]? with
    | none =>
      refine Or.inr (Or.inr ⟨[], ⟨hzero, by simp [hi], ?_, by simp, by simp⟩, rfl⟩)
      intro i hi'
      rw [hi] at hi'
      cases hi'
    | some i =>
      -- An instruction that takes nothing goes on at its next places.
      have hgoes : ∀ ts : List Thread, i ≠ .accept → ¬ i.IsTaking →
          ts.map Thread.place = i.next p t.place → (∀ t' ∈ ts, t'.wait = 0) →
            GoesOn program p t ts := by
        intro ts hne htakes hplaces hwaits
        refine ⟨hzero, by rwa [hi, ne_eq, Option.some_inj], ?_, hwaits, by simp [hi]⟩
        intro j hj
        rw [hi] at hj
        cases hj
        exact ⟨htakes, hplaces⟩
      cases i with
      | scalar | byte => exact Or.inl ⟨rfl, fun _ => ⟨_, hi, trivial⟩⟩
      | assertion a =>
        refine Or.inr (Or.inr ?_)
        by_cases hmeets : p.meets a = true
        · refine ⟨[{ t with place := t.place + 1 }], hgoes _ (by simp) id ?_ (by simpa), ?_⟩
          · rw [Instruction.next, if_pos hmeets]
            rfl
          · exact if_pos hmeets
        · refine ⟨[], hgoes _ (by simp) id ?_ (by simp), ?_⟩
          · rw [Instruction.next, if_neg hmeets]
            rfl
          · exact if_neg hmeets
      | save slot =>
        exact Or.inr (Or.inr ⟨[⟨t.place + 1, 0, t.slots.set slot (some offset)⟩],
          hgoes _ (by simp) id rfl (by simp), rfl⟩)
      | jump target =>
        exact Or.inr (Or.inr ⟨[{ t with place := target }],
          hgoes _ (by simp) id rfl (by simpa), rfl⟩)
      | split first second =>
        exact Or.inr (Or.inr ⟨[{ t with place := first }, { t with place := second }],
          hgoes _ (by simp) id rfl (by simpa), rfl⟩)
      | accept => exact Or.inr (Or.inl (by simp))

/-- Where following threads meets no end of the program, there are keys that have all been followed,
those of the threads among them. -/
theorem exists_followed (hbound : bound < 4) (fuel : Nat)
    (h : Followed program p bound seen row threads)
    (hfuel : threads.length + 2 * unseen program seen ≤ fuel)
    (hnone : (follow program p offset fuel seen row threads).accepted = none) :
    ∃ seen', Followed program p bound seen'
        (follow program p offset fuel seen row threads).threads [] ∧
      (∀ k, seen.testBit k = true → seen'.testBit k = true) ∧
      ∀ t ∈ threads, seen'.testBit t.key = true := by
  induction fuel generalizing seen row threads with
  | zero =>
    obtain rfl : threads = [] := List.eq_nil_of_length_eq_zero (by omega)
    exact ⟨seen, h.of_row (by simp [follow]), fun _ => id, by simp⟩
  | succ fuel ih =>
    cases threads with
    | nil => exact ⟨seen, h.of_row (by simp [follow]), fun _ => id, by simp⟩
    | cons t rest =>
      rw [List.length_cons] at hfuel
      cases hseen : seen.testBit t.key with
      | true =>
        have hfollow : follow program p offset (fuel + 1) seen row (t :: rest) =
            follow program p offset fuel seen row rest := by
          rw [follow, if_pos hseen]
        rw [hfollow] at hnone ⊢
        obtain ⟨seen', hfollowed, hkept, hmem⟩ := ih (h.drop hseen) (by omega) hnone
        exact ⟨seen', hfollowed, hkept, List.forall_mem_cons.2 ⟨hkept _ hseen, hmem⟩⟩
      | false =>
        have hsee : ∀ {seen' : Nat},
            (∀ k, (seen ||| 1 <<< t.key).testBit k = true → seen'.testBit k = true) →
            (∀ k, seen.testBit k = true → seen'.testBit k = true) ∧
              seen'.testBit t.key = true := by
          intro seen' hkept
          obtain ⟨hkeeps, hkey⟩ := see_keeps seen t.key
          exact ⟨fun k hk => hkept k (hkeeps k hk), hkept t.key hkey⟩
        have hunseen := unseen_see_le program seen t.key
        rcases follow_cons fuel rest hseen with ⟨hfollow, hstays⟩ | haccept | ⟨ts, hgoes, hfollow⟩
        · rw [hfollow] at hnone ⊢
          obtain ⟨seen', hfollowed, hkept, hmem⟩ := ih (h.stay hbound hstays) (by omega) hnone
          exact ⟨seen', hfollowed, (hsee hkept).1, List.forall_mem_cons.2 ⟨(hsee hkept).2, hmem⟩⟩
        · exact absurd hnone haccept
        · have hpaid := hgoes.length_le hseen
          rw [hfollow] at hnone ⊢
          obtain ⟨seen', hfollowed, hkept, hmem⟩ := ih (h.goOn hbound hgoes)
            (by rw [List.length_append]; omega) hnone
          exact ⟨seen', hfollowed, (hsee hkept).1,
            List.forall_mem_cons.2 ⟨(hsee hkept).2, (List.forall_mem_append.1 hmem).2⟩⟩

/-! ## Rows -/

/-- Whether no walk leads from where a thread is, or waits for, to the end of the program. -/
def Thread.Lost (program : Array Instruction) (subject : Bytes) (offset : Nat) (t : Thread) :
    Prop :=
  ∀ steps, ¬ Leads program subject steps (offset + t.wait) t.place

/-- Where all keys have been followed and the threads of the row are lost, so are all threads whose
keys have been seen. -/
theorem Followed.lost (h : Followed program (.behind subject offset) bound seen row [])
    (hbound : bound < 4) (hrow : ∀ t ∈ row, t.Lost program subject offset) (ht : t.wait ≤ bound)
    (hseen : seen.testBit t.key = true) : t.Lost program subject offset := by
  have hplaces : ∀ steps place, seen.testBit (4 * place) = true →
      ¬ Leads program subject steps offset place := by
    intro steps
    -- A walk goes on at a place that has been seen, or as a thread of the row does.
    induction steps with
    | zero => exact fun place hseen hleads => h.ends place hseen hleads
    | succ steps ih =>
      rintro place hseen ⟨i, hi, ⟨q, hq, hleads⟩ | ⟨width, hwidth, hleads⟩⟩
      · rcases h.goes place i hseen hi q hq with hq | ⟨t', ht', -⟩
        · exact ih q hq hleads
        · cases ht'
      · obtain ⟨t', ht', rfl, hwait⟩ :=
          h.takes place i hseen hi (Instruction.bounds_of_width? hwidth).1
        refine hrow t' ht' (steps + 1) ⟨i, hi, Or.inr ⟨width, ?_, ?_⟩⟩
        · rwa [hwait]
        · rwa [hwait]
  intro steps
  rw [Thread.key] at hseen
  rcases Nat.eq_zero_or_pos t.wait with hzero | hpos
  · rw [hzero, Nat.add_zero] at hseen ⊢
    exact hplaces steps t.place hseen
  · obtain ⟨t', ht', hplace, hwait⟩ := h.waits t.place t.wait hpos (by omega) hseen
    rw [← hplace, ← hwait]
    exact hrow t' ht' steps

/-- Where no match has been found a thread starts behind the others. -/
theorem rowAt_none :
    rowAt program slots p offset threads none =
      follow program p offset (2 * program.size + threads.length + 2) 0 []
        (threads ++ [⟨0, 0, List.replicate slots none⟩]) := rfl

/-- A row that accepts nothing and whose threads are lost comes from threads that are. No match can
begin there either. -/
theorem lost_of_rowAt (bound : Nat) (hbound : bound < 4) (hthreads : ∀ t ∈ threads, t.wait ≤ bound)
    (hnone : (rowAt program slots (.behind subject offset) offset threads none).accepted = none) :
    (∀ t ∈ (rowAt program slots (.behind subject offset) offset threads none).threads,
        t.wait ≤ bound ∧ t.Stays program) ∧
      ((∀ t ∈ (rowAt program slots (.behind subject offset) offset threads none).threads,
          t.Lost program subject offset) →
        (∀ t ∈ threads, t.Lost program subject offset) ∧
          ∀ steps, ¬ Leads program subject steps offset 0) := by
  rw [rowAt_none] at hnone ⊢
  have hstart : ∀ t ∈ threads ++ [⟨0, 0, List.replicate slots none⟩], t.wait ≤ bound := by
    rw [List.forall_mem_append, List.forall_mem_singleton]
    exact ⟨hthreads, Nat.zero_le _⟩
  have hempty : Followed program (.behind subject offset) bound 0 []
      (threads ++ [⟨0, 0, List.replicate slots none⟩]) :=
    ⟨by simp, hstart, by simp, by simp, by simp, by simp⟩
  have hunseen : unseen program 0 ≤ program.size :=
    (Finset.card_filter_le _ _).trans (Finset.card_range _).le
  obtain ⟨seen, hfollowed, -, hseen⟩ := exists_followed hbound
    (2 * program.size + threads.length + 2) hempty
    (by rw [List.length_append, List.length_singleton]; omega) hnone
  refine ⟨hfollowed.rows, fun hrow => ?_⟩
  have hlost := List.forall_mem_append.1 fun t ht =>
    hfollowed.lost hbound hrow (hstart t ht) (hseen t ht)
  exact ⟨hlost.1, List.forall_mem_singleton.1 hlost.2⟩

/-- A thread that passes a byte is lost if it is lost behind the byte. -/
theorem Thread.lost_of_pass {b : UInt8} {after : Bytes} (hrest : subject.drop offset = b :: after)
    (hstays : t.Stays program)
    (h : ∀ t', t.pass? program b after = some t' → t'.Lost program subject (offset + 1)) :
    t.Lost program subject offset := by
  intro steps hleads
  cases hwait : t.wait with
  | succ wait =>
    refine h { t with wait := wait } (by rw [pass?, hwait]) steps ?_
    rw [hwait] at hleads
    rwa [Nat.add_assoc, Nat.add_comm 1]
  | zero =>
    obtain ⟨i, hi, htakes⟩ := hstays hwait
    rw [hwait, Nat.add_zero] at hleads
    obtain ⟨steps', -, width, hwidth, hleads⟩ := hleads.of_taking hi htakes
    have hpos := (Instruction.bounds_of_width? hwidth).2.1
    rw [hrest] at hwidth
    refine h ⟨t.place + 1, width - 1, t.slots⟩ ?_ steps' ?_
    · rw [pass?_eq hwait, hi, Option.bind_some, hwidth]
      rfl
    · have hadd : offset + 1 + (width - 1) = offset + width := by omega
      rwa [hadd]

/-! ## Searches -/

/-- A thread that passes a byte waits for no more than is left of the subject, and for no more than
three bytes. -/
theorem wait_le_of_pass {t' : Thread} {b : UInt8} {after : Bytes}
    (hwait : t.wait ≤ min 3 (after.length + 1)) (h : t.pass? program b after = some t') :
    t'.wait ≤ min 3 after.length := by
  cases hzero : t.wait with
  | succ wait =>
    rw [Thread.pass?, hzero] at h
    cases h
    show wait ≤ min 3 after.length
    omega
  | zero =>
    rw [Thread.pass?_eq hzero] at h
    obtain ⟨width, hwidth, rfl⟩ := Option.map_eq_some_iff.1 h
    obtain ⟨i, -, hwidth⟩ := Option.bind_eq_some_iff.1 hwidth
    obtain ⟨-, hpos, hfour, hle⟩ := Instruction.bounds_of_width? hwidth
    rw [List.length_cons] at hle
    show width - 1 ≤ min 3 after.length
    omega

/-- A match that has been found is not lost again. -/
theorem run_ne_none {found : Option Slots} (hfound : found ≠ none) (before after : Bytes) :
    run program slots before offset threads found after ≠ none := by
  induction after generalizing before offset threads found with
  | nil => simp [run, hfound]
  | cons b rest ih =>
    have hor : ∀ accepted : Option Slots, accepted.or found ≠ none := by simp [hfound]
    rw [run]
    split
    · exact hor _
    · exact ih (hor _) _

/-- Where a run finds nothing all its threads are lost, and no match begins anywhere behind. -/
theorem lost_of_run (after : Bytes) (hafter : subject.drop offset = after)
    (hend : offset ≤ subject.length) (hthreads : ∀ t ∈ threads, t.wait ≤ min 3 after.length)
    (h : run program slots (subject.take offset).reverse offset threads none after = none) :
    (∀ t ∈ threads, t.Lost program subject offset) ∧
      ∀ s, offset ≤ s → s ≤ subject.length → ∀ steps, ¬ Leads program subject steps s 0 := by
  induction after generalizing offset threads with
  | nil =>
    have hlength : subject.length ≤ offset := List.drop_eq_nil_iff.1 hafter
    have hnone : (rowAt program slots (.behind subject offset) offset threads none).accepted =
        none := by
      rw [Position.behind, hafter]
      exact (Option.or_eq_none_iff.1 h).1
    obtain ⟨hrow, hlost⟩ := lost_of_rowAt 0 (by decide) hthreads hnone
    -- At the end of the subject there is nothing to take.
    obtain ⟨hthreads, hstart⟩ := hlost fun t ht steps hleads => by
      have hzero : t.wait = 0 := Nat.le_zero.1 (hrow t ht).1
      obtain ⟨i, hi, htakes⟩ := (hrow t ht).2 hzero
      rw [hzero, Nat.add_zero] at hleads
      obtain ⟨-, -, width, hwidth, -⟩ := hleads.of_taking hi htakes
      obtain ⟨-, hpos, -, hle⟩ := Instruction.bounds_of_width? hwidth
      rw [hafter, List.length_nil] at hle
      omega
    refine ⟨hthreads, fun s hle hs steps => ?_⟩
    obtain rfl : s = offset := by omega
    exact hstart steps
  | cons b rest ih =>
    have hlt := lt_of_drop_eq_cons hafter
    obtain ⟨hbefore, hrest⟩ := Position.mk.inj (Position.behind_succ hafter)
    have hposition : Position.behind subject offset =
        ⟨(subject.take offset).reverse, b :: rest⟩ := by
      rw [Position.behind, hafter]
    rw [run, ← hposition] at h
    generalize hrowAt : rowAt program slots (.behind subject offset) offset threads none = row at h
    have hnone : row.accepted = none := by
      by_contra haccepted
      have hor : row.accepted.or none ≠ none := by simpa using haccepted
      split at h
      · exact hor h
      · exact run_ne_none hor _ _ h
    rw [hnone, Option.none_or, Option.isSome_none, Bool.and_false, if_neg (by decide), ← hbefore]
      at h
    rw [← hrowAt] at hnone h
    obtain ⟨hrow, hlost⟩ := lost_of_rowAt (min 3 (b :: rest).length) (by omega) hthreads hnone
    have hpassed : ∀ t ∈ (rowAt program slots (.behind subject offset) offset threads
        none).threads.filterMap (Thread.pass? program b rest), t.wait ≤ min 3 rest.length := by
      intro t ht
      obtain ⟨t', ht', hpass⟩ := List.mem_filterMap.1 ht
      exact wait_le_of_pass (hrow t' ht').1 hpass
    obtain ⟨hnext, hbehind⟩ := ih hrest hlt hpassed h
    obtain ⟨hthreads, hstart⟩ := hlost fun t ht =>
      Thread.lost_of_pass hafter (hrow t ht).2 fun t' hpass =>
        hnext t' (List.mem_filterMap.2 ⟨t, ht, hpass⟩)
    refine ⟨hthreads, fun s hle hs => ?_⟩
    rcases Nat.eq_or_lt_of_le hle with rfl | hle
    · exact hstart
    · exact hbehind s hle hs

/-- A search finds something just if a walk leads to the end of the program from where it begins or
from behind. -/
theorem isSome_search_iff (hend : offset ≤ subject.length) :
    (search program slots (.behind subject offset) offset).isSome ↔
      ∃ steps s, offset ≤ s ∧ s ≤ subject.length ∧ Leads program subject steps s 0 := by
  constructor
  · intro h
    obtain ⟨kept, hkept⟩ := Option.isSome_iff_exists.1 h
    exact exists_leads_of_search hend hkept
  · rintro ⟨steps, s, hle, hs, hleads⟩
    by_contra hnot
    have hempty : ∀ t ∈ ([] : List Thread), t.wait ≤ min 3 (subject.drop offset).length := by simp
    exact (lost_of_run (subject.drop offset) rfl hend hempty
      (Option.not_isSome_iff_eq_none.1 hnot)).2 s hle hs steps hleads

/-- A match is found just if the pattern can take something from where the search begins or from
behind. -/
theorem Matcher.isSome_find?_iff {m : Matcher} {n : Node} (hm : m.program = n.program)
    (hend : offset ≤ subject.length) :
    (m.find? (.behind subject offset) offset).isSome ↔
      ∃ s j, offset ≤ s ∧ s ≤ subject.length ∧ n.Takes subject s j := by
  rw [find?, Option.isSome_map, hm, isSome_search_iff hend]
  constructor
  · rintro ⟨steps, s, hle, hs, hleads⟩
    obtain ⟨j, hj⟩ := (n.exists_leads_program_iff subject s).1 ⟨steps, hleads⟩
    exact ⟨s, j, hle, hs, hj⟩
  · rintro ⟨s, j, hle, hs, hj⟩
    obtain ⟨steps, hleads⟩ := (n.exists_leads_program_iff subject s).2 ⟨j, hj⟩
    exact ⟨steps, s, hle, hs, hleads⟩

end BrowserShell.Pattern
