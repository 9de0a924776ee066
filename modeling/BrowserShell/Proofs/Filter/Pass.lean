import BrowserShell.Proofs.Filter.Malformed

/-!
# What a call writes

A call takes as much of a chunk as its buffer holds, writes over the beginning of the buffer and
leaves the rest of it (`pass_writes`). The bytes written are those taken, if there are no rules, and
otherwise the changed ones up to the end of the buffer (`passedOf`); so the chunk is cut before it is
changed, and the result of the change once more. Chunks that fit into their buffers and meet no
rules go on whole: what the calls in a filter's life have written is, all together, what they were
given.
-/

namespace BrowserShell.Filter

/-- The bytes that a call has written. -/
def Outcome.passed (o : Outcome) : Bytes := o.output.take o.written

/-- What a call writes of a chunk into a buffer. -/
def passedOf (rules : Rules) (chunk buffer : Bytes) : Bytes :=
  let taken := chunk.take (min chunk.length buffer.length)
  if taken = [] then [] else writtenOf rules taken buffer.length

/-! ## One call -/

/-- What is relayed by a call is what it writes, over the beginning of the buffer. -/
theorem relayed_pass_eq (f : Filter) (t : FileTree) (chunk buffer : Bytes) :
    (f.pass t chunk buffer).relayed =
      let written := passedOf f.rules chunk buffer
      (.done, chunk.length, written.length, written ++ buffer.drop written.length) := by
  unfold passedOf
  rw [take_min_length]
  by_cases htake : chunk.take buffer.length = []
  · rw [pass_of_empty f t htake, if_pos htake]
    rfl
  · rw [pass_of_nonempty f t htake, if_neg htake]
    rfl

/-- A call does not write more than its buffer holds. -/
theorem length_passedOf_le (rules : Rules) (chunk buffer : Bytes) :
    (passedOf rules chunk buffer).length ≤ buffer.length := by
  unfold passedOf writtenOf
  dsimp only
  split
  · exact Nat.zero_le _
  · split
    · rw [take_min_length]
      exact List.length_take_le _ _
    · exact List.length_take_le _ _

/-- The bytes that a call has written are those it writes. -/
theorem passed_pass (f : Filter) (t : FileTree) (chunk buffer : Bytes) :
    (f.pass t chunk buffer).passed = passedOf f.rules chunk buffer := by
  have h := relayed_pass_eq f t chunk buffer
  simp only [Outcome.relayed, Prod.mk.injEq] at h
  obtain ⟨-, -, hwritten, houtput⟩ := h
  rw [Outcome.passed, hwritten, houtput, List.take_left]

/-- Without rules the bytes taken are written. -/
theorem passedOf_nil (chunk buffer : Bytes) :
    passedOf [] chunk buffer = chunk.take (min chunk.length buffer.length) := by
  unfold passedOf
  dsimp only
  split
  · rename_i h
    exact h.symm
  · exact writtenOf_nil _ _

/-- With rules the changed bytes are written, as far as the buffer holds them. -/
theorem passedOf_of_rules {rules : Rules} (hrules : rules ≠ []) {chunk buffer : Bytes}
    (hm : 0 < min chunk.length buffer.length) :
    passedOf rules chunk buffer =
      (rules.replaceAll (trim (chunk.take (min chunk.length buffer.length)))).take
        buffer.length := by
  have htake : chunk.take (min chunk.length buffer.length) ≠ [] := by
    rw [take_min_length]
    exact (take_ne_nil_iff chunk buffer).2 hm
  unfold passedOf writtenOf
  rw [if_neg htake, if_neg (by simpa using hrules)]

/-! ## A whole life -/

/-- What the calls in the life of a filter have written, all together. -/
theorem flatMap_passed_live (f : Filter) (s : Surroundings) (events : List Event) :
    (f.live s events).1.flatMap Outcome.passed =
      (events.filterMap Event.call?).flatMap fun c => passedOf f.rules c.1 c.2 := by
  induction events generalizing s with
  | nil => rfl
  | cons e events ih =>
    rw [live]
    cases e with
    | call chunk buffer =>
      have hcall : (Event.call chunk buffer).call? = some (chunk, buffer) := rfl
      rw [List.filterMap_cons_some hcall, List.flatMap_cons, ← passed_pass f s.files chunk buffer,
        ← ih]
      rfl
    | change files => exact ih _
    | close => exact ih _

/-- A call is done with the whole chunk. It writes over the beginning of the buffer and leaves the
rest: nothing, if the chunk or the buffer is empty; without rules, as much of the chunk as the
buffer holds; with rules, the trimmed and changed form of that, up to the end of the buffer. Without
rules, what the calls in a life write is therefore what they are given, if each chunk fits into its
buffer. -/
theorem pass_writes (f : Filter) (t : FileTree) (chunk buffer : Bytes) :
    let o := f.pass t chunk buffer
    let m := min chunk.length buffer.length
    let content := f.rules.replaceAll (trim (chunk.take m))
    o.status = .done ∧ o.consumed = chunk.length ∧ o.output.length = buffer.length ∧
      (m = 0 → o.written = 0) ∧
      (f.rules = [] → o.written = m ∧ o.output.take m = chunk.take m) ∧
      (f.rules ≠ [] → 0 < m →
        o.written = min content.length buffer.length ∧
          o.output.take o.written = content.take o.written) ∧
      o.output.drop o.written = buffer.drop o.written ∧
      ∀ (s : Surroundings) (events : List Event), f.rules = [] →
        (∀ c ∈ events.filterMap Event.call?, c.1.length ≤ c.2.length) →
          (f.live s events).1.flatMap Outcome.passed =
            (events.filterMap Event.call?).flatMap Prod.fst := by
  intro o m content
  have hle : (passedOf f.rules chunk buffer).length ≤ buffer.length := length_passedOf_le _ _ _
  have hrelayed := relayed_pass_eq f t chunk buffer
  simp only [Outcome.relayed, Prod.mk.injEq] at hrelayed
  obtain ⟨hstatus, hconsumed, hwritten, houtput⟩ := hrelayed
  have hpassed : o.output.take o.written = passedOf f.rules chunk buffer :=
    passed_pass f t chunk buffer
  refine ⟨hstatus, hconsumed, ?_, fun hm => ?_, fun hrules => ?_, fun hrules hm => ?_, ?_,
    fun s events hrules hfits => ?_⟩
  · show o.output.length = buffer.length
    rw [houtput, List.length_append, List.length_drop]
    omega
  · -- Nothing is taken of an empty chunk, or into an empty buffer.
    have htake : chunk.take (min chunk.length buffer.length) = [] := by
      rw [show min chunk.length buffer.length = 0 from hm, List.take_zero]
    show o.written = 0
    rw [hwritten, passedOf, if_pos htake]
    rfl
  · have hm : o.written = m := by
      rw [hwritten, hrules, passedOf_nil, List.length_take]
      omega
    refine ⟨hm, ?_⟩
    rw [← hm, hpassed, hrules, passedOf_nil, hm]
  · have hcontent : passedOf f.rules chunk buffer = content.take buffer.length :=
      passedOf_of_rules hrules hm
    have hm : o.written = min content.length buffer.length := by
      rw [hwritten, hcontent, List.length_take, Nat.min_comm]
    refine ⟨hm, ?_⟩
    rw [hpassed, hcontent, hm, Nat.min_comm]
    exact List.take_eq_take_min
  · show o.output.drop o.written = buffer.drop o.written
    rw [houtput, hwritten, List.drop_left]
  · rw [flatMap_passed_live, hrules]
    refine List.flatMap_congr fun c hc => ?_
    rw [passedOf_nil, Nat.min_eq_left (hfits c hc), List.take_length]

/-- A change that makes a chunk longer than its buffer is cut off, and chunks that meet no rules go
on whole though the files change between them. -/
theorem pass_writes_cut :
    let f : Filter := ⟨"", "text/plain", none, false, .ofTexts [⟨".", "bb"⟩]⟩
    let g : Filter := ⟨"", "text/plain", none, false, []⟩
    let o := f.pass .empty [0x20, 0x61, 0x61] [0x23, 0x23, 0x23]
    let events := [Event.call [0x61] [0x23, 0x23], .change .empty, .call [0x62, 0x20] [0x23, 0x23]]
    f.rules ≠ [] ∧ 0 < min [0x20, 0x61, 0x61].length [0x23, 0x23, 0x23].length ∧
      o.written = 3 ∧ o.output.take o.written = [0x62, 0x62, 0x62] ∧ g.rules = [] ∧
      (∀ c ∈ events.filterMap Event.call?, c.1.length ≤ c.2.length) ∧
      (g.live ⟨.empty, .empty⟩ events).1.flatMap Outcome.passed = [0x61, 0x62, 0x20] := by
  intro f g o events
  have hrules : f.rules ≠ [] := by decide
  have hfits : ∀ c ∈ events.filterMap Event.call?, c.1.length ≤ c.2.length := by decide
  have hcontent : f.rules.replaceAll (trim [0x20, 0x61, 0x61]) = [0x62, 0x62, 0x62, 0x62] := by
    decide +kernel
  obtain ⟨-, -, -, -, -, hwith, -⟩ :=
    pass_writes f .empty [0x20, 0x61, 0x61] [0x23, 0x23, 0x23]
  obtain ⟨hwritten, hpassed⟩ := hwith hrules (by decide)
  have hthree : o.written = 3 := by
    refine hwritten.trans ?_
    show min (f.rules.replaceAll (trim [0x20, 0x61, 0x61])).length 3 = 3
    rw [hcontent]
    rfl
  refine ⟨hrules, by decide, hthree, ?_, rfl, hfits, ?_⟩
  · refine hpassed.trans ?_
    show (f.rules.replaceAll (trim [0x20, 0x61, 0x61])).take o.written = _
    rw [hcontent, hthree]
    rfl
  · exact (pass_writes g .empty [] []).2.2.2.2.2.2.2 ⟨.empty, .empty⟩ events rfl hfits

end BrowserShell.Filter
