import BrowserShell.Provider.Chain
import Mathlib.Data.List.Induction
import Mathlib.Data.List.TakeWhile

/-!
# Registration in chains

A chain is never sorted: a provider is added where it belongs, and a key takes providers out of the
places where they are. Still a chain is the stable sort by priority of the providers registered
(`entries_ofChanges`), where `Chain.registered` tells from the changes alone which these are.

The proof rests on `Sorted.eq_byPriority`: a sorted chain is known by the providers of each priority
and their order. Adding puts the new provider behind those of its priority
(`Sorted.ofPriority_add`), and keeps whatever relation holds from each provider to those behind it
(`Sorted.pairwise_add`).
-/

namespace BrowserShell.Chain

variable {σ : Type}

/-- A change of the providers in a chain. -/
inductive Change (σ : Type) where
  /-- A provider is added. -/
  | add (provider : σ) (priority : Int) (key : Option String)
  /-- The providers with a key are removed. -/
  | remove (key : String)

/-- The chain after a change. -/
def change (c : Chain σ) : Change σ → Chain σ
  | .add provider priority key => c.add provider priority key
  | .remove key => (c.remove key).2

/-- The chain that changes lead to. -/
def ofChanges (changes : List (Change σ)) : Chain σ := changes.foldl change []

/-- Whether a change removes what was added with a key. Nothing is removed by the empty key. -/
def Change.removes (key : Option String) : Change σ → Bool
  | .add .. => false
  | .remove k => k != "" && key == some k

/-- The providers added that no later change removes, in the order of their registration. -/
def registered : (changes : List (Change σ)) → List (Registered σ)
  | [] => []
  | .add provider priority key :: later =>
    if later.any (Change.removes key) then registered later
    else ⟨priority, key.filter (· != ""), provider⟩ :: registered later
  | .remove _ :: later => registered later

/-- Providers sorted by priority, in the order given among equals. -/
def byPriority (es : List (Registered σ)) : Chain σ :=
  es.mergeSort fun a b => decide (a.priority ≤ b.priority)

/-- Whether no provider stands behind one of a greater priority. -/
def Sorted (c : Chain σ) : Prop := c.Pairwise fun a b => a.priority ≤ b.priority

/-- The providers of one priority. -/
def ofPriority (es : List (Registered σ)) (p : Int) : List (Registered σ) :=
  es.filter fun e => e.priority = p

/-! ## Sorted chains -/

@[simp] theorem ofPriority_append (es fs : List (Registered σ)) (p : Int) :
    ofPriority (es ++ fs) p = ofPriority es p ++ ofPriority fs p := by
  simp [ofPriority]

/-- Behind the providers of a sorted chain up to some priority stand those of greater ones. -/
theorem Sorted.lt_of_mem_dropWhile {c : Chain σ} (h : Sorted c) {p : Int} {e : Registered σ}
    (he : e ∈ c.dropWhile fun e => e.priority ≤ p) : p < e.priority := by
  induction c with
  | nil => simp at he
  | cons a c ih =>
    obtain ⟨ha, hc⟩ := List.pairwise_cons.1 h
    rw [List.dropWhile_cons] at he
    split at he
    · exact ih hc he
    · rename_i hp
      have hlt : p < a.priority := by simpa using hp
      rcases List.mem_cons.1 he with rfl | he
      · exact hlt
      · exact Int.lt_of_lt_of_le hlt (ha e he)

/-- A relation from each provider to those behind it is kept by adding a provider, if it holds to
that one from those of no greater priority, and from it to those of greater ones. -/
theorem Sorted.pairwise_add {c : Chain σ} (h : Sorted c) {R : Registered σ → Registered σ → Prop}
    (hR : c.Pairwise R) {provider : σ} {priority : Int} {key : Option String}
    (hto : ∀ e ∈ c, e.priority ≤ priority → R e ⟨priority, key.filter (· != ""), provider⟩)
    (hfrom : ∀ e ∈ c, priority < e.priority → R ⟨priority, key.filter (· != ""), provider⟩ e) :
    (c.add provider priority key).Pairwise R := by
  have hsplit := List.takeWhile_append_dropWhile (p := fun e => decide (e.priority ≤ priority))
    (l := c)
  -- The relation on the whole chain is one on each part, and from the first part to the second.
  have hR' := hR
  rw [← hsplit, List.pairwise_append] at hR'
  obtain ⟨htake, hdrop, hacross⟩ := hR'
  refine List.pairwise_append.2 ⟨htake, List.pairwise_cons.2 ⟨fun e he => ?_, hdrop⟩, ?_⟩
  · exact hfrom e ((List.dropWhile_sublist _).subset he) (h.lt_of_mem_dropWhile he)
  · intro a ha b hb
    rcases List.mem_cons.1 hb with rfl | hb
    · exact hto a ((List.takeWhile_sublist _).subset ha)
        (by simpa using List.mem_takeWhile_imp ha)
    · exact hacross a ha b hb

/-- A sorted chain stays so when a provider is added. -/
theorem Sorted.add {c : Chain σ} (h : Sorted c) (provider : σ) (priority : Int)
    (key : Option String) : Sorted (c.add provider priority key) :=
  h.pairwise_add h (fun _ _ hle => hle) fun _ _ hlt => Int.le_of_lt hlt

/-- A provider is added behind those of its priority, and the others stay in their order. -/
theorem Sorted.ofPriority_add {c : Chain σ} (h : Sorted c) (provider : σ) (priority : Int)
    (key : Option String) (p : Int) :
    ofPriority (c.add provider priority key) p =
      ofPriority c p ++ ofPriority [⟨priority, key.filter (· != ""), provider⟩] p := by
  have hc : ofPriority c p = ofPriority (c.takeWhile fun e => e.priority ≤ priority) p ++
      ofPriority (c.dropWhile fun e => e.priority ≤ priority) p := by
    rw [← ofPriority_append, List.takeWhile_append_dropWhile]
  unfold Chain.add
  rw [ofPriority_append, hc, List.append_assoc, ← List.singleton_append, ofPriority_append]
  by_cases hp : priority = p
  · -- Behind the new provider there is none of its priority.
    have hnone : ofPriority (c.dropWhile fun e => e.priority ≤ priority) p = [] := by
      refine List.filter_eq_nil_iff.2 fun e he heq => ?_
      have hlt := h.lt_of_mem_dropWhile he
      rw [hp, of_decide_eq_true heq] at hlt
      exact Int.lt_irrefl p hlt
    rw [hnone, List.append_nil, List.nil_append]
  · have hnew :
        ofPriority [(⟨priority, key.filter (· != ""), provider⟩ : Registered σ)] p = [] := by
      simp [ofPriority, hp]
    rw [hnew, List.nil_append, List.append_nil]

/-- The first provider of a sorted chain has the least priority of all. -/
theorem Sorted.head_le {a b : Registered σ} {c d : Chain σ} (h : Sorted (a :: c))
    (heq : ∀ p, ofPriority (a :: c) p = ofPriority (b :: d) p) : a.priority ≤ b.priority := by
  have hb : b ∈ ofPriority (a :: c) b.priority := by
    rw [heq]
    simp [ofPriority]
  rcases List.mem_cons.1 (List.mem_filter.1 hb).1 with rfl | hb
  · exact Int.le_refl _
  · exact (List.pairwise_cons.1 h).1 b hb

/-- Sorted chains with the same providers of each priority, in the same order, are the same. -/
theorem Sorted.ext {c d : Chain σ} (hc : Sorted c) (hd : Sorted d)
    (heq : ∀ p, ofPriority c p = ofPriority d p) : c = d := by
  induction c generalizing d with
  | nil =>
    cases d with
    | nil => rfl
    | cons b d =>
      have hb := heq b.priority
      simp [ofPriority] at hb
  | cons a c ih =>
    cases d with
    | nil =>
      have ha := heq a.priority
      simp [ofPriority] at ha
    | cons b d =>
      -- Both heads have the least priority there is, and are the first providers of it.
      have hab : a.priority = b.priority :=
        Int.le_antisymm (hc.head_le heq) (hd.head_le fun p => (heq p).symm)
      have hfirst := heq a.priority
      rw [ofPriority, ofPriority, List.filter_cons_of_pos (by simp),
        List.filter_cons_of_pos (by simp [hab])] at hfirst
      obtain rfl : a = b := (List.cons.inj hfirst).1
      refine congrArg _ (ih (List.pairwise_cons.1 hc).2 (List.pairwise_cons.1 hd).2 fun p => ?_)
      -- Without the head they are still the same of each priority.
      have hp := heq p
      rw [← List.singleton_append, ← List.singleton_append (l := d), ofPriority_append,
        ofPriority_append] at hp
      exact List.append_cancel_left hp

/-- Priorities are compared transitively. -/
theorem priority_le_trans (a b c : Registered σ) (hab : decide (a.priority ≤ b.priority) = true)
    (hbc : decide (b.priority ≤ c.priority) = true) : decide (a.priority ≤ c.priority) = true := by
  rw [decide_eq_true_eq] at *
  omega

/-- Of two priorities one is at most the other. -/
theorem priority_le_total (a b : Registered σ) :
    (decide (a.priority ≤ b.priority) || decide (b.priority ≤ a.priority)) = true := by
  simp only [Bool.or_eq_true, decide_eq_true_eq]
  omega

/-- Providers sorted by priority are sorted. -/
theorem sorted_byPriority (es : List (Registered σ)) : Sorted (byPriority es) :=
  (List.pairwise_mergeSort priority_le_trans priority_le_total es).imp of_decide_eq_true

/-- Sorting by priority leaves the providers of one priority in their order. -/
theorem ofPriority_byPriority (es : List (Registered σ)) (p : Int) :
    ofPriority (byPriority es) p = ofPriority es p := by
  have hequal : (ofPriority es p).Pairwise fun a b => decide (a.priority ≤ b.priority) = true := by
    refine List.pairwise_of_forall_mem_list fun a ha b hb => ?_
    rw [of_decide_eq_true (List.mem_filter.1 ha).2, of_decide_eq_true (List.mem_filter.1 hb).2]
    exact decide_eq_true (Int.le_refl _)
  -- They are a sorted row of the list, and stay one when it is sorted.
  have hsub : (ofPriority es p).Sublist (byPriority es) :=
    List.sublist_mergeSort priority_le_trans priority_le_total hequal List.filter_sublist
  have hrow : (ofPriority es p).Sublist (ofPriority (byPriority es) p) := by
    have hself : ofPriority (ofPriority es p) p = ofPriority es p := by simp [ofPriority]
    rw [← hself]
    exact hsub.filter _
  exact (hrow.eq_of_length ((List.mergeSort_perm es _).filter _).length_eq.symm).symm

/-- A sorted chain is the sort of the providers that it has of each priority. -/
theorem Sorted.eq_byPriority {c : Chain σ} (h : Sorted c) {es : List (Registered σ)}
    (heq : ∀ p, ofPriority c p = ofPriority es p) : c = byPriority es :=
  h.ext (sorted_byPriority es) fun p => by rw [heq, ofPriority_byPriority]

/-! ## Changes -/

@[simp] theorem ofChanges_concat (changes : List (Change σ)) (ch : Change σ) :
    ofChanges (changes ++ [ch]) = (ofChanges changes).change ch := by
  simp [ofChanges]

/-- What is added last is registered last. -/
theorem registered_concat_add (changes : List (Change σ)) (provider : σ) (priority : Int)
    (key : Option String) :
    registered (changes ++ [.add provider priority key]) =
      registered changes ++ [⟨priority, key.filter (· != ""), provider⟩] := by
  induction changes with
  | nil => simp [registered]
  | cons ch changes ih =>
    cases ch with
    | remove k => simpa [registered] using ih
    | add q p k =>
      -- An addition removes nothing, so that it decides of no provider before it.
      have hlast : Change.removes k (.add provider priority key) = false := rfl
      simp only [List.cons_append, registered, List.any_append, List.any_cons, List.any_nil, hlast,
        Bool.or_false, ih]
      split <;> rfl

/-- No provider is registered with the empty key. -/
theorem key_ne_empty {changes : List (Change σ)} {e : Registered σ} (h : e ∈ registered changes) :
    e.key ≠ some "" := by
  induction changes with
  | nil => simp [registered] at h
  | cons ch changes ih =>
    cases ch with
    | remove k => exact ih h
    | add q p k =>
      unfold registered at h
      split at h
      · exact ih h
      · rcases List.mem_cons.1 h with rfl | h
        · simp [Option.filter_eq_some_iff]
        · exact ih h

/-- A key removes what it was added with, unless it is empty. -/
theorem key_bne_eq_not_removes (k : Option String) (key : String) :
    (k.filter (· != "") != some key) = !Change.removes k (.remove key : Change σ) := by
  rw [Bool.eq_iff_iff]
  cases k with
  | none => simp [Change.removes]
  | some k =>
    by_cases hempty : k = ""
    · subst hempty
      simp [Change.removes, Option.filter, Decidable.em]
    · by_cases hk : k = key
      · subst hk
        simp [Change.removes, Option.filter, hempty]
      · simp [Change.removes, Option.filter, hempty, hk]

/-- What is removed last are the providers registered with the key. -/
theorem registered_concat_remove (changes : List (Change σ)) (key : String) :
    registered (changes ++ [.remove key]) =
      (registered changes).filter fun e => e.key != some key := by
  induction changes with
  | nil => rfl
  | cons ch changes ih =>
    cases ch with
    | remove k => simpa [registered] using ih
    | add q p k =>
      simp only [List.cons_append, registered, List.any_append, List.any_cons, List.any_nil,
        Bool.or_false, ih]
      by_cases hlater : changes.any (Change.removes k) = true
      · simp [hlater]
      · rw [Bool.not_eq_true] at hlater
        rw [hlater, Bool.false_or, if_neg Bool.false_ne_true, List.filter_cons,
          key_bne_eq_not_removes]
        cases Change.removes k (.remove key : Change σ) <;> rfl

/-- A chain is sorted and has the providers registered of each priority in their order. -/
theorem sorted_ofChanges (changes : List (Change σ)) :
    Sorted (ofChanges changes) ∧
      ∀ p, ofPriority (ofChanges changes) p = ofPriority (registered changes) p := by
  -- Changes act on the chain from the left, so that the last of them is taken off.
  induction changes using List.reverseRecOn with
  | nil => exact ⟨.nil, fun _ => rfl⟩
  | append_singleton changes ch ih =>
    obtain ⟨hs, heq⟩ := ih
    rw [ofChanges_concat]
    cases ch with
    | add provider priority key =>
      refine ⟨hs.add provider priority key, fun p => ?_⟩
      rw [registered_concat_add, ofPriority_append, ← heq]
      exact hs.ofPriority_add provider priority key p
    | remove key =>
      refine ⟨hs.sublist List.filter_sublist, fun p => ?_⟩
      -- Taking out a key and picking out a priority can be done in either order.
      have hp := congrArg (List.filter fun e => e.key != some key) (heq p)
      rw [ofPriority, ofPriority, List.filter_filter, List.filter_filter] at hp
      rw [registered_concat_remove, ofPriority, ofPriority]
      show List.filter _ (List.filter _ (ofChanges changes)) = _
      rw [List.filter_filter, List.filter_filter]
      simpa only [Bool.and_comm] using hp

/-- Removing takes out the providers that have the key, and tells how many they are. -/
theorem remove_eq (c : Chain σ) (key : String) :
    c.remove key =
      (c.countP fun e => e.key = some key, c.filter fun e => decide (e.key ≠ some key)) := by
  have hfilter : (c.filter fun e => e.key != some key) =
      c.filter fun e => decide (e.key ≠ some key) := by
    congr 1
    funext e
    rw [Bool.eq_iff_iff]
    simp
  have hcount :=
    List.length_eq_countP_add_countP (fun e : Registered σ => decide (e.key = some key)) (l := c)
  have hrest : (c.filter fun e => decide (e.key ≠ some key)).length =
      c.countP fun e => ¬ decide (e.key = some key) = true := by
    rw [List.countP_eq_length_filter]
    simp
  unfold remove
  dsimp only
  rw [hfilter, hrest]
  exact Prod.ext (by dsimp only; omega) rfl

/-- After any changes a chain is the stable sort by priority of the providers registered. Then a
key removes just those of them that have it, and tells how many they are, while the others stay in
their order; the empty key, which no provider has, removes none. -/
theorem entries_ofChanges (changes : List (Change σ)) (key : String) :
    let c := ofChanges changes
    c = byPriority (registered changes) ∧
      c.remove key =
        (c.countP fun e => e.key = some key, c.filter fun e => decide (e.key ≠ some key)) ∧
      c.remove "" = (0, c) := by
  intro c
  obtain ⟨hs, heq⟩ := sorted_ofChanges changes
  have hc : c = byPriority (registered changes) := hs.eq_byPriority heq
  refine ⟨hc, remove_eq c key, ?_⟩
  have hnone : ∀ e ∈ c, e.key ≠ some "" := by
    intro e he
    rw [hc, byPriority, List.mem_mergeSort] at he
    exact key_ne_empty he
  rw [remove_eq, List.filter_eq_self.2 fun e he => decide_eq_true (hnone e he),
    List.countP_eq_zero.2 fun e he => by simpa using hnone e he]

end BrowserShell.Chain
