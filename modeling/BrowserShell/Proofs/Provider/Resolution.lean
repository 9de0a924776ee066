import BrowserShell.Proofs.Provider.Registration

/-!
# The first claim

A chain answers with the first provider that claims the request in the state that it is in, after
any changes of the chain and any earlier requests (`resolve_ofCalls`). Each provider up to that one
is asked once, in the order of the chain, and the others are left as they are.

Requests change providers, so that a provider is not known by its state. To tell which of two was
registered first, `Chain.number` numbers the providers as they are added. The numbers change
nothing (`plain_ofCalls`), and each call keeps a chain in the order of priority and number
(`Ordered.change`, `Ordered.resolve`).
-/

namespace BrowserShell

/-- The provider after it was asked for an answer. -/
def Registered.asked {σ : Type} (ask : σ → Option Response × σ) (e : Registered σ) : Registered σ :=
  { e with provider := (ask e.provider).2 }

/-- What a provider in its present state answers, none if it declines. -/
def Registered.answer {σ : Type} (ask : σ → Option Response × σ) (e : Registered σ) :
    Option Response :=
  (ask e.provider).1

/-- A provider without its number. -/
def Registered.plain {σ : Type} (e : Registered (Nat × σ)) : Registered σ :=
  ⟨e.priority, e.key, e.provider.2⟩

/-- Where a provider stands: its priority and its number. -/
def Registered.place {σ : Type} (e : Registered (Nat × σ)) : Int × Nat := (e.priority, e.provider.1)

/-- Whether one provider is asked before another: it has a smaller priority, or the same and a
smaller number. -/
def Registered.Before {σ : Type} (a b : Registered (Nat × σ)) : Prop :=
  a.place.1 < b.place.1 ∨ a.place.1 = b.place.1 ∧ a.place.2 < b.place.2

namespace Chain

variable {σ ρ : Type}

/-- A call of a chain. -/
inductive Call (σ ρ : Type) where
  /-- The providers are changed. -/
  | change (ch : Change σ)
  /-- A request is made. -/
  | resolve (request : ρ)

/-- The chain after a call; `handle` gives the answer of a provider to a request and its state
afterwards. -/
def call (handle : ρ → σ → Option Response × σ) (c : Chain σ) : Call σ ρ → Chain σ
  | .change ch => c.change ch
  | .resolve request => (c.resolve (handle request)).2

/-- The chain that calls lead to. -/
def ofCalls (handle : ρ → σ → Option Response × σ) (calls : List (Call σ ρ)) : Chain σ :=
  calls.foldl (call handle) []

/-- The change with a number for the provider added. -/
def Change.numbered (n : Nat) : Change σ → Change (Nat × σ)
  | .add provider priority key => .add (n, provider) priority key
  | .remove key => .remove key

/-- The calls with the providers numbered in the order of their registration, from `n` on. -/
def number : (n : Nat) → (calls : List (Call σ ρ)) → List (Call (Nat × σ) ρ)
  | _, [] => []
  | n, .change ch :: calls => .change (ch.numbered n) :: number (n + 1) calls
  | n, .resolve request :: calls => .resolve request :: number n calls

/-- The answer of a provider with a number, which it keeps. -/
def onNumbered (handle : ρ → σ → Option Response × σ) (request : ρ) (p : Nat × σ) :
    Option Response × (Nat × σ) :=
  ((handle request p.2).1, p.1, (handle request p.2).2)

/-! ## One request -/

section

variable (ask : σ → Option Response × σ)

/-- A first provider that claims a request answers it, and the others are not asked. -/
theorem resolve_cons_some {e : Registered σ} {response : Response}
    (h : e.answer ask = some response) (c : Chain σ) :
    resolve ask (e :: c) = (some response, e.asked ask :: c) := by
  unfold Registered.answer at h
  unfold resolve Registered.asked
  rw [← h]
  split
  · rename_i heq
    rw [heq]
  · rename_i heq
    rw [heq] at h
    cases h

/-- A first provider that declines a request leaves it to the others. -/
theorem resolve_cons_none {e : Registered σ} (h : e.answer ask = none) (c : Chain σ) :
    resolve ask (e :: c) = ((resolve ask c).1, e.asked ask :: (resolve ask c).2) := by
  unfold Registered.answer at h
  rw [resolve]
  unfold Registered.asked
  split
  · rename_i heq
    rw [heq] at h
    cases h
  · rename_i heq
    rw [heq]

/-- A request is declined just if every provider declines it. -/
theorem resolve_eq_none_iff (c : Chain σ) :
    (resolve ask c).1 = none ↔ ∀ e ∈ c, e.answer ask = none := by
  induction c with
  | nil => simp [resolve]
  | cons e c ih =>
    cases h : e.answer ask with
    | some response =>
      rw [resolve_cons_some ask h]
      simp [h]
    | none =>
      rw [resolve_cons_none ask h, ih]
      simp [h]

/-- A request has the first answer that a provider gives. -/
theorem fst_resolve (c : Chain σ) : (resolve ask c).1 = c.findSome? (Registered.answer ask) := by
  induction c with
  | nil => rfl
  | cons e c ih =>
    cases h : e.answer ask with
    | some response =>
      rw [resolve_cons_some ask h]
      simp [h]
    | none =>
      rw [resolve_cons_none ask h, ih]
      simp [h]

/-- Providers that stay as they are when they are asked leave the chain as it is. -/
theorem snd_resolve_of_fixed {c : Chain σ} (h : ∀ e ∈ c, e.asked ask = e) :
    (resolve ask c).2 = c := by
  induction c with
  | nil => rfl
  | cons e c ih =>
    obtain ⟨he, hc⟩ := List.forall_mem_cons.1 h
    cases hanswer : e.answer ask with
    | some response => rw [resolve_cons_some ask hanswer, he]
    | none => rw [resolve_cons_none ask hanswer, he, ih hc]

/-- If only the first provider changes when it is asked, it alone changes in the chain. -/
theorem snd_resolve_cons {e : Registered σ} {c : Chain σ} (h : ∀ f ∈ c, f.asked ask = f) :
    (resolve ask (e :: c)).2 = e.asked ask :: c := by
  cases hanswer : e.answer ask with
  | some response => rw [resolve_cons_some ask hanswer]
  | none => rw [resolve_cons_none ask hanswer, snd_resolve_of_fixed ask h]

/-- The providers asked begin the chain. Each of them was asked once and the others are as they
were; all asked decline but the last, whose answer is given, or all decline and none is left. -/
theorem exists_asked (c : Chain σ) :
    ∃ asked later, c = asked ++ later ∧
      (resolve ask c).2 = asked.map (Registered.asked ask) ++ later ∧
      ((resolve ask c).1 = none ∧ later = [] ∧ (∀ e ∈ asked, e.answer ask = none) ∨
        ∃ before e response, asked = before ++ [e] ∧ (∀ f ∈ before, f.answer ask = none) ∧
          e.answer ask = some response ∧ (resolve ask c).1 = some response) := by
  induction c with
  | nil => exact ⟨[], [], rfl, rfl, Or.inl ⟨rfl, rfl, by simp⟩⟩
  | cons e c ih =>
    cases h : e.answer ask with
    | some response =>
      rw [resolve_cons_some ask h]
      exact ⟨[e], c, rfl, rfl, Or.inr ⟨[], e, response, rfl, by simp, h, rfl⟩⟩
    | none =>
      obtain ⟨asked, later, hc, hafter, hend⟩ := ih
      rw [resolve_cons_none ask h]
      refine ⟨e :: asked, later, by rw [hc, List.cons_append], by rw [hafter]; rfl, ?_⟩
      rcases hend with ⟨hnone, hlater, hall⟩ | ⟨before, f, response, hasked, hall, hf, hsome⟩
      · exact Or.inl ⟨hnone, hlater, List.forall_mem_cons.2 ⟨h, hall⟩⟩
      · exact Or.inr ⟨e :: before, f, response, by rw [hasked, List.cons_append],
          List.forall_mem_cons.2 ⟨h, hall⟩, hf, hsome⟩

/-- What asking does not change of a provider stays as it is all over the chain. -/
theorem map_resolve {α : Type} {f : Registered σ → α} (hf : ∀ e, f (e.asked ask) = f e)
    (c : Chain σ) : (resolve ask c).2.map f = c.map f := by
  obtain ⟨asked, later, hc, hafter, -⟩ := exists_asked ask c
  rw [hafter, hc, List.map_append, List.map_append, List.map_map]
  exact congrArg (· ++ _) (List.map_congr_left fun e _ => hf e)

end

/-! ## Numbers -/

/-- A provider with a number is added where it would be without. -/
theorem map_plain_add (c : Chain (Nat × σ)) (n : Nat) (provider : σ) (priority : Int)
    (key : Option String) :
    (c.add (n, provider) priority key).map Registered.plain =
      Chain.add (c.map Registered.plain) provider priority key := by
  unfold Chain.add
  rw [List.map_append, List.map_cons, List.takeWhile_map, List.dropWhile_map]
  rfl

/-- Numbers make no difference to a change. -/
theorem map_plain_change (c : Chain (Nat × σ)) (n : Nat) (ch : Change σ) :
    (c.change (ch.numbered n)).map Registered.plain =
      Chain.change (c.map Registered.plain) ch := by
  cases ch with
  | add provider priority key => exact map_plain_add c n provider priority key
  | remove key =>
    show List.map _ (List.filter _ c) = List.filter _ (List.map _ c)
    rw [List.filter_map]
    rfl

/-- Numbers make no difference to the answer to a request and to what the providers become. -/
theorem map_plain_resolve (handle : ρ → σ → Option Response × σ) (c : Chain (Nat × σ))
    (request : ρ) :
    (c.resolve (onNumbered handle request)).2.map Registered.plain =
      (Chain.resolve (handle request) (c.map Registered.plain)).2 := by
  induction c with
  | nil => rfl
  | cons e c ih =>
    have hanswer : e.plain.answer (handle request) = e.answer (onNumbered handle request) := rfl
    rw [List.map_cons]
    cases h : e.answer (onNumbered handle request) with
    | some response =>
      rw [resolve_cons_some _ h, resolve_cons_some _ (hanswer.trans h)]
      rfl
    | none =>
      rw [resolve_cons_none _ h, resolve_cons_none _ (hanswer.trans h)]
      exact congrArg _ ih

/-- Numbers make no difference to the chain that calls lead to. -/
theorem plain_ofCalls (handle : ρ → σ → Option Response × σ) (calls : List (Call σ ρ)) :
    (ofCalls (onNumbered handle) (number 0 calls)).map Registered.plain = ofCalls handle calls := by
  -- The induction needs the calls from any chain on, and any number for the next provider.
  have hfrom : ∀ n (c : Chain (Nat × σ)),
      ((number n calls).foldl (call (onNumbered handle)) c).map Registered.plain =
        calls.foldl (call handle) (c.map Registered.plain) := by
    induction calls with
    | nil => exact fun _ _ => rfl
    | cons x calls ih =>
      intro n c
      cases x with
      | change ch =>
        rw [number, List.foldl_cons, List.foldl_cons, ih]
        exact congrArg (calls.foldl (call handle)) (map_plain_change c n ch)
      | resolve request =>
        rw [number, List.foldl_cons, List.foldl_cons, ih]
        exact congrArg (calls.foldl (call handle)) (map_plain_resolve handle c request)
  exact hfrom 0 []

/-! ## The order in which providers are asked -/

/-- Whether a chain is in the order in which providers are to be asked, all with numbers below
`n`. -/
structure Ordered (n : Nat) (c : Chain (Nat × σ)) : Prop where
  /-- Each provider stands before those asked later. -/
  before : c.Pairwise Registered.Before
  /-- The number `n` is not used yet. -/
  lt : ∀ e ∈ c, e.provider.1 < n

/-- A chain in order is sorted by priority. -/
theorem Ordered.sorted {n : Nat} {c : Chain (Nat × σ)} (h : c.Ordered n) : Sorted c :=
  h.before.imp fun hab => by
    rcases hab with hlt | ⟨heq, -⟩
    · exact Int.le_of_lt hlt
    · exact Int.le_of_eq heq

/-- The order is kept by a change, with the next number for a provider added. -/
theorem Ordered.change {n : Nat} {c : Chain (Nat × σ)} (h : c.Ordered n) (ch : Change σ) :
    (c.change (ch.numbered n)).Ordered (n + 1) := by
  cases ch with
  | add provider priority key =>
    refine ⟨h.sorted.pairwise_add h.before (fun e he hle => ?_) fun e _ hlt => Or.inl hlt,
      fun e he => ?_⟩
    · -- The new number is the greatest, so that the provider comes last among its equals.
      rcases Int.lt_or_eq_of_le hle with hlt | heq
      · exact Or.inl hlt
      · exact Or.inr ⟨heq, h.lt e he⟩
    · rcases List.mem_append.1 he with he | he
      · exact Nat.lt_succ_of_lt (h.lt e ((List.takeWhile_sublist _).subset he))
      · rcases List.mem_cons.1 he with rfl | he
        · exact Nat.lt_succ_self n
        · exact Nat.lt_succ_of_lt (h.lt e ((List.dropWhile_sublist _).subset he))
  | remove key =>
    exact ⟨h.before.sublist List.filter_sublist,
      fun e he => Nat.lt_succ_of_lt (h.lt e (List.mem_filter.1 he).1)⟩

/-- The order is kept by a request, which moves no provider. -/
theorem Ordered.resolve {n : Nat} {c : Chain (Nat × σ)} (h : c.Ordered n)
    (handle : ρ → σ → Option Response × σ) (request : ρ) :
    (c.resolve (onNumbered handle request)).2.Ordered n := by
  have hplaces := map_resolve (onNumbered handle request) (f := Registered.place) (fun _ => rfl) c
  -- The order is one of the places, and a request changes none of them.
  constructor
  · have hbefore : (c.map Registered.place).Pairwise fun a b => a.1 < b.1 ∨ a.1 = b.1 ∧ a.2 < b.2 :=
      List.pairwise_map.2 h.before
    rw [← hplaces, List.pairwise_map] at hbefore
    exact hbefore
  · intro e he
    have hmem := List.mem_map_of_mem (f := Registered.place) he
    rw [hplaces] at hmem
    obtain ⟨f, hf, heq⟩ := List.mem_map.1 hmem
    have hnumber : f.provider.1 = e.provider.1 := congrArg Prod.snd heq
    rw [← hnumber]
    exact h.lt f hf

/-- Calls lead to a chain in order. -/
theorem before_ofCalls (handle : ρ → σ → Option Response × σ) (calls : List (Call σ ρ)) :
    (ofCalls (onNumbered handle) (number 0 calls)).Pairwise Registered.Before := by
  have hfrom : ∀ n (c : Chain (Nat × σ)), c.Ordered n →
      ((number n calls).foldl (call (onNumbered handle)) c).Pairwise Registered.Before := by
    induction calls with
    | nil => exact fun _ _ h => h.before
    | cons x calls ih =>
      intro n c h
      cases x with
      | change ch => exact ih _ _ (h.change ch)
      | resolve request => exact ih _ _ (h.resolve handle request)
  exact hfrom 0 [] ⟨.nil, by simp⟩

/-- After any changes and any requests, a request is answered by the first provider, in the order
of priority and registration, that claims it in the state that it is in, and by none if all
decline. The providers up to that one are asked once each, in this order, and those behind it are
left as they are. -/
theorem resolve_ofCalls (handle : ρ → σ → Option Response × σ) (calls : List (Call σ ρ))
    (request : ρ) :
    let c := ofCalls handle calls
    let numbered := ofCalls (onNumbered handle) (number 0 calls)
    let ask := handle request
    c = numbered.map Registered.plain ∧ numbered.Pairwise Registered.Before ∧
      ((c.resolve ask).1 = none ↔ ∀ e ∈ c, e.answer ask = none) ∧
      ∃ asked later, c = asked ++ later ∧
        (c.resolve ask).2 = asked.map (Registered.asked ask) ++ later ∧
        ((c.resolve ask).1 = none ∧ later = [] ∧ (∀ e ∈ asked, e.answer ask = none) ∨
          ∃ before e response, asked = before ++ [e] ∧ (∀ f ∈ before, f.answer ask = none) ∧
            e.answer ask = some response ∧ (c.resolve ask).1 = some response) := by
  intro c numbered ask
  exact ⟨(plain_ofCalls handle calls).symm, before_ofCalls handle calls,
    resolve_eq_none_iff ask c, exists_asked ask c⟩

end Chain

end BrowserShell
