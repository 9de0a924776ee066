import BrowserShell.Context
import BrowserShell.Proofs.Provider.Unchanged

/-!
# Contexts that answer alike

While the files stay as they are, the contents that a provider keeps make no difference to what it
answers: `Provider.Like` and `Context.Like` relate a provider and a context to what they may have
become, and `Context.step_like` says that both answer every message alike and stay related.
-/

namespace BrowserShell

/-- The providers are asked in the order of their registration. -/
theorem Config.chain_eq (c : Config) (t : FileTree) :
    c.chain t =
      [⟨pagesPriority, none, .pages (.new t c.content.pagesPath c.content.debug
          (Rules.ofTexts c.rules.redirect))⟩,
        ⟨pagesPriority, none, .dump⟩,
        ⟨directoryPriority, none, .directory (.new c.content.dataPrefix c.content.dataPath)⟩] := by
  rfl

/-- Whether a provider may have become another in the course of requests, while the files stayed as
they are. -/
def Provider.Like (t : FileTree) : Provider → Provider → Prop
  | .pages p, .pages q =>
    q.base = p.base ∧ q.redirect = p.redirect ∧ q.index? = p.index? ∧ p.Faithful t ∧ q.Faithful t
  | .dump, .dump => True
  | .directory d, .directory e => e = d
  | _, _ => False

/-- Like providers answer a request alike and stay so. -/
theorem Provider.handle_like {t : FileTree} {a b : Provider} (h : Like t a b) (r : Request) :
    (b.handle t r).1 = (a.handle t r).1 ∧ Like t a (b.handle t r).2 := by
  cases a with
  | pages p =>
    cases b with
    | pages q =>
      obtain ⟨hb, hr, hi, hp, hq⟩ := h
      obtain ⟨hb', hr', hi'⟩ := q.handle_fixed t r
      obtain ⟨hanswer, hq'⟩ := Pages.handle_of_faithful hq r
      constructor
      · show (q.handle t r).1 = (p.handle t r).1
        rw [hanswer, (Pages.handle_of_faithful hp r).1]
        unfold Pages.choice?
        rw [hb, hr, hi]
      · exact ⟨hb'.trans hb, hr'.trans hr, hi'.trans hi, hp, hq'⟩
    | dump => cases h
    | directory e => cases h
  | dump =>
    cases b with
    | pages q => cases h
    | dump => exact ⟨rfl, trivial⟩
    | directory e => cases h
  | directory d =>
    cases b with
    | pages q => cases h
    | dump => cases h
    | directory e =>
      obtain rfl : e = d := h
      exact ⟨rfl, rfl⟩

/-- Chains of providers that are related one by one answer alike and stay related, if each provider
answers as the related one does and stays related to it. -/
theorem Chain.resolve_forall₂ {σ : Type} {R : σ → σ → Prop} {handle : σ → Option Response × σ}
    (hR : ∀ a b, R a b → (handle b).1 = (handle a).1 ∧ R a (handle b).2) {c d : Chain σ}
    (h : List.Forall₂ (fun e f => R e.provider f.provider) c d) :
    (resolve handle d).1 = (resolve handle c).1 ∧
      List.Forall₂ (fun e f => R e.provider f.provider) c (resolve handle d).2 := by
  induction h with
  | nil => exact ⟨rfl, .nil⟩
  | cons hef hrest ih =>
    rename_i e f c d
    obtain ⟨heq, hlike⟩ := hR _ _ hef
    unfold resolve
    obtain ⟨re, e', he⟩ : ∃ re e', handle e.provider = (re, e') := ⟨_, _, rfl⟩
    obtain ⟨rf, f', hf⟩ : ∃ rf f', handle f.provider = (rf, f') := ⟨_, _, rfl⟩
    rw [he, hf] at heq
    rw [hf] at hlike
    obtain rfl : rf = re := heq
    rw [he, hf]
    cases rf with
    | some response => exact ⟨rfl, .cons hlike hrest⟩
    | none => exact ⟨ih.1, .cons hlike ih.2⟩

namespace Context

/-- Whether a context may have become another in the course of messages, while the files stayed as
they are. -/
structure Like (t : FileTree) (x y : Context) : Prop where
  /-- The providers are like. -/
  chain : List.Forall₂ (fun e f => Provider.Like t e.provider f.provider) x.chain y.chain
  /-- The filters are the same. -/
  filters : y.filters = x.filters
  /-- The buffers are the same. -/
  capacity : y.capacity = x.capacity

/-- What comes of a body that passes. -/
theorem step_filter (t : FileTree) (x : Context) (url mime : String) (body : Bytes) :
    x.step t (.filter url mime body) =
      (.filtered (x.filterBody t url mime body).1, (x.filterBody t url mime body).2.toList, x) := by
  unfold step
  rfl

/-- Like contexts give the same reply to a message and post the same injections, and stay like. -/
theorem step_like {t : FileTree} {x y : Context} (h : Like t x y) (m : Message) :
    (y.step t m).1 = (x.step t m).1 ∧ (y.step t m).2.1 = (x.step t m).2.1 ∧
      Like t x (y.step t m).2.2 := by
  cases m with
  | resolve r =>
    obtain ⟨heq, hchain⟩ := Chain.resolve_forall₂
      (fun a b hab => Provider.handle_like (t := t) (a := a) (b := b) hab r) h.chain
    exact ⟨congrArg Reply.resolved heq, rfl, hchain, h.filters, h.capacity⟩
  | filter url mime body =>
    have heq : y.filterBody t url mime body = x.filterBody t url mime body := by
      unfold filterBody
      rw [h.filters, h.capacity]
    rw [step_filter, step_filter, heq]
    exact ⟨rfl, rfl, h⟩

/-- A context is like itself when it was just set up. -/
theorem like_ofConfig (c : Config) (t : FileTree) : Like t (ofConfig c t) (ofConfig c t) := by
  refine ⟨?_, rfl, rfl⟩
  have hpages := Pages.faithful_new t t c.content.pagesPath c.content.debug
    (Rules.ofTexts c.rules.redirect)
  show List.Forall₂ _ (c.chain t) (c.chain t)
  rw [Config.chain_eq]
  exact .cons ⟨rfl, rfl, rfl, hpages, hpages⟩ (.cons trivial (.cons rfl .nil))

/-- A message posts at most one injection. -/
theorem length_injections_le_one (t : FileTree) (x : Context) (m : Message) :
    (x.step t m).2.1.length ≤ 1 := by
  cases m with
  | resolve r => exact Nat.zero_le 1
  | filter url mime body =>
    rw [step_filter]
    cases (x.filterBody t url mime body).2 with
    | none => exact Nat.zero_le 1
    | some i => exact Nat.le_refl 1

end Context

end BrowserShell
