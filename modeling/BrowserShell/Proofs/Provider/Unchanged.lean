import BrowserShell.Proofs.Provider.Cache
import BrowserShell.Proofs.Provider.Pages

/-!
# Pages while the files stay as they are

Where the files do not change, what a provider of pages keeps is what it would read
(`Pages.Faithful`), so that each answer depends on the request alone: `handle_of_faithful` gives it
for both ways of looking pages up, by the path chosen for the URL.
-/

namespace BrowserShell.Pages

variable {t : FileTree} {p : Pages}

/-- Whether what a provider keeps is what it would read. -/
def Faithful (t : FileTree) (p : Pages) : Prop :=
  ∀ cache, p.cache? = some cache → ∀ c b, cache.get? c = some b → t.read (p.base.join c) = .ok b

/-- The path chosen for a URL: in the index, or on disk where there is none. -/
def choice? (p : Pages) (t : FileTree) (u : Url) : Option String :=
  match p.index? with
  | none => diskTarget? t p.base p.redirect u
  | some index => target? index p.redirect u

/-- A new provider keeps nothing. -/
theorem faithful_new (t t₀ : FileTree) (base : Path) (debug : Bool) (redirect : Rules) :
    Faithful t (new t₀ base debug redirect) := by
  intro cache hcache c b hb
  cases debug with
  | true => cases hcache
  | false =>
    cases hcache
    cases hb

/-- A faithful provider serves the content of the path chosen, and stays faithful. -/
theorem handle_of_faithful (h : p.Faithful t) (r : Request) :
    (p.handle t r).1 = (p.choice? t r.url).map (fun c =>
        .ok r.mime (orPlaceholder (contentAt t p.base c))) ∧
      (p.handle t r).2.Faithful t := by
  unfold choice?
  cases hp : p.lookup with
  | disk =>
    have hindex : p.index? = none := by rw [index?, hp]
    rw [handle_disk hp, hindex]
    exact ⟨rfl, h⟩
  | indexed index cache =>
    have hindex : p.index? = some index := by rw [index?, hp]
    have hcache : p.cache? = some cache := by rw [cache?, hp]
    rw [hindex]
    dsimp only
    rcases handle_indexed hp t r with ⟨hc, heq, -⟩ | ⟨c, b, hc, hk, heq, -⟩ |
      ⟨c, b, hc, hk, hread, heq, -⟩ | ⟨c, e, hc, hk, hread, heq, -⟩
    · rw [heq, hc]
      exact ⟨rfl, h⟩
    · rw [heq, hc, Option.map_some, contentAt, h cache hcache c b hk]
      exact ⟨rfl, h⟩
    · rw [heq, hc, Option.map_some, contentAt, hread]
      refine ⟨rfl, fun cache' hcache' k b' hb' => ?_⟩
      cases hcache'
      rw [Cache.get?_insert b hk] at hb'
      split at hb'
      · rename_i hkc
        cases hb'
        rw [hkc]
        exact hread
      · exact h cache hcache k b' hb'
    · rw [heq, hc, Option.map_some, contentAt, hread]
      exact ⟨rfl, h⟩

/-- Whatever was asked before, a provider answers by its path, its rules and its index. -/
theorem handle_after_of_faithful (h : p.Faithful t) (rs : List Request) (r : Request) :
    ((p.after (rs.map (Visit.mk t))).handle t r).1 = (p.choice? t r.url).map (fun c =>
      .ok r.mime (orPlaceholder (contentAt t p.base c))) := by
  have hfaithful : (p.after (rs.map (Visit.mk t))).Faithful t := by
    induction rs using List.reverseRecOn with
    | nil => exact h
    | append_singleton rs r ih =>
      rw [List.map_append, List.map_singleton, after_concat]
      exact (handle_of_faithful ih r).2
  obtain ⟨hb, hr, hi⟩ := after_fixed p (rs.map (Visit.mk t))
  rw [(handle_of_faithful hfaithful r).1]
  unfold choice?
  rw [hb, hr, hi]

end BrowserShell.Pages
