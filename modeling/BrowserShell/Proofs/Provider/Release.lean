import BrowserShell.Proofs.Provider.Cache
import BrowserShell.Proofs.Provider.Pages

/-!
# Runs with an index

What a provider with an index answers in the course of visits, while the files change at will
(`Pages.release_run`). The index taken at the beginning decides which requests are claimed. The
contents that were read (`Pages.loads`) are the entries of the cache, one for each path in the order
in which they were read; they answer all later requests that lead to their paths.
-/

namespace BrowserShell.Pages

/-- The contents that are read in the course of visits, each with its path. -/
def loads (p : Pages) : List Visit → List (Path × Bytes)
  | [] => []
  | v :: vs =>
    ((p.answer v.request).trace v.tree).filterMap Access.Event.loaded? ++
      (p.handle v.tree v.request).2.loads vs

/-- The contents read in some visits and then in others. -/
theorem loads_append (p : Pages) (vs ws : List Visit) :
    p.loads (vs ++ ws) = p.loads vs ++ (p.after vs).loads ws := by
  induction vs generalizing p with
  | nil => rfl
  | cons v vs ih => simp [loads, ih, after]

/-- What one more visit reads. -/
theorem loads_concat (p : Pages) (vs : List Visit) (v : Visit) :
    p.loads (vs ++ [v]) = p.loads vs ++
      (((p.after vs).answer v.request).trace v.tree).filterMap Access.Event.loaded? := by
  simp [loads_append, loads]

/-- How the cache of a provider stands to what was read: its entries are the contents read, for
different paths, each the target of some URL. -/
structure Keeps (index : PageIndex) (base : Path) (redirect : Rules) (log : List (Path × Bytes))
    (cache : Cache) : Prop where
  /-- The entries are the contents read. -/
  entries : cache.entries.map (fun e => (base.join e.1, e.2)) = log
  /-- No path has two entries. -/
  nodup : cache.keys.Nodup
  /-- Each key is a target. -/
  target : ∀ c ∈ cache.keys, ∃ u, target? index redirect u = some c

/-- An empty cache keeps what is read before anything is. -/
theorem keeps_empty (index : PageIndex) (base : Path) (redirect : Rules) :
    Keeps index base redirect [] .empty :=
  ⟨rfl, List.nodup_nil, by simp [Cache.keys, Cache.empty]⟩

/-- The content kept for a target is the one read at its path. -/
theorem Keeps.get?_eq_some_iff {index : PageIndex} {base : Path} {redirect : Rules}
    {log : List (Path × Bytes)} {cache : Cache} (hk : Keeps index base redirect log cache)
    {u : Url} {c : String} (hc : target? index redirect u = some c) (b : Bytes) :
    cache.get? c = some b ↔ (base.join c, b) ∈ log := by
  rw [Cache.get?_eq_some_iff hk.nodup, ← hk.entries, List.mem_map]
  constructor
  · exact fun h => ⟨(c, b), h, rfl⟩
  · rintro ⟨⟨k, b'⟩, hm, heq⟩
    obtain ⟨hjoin, rfl⟩ := Prod.mk.inj heq
    obtain ⟨u', hu'⟩ := hk.target k (List.mem_map_of_mem hm)
    obtain rfl := Path.join_injective (head?_of_target? hu') (head?_of_target? hc) hjoin
    exact hm

/-- Nothing is kept for a target at whose path nothing was read. -/
theorem Keeps.get?_eq_none_iff {index : PageIndex} {base : Path} {redirect : Rules}
    {log : List (Path × Bytes)} {cache : Cache} (hk : Keeps index base redirect log cache)
    {u : Url} {c : String} (hc : target? index redirect u = some c) :
    cache.get? c = none ↔ ∀ b, (base.join c, b) ∉ log := by
  simp only [← hk.get?_eq_some_iff hc, Option.eq_none_iff_forall_ne_some, ne_eq]

/-- A content read and then kept. -/
theorem Keeps.insert {index : PageIndex} {base : Path} {redirect : Rules}
    {log : List (Path × Bytes)} {cache : Cache} (hk : Keeps index base redirect log cache)
    {u : Url} {c : String} (hc : target? index redirect u = some c) (hnew : cache.get? c = none)
    (b : Bytes) : Keeps index base redirect (log ++ [(base.join c, b)]) (cache.insert c b) := by
  refine ⟨?_, Cache.nodup_keys_insert b hk.nodup hnew, ?_⟩
  · rw [Cache.entries_insert b hnew, List.map_append, hk.entries]
    rfl
  · intro k hm
    rw [Cache.keys_insert b hnew, List.mem_append, List.mem_singleton] at hm
    rcases hm with hm | rfl
    · exact hk.target k hm
    · exact ⟨u, hc⟩

/-- Whatever the visits, a provider with an index keeps what it reads. -/
theorem exists_keeps (p : Pages) {index : PageIndex} (hp : p.lookup = .indexed index .empty)
    (vs : List Visit) :
    ∃ cache, (p.after vs).lookup = .indexed index cache ∧
      Keeps index p.base p.redirect (p.loads vs) cache := by
  induction vs using List.reverseRecOn with
  | nil => exact ⟨.empty, hp, keeps_empty index p.base p.redirect⟩
  | append_singleton vs v ih =>
    obtain ⟨cache, hl, hk⟩ := ih
    obtain ⟨hb, hr, -⟩ := after_fixed p vs
    rw [after_concat, loads_concat]
    -- Only a content that is read for a new path changes the cache, and just then the log grows.
    rcases handle_indexed hl v.tree v.request with ⟨-, h, hx⟩ | ⟨c, b, -, -, h, hx⟩ |
      ⟨c, b, ht, hnew, -, h, hx⟩ | ⟨c, e, -, -, -, h, hx⟩
    · rw [h, hx, List.filterMap_nil, List.append_nil]
      exact ⟨cache, hl, hk⟩
    · rw [h, hx, List.filterMap_nil, List.append_nil]
      exact ⟨cache, hl, hk⟩
    · rw [h, hx, hb]
      rw [hr] at ht
      exact ⟨cache.insert c b, rfl, hk.insert ht hnew b⟩
    · rw [h, hx]
      simp only [List.filterMap_cons, Access.Event.loaded?, List.filterMap_nil, List.append_nil]
      exact ⟨cache, hl, hk⟩

/-- A provider with an index claims what has a target. -/
theorem isSome_handle_indexed {p : Pages} {index : PageIndex} {cache : Cache}
    (hp : p.lookup = .indexed index cache) (t : FileTree) (r : Request) :
    (p.handle t r).1.isSome = (target? index p.redirect r.url).isSome := by
  rcases handle_indexed hp t r with ⟨ht, h, -⟩ | ⟨c, b, ht, -, h, -⟩ | ⟨c, b, ht, -, -, h, -⟩ |
    ⟨c, e, ht, -, -, h, -⟩
  all_goals
    rw [ht, h]
    rfl

/-- A provider with an index, after any visits between which the files changed at will. The index
decides which requests are claimed. A content that was read answers every later request that leads
to its path. While nothing was read at a path, a request that leads to it has it read: what is read
is served and kept, and a blank is served where reading fails. What is kept is what was read, for
different paths that are in the index. -/
theorem release_run (t₀ : FileTree) (base : Path) (redirect : Rules) (vs ws : List Visit)
    (v : Visit) :
    let index := PageIndex.build t₀ base
    let p := Pages.new t₀ base false redirect
    let response := fun vs => ((p.after vs).handle v.tree v.request).1
    (response vs).isSome = (target? index redirect v.request.url).isSome ∧
      (∀ c, target? index redirect v.request.url = some c →
        (∀ b, (base.join c, b) ∈ p.loads vs →
          response (vs ++ ws) = some (.ok v.request.mime (orPlaceholder b))) ∧
        ((∀ b, (base.join c, b) ∉ p.loads vs) →
          (∀ b, v.tree.read (base.join c) = .ok b →
            response vs = some (.ok v.request.mime (orPlaceholder b)) ∧
              p.loads (vs ++ [v]) = p.loads vs ++ [(base.join c, b)]) ∧
          ∀ e, v.tree.read (base.join c) = .error e →
            response vs = some (.ok v.request.mime placeholder) ∧
              p.loads (vs ++ [v]) = p.loads vs)) ∧
      ∃ cache, (p.after vs).cache? = some cache ∧
        cache.entries.map (fun e => (base.join e.1, e.2)) = p.loads vs ∧ cache.keys.Nodup ∧
        ∀ c ∈ cache.keys, index.contains c := by
  intro index p response
  have hp : p.lookup = .indexed index .empty := rfl
  obtain ⟨cache, hl, hk⟩ := exists_keeps p hp vs
  obtain ⟨hb, hr, -⟩ := after_fixed p vs
  refine ⟨?_, fun c hc => ⟨fun b hlog => ?_, fun hnone => ?_⟩, cache, ?_, hk.entries, hk.nodup, ?_⟩
  · show ((p.after vs).handle v.tree v.request).1.isSome = _
    rw [isSome_handle_indexed hl, hr]
    rfl
  · -- What was read before stays kept in the course of the later visits.
    obtain ⟨cache', hl', hk'⟩ := exists_keeps p hp (vs ++ ws)
    obtain ⟨-, hr', -⟩ := after_fixed p (vs ++ ws)
    have hkept : cache'.get? c = some b := by
      rw [hk'.get?_eq_some_iff hc, loads_append, List.mem_append]
      exact Or.inl hlog
    have hc' : target? index (p.after (vs ++ ws)).redirect v.request.url = some c := by rwa [hr']
    exact congrArg Prod.fst (handle_kept hl' hc' hkept).1
  · have hnew : cache.get? c = none := (hk.get?_eq_none_iff hc).2 hnone
    have hc' : target? index (p.after vs).redirect v.request.url = some c := by rwa [hr]
    have hpath : (p.after vs).base.join c = base.join c := by rw [hb]; rfl
    rw [loads_concat]
    constructor
    · intro b hread
      obtain ⟨h, hx⟩ := handle_read hl hc' hnew (hpath ▸ hread)
      refine ⟨congrArg Prod.fst h, ?_⟩
      rw [hx, hpath]
      rfl
    · intro e hread
      obtain ⟨h, hx⟩ := handle_unread hl hc' hnew (hpath ▸ hread)
      refine ⟨congrArg Prod.fst h, ?_⟩
      rw [hx]
      exact List.append_nil _
  · rw [cache?, hl]
  · intro c hm
    obtain ⟨u, hu⟩ := hk.target c hm
    exact contains_of_target? hu

end BrowserShell.Pages
