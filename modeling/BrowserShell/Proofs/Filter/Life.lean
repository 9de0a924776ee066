import BrowserShell.Filter

/-!
# The life of a filter

A filter is made once and then called for each chunk, while the files change and the context that
takes its injections may close. `Filter.live_attach` says which calls post an injection and which
one: what was found when the filter was made and what is found at the call come together in
`Filter.Due`. What goes on to the engine depends on the rules and the calls alone, so that filters
that differ in all else relay the same (`relayed_live`).
-/

namespace BrowserShell.Filter

/-- What happens in the life of a filter. -/
inductive Event where
  /-- It is called. -/
  | call (chunk buffer : Bytes)
  /-- The files change. -/
  | change (files : FileTree)
  /-- The context that takes injections closes. -/
  | close

/-- What a filter finds around it. -/
structure Surroundings where
  /-- The files. -/
  files : FileTree
  /-- Where injections are posted. -/
  outbox : Outbox

/-- What comes of an event, and the surroundings afterwards. -/
def meet (f : Filter) (s : Surroundings) : Event → Option Outcome × Surroundings
  | .call chunk buffer =>
    let o := f.pass s.files chunk buffer
    (some o, { s with outbox := s.outbox.post o.injection.toList })
  | .change files => (none, { s with files := files })
  | .close => (none, { s with outbox := s.outbox.close })

/-- What comes of the calls among events, and the surroundings afterwards. -/
def live (f : Filter) (s : Surroundings) : List Event → List Outcome × Surroundings
  | [] => ([], s)
  | e :: events =>
    let (o, s) := f.meet s e
    let (os, s) := live f s events
    (o.toList ++ os, s)

/-- The chunk and the buffer of a call. -/
def Event.call? : Event → Option (Bytes × Bytes)
  | .call chunk buffer => some (chunk, buffer)
  | _ => none

/-- The files that an event leaves in the place of those before. -/
def Event.filesAfter (t : FileTree) : Event → FileTree
  | .change files => files
  | _ => t

/-- What a host sees of a call: all but the injection. -/
def Outcome.relayed (o : Outcome) : Status × Nat × Nat × Bytes :=
  (o.status, o.consumed, o.written, o.output)

/-- What a call has as the body of its response: as much of the chunk as the buffer holds, without
the blanks around it and changed by the rules, if there are any. -/
def contentOf (rules : Rules) (chunk buffer : Bytes) : Bytes :=
  let body := trim (chunk.take (min chunk.length buffer.length))
  if rules.isEmpty then body else rules.replaceAll body

/-- Whether an injection is due at a call, for the filter of a response made where the files were
`t₀`: some bytes are to be relayed, and one of the places of the site's script was a file, of which
the first is read now for a page, while JSON and XML are reported. -/
def Due (t₀ : FileTree) (root : Path) (rules : Rules) (url mime : String) (now : FileTree)
    (chunk buffer : Bytes) (i : Injection) : Prop :=
  0 < min chunk.length buffer.length ∧
    ∃ script, (Site.scripts root (hostOf url)).find? t₀.isFile = some script ∧
      (Text.contains mime "html" ∧ (∃ source, now.readText script = .ok source ∧
          i = .script url source) ∨
        ¬ Text.contains mime "html" ∧ (Text.contains mime "json" ∨ Text.contains mime "xml") ∧
          i = .ofBody url (Utf8.lossy (contentOf rules chunk buffer)))

/-! ## One call -/

/-- What a filter keeps of the files that it was made in. -/
theorem attach_eq (t : FileTree) (root : Path) (rules : Rules) (url mime : String) :
    attach t root rules url mime =
      let places := Site.scripts root (hostOf url)
      let found := places.find? t.isFile
      ⟨url, mime, found.or places.getLast?, found.isSome, rules⟩ := by
  simp [attach, make]

/-- The injection of a filter without a script is none. -/
theorem injection?_of_no_script {f : Filter} (h : f.hasScript = false) (t : FileTree)
    (content : Bytes) : f.injection? t content = none := by
  simp [injection?, h]

/-- The injection of a filter with a script. -/
theorem injection?_eq_some_iff {f : Filter} {script : Path} (h : f.hasScript = true)
    (hs : f.script = some script) {t : FileTree} {content : Bytes} {i : Injection} :
    f.injection? t content = some i ↔
      Text.contains f.mime "html" ∧ (∃ source, t.readText script = .ok source ∧
          i = .script f.url source) ∨
        ¬ Text.contains f.mime "html" ∧
          (Text.contains f.mime "json" ∨ Text.contains f.mime "xml") ∧
          i = .ofBody f.url (Utf8.lossy content) := by
  unfold injection?
  rw [h, hs, if_neg (by simp)]
  by_cases hhtml : Text.contains f.mime "html" = true
  · rw [if_pos hhtml]
    dsimp only [Option.bind_eq_bind, Option.bind_some]
    constructor
    · intro hi
      cases hread : t.readText script with
      | ok source =>
        rw [hread] at hi
        exact Or.inl ⟨hhtml, source, rfl, (Option.some.inj hi).symm⟩
      | error e =>
        rw [hread] at hi
        cases hi
    · rintro (⟨-, source, hread, rfl⟩ | ⟨hnot, -⟩)
      · rw [hread]
        rfl
      · exact absurd hhtml hnot
  · rw [if_neg hhtml]
    simp only [Bool.or_eq_true]
    constructor
    · intro hi
      split at hi
      · rename_i hd
        exact Or.inr ⟨hhtml, hd, (Option.some.inj hi).symm⟩
      · cases hi
    · rintro (⟨h, -⟩ | ⟨-, hd, rfl⟩)
      · exact absurd h hhtml
      · rw [if_pos hd]

/-- A call without bytes to relay comes to nothing. -/
theorem pass_of_empty (f : Filter) (t : FileTree) {chunk buffer : Bytes}
    (h : chunk.take buffer.length = []) :
    f.pass t chunk buffer = ⟨.done, chunk.length, 0, buffer, none⟩ := by
  simp [pass, h]

/-- There are bytes to relay if neither the chunk nor the buffer is empty. -/
theorem take_ne_nil_iff (chunk buffer : Bytes) :
    chunk.take buffer.length ≠ [] ↔ 0 < min chunk.length buffer.length := by
  rw [← List.length_pos_iff, List.length_take, Nat.min_comm]

/-- Of a chunk as much is taken as the buffer holds. -/
theorem take_min_length (chunk buffer : Bytes) :
    chunk.take (min chunk.length buffer.length) = chunk.take buffer.length := by
  rw [Nat.min_comm]
  exact List.take_eq_take_min.symm

/-- The injection of a call with bytes to relay is that for their content. -/
theorem injection_pass (f : Filter) (t : FileTree) {chunk buffer : Bytes}
    (h : chunk.take buffer.length ≠ []) :
    (f.pass t chunk buffer).injection = f.injection? t (contentOf f.rules chunk buffer) := by
  unfold pass contentOf
  rw [if_neg h, take_min_length]
  -- Replacing by no rules gives the body back.
  cases hrules : f.rules with
  | nil => rfl
  | cons r rules => rfl

/-- A call of the filter for a response gives the injection that is due. -/
theorem injection_pass_attach (t₀ : FileTree) (root : Path) (rules : Rules) (url mime : String)
    (now : FileTree) (chunk buffer : Bytes) (i : Injection) :
    ((attach t₀ root rules url mime).pass now chunk buffer).injection = some i ↔
      Due t₀ root rules url mime now chunk buffer i := by
  unfold Due
  rw [← take_ne_nil_iff]
  by_cases htake : chunk.take buffer.length = []
  · rw [pass_of_empty _ _ htake]
    simp [htake]
  · rw [injection_pass _ _ htake, attach_eq]
    dsimp only
    cases (Site.scripts root (hostOf url)).find? t₀.isFile with
    | none =>
      rw [injection?_of_no_script rfl]
      simp
    | some script =>
      rw [injection?_eq_some_iff rfl rfl]
      simp [htake]

/-- What a call relays is told by the rules, the chunk and the buffer. -/
theorem relayed_pass {f g : Filter} (h : f.rules = g.rules) (t u : FileTree)
    (chunk buffer : Bytes) :
    (f.pass t chunk buffer).relayed = (g.pass u chunk buffer).relayed := by
  by_cases htake : chunk.take buffer.length = []
  · rw [pass_of_empty _ _ htake, pass_of_empty _ _ htake]
  · unfold pass
    rw [if_neg htake, if_neg htake, h]
    rfl

/-! ## The whole life -/

/-- The files are those of the last change. -/
theorem files_live (f : Filter) (s : Surroundings) (events : List Event) :
    (f.live s events).2.files = events.foldl Event.filesAfter s.files := by
  induction events generalizing s with
  | nil => rfl
  | cons e events ih =>
    rw [live, List.foldl_cons]
    cases e <;> exact ih _

/-- Injections are taken as long as the context that takes them was not closed. -/
theorem isOpen_live (f : Filter) (s : Surroundings) (events : List Event) :
    (f.live s events).2.outbox.isOpen = true ↔
      s.outbox.isOpen = true ∧ ∀ e ∈ events, e ≠ .close := by
  induction events generalizing s with
  | nil => simp [live]
  | cons e events ih =>
    rw [live, List.forall_mem_cons]
    cases e with
    | call chunk buffer =>
      have hopen : ∀ is, (s.outbox.post is).isOpen = s.outbox.isOpen := by
        intro is
        unfold Outbox.post
        split <;> rfl
      refine (ih _).trans ?_
      simp [meet, hopen]
    | change files =>
      refine (ih _).trans ?_
      simp
    | close =>
      refine (ih _).trans ?_
      simp [Outbox.close]

/-- What is relayed in the lives of two filters is the same, if they have the same rules and are
called alike. -/
theorem relayed_live {f g : Filter} (h : f.rules = g.rules) (s s' : Surroundings)
    {events events' : List Event}
    (hcalls : events.filterMap Event.call? = events'.filterMap Event.call?) :
    (f.live s events).1.map Outcome.relayed = (g.live s' events').1.map Outcome.relayed := by
  -- Both are what the calls by themselves come to, in any surroundings.
  have halone : ∀ (f : Filter) (s : Surroundings) (events : List Event),
      (f.live s events).1.map Outcome.relayed =
        (events.filterMap Event.call?).map fun c => (f.pass s'.files c.1 c.2).relayed := by
    intro f s events
    induction events generalizing s with
    | nil => rfl
    | cons e events ih =>
      rw [live]
      cases e with
      | call chunk buffer =>
        have hcall : (Event.call chunk buffer).call? = some (chunk, buffer) := rfl
        rw [List.filterMap_cons_some hcall, List.map_cons, ← ih, relayed_pass rfl s'.files s.files]
        rfl
      | change files => exact ih _
      | close => exact ih _
  rw [halone f, halone g, hcalls]
  exact List.map_congr_left fun c _ => relayed_pass h _ _ c.1 c.2

/-- An injection is posted just if the outbox still takes any and there is that one to post. -/
theorem post_eq_concat_iff (o : Outbox) (injection : Option Injection) (i : Injection) :
    (o.post injection.toList).posted = o.posted ++ [i] ↔ o.isOpen = true ∧ injection = some i := by
  unfold Outbox.post
  cases injection <;> by_cases ho : o.isOpen = true <;> simp [ho]

/-- After any events, a call of the filter for a response posts one injection just if the context
takes injections still and one is due, which it is then, and posts none otherwise. Filters with the
same rules that are called alike relay the same, whatever else they are and whatever happens
between the calls. -/
theorem live_attach (t₀ : FileTree) (root : Path) (rules : Rules) (url mime : String)
    (s₀ : Surroundings) (before : List Event) (chunk buffer : Bytes) :
    let f := attach t₀ root rules url mime
    let s := (f.live s₀ before).2
    let posted := (f.meet s (.call chunk buffer)).2.outbox.posted
    s.files = before.foldl Event.filesAfter s₀.files ∧
      (s.outbox.isOpen = true ↔ s₀.outbox.isOpen = true ∧ ∀ e ∈ before, e ≠ .close) ∧
      (posted = s.outbox.posted ∨ ∃ i, posted = s.outbox.posted ++ [i]) ∧
      (∀ i, posted = s.outbox.posted ++ [i] ↔
        s.outbox.isOpen = true ∧ Due t₀ root rules url mime s.files chunk buffer i) ∧
      ∀ (g : Filter) (s₁ : Surroundings) (events events' : List Event), g.rules = rules →
        events.filterMap Event.call? = events'.filterMap Event.call? →
        (f.live s₀ events).1.map Outcome.relayed = (g.live s₁ events').1.map Outcome.relayed := by
  intro f s posted
  refine ⟨files_live f s₀ before, isOpen_live f s₀ before, ?_, fun i => ?_, ?_⟩
  · show (s.outbox.post _).posted = _ ∨ ∃ i, (s.outbox.post _).posted = _
    unfold Outbox.post
    cases (f.pass s.files chunk buffer).injection with
    | none => left; split <;> simp
    | some i =>
      split
      · exact Or.inr ⟨i, rfl⟩
      · exact Or.inl rfl
  · rw [← injection_pass_attach]
    exact post_eq_concat_iff s.outbox _ i
  · intro g s₁ events events' hrules hcalls
    refine relayed_live ?_ s₀ s₁ hcalls
    rw [hrules]
    simp only [f, attach_eq]

/-- A filter whose context has closed relays what another does in changed files. -/
theorem live_attach_closed :
    let calls := [Event.call [0x61] [0], .close, .call [0x62] [0]]
    let calls' := [Event.change .empty, .call [0x61] [0], .call [0x62] [0]]
    let f := attach .empty "page" [] "http://a/" "text/html"
    let g : Filter := ⟨"", "text/plain", none, false, []⟩
    g.rules = [] ∧ calls.filterMap Event.call? = calls'.filterMap Event.call? ∧
      (f.live ⟨.empty, .empty⟩ calls).1.map Outcome.relayed =
        (g.live ⟨.empty, .empty⟩ calls').1.map Outcome.relayed :=
  ⟨rfl, rfl,
    (live_attach .empty "page" [] "http://a/" "text/html" ⟨.empty, .empty⟩ [] [] []).2.2.2.2
      ⟨"", "text/plain", none, false, []⟩ ⟨.empty, .empty⟩ _ _ rfl rfl⟩

end BrowserShell.Filter
