import BrowserShell.Proofs.Context
import BrowserShell.Proofs.Provider.Resolution

/-!
# Bodies of answers

The rendering engine does not take a response without a body well. The providers of files have a
blank in place of an empty or unreadable file, whatever is kept and whatever became of the files; the
dump of the headers alone is left empty, where a request has none. `Config.body_of_resolve` says so
of all states that the providers of a configuration come to: these are the ones in which the pages
have answered the visits and the others are as they were (`Config.chainAfter_eq`).
-/

namespace BrowserShell

/-! ## Each provider -/

/-- In place of an empty body there is a blank. -/
theorem orPlaceholder_ne_nil (body : Bytes) : orPlaceholder body ≠ [] := by
  unfold orPlaceholder placeholder
  split
  · exact List.cons_ne_nil _ _
  · assumption

/-- A text without bytes is empty. -/
theorem Utf8.encode_eq_nil_iff (s : String) : Utf8.encode s = [] ↔ s = "" := by
  unfold Utf8.encode
  rw [List.flatMap_eq_nil_iff, ← String.toList_eq_nil_iff]
  constructor
  · intro h
    by_contra hne
    obtain ⟨c, hc⟩ := List.exists_mem_of_ne_nil _ hne
    exact String.utf8EncodeChar_ne_nil (h c hc)
  · intro h c hc
    rw [h] at hc
    cases hc

@[simp] theorem Response.status_ok (mime : String) (body : Bytes) :
    (Response.ok mime body).status = 200 := rfl

@[simp] theorem Response.body_ok (mime : String) (body : Bytes) :
    (Response.ok mime body).body = body := rfl

/-- A page is served with a body. -/
theorem Pages.body_of_handle {p : Pages} {t : FileTree} {r : Request} {response : Response}
    (h : (p.handle t r).1 = some response) : response.status = 200 ∧ response.body ≠ [] := by
  rw [handle, answer_eq] at h
  cases hasked : asked? p.redirect r.url with
  | none =>
    rw [hasked] at h
    cases h
  | some page =>
    rw [hasked] at h
    simp only [Access.run_bind, Access.run_pure] at h
    obtain ⟨body, -, rfl⟩ := Option.map_eq_some_iff.1 h
    exact ⟨rfl, orPlaceholder_ne_nil body⟩

/-- A file of the data directory is served with a body. -/
theorem Directory.body_of_handle {d : Directory} {t : FileTree} {r : Request}
    {response : Response} (h : d.handle t r = some response) :
    response.status = 200 ∧ response.body ≠ [] := by
  unfold handle answer at h
  cases hpath : d.relative? r.url.render with
  | none =>
    rw [hpath] at h
    cases h
  | some path =>
    rw [hpath] at h
    by_cases hfile : t.isFile (d.dir.join path) = true
    · simp only [Access.run_bind, Access.run_isFile, hfile, if_true, Access.run_content,
        Access.run_pure] at h
      cases h
      exact ⟨rfl, orPlaceholder_ne_nil _⟩
    · simp [hfile] at h

namespace Dump

/-- The page of a text is not empty. -/
theorem page_ne_empty (s : String) : page s ≠ "" := by
  intro h
  have hstart := congrArg String.toList h
  simp [page, pageStart] at hstart

/-- A list of headers in JSON is not empty. -/
theorem headersJson_ne_empty (hs : Headers) : headersJson hs ≠ "" := by
  intro h
  have hstart := congrArg String.toList h
  simp [headersJson] at hstart

/-- The dump of the headers is empty exactly where there are none. -/
theorem body_headerDump (r : Request) : (headerDump r).body = [] ↔ r.headers = [] := by
  show Utf8.encode (if r.headers.isEmpty then "" else headersJson r.headers) = [] ↔ r.headers = []
  rw [Utf8.encode_eq_nil_iff, ← List.isEmpty_iff]
  split
  · simp_all
  · simp_all [headersJson_ne_empty]

/-- The dump of a request has a body. -/
theorem body_requestDump (r : Request) :
    (requestDump r).status = 200 ∧ (requestDump r).body ≠ [] := by
  have hstatus := Response.status_ok "text/html" (Utf8.encode (page (text r)))
  have hpage : (Response.ok "text/html" (Utf8.encode (page (text r)))).body ≠ [] := by
    rw [Response.body_ok, ne_eq, Utf8.encode_eq_nil_iff]
    exact page_ne_empty (text r)
  unfold requestDump
  -- The headers that are added for a page of another origin change neither.
  generalize Response.ok "text/html" (Utf8.encode (page (text r))) = response at hstatus hpage ⊢
  dsimp only
  split
  · exact ⟨hstatus, hpage⟩
  · exact ⟨hstatus, hpage⟩
  · exact ⟨hstatus, hpage⟩

/-- A dump is empty exactly if it is that of the headers of a request that has none. -/
theorem body_of_handle {r : Request} {response : Response} (h : handle r = some response) :
    response.status = 200 ∧
      (response.body = [] ↔ Text.hasEnd r.url.path headerPath = true ∧ r.headers = []) := by
  unfold handle at h
  split at h
  · rename_i hpath
    cases h
    refine ⟨rfl, ?_⟩
    rw [body_headerDump]
    simp [hpath]
  · rename_i hpath
    split at h
    · cases h
      obtain ⟨hstatus, hbody⟩ := body_requestDump r
      exact ⟨hstatus, by simp [hpath, hbody]⟩
    · cases h

end Dump

/-! ## The providers of a configuration -/

namespace Config

/-- The provider of pages that is set up where the files are those of a tree. -/
def pagesProvider (c : Config) (t : FileTree) : Pages :=
  .new t c.content.pagesPath c.content.debug (Rules.ofTexts c.rules.redirect)

/-- The provider of the data directory. -/
def dataProvider (c : Config) : Directory := .new c.content.dataPrefix c.content.dataPath

/-- The providers of a configuration when that of the pages has become `p`. -/
def chainWith (c : Config) (p : Pages) : Chain Provider :=
  [⟨pagesPriority, none, .pages p⟩, ⟨pagesPriority, none, .dump⟩,
    ⟨directoryPriority, none, .directory c.dataProvider⟩]

/-- The providers after visits, set up where the files are those of a tree. -/
def chainAfter (c : Config) (t : FileTree) (vs : List Visit) : Chain Provider :=
  vs.foldl (fun chain v => (chain.resolve (Provider.handle v.tree v.request)).2) (c.chain t)

/-- A request goes to the pages, then to the dumps and then to the data directory, and only the
pages change. -/
theorem resolve_chainWith (c : Config) (p : Pages) (t : FileTree) (r : Request) :
    (c.chainWith p).resolve (Provider.handle t r) =
      (((p.handle t r).1.or (Dump.handle r)).or (c.dataProvider.handle t r),
        c.chainWith (p.handle t r).2) := by
  have hpages : Registered.answer (Provider.handle t r) ⟨pagesPriority, none, .pages p⟩ =
      (p.handle t r).1 := rfl
  have hdump : Registered.answer (Provider.handle t r) ⟨pagesPriority, none, .dump⟩ =
      Dump.handle r := rfl
  have hdata : Registered.answer (Provider.handle t r)
      ⟨directoryPriority, none, .directory c.dataProvider⟩ = c.dataProvider.handle t r := rfl
  refine Prod.ext ?_ ?_
  · rw [Chain.fst_resolve]
    unfold chainWith
    simp only [List.findSome?_cons, List.findSome?_nil, hpages, hdump, hdata]
    cases (p.handle t r).1 <;> cases Dump.handle r <;> cases c.dataProvider.handle t r <;> rfl
  · exact Chain.snd_resolve_cons _ (by simp [Registered.asked, Provider.handle])

/-- After visits the pages are as they are after them, and the other providers as they were. -/
theorem chainAfter_eq (c : Config) (t : FileTree) (vs : List Visit) :
    c.chainAfter t vs = c.chainWith ((c.pagesProvider t).after vs) := by
  induction vs using List.reverseRecOn with
  | nil => exact c.chain_eq t
  | append_singleton vs v ih =>
    have hstep : c.chainAfter t (vs ++ [v]) =
        ((c.chainAfter t vs).resolve (Provider.handle v.tree v.request)).2 := by
      simp [chainAfter]
    rw [hstep, ih, resolve_chainWith, Pages.after_concat]

/-- After any visits, between which the files changed at will, a request that is claimed is answered
with the status 200. The answer has a body, but for the dump of the headers of a request that has
none, which is given where the pages decline the request. -/
theorem body_of_resolve (c : Config) (t₀ : FileTree) (vs : List Visit) (v : Visit)
    {response : Response}
    (h : ((c.chainAfter t₀ vs).resolve (Provider.handle v.tree v.request)).1 = some response) :
    response.status = 200 ∧
      (response.body = [] ↔
        (((c.pagesProvider t₀).after vs).handle v.tree v.request).1 = none ∧
          Text.hasEnd v.request.url.path Dump.headerPath = true ∧ v.request.headers = []) := by
  rw [chainAfter_eq, resolve_chainWith] at h
  dsimp only at h
  cases hpages : (((c.pagesProvider t₀).after vs).handle v.tree v.request).1 with
  | some page =>
    rw [hpages] at h
    obtain rfl : page = response := Option.some.inj h
    obtain ⟨hstatus, hbody⟩ := Pages.body_of_handle hpages
    exact ⟨hstatus, by simp [hbody]⟩
  | none =>
    rw [hpages, Option.none_or] at h
    cases hdump : Dump.handle v.request with
    | some dump =>
      rw [hdump] at h
      obtain rfl : dump = response := Option.some.inj h
      simpa using Dump.body_of_handle hdump
    | none =>
      rw [hdump, Option.none_or] at h
      obtain ⟨hstatus, hbody⟩ := Directory.body_of_handle h
      -- A request for the dump of the headers is not left to the data directory.
      have hother : ¬ Text.hasEnd v.request.url.path Dump.headerPath = true := by
        intro hpath
        rw [Dump.handle, if_pos hpath] at hdump
        cases hdump
      exact ⟨hstatus, by simp [hbody, hother]⟩

/-- A page that was emptied between two requests for it is served as a blank. -/
theorem body_of_resolve_blank :
    let c : Config := { content := { debug := true } }
    let t := FileTree.empty.write "page/a.test/x" [0x61]
    let emptied := t.write "page/a.test/x" []
    let r : Request :=
      { url := ⟨"https", some ⟨"", some (.name "a.test"), none⟩, "/x", none, none⟩
        mimeOf := fun _ => "text/plain" }
    let vs : List Visit := [⟨t, r⟩]
    let response := Response.ok "text/plain" [0x20]
    ((c.chainAfter t vs).resolve (Provider.handle emptied r)).1 = some response ∧
      response.status = 200 ∧
        (response.body = [] ↔ (((c.pagesProvider t).after vs).handle emptied r).1 = none ∧
          Text.hasEnd r.url.path Dump.headerPath = true ∧ r.headers = []) := by
  intro c t emptied r vs response
  have h : ((c.chainAfter t vs).resolve (Provider.handle emptied r)).1 = some response := by
    decide +kernel
  exact ⟨h, body_of_resolve c t vs ⟨emptied, r⟩ h⟩

/-- The dump of the headers is an answer without a body where a request has none. -/
theorem header_dump_empty :
    let c : Config := { content := { debug := true } }
    let r : Request :=
      { url := ⟨"app", some ⟨"", some (.name "shell"), none⟩, "/_/dump/header.html", none, none⟩ }
    let answer := ((c.chainAfter .empty []).resolve (Provider.handle .empty r)).1
    (Url.parse "app://shell/_/dump/header.html").toOption = some r.url ∧
      answer.map Response.status = some 200 ∧ answer.map Response.body = some [] := by
  decide +kernel

end Config

end BrowserShell
