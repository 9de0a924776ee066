import BrowserShell.Context
import BrowserShell.Proofs.Filter.Malformed
import BrowserShell.Proofs.Text.Split

/-!
# Whole bodies

A body that passes whole is filtered in one call, into a buffer that is as long as the body at
least. So the body is never cut before it is changed, while its changed form may be cut at the end
of the buffer; the injection is made before that and reports all of it (`filterBody_whole`).
-/

namespace BrowserShell

namespace Filter

/-- Whether a response is one over HTTP, by the first letters of its URL in any case, and has a type
that names text of some kind. -/
def Filterable (url mime : String) : Prop :=
  (∃ scheme rest, url.toList = scheme ++ rest ∧ scheme.map Text.lower = "http".toList) ∧
    ∃ kind ∈ types, kind.toList <:+: mime.toList

/-- Such responses are the ones that are filtered. -/
theorem applies_iff (url mime : String) : applies url mime = true ↔ Filterable url mime := by
  have hscheme : Text.sameLetters (String.ofList (url.toList.take 4)) "http" = true ↔
      ∃ scheme rest, url.toList = scheme ++ rest ∧ scheme.map Text.lower = "http".toList := by
    have hlower : "http".toList.map Text.lower = "http".toList := by decide
    rw [Text.sameLetters, String.toList_ofList, hlower, beq_iff_eq]
    constructor
    · intro h
      exact ⟨_, _, (List.take_append_drop 4 url.toList).symm, h⟩
    · rintro ⟨scheme, rest, hurl, h⟩
      -- The letters say how long the beginning is.
      have hlength : scheme.length = 4 := by simpa using congrArg List.length h
      rw [hurl, ← hlength, List.take_left]
      exact h
  have hkind : types.any (Text.contains mime) = true ↔
      ∃ kind ∈ types, kind.toList <:+: mime.toList := by
    simp only [List.any_eq_true, Text.contains, Text.occursIn_iff]
  unfold applies Filterable
  rw [Bool.and_eq_true, hscheme, hkind]

/-- A filter has the rules that it is made with. -/
theorem attach_rules (t : FileTree) (root : Path) (rules : Rules) (url mime : String) :
    (attach t root rules url mime).rules = rules := by
  rw [attach_eq]

/-- Nothing goes on of an empty body, and nothing is posted. -/
theorem relay_nil (f : Filter) (t : FileTree) (capacity : Nat) :
    f.relay t [] capacity = ([], none) := by
  rw [relay, pass_of_empty f t List.take_nil]
  rfl

/-- A filter takes a whole body at once: its buffer has room for it. -/
theorem relay_of_nonempty (f : Filter) (t : FileTree) {body : Bytes} (hbody : body ≠ [])
    (capacity : Nat) :
    f.relay t body capacity =
      (writtenOf f.rules body (max capacity body.length),
        f.injection? t (f.rules.replaceAll (trim body))) := by
  have hroom : (List.replicate (max capacity body.length) (0 : UInt8)).length =
      max capacity body.length := List.length_replicate
  have htaken :
      body.take (List.replicate (max capacity body.length) (0 : UInt8)).length = body := by
    rw [hroom]
    exact List.take_of_length_le (Nat.le_max_right capacity body.length)
  unfold relay
  rw [pass_of_nonempty f t (by rw [htaken]; exact hbody), htaken, hroom]
  dsimp only
  rw [List.take_left]

/-- A filter of a response reports a content exactly if a script of the site was there when it was
made and the response has a type of data. -/
theorem injection?_attach_eq_event_iff (t now : FileTree) (root : Path) (rules : Rules)
    (url mime : String) (content : Bytes) (u payload : String) :
    (attach t root rules url mime).injection? now content = some (.event u payload) ↔
      (∃ script ∈ Site.scripts root (hostOf url), t.isFile script = true) ∧
        ¬ Text.contains mime "html" ∧ (Text.contains mime "json" ∨ Text.contains mime "xml") ∧
        u = url ∧ payload = JsonString.literal (Utf8.lossy content) := by
  rw [attach_eq]
  dsimp only
  cases hfind : (Site.scripts root (hostOf url)).find? t.isFile with
  | none =>
    rw [injection?_of_no_script rfl]
    rw [List.find?_eq_none] at hfind
    constructor
    · rintro ⟨⟩
    · rintro ⟨⟨script, hmem, hfile⟩, -⟩
      exact absurd hfile (hfind script hmem)
  | some script =>
    have hscript : ∃ script ∈ Site.scripts root (hostOf url), t.isFile script = true :=
      ⟨script, List.mem_of_find?_eq_some hfind, List.find?_some hfind⟩
    rw [injection?_eq_some_iff rfl rfl]
    simp [hscript, Injection.ofBody]

end Filter

namespace Context

open BrowserShell.Filter (Filterable trim)

/-- Nothing of an empty body goes on. -/
theorem filterBody_of_nil (x : Context) (t : FileTree) {url mime : String}
    (h : Filterable url mime) : x.filterBody t url mime [] = (some [], none) := by
  rw [filterBody, FilterFactory.create?, if_pos ((Filter.applies_iff url mime).2 h)]
  dsimp only
  rw [Filter.relay_nil]

/-- Another body goes on as it is written, with the injection for all of its changed form. -/
theorem filterBody_of_nonempty (x : Context) (t : FileTree) {url mime : String}
    (h : Filterable url mime) {body : Bytes} (hbody : body ≠ []) :
    x.filterBody t url mime body =
      (some (Filter.writtenOf x.filters.rules body (max x.capacity body.length)),
        (Filter.attach t x.filters.scriptRoot x.filters.rules url mime).injection? t
          (x.filters.rules.replaceAll (trim body))) := by
  rw [filterBody, FilterFactory.create?, if_pos ((Filter.applies_iff url mime).2 h)]
  dsimp only
  rw [Filter.relay_of_nonempty _ t hbody, Filter.attach_rules]

/-- The body of any other response is left alone. -/
theorem filterBody_of_not_filterable (x : Context) (t : FileTree) {url mime : String}
    (h : ¬ Filterable url mime) (body : Bytes) :
    x.filterBody t url mime body = (none, none) := by
  rw [filterBody, FilterFactory.create?, if_neg fun ha => h ((Filter.applies_iff url mime).1 ha)]

/-- A body passes whole, whatever the capacity of the buffer is: it is left alone, and nothing is
posted, exactly if its response is not one to be filtered. Otherwise an empty body stays empty, any
body stays as it is where there are no rules, and of the trimmed and changed body goes on what the
longer of the capacity and the body holds. The event that is posted for data reports all of the
changed body, even if less of it goes on. -/
theorem filterBody_whole (x : Context) (t : FileTree) (url mime : String) (body : Bytes) :
    let passed := (x.filterBody t url mime body).1
    let posted := (x.filterBody t url mime body).2
    let changed := x.filters.rules.replaceAll (trim body)
    (passed = none ↔ ¬ Filterable url mime) ∧
      (¬ Filterable url mime → posted = none) ∧
      (Filterable url mime →
        (body = [] → passed = some []) ∧
        (x.filters.rules = [] → passed = some body) ∧
        (body ≠ [] → x.filters.rules ≠ [] →
          passed = some (changed.take (max x.capacity body.length)))) ∧
      ∀ u payload, posted = some (.event u payload) ↔
        Filterable url mime ∧ body ≠ [] ∧
          (∃ script ∈ Site.scripts x.filters.scriptRoot (Filter.hostOf url),
            t.isFile script = true) ∧
          ¬ Text.contains mime "html" ∧ (Text.contains mime "json" ∨ Text.contains mime "xml") ∧
          u = url ∧ payload = JsonString.literal (Utf8.lossy changed) := by
  generalize hresult : x.filterBody t url mime body = result
  obtain ⟨passed, posted⟩ := result
  dsimp only
  by_cases hf : Filterable url mime
  · by_cases hbody : body = []
    · subst hbody
      rw [filterBody_of_nil x t hf, Prod.mk.injEq] at hresult
      obtain ⟨rfl, rfl⟩ := hresult
      simp [hf]
    · rw [filterBody_of_nonempty x t hf hbody, Prod.mk.injEq] at hresult
      obtain ⟨rfl, rfl⟩ := hresult
      refine ⟨by simp [hf], fun hnot => absurd hf hnot, fun _ => ⟨?_, ?_, ?_⟩, fun u payload => ?_⟩
      · intro hnil
        exact absurd hnil hbody
      · intro hrules
        rw [hrules, Filter.writtenOf_nil]
      · intro _ hrules
        rw [Filter.writtenOf, if_neg (by simpa using hrules)]
      · -- The report is made of the changed body as it is before the buffer cuts it.
        rw [Filter.injection?_attach_eq_event_iff]
        simp [hf, hbody]
  · rw [filterBody_of_not_filterable x t hf body, Prod.mk.injEq] at hresult
    obtain ⟨rfl, rfl⟩ := hresult
    simp [hf]

end Context

end BrowserShell
