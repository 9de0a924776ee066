import BrowserShell.Proofs.Provider.Index
import BrowserShell.Proofs.Provider.Unchanged

/-!
# Pages on disk and in an index

With an index and without one a provider of pages gives the same answers while the files stay as
they are, but for two kinds of pages (`Pages.answers_eq_iff`). A page whose first segment has the
key of a single dot is found on disk behind the dot, and no index has such a path (`Unlisted`). A
page whose joined path is too long to be opened has an entry in the index, and is answered with a
blank where the disk has no file (`Unopened`).
-/

namespace BrowserShell

namespace Pages

variable {t : FileTree} {base : Path} {redirect : Rules} {u : Url}

/-- Whether the file of a URL is found on disk only, behind the dot that is the key of the first
segment. -/
def Unlisted (t : FileTree) (base : Path) (redirect : Rules) (u : Url) : Prop :=
  ∃ page rest, asked? redirect u = some page ∧ Page.DotKey page rest ∧
    (PageIndex.build t base).contains page = false ∧ t.isFile (base.join ("./" ++ rest)) = true

/-- Whether the index has a path for a URL that is too long to be opened, and what is on disk
is not answered with a blank either. -/
def Unopened (t : FileTree) (base : Path) (redirect : Rules) (u : Url) : Prop :=
  ∃ page c, asked? redirect u = some page ∧
    (Page.candidates page).find? (PageIndex.build t base).contains = some c ∧
    FileTree.maxPath ≤ Text.byteCount (base.join c).toList ∧
    ∀ other ∈ Page.candidates page, ∀ b, t.read (base.join other) = .ok b →
      orPlaceholder b ≠ placeholder

/-- A page that an index has is found on disk, unless the joined path is too long. -/
theorem isFile_of_target? (hb : base ≠ "") {c : String}
    (hc : target? (PageIndex.build t base) redirect u = some c) :
    t.isFile (base.join c) = true ↔ Text.byteCount (base.join c).toList < FileTree.maxPath := by
  have hcontains := contains_of_target? hc
  rw [PageIndex.isFile_iff_contains hb (PageIndex.plain_of_contains hcontains)]
  exact and_iff_right hcontains

/-- The path that an index gives is the one found on disk, if it is a file's. -/
theorem diskTarget?_of_target? (hb : base ≠ "") {c : String}
    (hc : target? (PageIndex.build t base) redirect u = some c)
    (hf : t.isFile (base.join c) = true) : diskTarget? t base redirect u = some c := by
  obtain ⟨page, ha, hfind⟩ := Option.bind_eq_some_iff.1 hc
  have hpage := plain_of_asked? ha
  unfold diskTarget?
  rw [ha, Option.bind_some]
  rcases Page.candidates_eq page with heq | ⟨other, heq⟩
  · rw [heq, List.find?_singleton] at hfind ⊢
    split at hfind
    · cases hfind
      rw [if_pos hf]
    · cases hfind
  · rw [heq, List.find?_cons] at hfind ⊢
    -- What stands before the path in the row is not in the index, and hence no file.
    cases hin : (PageIndex.build t base).contains page with
    | true =>
      rw [hin] at hfind
      cases hfind
      rw [hf]
    | false =>
      rw [hin] at hfind
      rw [PageIndex.isFile_of_not_contains hb hpage hin]
      have hother : c = other := by
        simpa using List.mem_of_find?_eq_some hfind
      subst hother
      simp [hf]

/-- A page that no index has is found on disk only behind a dot. -/
theorem unlisted_of_diskTarget? (hb : base ≠ "")
    (hc : target? (PageIndex.build t base) redirect u = none) {c : String}
    (hdisk : diskTarget? t base redirect u = some c) : Unlisted t base redirect u := by
  obtain ⟨page, ha, hfind⟩ := Option.bind_eq_some_iff.1 hdisk
  have hf : t.isFile (base.join c) = true := by simpa using List.find?_some hfind
  rw [target?, ha, Option.bind_some, List.find?_eq_none] at hc
  have hmem := List.mem_of_find?_eq_some hfind
  rcases Page.plain_or_dot (plain_of_asked? ha) hmem with hplain | ⟨rest, hd, -, rfl⟩
  · exact absurd ((PageIndex.isFile_iff_contains hb hplain).1 hf).1 (hc c hmem)
  · refine ⟨page, rest, ha, hd, ?_, hf⟩
    rw [← Bool.not_eq_true]
    exact hc page (Page.mem_candidates page)

/-- A file behind a dot is found on disk and in no index. -/
theorem targets_of_unlisted (hb : base ≠ "") (h : Unlisted t base redirect u) :
    target? (PageIndex.build t base) redirect u = none ∧
      (diskTarget? t base redirect u).isSome := by
  obtain ⟨page, rest, ha, hd, hin, hf⟩ := h
  have hpage := plain_of_asked? ha
  obtain ⟨heq, -⟩ := Page.candidates_of_dotKey hpage hd
  have hnot := PageIndex.isFile_of_not_contains hb hpage hin
  unfold target? diskTarget?
  rw [ha, Option.bind_some, Option.bind_some, heq]
  constructor
  · simp [hin, PageIndex.not_contains_dot]
  · simp [hnot, hf]

/-- Where one of the paths tried is no file, the other is the one found on disk if it is a file. -/
theorem diskTarget?_of_isFile {page c other : String} (ha : asked? redirect u = some page)
    (hc : c ∈ Page.candidates page) (hnot : t.isFile (base.join c) = false)
    (ho : other ∈ Page.candidates page) (hf : t.isFile (base.join other) = true) :
    diskTarget? t base redirect u = some other := by
  have hne : c ≠ other := by
    rintro rfl
    rw [hf] at hnot
    cases hnot
  rw [diskTarget?, ha, Option.bind_some]
  rcases Page.candidates_eq page with heq | ⟨second, heq⟩
  · rw [heq, List.mem_singleton] at hc ho
    exact absurd (hc.trans ho.symm) hne
  · rw [heq] at hc ho ⊢
    simp only [List.mem_cons, List.not_mem_nil, or_false] at hc ho
    rcases hc with rfl | rfl
    · rcases ho with rfl | rfl
      · exact absurd rfl hne
      · simp [hnot, hf]
    · rcases ho with rfl | rfl
      · simp [hf]
      · exact absurd rfl hne

/-- A blank goes out for a path that cannot be read. -/
theorem contentAt_of_not_isFile {c : String} (h : t.isFile (base.join c) = false) :
    contentAt t base c = [] := by
  unfold contentAt
  cases hread : t.read (base.join c) with
  | ok b =>
    rw [FileTree.isFile_iff.2 ⟨b, hread⟩] at h
    cases h
  | error e => rfl

/-- Of the pages that no index has, those that are not on disk either are all but the unlisted. -/
theorem diskTarget?_eq_none_iff (hb : base ≠ "")
    (hc : target? (PageIndex.build t base) redirect u = none) :
    diskTarget? t base redirect u = none ↔ ¬ Unlisted t base redirect u := by
  constructor
  · intro hnone h
    have hsome := (targets_of_unlisted hb h).2
    rw [hnone] at hsome
    cases hsome
  · intro h
    cases hdisk : diskTarget? t base redirect u with
    | none => rfl
    | some c => exact absurd (unlisted_of_diskTarget? hb hc hdisk) h

/-- A page of the index is unopened if its path is no file's on disk, where no blank is found in its
place. -/
theorem unopened_iff (hb : base ≠ "") {c : String}
    (hc : target? (PageIndex.build t base) redirect u = some c) :
    Unopened t base redirect u ↔
      t.isFile (base.join c) = false ∧
        ∀ other, diskTarget? t base redirect u = some other →
          orPlaceholder (contentAt t base other) ≠ placeholder := by
  obtain ⟨page, ha, hfind⟩ := Option.bind_eq_some_iff.1 hc
  have hcount : t.isFile (base.join c) = false ↔
      FileTree.maxPath ≤ Text.byteCount (base.join c).toList := by
    rw [← Bool.not_eq_true, isFile_of_target? hb hc, Nat.not_lt]
  constructor
  · rintro ⟨page', c', ha', hfind', hlong, hall⟩
    obtain rfl : page = page' := Option.some.inj (ha.symm.trans ha')
    obtain rfl : c = c' := Option.some.inj (hfind.symm.trans hfind')
    refine ⟨hcount.2 hlong, fun other hdisk => ?_⟩
    rw [diskTarget?, ha, Option.bind_some] at hdisk
    have hfile : t.isFile (base.join other) = true := by simpa using List.find?_some hdisk
    obtain ⟨b, hread⟩ := FileTree.isFile_iff.1 hfile
    rw [contentAt, hread]
    exact hall other (List.mem_of_find?_eq_some hdisk) b hread
  · rintro ⟨hf, hall⟩
    refine ⟨page, c, ha, hfind, hcount.1 hf, fun other ho b hread => ?_⟩
    have hdisk := diskTarget?_of_isFile ha (List.mem_of_find?_eq_some hfind) hf ho
      (FileTree.isFile_iff.2 ⟨b, hread⟩)
    have hblank := hall other hdisk
    rw [contentAt, hread] at hblank
    exact hblank

/-- Without an index the path found on disk is answered, whatever was requested before. -/
theorem answer_of_disk (t : FileTree) (base : Path) (redirect : Rules) (rs : List Request)
    (r : Request) :
    (((new t base true redirect).after (rs.map (Visit.mk t))).handle t r).1 =
      (diskTarget? t base redirect r.url).map (fun c =>
        .ok r.mime (orPlaceholder (contentAt t base c))) :=
  handle_after_of_faithful (faithful_new t t base true redirect) rs r

/-- With an index the path found in it is answered, whatever was requested before. -/
theorem answer_of_index (t : FileTree) (base : Path) (redirect : Rules) (rs : List Request)
    (r : Request) :
    (((new t base false redirect).after (rs.map (Visit.mk t))).handle t r).1 =
      (target? (.build t base) redirect r.url).map (fun c =>
        .ok r.mime (orPlaceholder (contentAt t base c))) :=
  handle_after_of_faithful (faithful_new t t base false redirect) rs r

/-- A file behind a dot is answered just without an index. -/
theorem answers_ne_of_unlisted (hb : base ≠ "") (rs : List Request) {r : Request}
    (h : Unlisted t base redirect r.url) :
    (((new t base true redirect).after (rs.map (Visit.mk t))).handle t r).1 ≠
      (((new t base false redirect).after (rs.map (Visit.mk t))).handle t r).1 := by
  obtain ⟨hnone, hsome⟩ := targets_of_unlisted hb h
  rw [answer_of_disk, answer_of_index, hnone, Option.map_none, ne_eq, Option.map_eq_none_iff]
  intro hdisk
  rw [hdisk] at hsome
  cases hsome

/-- With an index and without one the answers to a request are the same, whatever was requested
before, just if its page is no file behind a dot that the index does not have, and no page of the
index that is too long to be opened. -/
theorem answers_eq_iff (t : FileTree) (base : Path) (redirect : Rules) (hb : base ≠ "")
    (rs : List Request) (r : Request) :
    let answer := fun debug =>
      (((new t base debug redirect).after (rs.map (Visit.mk t))).handle t r).1
    answer true = answer false ↔
      ¬ (Unlisted t base redirect r.url ∨ Unopened t base redirect r.url) := by
  intro answer
  cases hc : target? (.build t base) redirect r.url with
  | none =>
    have hopened : ¬ Unopened t base redirect r.url := by
      rintro ⟨page, c, ha, hfind, -⟩
      rw [target?, ha, Option.bind_some, hfind] at hc
      cases hc
    rw [or_iff_left hopened]
    constructor
    · exact fun heq h => answers_ne_of_unlisted hb rs h heq
    · intro h
      show answer true = answer false
      simp only [answer]
      rw [answer_of_disk, answer_of_index, hc, (diskTarget?_eq_none_iff hb hc).2 h]
  | some c =>
    have hlisted : ¬ Unlisted t base redirect r.url := by
      intro h
      rw [(targets_of_unlisted hb h).1] at hc
      cases hc
    rw [or_iff_right hlisted, unopened_iff hb hc]
    simp only [answer]
    rw [answer_of_disk, answer_of_index, hc]
    cases hf : t.isFile (base.join c) with
    | true =>
      rw [diskTarget?_of_target? hb hc hf]
      simp
    | false =>
      -- A blank is served with the index; on disk it has to be found as a file.
      have hempty : orPlaceholder [] = placeholder := rfl
      rw [Option.map_some, contentAt_of_not_isFile hf, hempty]
      cases hdisk : diskTarget? t base redirect r.url with
      | none => simp
      | some other => simp [Response.ok]

/-- The answers to a second request for `http://.../x`, where its page is a file. -/
theorem answers_eq_iff_page :
    ("page" : Path) ≠ "" ∧
      let t := FileTree.empty.write "page/.../x" [0x68, 0x69]
      let answer := fun debug =>
        (((new t "page" debug []).after ([{ url := Page.dotsUrl }].map (Visit.mk t))).handle t
          { url := Page.dotsUrl }).1
      (answer true = answer false ↔
        ¬ (Unlisted t "page" [] Page.dotsUrl ∨ Unopened t "page" [] Page.dotsUrl)) :=
  ⟨by decide, answers_eq_iff _ "page" [] (by decide) [{ url := Page.dotsUrl }]
    { url := Page.dotsUrl }⟩

/-- The answers to `http://.../x` are not the same where its host is no directory and the file `x`
stands beside: the key of the host is a single dot. -/
theorem answers_ne_for_dots :
    let t := FileTree.empty.write "page/x" [0x68, 0x69]
    let answer := fun debug =>
      (((new t "page" debug []).after []).handle t { url := Page.dotsUrl }).1
    answer true ≠ answer false := by
  have hlisted : ¬ Text.pieces '/' ".../x".toList ∈
      (FileTree.empty.write "page/x" [0x68, 0x69]).filesBelow "page" := by
    decide +kernel
  have hunlisted : Unlisted (FileTree.empty.write "page/x" [0x68, 0x69]) "page" [] Page.dotsUrl := by
    refine ⟨".../x", "x", by decide, ⟨['.', '.', '.'], by decide⟩, ?_, by decide +kernel⟩
    rw [← Bool.not_eq_true, PageIndex.contains_build_iff]
    exact hlisted
  exact answers_ne_of_unlisted (by decide) [] hunlisted

end Pages

end BrowserShell
