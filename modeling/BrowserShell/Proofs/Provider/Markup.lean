import BrowserShell.Provider.Dump

/-!
# The page that shows a request

What a request says is shown between a fixed beginning and a fixed end of a page, with the three
characters that mean something in HTML written as entities. Reading the entities undoes this
(`unescape_escaped`), and the text so written is the only one that is free of markup and reads so
(`escaped_unescape`). The page is therefore inert and faithful for every request, whatever its
method, its headers and its body hold (`requestDump_faithful`).
-/

namespace BrowserShell.Dump

/-- What stands behind the ampersand of an entity, with the character that the entity means. -/
def entities : List (List Char × Char) :=
  [("amp;".toList, '&'), ("lt;".toList, '<'), ("gt;".toList, '>')]

/-- A text that brings no markup into a page: there are no angle brackets in it, and each ampersand
begins an entity. -/
structure Inert (cs : List Char) : Prop where
  less : '<' ∉ cs
  greater : '>' ∉ cs
  ampersand : ∀ after, '&' :: after <:+ cs → ∃ e ∈ entities, e.1 <+: after

/-- A text with its entities read from the first to the last; an ampersand that begins none stands
for itself. -/
def unescape : List Char → List Char
  | '&' :: 'a' :: 'm' :: 'p' :: ';' :: cs => '&' :: unescape cs
  | '&' :: 'l' :: 't' :: ';' :: cs => '<' :: unescape cs
  | '&' :: 'g' :: 't' :: ';' :: cs => '>' :: unescape cs
  | c :: cs => c :: unescape cs
  | [] => []

/-- A text with each character as it stands in HTML. -/
def escaped (cs : List Char) : List Char := cs.flatMap escape

variable {cs ds : List Char} {c : Char}

/-! ## Writing -/

/-- A character stands in HTML as the entity that means it, or as itself. -/
theorem escape_cases (c : Char) :
    (∃ e ∈ entities, c = e.2 ∧ escape c = '&' :: e.1) ∨
      (c ≠ '&' ∧ c ≠ '<' ∧ c ≠ '>') ∧ escape c = [c] := by
  unfold escape
  split
  · exact Or.inl ⟨_, List.mem_cons_self, ‹_›, rfl⟩
  · split
    · exact Or.inl ⟨_, List.mem_cons_of_mem _ List.mem_cons_self, ‹_›, rfl⟩
    · split
      · have hlast : ("gt;".toList, '>') ∈ entities := by decide
        exact Or.inl ⟨_, hlast, ‹_›, rfl⟩
      · exact Or.inr ⟨⟨‹_›, ‹_›, ‹_›⟩, rfl⟩

/-- A character that is none of the three stands for itself. -/
theorem escape_of_ne (hamp : c ≠ '&') (hless : c ≠ '<') (hgreater : c ≠ '>') : escape c = [c] := by
  rw [escape, if_neg hamp, if_neg hless, if_neg hgreater]

/-- Nothing brings no markup. -/
theorem inert_nil : Inert [] := ⟨by simp, by simp, by simp⟩

/-- The end of an inert text is inert. -/
theorem Inert.of_suffix (h : Inert cs) (hds : ds <:+ cs) : Inert ds where
  less hmem := h.less (hds.subset hmem)
  greater hmem := h.greater (hds.subset hmem)
  ampersand after hafter := h.ampersand after (hafter.trans hds)

/-- A character that is none of the three brings no markup. -/
theorem Inert.cons (h : Inert cs) (hc : c ≠ '&' ∧ c ≠ '<' ∧ c ≠ '>') : Inert (c :: cs) where
  less := List.not_mem_cons_of_ne_of_not_mem (Ne.symm hc.2.1) h.less
  greater := List.not_mem_cons_of_ne_of_not_mem (Ne.symm hc.2.2) h.greater
  ampersand after hafter := by
    rcases List.suffix_cons_iff.1 hafter with heq | hsuffix
    · exact absurd (List.cons.inj heq).1 (Ne.symm hc.1)
    · exact h.ampersand after hsuffix

/-- Characters that are none of the three bring none either. -/
theorem Inert.append (h : Inert cs) (hds : ∀ d ∈ ds, d ≠ '&' ∧ d ≠ '<' ∧ d ≠ '>') :
    Inert (ds ++ cs) := by
  induction ds with
  | nil => exact h
  | cons d ds ih =>
    obtain ⟨hd, hrest⟩ := List.forall_mem_cons.1 hds
    exact (ih hrest).cons hd

/-- An entity brings no markup: the ampersand begins it, and there is no other in it. -/
theorem Inert.entity (h : Inert cs) {e : List Char × Char} (he : e ∈ entities) :
    Inert ('&' :: e.1 ++ cs) := by
  have hplain : ∀ e ∈ entities, e.1.all (fun d => d ≠ '&' ∧ d ≠ '<' ∧ d ≠ '>') = true := by decide
  have hrest : Inert (e.1 ++ cs) :=
    h.append fun d hd => of_decide_eq_true (List.all_eq_true.1 (hplain e he) d hd)
  refine ⟨List.not_mem_cons_of_ne_of_not_mem (by decide) hrest.less,
    List.not_mem_cons_of_ne_of_not_mem (by decide) hrest.greater, fun after hafter => ?_⟩
  rcases List.suffix_cons_iff.1 hafter with heq | hsuffix
  · exact ⟨e, he, (List.cons.inj heq).2 ▸ List.prefix_append e.1 cs⟩
  · exact hrest.ampersand after hsuffix

/-- What is written brings no markup. -/
theorem inert_escaped (cs : List Char) : Inert (escaped cs) := by
  induction cs with
  | nil => exact inert_nil
  | cons c cs ih =>
    rw [escaped, List.flatMap_cons]
    rcases escape_cases c with ⟨e, he, -, hescape⟩ | ⟨hc, hescape⟩
    · rw [hescape]
      exact ih.entity he
    · rw [hescape]
      exact ih.cons hc

/-! ## Reading -/

/-- A character other than an ampersand is read as itself. -/
theorem unescape_cons (hc : c ≠ '&') (cs : List Char) :
    unescape (c :: cs) = c :: unescape cs := by
  rw [unescape]
  all_goals
    intros
    exact absurd ‹_› hc

/-- An entity is read as the character that it means. -/
theorem unescape_entity {e : List Char × Char} (he : e ∈ entities) (cs : List Char) :
    unescape ('&' :: e.1 ++ cs) = e.2 :: unescape cs := by
  simp only [entities, List.mem_cons, List.not_mem_nil, or_false] at he
  rcases he with rfl | rfl | rfl <;> rfl

/-- Reading what is written gives the text back. -/
theorem unescape_escaped (cs : List Char) : unescape (escaped cs) = cs := by
  induction cs with
  | nil => rfl
  | cons c cs ih =>
    rw [escaped, List.flatMap_cons]
    rcases escape_cases c with ⟨e, he, hc, hescape⟩ | ⟨hc, hescape⟩
    · rw [hescape]
      exact (unescape_entity he _).trans (by rw [← hc]; exact congrArg (c :: ·) ih)
    · rw [hescape]
      exact (unescape_cons hc.1 _).trans (congrArg (c :: ·) ih)

/-- What an inert text reads as is written as that text. -/
theorem escaped_unescape (h : Inert cs) : escaped (unescape cs) = cs := by
  -- The cases of the reader: the three entities, any other character, and the end.
  fun_induction unescape cs with
  | case1 cs ih => exact congrArg ("&amp;".toList ++ ·) (ih (h.of_suffix ⟨"&amp;".toList, rfl⟩))
  | case2 cs ih => exact congrArg ("&lt;".toList ++ ·) (ih (h.of_suffix ⟨"&lt;".toList, rfl⟩))
  | case3 cs ih => exact congrArg ("&gt;".toList ++ ·) (ih (h.of_suffix ⟨"&gt;".toList, rfl⟩))
  | case4 c cs hamp hless hgreater ih =>
    have hrest : escaped (unescape cs) = cs := ih (h.of_suffix (List.suffix_cons c cs))
    have hc : c ≠ '&' := by
      rintro rfl
      -- An ampersand of the text begins an entity, which would have been read.
      obtain ⟨e, he, rest, hrest⟩ := h.ampersand cs List.suffix_rfl
      simp only [entities, List.mem_cons, List.not_mem_nil, or_false] at he
      rcases he with rfl | rfl | rfl
      · exact hamp rest rfl hrest.symm
      · exact hless rest rfl hrest.symm
      · exact hgreater rest rfl hrest.symm
    have hless : c ≠ '<' := fun heq => h.less (heq ▸ List.mem_cons_self)
    have hgreater : c ≠ '>' := fun heq => h.greater (heq ▸ List.mem_cons_self)
    rw [escaped, List.flatMap_cons, escape_of_ne hc hless hgreater]
    exact congrArg (c :: ·) hrest
  | case5 => rfl

/-! ## The page -/

/-- The body of the dump is the page of the request's text, whichever headers are added. -/
theorem body_requestDump_eq (r : Request) :
    (requestDump r).body = Utf8.encode (page (text r)) := by
  unfold requestDump
  generalize Utf8.encode (page (text r)) = body
  dsimp only
  split
  · rfl
  · rfl
  · rfl

/-- The body of the dump of a request is the fixed beginning, a text and the fixed end. The text
brings no markup into the page and, with its entities read, is what the request says; no other text
does both. -/
theorem requestDump_faithful (r : Request) :
    ∃ shown : String,
      (requestDump r).body = Utf8.encode (pageStart ++ shown ++ pageEnd) ∧
        Inert shown.toList ∧ unescape shown.toList = (text r).toList ∧
          ∀ other : String, Inert other.toList → unescape other.toList = (text r).toList →
            other = shown := by
  refine ⟨String.ofList (escaped (text r).toList), ?_, ?_, ?_, ?_⟩
  · rw [body_requestDump_eq, page, escaped]
  · rw [String.toList_ofList]
    exact inert_escaped _
  · rw [String.toList_ofList]
    exact unescape_escaped _
  · intro other hinert hother
    apply String.toList_inj.1
    calc other.toList = escaped (unescape other.toList) := (escaped_unescape hinert).symm
      _ = escaped (text r).toList := by rw [hother]
      _ = (String.ofList (escaped (text r).toList)).toList := String.toList_ofList.symm

/-- A request whose body looks like markup and entities already. -/
example :
    let r : Request :=
      { url := ⟨"app", some ⟨"", some (.name "shell"), none⟩, "/_/dump/request.html", none, none⟩
        body := some [.bytes (Utf8.encode "<b>&amp;")] }
    (requestDump r).body = Utf8.encode (pageStart ++
      "URL: app://shell/_/dump/request.html\nMethod: GET\nPost Data:\n" ++
        "\tBytes: &lt;b&gt;&amp;amp;" ++ pageEnd) := by
  decide +kernel

end BrowserShell.Dump
