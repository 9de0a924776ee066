import BrowserShell.Config.Validation
import BrowserShell.Meta
import BrowserShell.Proofs.Text.Order
import BrowserShell.Proofs.Text.Split
import Mathlib.Data.List.TakeWhile

/-!
# Rules written as tags

A rule is written into a page as a tag whose name is the kind of the rule and its replacement, and
whose content is its pattern. Reading a page of such lines finds the tags again, in order
(`tags_page`), whatever their texts are but for quotation marks, and its entries have the content of
the last tag of each name (`mem_entries_iff`). The rules come back as well, unless a replacement
holds a bar: what stands behind it is lost (`parse_page_iff`).
-/

namespace BrowserShell

/-! ## Writing -/

/-- A rule to be written into a page. -/
structure TaggedRule where
  /-- Which list the rule is for. -/
  kind : RuleKind
  /-- The rule. -/
  text : RuleText
deriving DecidableEq, Repr

namespace TaggedRule

/-- The name of a rule's tag. -/
def name (r : TaggedRule) : String := r.kind.name ++ "|" ++ r.text.replacement

/-- Whether the texts of a rule can stand between quotation marks. -/
def Quotable (r : TaggedRule) : Prop :=
  '"' ∉ r.text.pattern.toList ∧ '"' ∉ r.text.replacement.toList

/-- The line with a rule's tag. -/
def line (r : TaggedRule) : String :=
  "<meta name=\"" ++ r.name ++ "\" content=\"" ++ r.text.pattern ++ "\">\n"

/-- The page with a line for each rule. -/
def page (rs : List TaggedRule) : String := String.ofList (rs.flatMap fun r => r.line.toList)

/-- The rules of a kind, in order. -/
def ofKind (k : RuleKind) (rs : List TaggedRule) : List RuleText :=
  (rs.filter fun r => r.kind = k).map text

/-- The rule without what stands behind the first bar of its replacement, and without that bar. -/
def cutAtBar (r : TaggedRule) : TaggedRule :=
  { r with
    text := { r.text with
      replacement := String.ofList (r.text.replacement.toList.takeWhile (· ≠ '|')) } }

/-- A rule is cut exactly if its replacement holds a bar. -/
theorem cutAtBar_eq_self_iff (r : TaggedRule) :
    r.cutAtBar = r ↔ '|' ∉ r.text.replacement.toList := by
  have hcut : r.cutAtBar = r ↔
      String.ofList (r.text.replacement.toList.takeWhile (· ≠ '|')) = r.text.replacement := by
    constructor
    · intro h
      exact congrArg (fun r => r.text.replacement) h
    · intro h
      unfold cutAtBar
      rw [h]
  rw [hcut, ← String.toList_inj, String.toList_ofList, List.takeWhile_eq_self_iff]
  constructor
  · intro h hbar
    simpa using h _ hbar
  · intro h c hc
    simpa using fun heq : c = '|' => h (heq ▸ hc)

/-- A rule keeps its kind when it is cut. -/
theorem ofKind_map_cutAtBar (k : RuleKind) (rs : List TaggedRule) :
    ofKind k (rs.map cutAtBar) =
      (rs.filter fun r => r.kind = k).map fun r => r.cutAtBar.text := by
  unfold ofKind
  rw [List.filter_map, List.map_map]
  rfl

/-- Cutting changes neither row of rules exactly if no replacement holds a bar. -/
theorem ofKind_cutAtBar_iff (rs : List TaggedRule) :
    (∀ k, ofKind k (rs.map cutAtBar) = ofKind k rs) ↔
      ∀ r ∈ rs, '|' ∉ r.text.replacement.toList := by
  constructor
  · intro h r hr
    have hk := h r.kind
    rw [ofKind_map_cutAtBar, ofKind, List.map_inj_left] at hk
    have htext : r.cutAtBar.text = r.text := hk r (List.mem_filter.2 ⟨hr, by simp⟩)
    have hcut : r.cutAtBar = r := by
      calc r.cutAtBar = ⟨r.kind, r.cutAtBar.text⟩ := rfl
        _ = ⟨r.kind, r.text⟩ := by rw [htext]
        _ = r := rfl
    exact (cutAtBar_eq_self_iff r).1 hcut
  · intro h k
    have hmap : rs.map cutAtBar = rs := by
      calc rs.map cutAtBar = rs.map id :=
            List.map_congr_left fun r hr => (cutAtBar_eq_self_iff r).2 (h r hr)
        _ = rs := List.map_id rs
    rw [hmap]

end TaggedRule

namespace Meta

open TaggedRule

/-! ## Tags -/

/-- A word in lower case is read from a text that begins with it. -/
theorem word?_append {w : List Char} (hw : w.map Text.lower = w) (cs : List Char) :
    word? w (w ++ cs) = some cs := by
  induction w with
  | nil => rfl
  | cons c w ih =>
    obtain ⟨hc, hw⟩ := List.cons.inj hw
    rw [List.cons_append, word?, if_pos hc]
    exact ih hw

/-- A quoted value behind an equals sign is read up to its quotation mark. -/
theorem value?_quoted {text : List Char} (h : '"' ∉ text) (cs : List Char) :
    value? ('=' :: '"' :: text ++ '"' :: cs) = some (text, cs) := by
  have hcut : Text.cut? '"' (text ++ '"' :: cs) = some (text, cs) :=
    Text.cut?_eq_some_iff.2 ⟨rfl, h⟩
  exact hcut

/-- A blank before a word is read over. -/
theorem blanks?_space {w : List Char} (hw : w.head?.all fun c => !Pattern.Class.isBlank c)
    (cs : List Char) (hne : w ≠ []) : blanks? (' ' :: w ++ cs) = some (w ++ cs) := by
  obtain ⟨c, w, rfl⟩ := List.exists_cons_of_ne_nil hne
  have hc : Pattern.Class.isBlank c = false := by simpa using hw
  have hspace : Pattern.Class.isBlank ' ' = true := by decide
  rw [List.cons_append, blanks?, if_pos hspace, blanks, List.cons_append,
    List.dropWhile_cons_of_neg (by simp [hc])]

/-- The tag of a quotable rule is read from its line, up to the angle bracket. -/
theorem tag?_line {r : TaggedRule} (h : r.Quotable) (cs : List Char) :
    tag? (r.line.toList ++ cs) =
      some ((r.name.toList, r.text.pattern.toList), '>' :: '\n' :: cs) := by
  have hname : '"' ∉ r.name.toList := by
    have hkind : '"' ∉ r.kind.name.toList := by
      cases r.kind <;> decide
    simp [TaggedRule.name, hkind, h.2]
  have hne : r.name.toList ≠ [] := by simp [TaggedRule.name]
  -- The line in the order in which it is read: words, the blanks before them, quoted values.
  have hline : r.line.toList ++ cs =
      "<meta".toList ++ (' ' :: "name".toList ++ ('=' :: '"' :: r.name.toList ++ '"' ::
        (' ' :: "content".toList ++ ('=' :: '"' :: r.text.pattern.toList ++ '"' ::
          '>' :: '\n' :: cs)))) := by
    simp [line]
  rw [hline]
  simp only [tag?, word?_append (w := "<meta".toList) (by decide), Option.bind_eq_bind,
    Option.bind_some,
    blanks?_space (w := "name".toList) (by decide) _ (by decide),
    word?_append (w := "name".toList) (by decide), value?_quoted hname, if_neg hne,
    blanks?_space (w := "content".toList) (by decide) _ (by decide),
    word?_append (w := "content".toList) (by decide), value?_quoted h.1]
  rfl

/-- No tag begins where there is no angle bracket. -/
theorem tag?_cons_of_ne {c : Char} (hc : Text.lower c ≠ '<') (cs : List Char) :
    tag? (c :: cs) = none := by
  have hword : word? "<meta".toList (c :: cs) = none := by
    rw [show "<meta".toList = '<' :: "meta".toList from rfl, word?, if_neg hc]
  rw [tag?, hword]
  rfl

/-- The characters to be passed over are dropped. -/
theorem tagsFrom_eq (skip : Nat) (cs : List Char) :
    tagsFrom skip cs = tagsFrom 0 (cs.drop skip) := by
  induction skip generalizing cs with
  | zero => rfl
  | succ skip ih =>
    cases cs with
    | nil => rfl
    | cons c cs => exact ih cs

/-- Reading goes on behind a tag. -/
theorem tagsFrom_of_tag {cs rest : List Char} {tag : List Char × List Char}
    (h : tag? cs = some (tag, rest)) {before : List Char} (hne : before ≠ [])
    (hcs : cs = before ++ rest) : tagsFrom 0 cs = tag :: tagsFrom 0 rest := by
  obtain ⟨c, before, rfl⟩ := List.exists_cons_of_ne_nil hne
  subst hcs
  have hdrop : (before ++ rest).drop ((before ++ rest).length - rest.length) = rest := by
    rw [List.length_append, Nat.add_sub_cancel, List.drop_left]
  rw [List.cons_append] at h ⊢
  rw [tagsFrom, h]
  dsimp only
  rw [tagsFrom_eq, hdrop]

/-- Reading goes on behind a character that begins no tag. -/
theorem tagsFrom_cons_of_ne {c : Char} (hc : Text.lower c ≠ '<') (cs : List Char) :
    tagsFrom 0 (c :: cs) = tagsFrom 0 cs := by
  rw [tagsFrom, tag?_cons_of_ne hc]

/-- The tags of a line are its tag and those of what follows. -/
theorem tagsFrom_line {r : TaggedRule} (h : r.Quotable) (cs : List Char) :
    tagsFrom 0 (r.line.toList ++ cs) =
      (r.name.toList, r.text.pattern.toList) :: tagsFrom 0 cs := by
  have hline : r.line.toList ++ cs =
      ("<meta name=\"" ++ r.name ++ "\" content=\"" ++ r.text.pattern ++ "\"").toList ++
        '>' :: '\n' :: cs := by
    simp [line]
  rw [tagsFrom_of_tag (tag?_line h cs) (by simp) hline, tagsFrom_cons_of_ne (by decide),
    tagsFrom_cons_of_ne (by decide)]

/-- Reading a page of quotable rules finds their tags, in order. -/
theorem tags_page {rs : List TaggedRule} (h : ∀ r ∈ rs, r.Quotable) :
    (parse (page rs)).tags = rs.map fun r => (r.name, r.text.pattern) := by
  have htags : tagsFrom 0 (rs.flatMap fun r => r.line.toList) =
      rs.map fun r => (r.name.toList, r.text.pattern.toList) := by
    induction rs with
    | nil => rfl
    | cons r rs ih =>
      rw [List.flatMap_cons, tagsFrom_line (h r List.mem_cons_self),
        ih fun s hs => h s (List.mem_cons_of_mem r hs), List.map_cons]
  unfold parse page
  rw [String.toList_ofList, htags, List.map_map]
  refine List.map_congr_left fun r _ => ?_
  simp

/-! ## Rules -/

/-- A tag gives a rule of its kind, with the replacement up to its first bar. -/
theorem rule?_name (k : RuleKind) (r : TaggedRule) :
    rule? k.name (r.name, r.text.pattern) =
      if r.kind = k then some r.cutAtBar.text else none := by
  have hbar : '|' ∉ r.kind.name.toList := by
    cases r.kind <;> decide
  obtain ⟨p, ps, hp⟩ :=
    List.exists_cons_of_ne_nil (Text.pieces_ne_nil '|' r.text.replacement.toList)
  have hfirst : p = r.text.replacement.toList.takeWhile (· ≠ '|') := by
    have hhead := Text.head?_pieces '|' r.text.replacement.toList
    rw [hp] at hhead
    exact Option.some.inj hhead
  have hsplit : Text.split '|' r.name = r.kind.name :: String.ofList p :: ps.map String.ofList := by
    have hname : r.name.toList = r.kind.name.toList ++ '|' :: r.text.replacement.toList := by
      simp [TaggedRule.name]
    rw [Text.split, hname, Text.pieces_append_cons, Text.pieces_of_not_mem hbar, hp]
    simp
  have hkind : r.kind.name = k.name ↔ r.kind = k := by
    cases r.kind <;> cases k <;> decide
  rw [rule?, hsplit]
  dsimp only
  rw [hfirst]
  exact if_congr hkind rfl rfl

/-- The rules of a kind that are read from a page are those written, each cut at a bar. -/
theorem filterMap_rule?_page {rs : List TaggedRule} (h : ∀ r ∈ rs, r.Quotable) (k : RuleKind) :
    (parse (page rs)).tags.filterMap (rule? k.name) = ofKind k (rs.map cutAtBar) := by
  rw [tags_page h, List.filterMap_map, ofKind_map_cutAtBar]
  clear h
  induction rs with
  | nil => rfl
  | cons r rs ih =>
    by_cases hk : r.kind = k
    · rw [List.filterMap_cons_some (by rw [Function.comp, rule?_name, if_pos hk]),
        List.filter_cons_of_pos (by simpa using hk), List.map_cons, ih]
    · rw [List.filterMap_cons_none (by rw [Function.comp, rule?_name, if_neg hk]),
        List.filter_cons_of_neg (by simpa using hk), ih]

/-! ## Entries -/

/-- The content of a name is that of the last tag with the name. -/
theorem content?_eq_some_iff {m : Meta} {name content : String} :
    m.content? name = some content ↔
      ∃ before after, m.tags = before ++ (name, content) :: after ∧ ∀ t ∈ after, t.1 ≠ name := by
  unfold content?
  rw [Option.map_eq_some_iff]
  -- The tags are searched from the last one on.
  constructor
  · rintro ⟨⟨n, c⟩, hfind, rfl⟩
    obtain ⟨hn, after, before, htags, hafter⟩ := List.find?_eq_some_iff_append.1 hfind
    obtain rfl : n = name := by simpa using hn
    refine ⟨before.reverse, after.reverse, ?_, fun t ht => ?_⟩
    · rw [← List.reverse_reverse m.tags, htags]
      simp
    · simpa using hafter t (List.mem_reverse.1 ht)
  · rintro ⟨before, after, htags, hafter⟩
    refine ⟨(name, content), List.find?_eq_some_iff_append.2 ⟨by simp, ?_⟩, rfl⟩
    refine ⟨after.reverse, before.reverse, ?_, fun t ht => ?_⟩
    · rw [htags]
      simp
    · simpa using hafter t (List.mem_reverse.1 ht)

/-- The entries are the names with their contents. -/
theorem mem_entries_iff {m : Meta} {name content : String} :
    (name, content) ∈ m.entries ↔ m.content? name = some content := by
  unfold entries
  simp only [List.mem_filterMap, Text.mem_distinct, List.mem_mergeSort, List.mem_map,
    Option.map_eq_some_iff, Prod.mk.injEq]
  constructor
  · rintro ⟨n, -, c, hc, rfl, rfl⟩
    exact hc
  · intro h
    obtain ⟨before, after, htags, -⟩ := content?_eq_some_iff.1 h
    refine ⟨name, ⟨(name, content), ?_, rfl⟩, content, h, rfl, rfl⟩
    rw [htags]
    simp

/-- The names of the entries are in increasing order, each once. -/
theorem sorted_entries (m : Meta) : (m.entries.map Prod.fst).Pairwise (· < ·) := by
  have hsorted := Text.sorted_distinct (Text.pairwise_le_mergeSort (m.tags.map Prod.fst))
  refine List.pairwise_map.2 (List.pairwise_filterMap.2 (hsorted.imp ?_))
  intro a b hab x hx y hy
  obtain ⟨c, -, rfl⟩ := Option.map_eq_some_iff.1 hx
  obtain ⟨d, -, rfl⟩ := Option.map_eq_some_iff.1 hy
  exact hab

/-! ## Reading back -/

/-- A page of rules whose texts hold no quotation marks gives back its rules of both kinds, in
order, exactly if no replacement holds a bar; in any case it gives back what stands before the bars.
Its entries have each name once, with the pattern of the last rule of that name. -/
theorem parse_page_iff {rs : List TaggedRule} (h : ∀ r ∈ rs, r.Quotable) :
    let m := parse (page rs)
    (m.redirect = ofKind .redirect rs ∧ m.replace = ofKind .replace rs ↔
        ∀ r ∈ rs, '|' ∉ r.text.replacement.toList) ∧
      m.redirect = ofKind .redirect (rs.map cutAtBar) ∧
      m.replace = ofKind .replace (rs.map cutAtBar) ∧
      (m.entries.map Prod.fst).Pairwise (· < ·) ∧
      ∀ name content, (name, content) ∈ m.entries ↔
        ∃ before r after, rs = before ++ r :: after ∧ r.name = name ∧ r.text.pattern = content ∧
          ∀ s ∈ after, s.name ≠ name := by
  intro m
  have hredirect : m.redirect = ofKind .redirect (rs.map cutAtBar) :=
    filterMap_rule?_page h .redirect
  have hreplace : m.replace = ofKind .replace (rs.map cutAtBar) :=
    filterMap_rule?_page h .replace
  refine ⟨?_, hredirect, hreplace, sorted_entries m, fun name content => ?_⟩
  · rw [hredirect, hreplace, ← ofKind_cutAtBar_iff]
    constructor
    · rintro ⟨hd, hp⟩ k
      cases k with
      | redirect => exact hd
      | replace => exact hp
    · exact fun hk => ⟨hk .redirect, hk .replace⟩
  · rw [mem_entries_iff, content?_eq_some_iff, tags_page h]
    constructor
    · rintro ⟨before, after, htags, hafter⟩
      obtain ⟨rs₁, rs₂, rfl, rfl, hrest⟩ := List.map_eq_append_iff.1 htags
      obtain ⟨r, rs₃, rfl, hr, rfl⟩ := List.map_eq_cons_iff.1 hrest
      obtain ⟨hname, hcontent⟩ := Prod.mk.inj hr
      exact ⟨rs₁, r, rs₃, rfl, hname, hcontent, fun s hs => hafter _ (List.mem_map_of_mem hs)⟩
    · rintro ⟨before, r, after, rfl, rfl, rfl, hafter⟩
      exact ⟨_, _, List.map_append, List.forall_mem_map.2 hafter⟩

/-- Two rules of one name, with a tag's own beginning and end among their texts: both come back, and
the entry of the name has the second pattern. -/
theorem parse_page_repeated :
    let r : TaggedRule := ⟨.replace, ⟨"<meta name=x>\n", "a>b"⟩⟩
    let s : TaggedRule := ⟨.replace, ⟨"", "a>b"⟩⟩
    (∀ t ∈ [r, s], t.Quotable) ∧ (parse (page [r, s])).redirect = [] ∧
      (parse (page [r, s])).replace = [r.text, s.text] ∧
      ("replace|a>b", "") ∈ (parse (page [r, s])).entries := by
  intro r s
  have hquotable : ∀ t ∈ [r, s], t.Quotable := by
    unfold TaggedRule.Quotable
    decide
  have hbar : ∀ t ∈ [r, s], '|' ∉ t.text.replacement.toList := by decide
  obtain ⟨hiff, -, -, -, hentries⟩ := parse_page_iff hquotable
  obtain ⟨hredirect, hreplace⟩ := hiff.2 hbar
  refine ⟨hquotable, hredirect, hreplace, (hentries _ _).2 ⟨[r], s, [], rfl, ?_, rfl, by simp⟩⟩
  decide

/-- What stands behind a bar of a replacement is lost: the rule that is read leads elsewhere. -/
theorem bar_cuts_replacement :
    let r : TaggedRule := ⟨.redirect, ⟨"old", "new|er"⟩⟩
    r.Quotable ∧ (parse (page [r])).redirect = [⟨"old", "new"⟩] ∧
      (parse (page [r])).redirect ≠ ofKind .redirect [r] := by
  unfold Quotable
  decide +kernel

end Meta

end BrowserShell
