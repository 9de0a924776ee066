import BrowserShell.File.Path
import BrowserShell.Proofs.Text.Split
import Mathlib.Data.List.Basic
import Mathlib.Tactic.Tauto

/-!
# Components of joined paths

A relative path joined to a directory has the components of the directory and then its own
(`components_join`), a directory whose path is empty excepted: there the joined path is the relative
one, whose leading dot is a component of its own. A row of names joined to a directory lies below it
(`below_join`), and different rows lead to different paths (`same_join_iff`).
-/

namespace BrowserShell.Path

/-- Whether a piece of a path is a name: it is neither empty nor one or two dots. -/
def IsPlain (piece : List Char) : Prop := piece ≠ [] ∧ piece ≠ ['.'] ∧ piece ≠ ['.', '.']

/-- Whether a path is a row of names between slashes. -/
def Plain (p : Path) : Prop := ∀ piece ∈ Text.pieces '/' p.toList, IsPlain piece

/-- Whether a path lies below a directory: its components are those of the directory, and then
names. -/
def Below (base p : Path) : Prop :=
  ∃ names, names ≠ [] ∧ components p = components base ++ names.map .normal

/-- What a relative path adds to the components of a directory. -/
def steps (p : Path) : List Component := (Text.pieces '/' p.toList).filterMap component?

/-- A directory with the slash at its end that what is joined to it follows. -/
def stem (base : Path) : Path :=
  if base.toList.isEmpty ∨ base.toList.getLast? = some '/' then base else base ++ "/"

/-- The component of a name is the name. -/
theorem component?_eq {piece : List Char} (h : IsPlain piece) :
    component? piece = some (.normal piece) := by
  rw [component?, if_neg (by simp [h.1, h.2.1]), if_neg h.2.2]

/-- The steps of a row of names are the names. -/
theorem steps_of_plain {p : Path} (h : p.Plain) :
    p.steps = (Text.pieces '/' p.toList).map .normal := by
  exact List.filterMap_eq_map_iff_forall_eq_some.2 fun piece hp => component?_eq (h piece hp)

/-- A row of names does not begin with a slash. -/
theorem head?_of_plain {p : Path} (h : p.Plain) : p.toList.head? ≠ some '/' := by
  intro hs
  obtain ⟨cs, hcs⟩ : ∃ cs, p.toList = '/' :: cs := by
    cases hp : p.toList with
    | nil => simp [hp] at hs
    | cons c cs =>
      rw [hp, List.head?_cons, Option.some.injEq] at hs
      exact ⟨cs, by rw [hs]⟩
  have hnil : IsPlain [] := h [] (by rw [hcs, Text.pieces_cons_self]; exact List.mem_cons_self)
  exact hnil.1 rfl

/-- A text without slashes does not begin with one. -/
theorem head?_of_not_mem {p : Path} (h : '/' ∉ p.toList) : p.toList.head? ≠ some '/' :=
  fun hs => h (List.mem_of_mem_head? hs)

/-- A name without slashes is a row of one name. -/
theorem plain_of_isPlain {p : Path} (h : IsPlain p.toList) (hs : '/' ∉ p.toList) : p.Plain := by
  intro piece hp
  rw [Text.pieces_of_not_mem hs, List.mem_singleton] at hp
  exact hp ▸ h

/-- A row of names is not empty. -/
theorem ne_empty_of_plain {p : Path} (h : p.Plain) : p ≠ "" := by
  rintro rfl
  exact (h [] (by simp [Text.pieces])).1 rfl

/-- A relative path is joined to a directory with one slash in between, which the directory may
have brought. -/
theorem toList_join {base rest : Path} (hb : base ≠ "") (hr : rest.toList.head? ≠ some '/') :
    ∃ b, (base.join rest).toList = b ++ '/' :: rest.toList ∧
      (base.toList = b ∨ base.toList = b ++ ['/']) := by
  have hne : base.toList ≠ [] := fun h => hb (String.toList_eq_nil_iff.1 h)
  unfold join
  rw [if_neg hr]
  by_cases hs : base.toList.getLast? = some '/'
  · rw [if_pos (Or.inr hs)]
    obtain ⟨b, hbs⟩ := List.getLast?_eq_some_iff.1 hs
    exact ⟨b, by simp [String.toList_append, hbs], Or.inr hbs⟩
  · rw [if_neg (by simp [hne, hs])]
    exact ⟨base.toList, by simp [String.toList_append], Or.inl rfl⟩

/-- A directory that does not end with a slash is joined to a relative path by one. -/
theorem toList_join_of_getLast {base rest : Path} (hb : base ≠ "")
    (hl : base.toList.getLast? ≠ some '/') (hr : rest.toList.head? ≠ some '/') :
    (base.join rest).toList = base.toList ++ '/' :: rest.toList := by
  obtain ⟨b, hjoin, hbase | hbase⟩ := toList_join hb hr
  · rw [hjoin, hbase]
  · exact absurd (by rw [hbase]; simp) hl

/-- Joined to the empty path, a relative one stays as it is. -/
@[simp] theorem empty_join (rest : Path) : join "" rest = rest := by
  unfold join
  split <;> simp

/-- A relative path joined to a directory follows its stem. -/
theorem join_eq_stem (base : Path) {rest : Path} (hr : rest.toList.head? ≠ some '/') :
    base.join rest = base.stem ++ rest := by
  unfold join stem
  rw [if_neg hr]
  split
  · rfl
  · rfl

/-- Different relative paths joined to a directory are different. -/
theorem join_injective {base p q : Path} (hp : p.toList.head? ≠ some '/')
    (hq : q.toList.head? ≠ some '/') (h : base.join p = base.join q) : p = q := by
  rw [join_eq_stem base hp, join_eq_stem base hq] at h
  have hlist := congrArg String.toList h
  simp only [String.toList_append] at hlist
  exact String.toList_inj.1 (List.append_cancel_left hlist)

/-- What is joined to a directory begins as it does. -/
theorem head?_join {base rest : Path} (hb : base ≠ "") (hr : rest.toList.head? ≠ some '/') :
    (base.join rest).toList.head? = base.toList.head? := by
  obtain ⟨b, hj, hbase⟩ := toList_join hb hr
  have hne : base.toList ≠ [] := fun h => hb (String.toList_eq_nil_iff.1 h)
  rw [hj]
  rcases hbase with h | h
  · obtain ⟨c, cs, hcs⟩ := List.exists_cons_of_ne_nil (h ▸ hne)
    rw [h, hcs]
    rfl
  · rw [h]
    cases b <;> rfl

/-- What is joined to a directory is not empty. -/
theorem join_ne_empty {base rest : Path} (hb : base ≠ "") (hr : rest.toList.head? ≠ some '/') :
    base.join rest ≠ "" := by
  obtain ⟨b, hj, -⟩ := toList_join hb hr
  intro h
  rw [h] at hj
  simp at hj

/-- A joined path has the characters of its parts and a slash. -/
theorem mem_join {base rest : Path} (hb : base ≠ "") (hr : rest.toList.head? ≠ some '/')
    {a : Char} : a ∈ (base.join rest).toList ↔ a ∈ base.toList ∨ a = '/' ∨ a ∈ rest.toList := by
  obtain ⟨b, hj, hbase⟩ := toList_join hb hr
  rw [hj]
  rcases hbase with h | h
  · simp [h]
  · simp only [h, List.mem_append, List.mem_cons, List.not_mem_nil, or_false]
    tauto

/-- A joined path is no shorter than the directory. -/
theorem byteCount_le_join {base rest : Path} (hb : base ≠ "") (hr : rest.toList.head? ≠ some '/') :
    Text.byteCount base.toList ≤ Text.byteCount (base.join rest).toList := by
  obtain ⟨b, hj, hbase⟩ := toList_join hb hr
  rw [hj]
  rcases hbase with h | h
  · simp [h]
  · simp [h, Text.byteCount]

/-- The components of a relative path joined to a directory. -/
theorem components_join {base rest : Path} (hb : base ≠ "") (hr : rest.toList.head? ≠ some '/') :
    (base.join rest).components = base.components ++ rest.steps := by
  obtain ⟨b, hj, hbase⟩ := toList_join hb hr
  have hp : Text.pieces '/' (base.join rest).toList
      = Text.pieces '/' b ++ Text.pieces '/' rest.toList := by
    rw [hj, Text.pieces_append_cons]
  obtain ⟨q, qs, hq⟩ := List.exists_cons_of_ne_nil (Text.pieces_ne_nil '/' b)
  -- The slash that a directory may end with makes an empty last piece, which is no component.
  have hsteps : (Text.pieces '/' base.toList).filterMap component?
      = (Text.pieces '/' b).filterMap component? := by
    rcases hbase with h | h
    · rw [h]
    · rw [h, Text.pieces_append_cons, List.filterMap_append]
      simp [Text.pieces, component?]
  have hfirst : (Text.pieces '/' base.toList).head? = (Text.pieces '/' b).head? := by
    rcases hbase with h | h
    · rw [h]
    · rw [h, Text.pieces_append_cons, hq]
      rfl
  unfold components componentsOf steps
  rw [head?_join hb hr, hp, hsteps, hfirst, List.filterMap_append, hq, List.cons_append,
    List.head?_cons, List.head?_cons]
  by_cases ha : base.toList.head? = some '/'
  · rw [if_pos ha, if_pos ha]
    rfl
  · rw [if_neg ha, if_neg ha]
    by_cases hd : some q = some ['.']
    · rw [if_pos hd, if_pos hd]
      rfl
    · rw [if_neg hd, if_neg hd]

/-- The components of a relative path by itself are its steps, unless its first piece is a dot. -/
theorem components_eq_steps {p : Path} (hr : p.toList.head? ≠ some '/')
    (hd : (Text.pieces '/' p.toList).head? ≠ some ['.']) : p.components = p.steps := by
  unfold components componentsOf steps
  rw [if_neg hr, if_neg hd]

/-- The components of a row of names are the names. -/
theorem components_of_plain {p : Path} (h : p.Plain) :
    p.components = (Text.pieces '/' p.toList).map .normal := by
  rw [← steps_of_plain h, components_eq_steps (head?_of_plain h)]
  intro hd
  exact (h _ (List.mem_of_mem_head? hd)).2.1 rfl

/-- A row of names joined to a directory adds the names to its components. -/
theorem components_join_plain (base : Path) {rest : Path} (h : rest.Plain) :
    (base.join rest).components = base.components ++ (Text.pieces '/' rest.toList).map .normal := by
  by_cases hb : base = ""
  · subst hb
    rw [empty_join, components_of_plain h]
    rfl
  · rw [← steps_of_plain h]
    exact components_join hb (head?_of_plain h)

/-- Rows of names joined to a directory are the same path exactly if they are the same text. -/
theorem same_join_iff {p q : Path} (hp : p.Plain) (hq : q.Plain) (base : Path) :
    (base.join p).same (base.join q) ↔ p = q := by
  rw [same, beq_iff_eq, components_join_plain base hp, components_join_plain base hq]
  constructor
  · intro h
    have hnames := List.append_cancel_left h
    have hpieces : Text.pieces '/' p.toList = Text.pieces '/' q.toList :=
      List.map_injective_iff.2 (fun _ _ => Component.normal.inj) hnames
    exact String.toList_inj.1 (Text.pieces_injective hpieces)
  · rintro rfl
    rfl

/-- Pieces that stand for the same component are the same, empty ones aside. -/
theorem component?_injective {p q : List Char} (hp : p ≠ []) (hq : q ≠ [])
    (h : component? p = component? q) : p = q := by
  unfold component? at h
  split_ifs at h with hpd hqd hqu hpu hqd hqu hqd hqu
  · exact (hpd.resolve_left hp).trans (hqd.resolve_left hq).symm
  · exact hpu.trans hqu.symm
  · cases h
  · cases h
  · exact Component.normal.inj (Option.some.inj h)

/-- No piece stands for a dot at the beginning. -/
theorem component?_ne_here (p : List Char) : component? p ≠ some .here := by
  unfold component?
  split_ifs <;> simp

/-- The components of a directory with one more piece: a dot is one behind an empty path only. -/
theorem components_join_piece (base : Path) {piece : Path} (hs : '/' ∉ piece.toList) :
    (base.join piece).components =
      if base = "" ∧ piece = "." then [.here]
      else base.components ++ (component? piece.toList).toList := by
  have hr : piece.toList.head? ≠ some '/' := head?_of_not_mem hs
  have hsteps : piece.steps = (component? piece.toList).toList := by
    unfold steps
    rw [Text.pieces_of_not_mem hs]
    cases hc : component? piece.toList <;> simp [hc]
  by_cases hb : base = ""
  · subst hb
    rw [empty_join]
    by_cases hd : piece = "."
    · subst hd
      rfl
    · rw [if_neg (by simp [hd]), components_eq_steps hr, hsteps]
      · rfl
      · rw [Text.pieces_of_not_mem hs]
        exact fun h => hd (String.toList_inj.1 (Option.some.inj h))
  · rw [if_neg (by simp [hb]), components_join hb hr, hsteps]

/-- Different pieces joined to a directory have different components. -/
theorem components_join_piece_injective {base a b : Path} (ha : a ≠ "") (has : '/' ∉ a.toList)
    (hb : b ≠ "") (hbs : '/' ∉ b.toList)
    (h : (base.join a).components = (base.join b).components) : a = b := by
  have hempty : components "" = [] := rfl
  -- Where one of the two is a dot behind the empty path, the other would have to give the same
  -- component by itself, which no piece does.
  have hhere : ∀ p : Path, (component? p.toList).toList ≠ [.here] := by
    intro p hp
    cases hc : component? p.toList with
    | none => simp [hc] at hp
    | some c =>
      rw [hc] at hp
      exact component?_ne_here _ (hc.trans (congrArg some (List.cons.inj hp).1))
  rw [components_join_piece base has, components_join_piece base hbs] at h
  split_ifs at h with hda hdb hdb
  · exact hda.2.trans hdb.2.symm
  · rw [hda.1, hempty] at h
    exact absurd h.symm (hhere b)
  · rw [hdb.1, hempty] at h
    exact absurd h (hhere a)
  · have hpiece : component? a.toList = component? b.toList := by
      simpa using congrArg List.head? (List.append_cancel_left h)
    refine String.toList_inj.1 (component?_injective ?_ ?_ hpiece)
    · simpa using ha
    · simpa using hb

/-- A row of names joined to a directory lies below it. -/
theorem below_join (base : Path) {rest : Path} (h : rest.Plain) : Below base (base.join rest) :=
  ⟨Text.pieces '/' rest.toList, Text.pieces_ne_nil _ _, components_join_plain base h⟩

/-- The steps of a row of names behind a dot are the names. -/
theorem steps_dot {rest : Path} : steps ("./" ++ rest) = rest.steps := by
  simp [steps, String.toList_append, Text.pieces, component?]

/-- A row of names behind a dot, joined to a directory with a path, lies below it. -/
theorem below_join_dot {base rest : Path} (hb : base ≠ "") (h : rest.Plain) :
    Below base (base.join ("./" ++ rest)) := by
  refine ⟨Text.pieces '/' rest.toList, Text.pieces_ne_nil _ _, ?_⟩
  rw [components_join hb (by simp [String.toList_append]), steps_dot, steps_of_plain h]

/-- A row of names behind a dot has the dot as a component. -/
theorem components_dot {rest : Path} (h : rest.Plain) :
    components ("./" ++ rest) = .here :: (Text.pieces '/' rest.toList).map .normal := by
  rw [← steps_of_plain h, ← steps_dot]
  unfold components componentsOf
  rw [if_neg (by simp [String.toList_append]), if_pos (by simp [String.toList_append, Text.pieces])]
  rfl

/-- A row of names behind a dot does not lie below the directory whose path is empty. -/
theorem not_below_dot {rest : Path} (h : rest.Plain) : ¬ Below "" ("./" ++ rest) := by
  rintro ⟨names, hne, hc⟩
  rw [components_dot h] at hc
  obtain ⟨n, ns, rfl⟩ := List.exists_cons_of_ne_nil hne
  simp [components, componentsOf, Text.pieces, component?] at hc

end BrowserShell.Path
