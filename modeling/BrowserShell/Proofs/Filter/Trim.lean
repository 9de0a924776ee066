import BrowserShell.Filter
import BrowserShell.Proofs.Text.Split
import Mathlib.Data.List.DropRight
import Mathlib.Data.List.TakeWhile

/-!
# Trimmed bodies

Trimming takes the blanks off both ends of a body and leaves those inside. What is left is the one
part of the body that has only blanks before and behind it and none at its own ends
(`Around.eq_trim`). It is also what two searches cut out, one for the first byte that is no blank
and one, from the back, for the last: whether or not they find a byte, they give positions in order
and inside the body, so that there always is something to cut out (`slice?_kept`).
-/

namespace BrowserShell.Filter

/-- Whether a body begins or ends with a blank. -/
def BlankAround (body : Bytes) : Prop :=
  ∃ b, isBlank b = true ∧ (body.head? = some b ∨ body.getLast? = some b)

/-- Whether a text has nothing but the four blanks: the two ends of a line, the tabulator and the
space. -/
def Blank (text : Bytes) : Prop := ∀ b ∈ text, b ∈ [(0x0D : UInt8), 0x0A, 0x09, 0x20]

/-- Whether a body falls into a middle part and what stands around it, which is only blanks, while
the middle part is empty or begins and ends with another byte. -/
structure Around (body before kept after : Bytes) : Prop where
  /-- The parts make up the body. -/
  body_eq : body = before ++ kept ++ after
  /-- There are only blanks before the middle part. -/
  before_blank : Blank before
  /-- There are only blanks behind it. -/
  after_blank : Blank after
  /-- There are none at its own ends. -/
  kept_bare : ¬ BlankAround kept

/-- The bytes from one position up to another, none if the positions are out of order or behind the
end. -/
def slice? (body : Bytes) (start stop : Nat) : Option Bytes :=
  if start ≤ stop ∧ stop ≤ body.length then some ((body.take stop).drop start) else none

/-- Where the first byte is that is no blank, and the end of the body where there is none. -/
def keptStart (body : Bytes) : Nat := (body.findIdx? (!isBlank ·)).getD body.length

/-- Where the last byte ends that is no blank, and `keptStart` where there is none. The search from
the back counts the blanks that it passes. -/
def keptStop (body : Bytes) : Nat :=
  match body.reverse.findIdx? (!isBlank ·) with
  | some passed => body.length - 1 - passed + 1
  | none => keptStart body

variable {body before kept after : Bytes}

/-! ## Blanks -/

/-- The blanks are the bytes that are dropped. -/
theorem isBlank_iff {b : UInt8} : isBlank b = true ↔ b ∈ [(0x0D : UInt8), 0x0A, 0x09, 0x20] := by
  simp [isBlank, or_assoc]

/-- A text of blanks has nothing that is not dropped. -/
theorem blank_iff {text : Bytes} : Blank text ↔ ∀ b ∈ text, isBlank b = true := by
  simp only [Blank, isBlank_iff]

/-- Blanks from the back are blanks. -/
theorem Blank.reverse {text : Bytes} (h : Blank text) : Blank text.reverse :=
  fun b hb => h b (List.mem_reverse.1 hb)

/-- There is no blank at the beginning of a text that has none around it. -/
theorem head?_of_not_blankAround (h : ¬ BlankAround body) : ∀ b ∈ body.head?, isBlank b = false := by
  intro b hb
  by_contra hblank
  exact h ⟨b, by simpa using hblank, Or.inl hb⟩

/-- There is no blank at the end of a text that has none around it. -/
theorem getLast?_of_not_blankAround (h : ¬ BlankAround body) :
    ∀ b ∈ body.getLast?, isBlank b = false := by
  intro b hb
  by_contra hblank
  exact h ⟨b, by simpa using hblank, Or.inr hb⟩

/-- There are no blanks around nothing. -/
theorem not_blankAround_nil : ¬ BlankAround [] := by
  rintro ⟨b, -, h | h⟩
  · cases h
  · cases h

/-- A text of blanks has blanks around it, if it has any. -/
theorem eq_nil_of_blank {text : Bytes} (h : Blank text) (hbare : ¬ BlankAround text) :
    text = [] := by
  by_contra hne
  obtain ⟨b, rest, rfl⟩ := List.exists_cons_of_ne_nil hne
  have hb : isBlank b = true := blank_iff.1 h b List.mem_cons_self
  exact hbare ⟨b, hb, Or.inl rfl⟩

/-! ## What trimming leaves -/

/-- Trimming drops blanks at the beginning and then at the end. -/
theorem trim_eq (body : Bytes) : trim body = (body.dropWhile isBlank).rdropWhile isBlank := rfl

/-- A trimmed body is a part of the body. -/
theorem trim_isInfix (body : Bytes) : trim body <:+: body := by
  rw [trim_eq]
  exact (List.rdropWhile_prefix _ _).isInfix.trans (List.dropWhile_suffix _).isInfix

/-- A trimmed body is no longer than the body. -/
theorem length_trim_le (body : Bytes) : (trim body).length ≤ body.length :=
  (trim_isInfix body).length_le

/-- A trimmed body has no blanks around it. -/
theorem not_blankAround_trim (body : Bytes) : ¬ BlankAround (trim body) := by
  rintro ⟨b, hb, hhead | hlast⟩
  · obtain ⟨after, hafter⟩ := List.rdropWhile_prefix isBlank (body.dropWhile isBlank)
    -- It begins with the byte at which the first step stopped.
    have hfirst : (body.dropWhile isBlank).head? = some b := by
      rw [← hafter, ← trim_eq, List.head?_append, hhead]
      rfl
    have hnot := List.head?_dropWhile_not isBlank body
    rw [hfirst] at hnot
    simp [hb] at hnot
  · obtain ⟨hne, rfl⟩ := List.mem_getLast?_eq_getLast hlast
    exact List.rdropWhile_last_not isBlank _ hne hb

/-- A body falls into what trimming leaves of it and blanks. -/
theorem around_trim (body : Bytes) : ∃ before after, Around body before (trim body) after := by
  refine ⟨body.takeWhile isBlank, (body.dropWhile isBlank).rtakeWhile isBlank, ?_, ?_, ?_,
    not_blankAround_trim body⟩
  · calc body = body.takeWhile isBlank ++ body.dropWhile isBlank :=
          List.takeWhile_append_dropWhile.symm
      _ = body.takeWhile isBlank ++
            (trim body ++ (body.dropWhile isBlank).rtakeWhile isBlank) := by
          rw [trim_eq, List.rdropWhile_append_rtakeWhile]
      _ = _ := (List.append_assoc _ _ _).symm
  · exact blank_iff.2 fun b hb => List.mem_takeWhile_imp hb
  · exact blank_iff.2 fun b hb => List.mem_rtakeWhile_imp hb

/-- A body whose middle part is empty has nothing but blanks. -/
theorem Around.blank (h : Around body before [] after) : Blank body := by
  intro b hb
  rw [h.body_eq, List.append_nil, List.mem_append] at hb
  exact hb.elim (h.before_blank b) (h.after_blank b)

/-- A middle part with only blanks around it is what trimming leaves. -/
theorem Around.eq_trim (h : Around body before kept after) : kept = trim body := by
  by_cases hne : kept = []
  · subst hne
    -- The first step has dropped everything.
    rw [trim_eq, List.dropWhile_eq_nil_iff.2 (blank_iff.1 h.blank)]
    rfl
  · have hhead : ∀ b ∈ (kept ++ after).head?, isBlank b = false := by
      rw [List.head?_append_of_ne_nil _ hne]
      exact head?_of_not_blankAround h.kept_bare
    have hstart : body.dropWhile isBlank = kept ++ after := by
      rw [h.body_eq, List.append_assoc,
        Text.dropWhile_append_of_head? (blank_iff.1 h.before_blank) hhead]
    have hlast : ∀ b ∈ kept.reverse.head?, isBlank b = false := by
      rw [List.head?_reverse]
      exact getLast?_of_not_blankAround h.kept_bare
    have hend : (kept ++ after).rdropWhile isBlank = kept := by
      rw [List.rdropWhile, List.reverse_append,
        Text.dropWhile_append_of_head? (blank_iff.1 h.after_blank.reverse) hlast,
        List.reverse_reverse]
    rw [trim_eq, hstart, hend]

/-- Nothing is trimmed off a body exactly if there are no blanks around it. -/
theorem trim_eq_self_iff (body : Bytes) : trim body = body ↔ ¬ BlankAround body := by
  constructor
  · intro h
    rw [← h]
    exact not_blankAround_trim body
  · intro h
    have hnone : Blank [] := fun b hb => absurd hb List.not_mem_nil
    have haround : Around body [] body [] := ⟨by simp, hnone, hnone, h⟩
    exact haround.eq_trim.symm

/-- Nothing is left exactly of a body of blanks. -/
theorem trim_eq_nil_iff (body : Bytes) : trim body = [] ↔ Blank body := by
  constructor
  · intro h
    obtain ⟨before, after, haround⟩ := around_trim body
    rw [h] at haround
    exact haround.blank
  · intro h
    refine eq_nil_of_blank (fun b hb => h b ?_) (not_blankAround_trim body)
    exact (trim_isInfix body).subset hb

/-! ## Cutting the rest out by its positions -/

/-- Among blanks alone a search finds nothing. -/
theorem findIdx?_of_blank {run : Bytes} (h : Blank run) : run.findIdx? (!isBlank ·) = none := by
  rw [List.findIdx?_eq_none_iff]
  intro b hb
  simp [blank_iff.1 h b hb]

/-- A search passes the blanks in front of another byte. -/
theorem findIdx?_behind {run rest : Bytes} {b : UInt8} (hrun : Blank run)
    (hb : isBlank b = false) : (run ++ b :: rest).findIdx? (!isBlank ·) = some run.length := by
  rw [List.findIdx?_append, findIdx?_of_blank hrun, List.findIdx?_cons]
  simp [hb]

/-- In a body of blanks both positions are the end. -/
theorem positions_of_blank (h : Blank body) :
    keptStart body = body.length ∧ keptStop body = body.length := by
  have hstart : keptStart body = body.length := by
    rw [keptStart, findIdx?_of_blank h]
    rfl
  refine ⟨hstart, ?_⟩
  rw [keptStop, findIdx?_of_blank h.reverse]
  exact hstart

/-- In any other body they are where the middle part begins and where it ends. -/
theorem Around.positions (h : Around body before kept after) (hne : kept ≠ []) :
    keptStart body = before.length ∧ keptStop body = before.length + kept.length := by
  constructor
  · obtain ⟨b, rest, rfl⟩ := List.exists_cons_of_ne_nil hne
    have hb : isBlank b = false := head?_of_not_blankAround h.kept_bare b rfl
    rw [keptStart, h.body_eq, List.append_assoc, List.cons_append,
      findIdx?_behind h.before_blank hb]
    rfl
  · obtain ⟨rest, b, rfl⟩ := (List.eq_nil_or_concat kept).resolve_left hne
    have hb : isBlank b = false := getLast?_of_not_blankAround h.kept_bare b (by simp)
    have hreverse : body.reverse = after.reverse ++ b :: (before ++ rest).reverse := by
      simp [h.body_eq]
    have hlength : body.length = before.length + (rest.length + 1) + after.length := by
      simp only [h.body_eq, List.length_append, List.length_concat]
    rw [keptStop, hreverse, findIdx?_behind h.after_blank.reverse hb, List.length_reverse,
      List.length_concat]
    show body.length - 1 - after.length + 1 = before.length + (rest.length + 1)
    omega

/-- The middle of three parts is cut out where the first ends and the last begins. -/
theorem slice?_append (before kept after : Bytes) :
    slice? (before ++ kept ++ after) before.length (before.length + kept.length) = some kept := by
  have htake : (before ++ kept ++ after).take (before.length + kept.length) = before ++ kept := by
    rw [← List.length_append, List.take_left]
  rw [slice?, if_pos ⟨by omega, by simp only [List.length_append]; omega⟩, htake, List.drop_left]

/-- What is cut out between the positions is the trimmed body: they always lie in order and inside
the body. -/
theorem slice?_kept (body : Bytes) :
    slice? body (keptStart body) (keptStop body) = some (trim body) := by
  obtain ⟨before, after, haround⟩ := around_trim body
  by_cases hnil : trim body = []
  · obtain ⟨hstart, hstop⟩ := positions_of_blank ((trim_eq_nil_iff body).1 hnil)
    rw [hstart, hstop, slice?, if_pos ⟨le_refl _, le_refl _⟩, hnil, List.take_length,
      List.drop_length]
  · obtain ⟨hstart, hstop⟩ := haround.positions hnil
    have hslice := slice?_append before (trim body) after
    rw [← haround.body_eq] at hslice
    rw [hstart, hstop, hslice]

/-- A middle part that is not empty has one place in the body. -/
theorem Around.unique {before' after' : Bytes} (h : Around body before kept after)
    (h' : Around body before' kept after') (hne : kept ≠ []) : before' = before ∧ after' = after := by
  have hlength : before'.length = before.length := by
    rw [← (h'.positions hne).1, (h.positions hne).1]
  have happend : before' ++ (kept ++ after') = before ++ (kept ++ after) := by
    rw [← List.append_assoc, ← List.append_assoc, ← h'.body_eq, ← h.body_eq]
  obtain ⟨hbefore, hrest⟩ := List.append_inj happend hlength
  exact ⟨hbefore, List.append_cancel_left hrest⟩

/-- Trimming cuts a body between two positions, which always lie in order and inside the body, and
only blanks are cut off: the body is what is left with blanks before and behind it, and what is left
is empty or begins and ends with another byte. No other middle part has only blanks around it, and
one that is not empty has them in one way. Nothing is left exactly of blanks, and a trimmed body is
left as it is. -/
theorem trim_between_blanks (body : Bytes) :
    slice? body (keptStart body) (keptStop body) = some (trim body) ∧
      (∃ before after, Around body before (trim body) after ∧
        ∀ before' kept after', Around body before' kept after' →
          kept = trim body ∧ (kept ≠ [] → before' = before ∧ after' = after)) ∧
      (trim body = [] ↔ Blank body) ∧
      trim (trim body) = trim body := by
  obtain ⟨before, after, haround⟩ := around_trim body
  refine ⟨slice?_kept body, ⟨before, after, haround, ?_⟩, trim_eq_nil_iff body,
    (trim_eq_self_iff _).2 haround.kept_bare⟩
  intro before' kept after' haround'
  obtain rfl : kept = trim body := haround'.eq_trim
  exact ⟨rfl, haround.unique haround'⟩

/-- Two words lose the blanks around them and keep the one between them. -/
theorem trim_between_blanks_words :
    let before : Bytes := [0x20, 0x0D, 0x0A, 0x20]
    let words : Bytes := [0x61, 0x20, 0x62]
    let body := before ++ words ++ [0x09]
    Around body before words [0x09] ∧ trim body = words ∧
      slice? body (keptStart body) (keptStop body) = some words := by
  intro before words body
  have haround : Around body before words [0x09] :=
    ⟨rfl, by simp [Blank, before], by simp [Blank], (trim_eq_self_iff words).1 (by decide)⟩
  obtain ⟨hslice, ⟨_, _, -, honly⟩, -, -⟩ := trim_between_blanks body
  have htrim : words = trim body := (honly before words [0x09] haround).1
  exact ⟨haround, htrim.symm, by rw [hslice, ← htrim]⟩

end BrowserShell.Filter
