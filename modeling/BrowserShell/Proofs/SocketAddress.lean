import BrowserShell.SocketAddress

/-!
# The characters of socket addresses

A socket address is read from its beginning to its end by readers that each take some characters and
leave the rest. None of them takes a slash, a question mark or a number sign, so that no address
holds one (`plain_of_isValid`): behind two slashes it is an authority, and what follows it is not.
-/

namespace BrowserShell.SocketAddress

/-- Whether a character cannot end the authority of a URL. -/
def Plain (c : Char) : Prop := c ≠ '/' ∧ c ≠ '?' ∧ c ≠ '#'

instance (c : Char) : Decidable (Plain c) := inferInstanceAs (Decidable (_ ∧ _))

/-- Whether `rest` is what is left of a text behind plain characters. -/
def Leaves (cs rest : List Char) : Prop := ∃ read, cs = read ++ rest ∧ ∀ c ∈ read, Plain c

theorem Leaves.refl (cs : List Char) : Leaves cs cs := ⟨[], rfl, by simp⟩

theorem Leaves.cons {c : Char} {cs rest : List Char} (hc : Plain c) (h : Leaves cs rest) :
    Leaves (c :: cs) rest := by
  obtain ⟨read, rfl, hread⟩ := h
  exact ⟨c :: read, rfl, List.forall_mem_cons.2 ⟨hc, hread⟩⟩

theorem Leaves.trans {cs ds rest : List Char} (h : Leaves cs ds) (h' : Leaves ds rest) :
    Leaves cs rest := by
  obtain ⟨read, rfl, hread⟩ := h
  obtain ⟨read', rfl, hread'⟩ := h'
  refine ⟨read ++ read', (List.append_assoc _ _ _).symm, fun c hc => ?_⟩
  exact (List.mem_append.1 hc).elim (hread c) (hread' c)

/-- A digit is plain. -/
theorem plain_of_value? {base : Nat} {c : Char} (h : (digits.value? c).any (· < base) = true) :
    Plain c := by
  have hnone : ∀ d, digits.value? d = none → c ≠ d := by
    rintro d hd rfl
    rw [hd] at h
    cases h
  exact ⟨hnone '/' (by decide), hnone '?' (by decide), hnone '#' (by decide)⟩

/-- A number takes digits. -/
theorem leaves_of_number? {base bound n : Nat} {most : Option Nat} {zeros : Bool}
    {cs rest : List Char} (h : number? base most bound zeros cs = some (n, rest)) :
    Leaves cs rest := by
  have hdigits : Leaves cs (digits base cs).2 := by
    refine ⟨cs.takeWhile fun c => (digits.value? c).any (· < base),
      List.takeWhile_append_dropWhile.symm, fun c hc => ?_⟩
    exact plain_of_value? (List.all_eq_true.1 List.all_takeWhile c hc)
  unfold number? at h
  dsimp only at h
  split at h
  · cases h
  · cases h
    exact hdigits

/-- A version 4 address takes numbers and dots. -/
theorem leaves_of_ipv4? {cs rest : List Char} (h : ipv4? cs = some rest) : Leaves cs rest := by
  have hdot : Plain '.' := by decide
  unfold ipv4? at h
  obtain ⟨⟨_, cs₁⟩, h₁, h⟩ := Option.bind_eq_some_iff.1 h
  dsimp only at h
  split at h
  · rename_i cs₂
    obtain ⟨⟨_, cs₃⟩, h₂, h⟩ := Option.bind_eq_some_iff.1 h
    dsimp only at h
    split at h
    · rename_i cs₄
      obtain ⟨⟨_, cs₅⟩, h₃, h⟩ := Option.bind_eq_some_iff.1 h
      dsimp only at h
      split at h
      · rename_i cs₆
        obtain ⟨⟨_, cs₇⟩, h₄, h⟩ := Option.bind_eq_some_iff.1 h
        cases h
        have hfourth := leaves_of_number? h₄
        have hthird := (leaves_of_number? h₃).trans (hfourth.cons hdot)
        have hsecond := (leaves_of_number? h₂).trans (hthird.cons hdot)
        exact (leaves_of_number? h₁).trans (hsecond.cons hdot)
      · cases h
    · cases h
  · cases h

/-- The groups of a version 6 address take numbers, dots and colons. -/
theorem leaves_groups (first : Bool) (limit : Nat) (cs : List Char) :
    Leaves cs (groups first limit cs).2.1 := by
  induction limit generalizing first cs with
  | zero => exact .refl cs
  | succ limit ih =>
    unfold groups
    dsimp only
    split
    · exact .refl cs
    · rename_i text hstart
      have htext : Leaves cs text := by
        split at hstart
        · cases hstart
          exact .refl cs
        · split at hstart
          · cases hstart
            exact (Leaves.refl text).cons (by decide)
          · cases hstart
      split
      · rename_i rest hv4
        split at hv4
        · exact htext.trans (leaves_of_ipv4? hv4)
        · cases hv4
      · split
        · exact .refl cs
        · rename_i n rest hnumber
          exact (htext.trans (leaves_of_number? hnumber)).trans (ih false rest)

/-- A version 6 address takes groups, and two colons between them. -/
theorem leaves_of_ipv6? {cs rest : List Char} (h : ipv6? cs = some rest) : Leaves cs rest := by
  have hcolon : Plain ':' := by decide
  have hgroups := leaves_groups true 8 cs
  unfold ipv6? at h
  generalize groups true 8 cs = read at hgroups h
  obtain ⟨n, left, isV4⟩ := read
  dsimp only at hgroups h
  split at h
  · cases h
    exact hgroups
  · split at h
    · cases h
    · split at h
      · cases h
        exact hgroups.trans (((leaves_groups true _ _).cons hcolon).cons hcolon)
      · cases h

/-- A port takes a colon and a number. -/
theorem leaves_of_port? {cs rest : List Char} (h : port? cs = some rest) : Leaves cs rest := by
  unfold port? at h
  split at h
  · obtain ⟨⟨n, left⟩, hnumber, rfl⟩ := Option.map_eq_some_iff.1 h
    exact (leaves_of_number? hnumber).cons (by decide)
  · cases h

/-- A scope takes a percent sign and a number. -/
theorem leaves_scope (cs : List Char) : Leaves cs (scope cs) := by
  unfold scope
  split
  · rename_i rest
    cases hnumber : number? 10 none 0x100000000 true rest with
    | none => exact .refl _
    | some read => exact (leaves_of_number? (n := read.1) hnumber).cons (by decide)
  · exact .refl _

/-- A socket address holds plain characters only. -/
theorem plain_of_isValid {s : String} (h : isValid s = true) : ∀ c ∈ s.toList, Plain c := by
  have hall : Leaves s.toList [] → ∀ c ∈ s.toList, Plain c := by
    rintro ⟨read, hread, hplain⟩
    rw [hread, List.append_nil]
    exact hplain
  unfold isValid at h
  dsimp only at h
  rcases Bool.or_eq_true_iff.1 h with h | h
  · obtain ⟨rest, hv4, hport⟩ := Option.bind_eq_some_iff.1 (eq_of_beq h)
    exact hall ((leaves_of_ipv4? hv4).trans (leaves_of_port? hport))
  · have h := eq_of_beq h
    -- Between brackets stand an address and its scope; a port may follow.
    split at h
    · rename_i cs hcs
      obtain ⟨rest, hv6, h⟩ := Option.bind_eq_some_iff.1 h
      split at h
      · rename_i left hscope
        have hleft : Leaves rest left :=
          (hscope ▸ leaves_scope rest).trans ((Leaves.refl left).cons (by decide))
        have htail := ((leaves_of_ipv6? hv6).trans hleft).trans (leaves_of_port? h)
        rw [hcs] at hall ⊢
        exact hall (htail.cons (by decide))
      · cases h
    · cases h

end BrowserShell.SocketAddress
