import BrowserShell.Proofs.Result
import BrowserShell.Proofs.Text.Split
import BrowserShell.Url.Parser
import Mathlib.Data.List.Basic

/-!
# The characters of hosts

No host that is read in a URL is empty or holds a slash, and a colon stands in a host in brackets
only (`Url.proper_of_readHost`, `Host.render_cases`). For each kind of host the reason is another: a
character that may not occur makes a domain name or an opaque host be refused, percent encoding and
Punycode write letters, digits, hyphens and percent signs, and addresses are written with digits.
-/

namespace BrowserShell

/-- Whether characters may stand in a host without brackets: they are no slashes and no colons,
which would end it. -/
def Host.Clean (cs : List Char) : Prop := ∀ c ∈ cs, c ≠ '/' ∧ c ≠ ':'

/-- Whether a host that is a name is clean. -/
def Host.Sound : Host → Prop
  | .name s => Host.Clean s.toList
  | _ => True

/-- Whether a host is one that a URL can have: it is sound and not empty. -/
def Host.Proper (h : Host) : Prop := h.Sound ∧ h ≠ .name ""

namespace Host

theorem Clean.append {a b : List Char} (ha : Clean a) (hb : Clean b) : Clean (a ++ b) :=
  fun c hc => (List.mem_append.1 hc).elim (ha c) (hb c)

theorem Clean.subset {a b : List Char} (hb : Clean b) (h : a ⊆ b) : Clean a :=
  fun c hc => hb c (h hc)

/-- Clean pieces with dots between them are clean. -/
theorem clean_joined {ps : List (List Char)} (h : ∀ p ∈ ps, Clean p) :
    Clean (Text.joined '.' ps) := by
  intro c hc
  rcases Text.mem_joined hc with rfl | ⟨p, hp, hcp⟩
  · decide
  · exact h p hp c hcp

/-- Decimal digits are clean. -/
theorem clean_of_isDigit {cs : List Char} (h : ∀ c ∈ cs, c.isDigit = true) : Clean cs := by
  intro c hc
  have hd := h c hc
  constructor
  · rintro rfl
    cases hd
  · rintro rfl
    cases hd

end Host

/-! ## Percent encoding -/

namespace Percent

/-- Hexadecimal digits are no delimiters. -/
theorem hexDigit_ne : ∀ n < 16, hexDigit n ≠ '/' ∧ hexDigit n ≠ ':' := by decide

/-- A byte in percent encoding is clean. -/
theorem clean_encodeByte (b : UInt8) : Host.Clean (encodeByte b) := by
  have hb : b.toNat < 256 := b.toNat_lt
  intro c hc
  simp only [encodeByte, List.mem_cons, List.not_mem_nil, or_false] at hc
  rcases hc with rfl | rfl | rfl
  · decide
  · exact hexDigit_ne _ (by omega)
  · exact hexDigit_ne _ (by omega)

/-- Percent encoding brings no delimiters. -/
theorem clean_encode (isEncoded : Char → Bool) {cs : List Char} (h : Host.Clean cs) :
    Host.Clean (encode isEncoded cs) := by
  intro c hc
  obtain ⟨d, hd, hcd⟩ := List.mem_flatMap.1 hc
  unfold encodeChar at hcd
  split at hcd
  · rw [List.mem_singleton] at hcd
    exact hcd ▸ h d hd
  · obtain ⟨b, -, hb⟩ := List.mem_flatMap.1 hcd
    exact clean_encodeByte b c hb

end Percent

/-! ## Punycode -/

namespace Punycode

/-- The digits are no delimiters. -/
theorem digit_ne : ∀ n < 36, digit n ≠ '/' ∧ digit n ≠ ':' := by decide

/-- A threshold is at least one, so that each digit leaves something to be divided by. -/
theorem threshold_pos (bias place : Nat) : 1 ≤ threshold bias place := by
  unfold threshold
  split
  · omega
  · split <;> omega

/-- A threshold is no greater than the count of letters. -/
theorem threshold_le (bias place : Nat) : threshold bias place ≤ 26 := by
  unfold threshold
  split
  · omega
  · split <;> omega

/-- A row of digits is clean. -/
theorem clean_digits (bias fuel place distance : Nat) :
    Host.Clean (digits bias fuel place distance) := by
  induction fuel generalizing place distance with
  | zero => intro c hc; cases hc
  | succ fuel ih =>
    have hle := threshold_le bias place
    have hpos := threshold_pos bias place
    unfold digits
    dsimp only
    split
    · intro c hc
      rw [List.mem_singleton] at hc
      exact hc ▸ digit_ne _ (by omega)
    · intro c hc
      rcases List.mem_cons.1 hc with rfl | hc
      · -- The remainder and the threshold together stay below the 36 digits.
        have hmod : (distance - threshold bias place) % (36 - threshold bias place) <
            36 - threshold bias place := Nat.mod_lt _ (by omega)
        exact digit_ne _ (by omega)
      · exact ih _ _ c hc

/-- Whether all rows written so far are clean. -/
def Writer.Clean (w : Writer) : Prop := ∀ row ∈ w.rows, Host.Clean row

/-- Passing a character writes a row of digits or none. -/
theorem Writer.Clean.pass {w : Writer} (h : w.Clean) (basic n c : Nat) :
    (w.pass basic n c).Clean := by
  unfold Writer.pass
  split
  · exact h
  · split
    · exact List.forall_mem_cons.2 ⟨clean_digits _ _ _ _, h⟩
    · exact h

/-- So does writing all code points. -/
theorem Writer.Clean.run {w : Writer} (h : w.Clean) (label : List Nat) (basic : Nat)
    (last : Nat) (ns : List Nat) : (Writer.run label basic last ns w).Clean := by
  induction ns generalizing last w with
  | nil => exact h
  | cons n ns ih =>
    -- One pass over the label writes rows for the code point `n`, whatever was written before.
    have hfold : ∀ (cs : List Nat) (w : Writer), w.Clean →
        (cs.foldl (Writer.pass basic n) w).Clean := by
      intro cs
      induction cs with
      | nil => exact fun _ hw => hw
      | cons c cs ihc => exact fun w hw => ihc _ (hw.pass basic n c)
    unfold Writer.run
    apply ih
    exact hfold label { w with distance := w.distance + (n - last) * (w.count + 1) } h

/-- The ASCII writing of a clean label is clean. -/
theorem clean_encode {label : List Char} (h : Host.Clean label) : Host.Clean (encode label) := by
  unfold encode
  dsimp only
  refine (Host.Clean.append (h.subset List.filter_sublist.subset) ?_).append ?_
  · split
    · intro c hc
      cases hc
    · intro c hc
      rw [List.mem_singleton] at hc
      subst hc
      decide
  · intro c hc
    obtain ⟨row, hrow, hcr⟩ := List.mem_flatten.1 hc
    refine Writer.Clean.run ?_ _ _ _ _ row (List.mem_reverse.1 hrow) c hcr
    intro row hrow
    cases hrow

end Punycode

/-! ## Domain names -/

namespace Domain

/-- A label that may stand in a domain name is clean. -/
theorem clean_of_labelFits {label : List Char} (h : labelFits label = true) :
    Host.Clean label := by
  simp only [labelFits, Bool.and_eq_true, List.all_eq_true, Bool.not_eq_true'] at h
  intro c hc
  have hallowed := h.1.1 c hc
  constructor
  · rintro rfl
    exact absurd hallowed (by decide)
  · rintro rfl
    exact absurd hallowed (by decide)

/-- A label that passes the checks is clean. -/
theorem clean_of_label? {l label : List Char} (h : label? l = some label) : Host.Clean label := by
  unfold label? at h
  split at h
  · split at h
    · cases h
      exact clean_of_labelFits (by assumption)
    · cases h
  · obtain ⟨decoded, -, h⟩ := Option.bind_eq_some_iff.1 h
    split at h
    · rename_i hfits
      cases h
      simp only [Bool.and_eq_true] at hfits
      exact clean_of_labelFits hfits.1.1
    · cases h

/-- A clean label is clean as it is written. -/
theorem clean_written {label : List Char} (h : Host.Clean label) : Host.Clean (written label) := by
  unfold written
  split
  · exact h
  · refine Host.Clean.append ?_ (Punycode.clean_encode h)
    simp [Host.Clean, mark]

/-- What is made of the elements of a list, if something is made of each, comes from elements. -/
theorem exists_of_mem_mapM {α β : Type} {f : α → Option β} {l : List α} {ys : List β}
    (h : l.mapM f = some ys) {y : β} (hy : y ∈ ys) : ∃ x, f x = some y := by
  induction l generalizing ys with
  | nil =>
    rw [List.mapM_nil] at h
    cases h
    cases hy
  | cons x l ih =>
    rw [List.mapM_cons] at h
    obtain ⟨z, hz, h⟩ := Option.bind_eq_some_iff.1 h
    obtain ⟨zs, hzs, h⟩ := Option.bind_eq_some_iff.1 h
    cases h
    rcases List.mem_cons.1 hy with rfl | hy
    · exact ⟨x, hz⟩
    · exact ih hzs hy

/-- A domain name is clean. -/
theorem clean_of_toAscii? {name : Bytes} {s : String} (h : toAscii? name = some s) :
    Host.Clean s.toList := by
  unfold toAscii? at h
  obtain ⟨cs, -, h⟩ := Option.bind_eq_some_iff.1 h
  obtain ⟨mapped, -, h⟩ := Option.bind_eq_some_iff.1 h
  obtain ⟨labels, hlabels, h⟩ := Option.bind_eq_some_iff.1 h
  split at h
  · cases h
  · cases h
    rw [String.toList_ofList]
    refine Host.clean_joined fun p hp => ?_
    obtain ⟨label, hlabel, rfl⟩ := List.mem_map.1 hp
    obtain ⟨l, hl⟩ := exists_of_mem_mapM hlabels hlabel
    exact clean_written (clean_of_label? hl)

end Domain

/-! ## Addresses -/

/-- Version 4 addresses are clean. -/
theorem Ipv4.clean_render (n : Nat) : Host.Clean (Ipv4.render n).toList := by
  unfold Ipv4.render Text.join
  rw [String.toList_ofList]
  refine Host.clean_joined fun p hp => ?_
  obtain ⟨s, hs, rfl⟩ := List.mem_map.1 hp
  obtain ⟨m, -, rfl⟩ := List.mem_map.1 hs
  rw [Nat.repr_eq_ofList_toDigits, String.toList_ofList]
  exact Host.clean_of_isDigit fun c hc => Nat.isDigit_of_mem_toDigits (by decide) (by decide) hc

namespace Ipv6

/-- Numbers in base 16 are written without slashes. -/
theorem slash_not_mem_toDigits (n : Nat) : '/' ∉ Nat.toDigits 16 n := by
  induction n using Nat.strongRecOn with
  | _ n ih =>
    rw [Nat.toDigits_eq_if (by decide)]
    split
    · simp
    · rename_i h
      rw [List.mem_append, not_or]
      exact ⟨ih _ (by omega), by simp⟩

/-- Pieces of an address are written without slashes. -/
theorem slash_not_mem_renderPieces (ps : List Nat) : '/' ∉ renderPieces ps := by
  intro h
  rcases Text.mem_joined h with h | ⟨p, hp, hc⟩
  · cases h
  · obtain ⟨n, -, rfl⟩ := List.mem_map.1 hp
    exact slash_not_mem_toDigits n hc

/-- Version 6 addresses are written without slashes. -/
theorem slash_not_mem_render (ps : List Nat) : '/' ∉ (render ps).toList := by
  unfold render
  dsimp only
  rw [String.toList_ofList]
  split
  · exact slash_not_mem_renderPieces ps
  · simp only [List.mem_append, not_or]
    exact ⟨⟨slash_not_mem_renderPieces _, by decide⟩, slash_not_mem_renderPieces _⟩

end Ipv6

/-! ## Hosts as they are read -/

namespace Host

/-- A host is written without slashes and colons, or in brackets and without slashes. -/
theorem render_cases {h : Host} (hs : h.Sound) :
    Clean h.render.toList ∨
      '/' ∉ h.render.toList ∧ h.render.toList.getLast? = some ']' := by
  cases h with
  | name s => exact Or.inl hs
  | ipv4 n => exact Or.inl (Ipv4.clean_render n)
  | ipv6 ps =>
    right
    have hp := Ipv6.slash_not_mem_render ps
    have hlist : (ipv6 ps).render.toList = '[' :: (Ipv6.render ps).toList ++ [']'] := by
      simp [render, String.toList_append]
    rw [hlist, List.getLast?_concat]
    simp [hp]

/-- A host that is not the empty name is not written empty. -/
theorem render_ne_empty {h : Host} (hne : h ≠ .name "") : h.render ≠ "" := by
  cases h with
  | name s =>
    intro hs
    exact hne (congrArg name hs)
  | ipv4 n =>
    -- The bytes of an address have dots between them.
    intro hs
    have hlist := congrArg String.toList hs
    simp [render, Ipv4.render, Text.join, Text.joined] at hlist
  | ipv6 ps =>
    intro hs
    have hlist := congrArg String.toList hs
    simp [render, String.toList_append] at hlist

/-- A host in brackets is an address. -/
theorem proper_of_bracketed? {cs : List Char} {h : Host} (hb : bracketed? cs = some (.ok h)) :
    h.Proper := by
  unfold bracketed? at hb
  split at hb
  · split at hb
    · split at hb
      · cases hb
        exact ⟨trivial, by simp⟩
      · cases hb
    · cases hb
  · cases hb

/-- The host of a special URL is proper. -/
theorem proper_of_parse {cs : List Char} {h : Host} (hp : parse cs = .ok h) : h.Proper := by
  unfold parse at hp
  cases hb : bracketed? cs with
  | some r =>
    rw [hb, Option.getD_some] at hp
    exact proper_of_bracketed? (hp ▸ hb)
  | none =>
    rw [hb, Option.getD_none] at hp
    split at hp
    · cases hp
    · cases hp
    · rename_i s hempty hs
      split at hp
      · split at hp
        · cases hp
          exact ⟨trivial, by simp⟩
        · cases hp
      · cases hp
        refine ⟨Domain.clean_of_toAscii? hs, ?_⟩
        rintro ⟨⟩
        exact hempty rfl

/-- The host of any other URL is sound. -/
theorem sound_of_parseOpaque {cs : List Char} {h : Host} (hp : parseOpaque cs = .ok h) :
    h.Sound := by
  unfold parseOpaque at hp
  cases hb : bracketed? cs with
  | some r =>
    rw [hb, Option.getD_some] at hp
    exact (proper_of_bracketed? (hp ▸ hb)).1
  | none =>
    rw [hb, Option.getD_none] at hp
    split at hp
    · cases hp
    · rename_i hforbidden
      cases hp
      show Clean (String.ofList _).toList
      rw [String.toList_ofList]
      refine Percent.clean_encode _ fun c hc => ?_
      rw [Bool.not_eq_true, List.any_eq_false] at hforbidden
      constructor
      · rintro rfl
        exact hforbidden _ hc (by decide)
      · rintro rfl
        exact hforbidden _ hc (by decide)

end Host

namespace Url

/-- The host of a URL of any kind is sound. -/
theorem sound_of_parseHost {scheme : String} {text : List Char} {h : Host}
    (hp : parseHost scheme text = .ok h) : h.Sound := by
  unfold parseHost at hp
  split at hp
  · exact (Host.proper_of_parse hp).1
  · exact Host.sound_of_parseOpaque hp

/-- The host read before a port is proper, if there is one. -/
theorem proper_of_readHost {scheme : String} {cs rest : List Char} {host : Option Host}
    {port : Option Nat} (h : readHost scheme cs = .ok (host, port, rest)) :
    ∀ a ∈ host, a.Proper := by
  unfold readHost at h
  dsimp only at h
  split at h
  · cases h
  · obtain ⟨a, ha, h⟩ := exists_of_bind_eq_ok h
    have hproper : (a == .name "") ≠ true → a.Proper :=
      fun hne => ⟨sound_of_parseHost ha, by simpa using hne⟩
    split at h
    · -- Before a port the empty name is refused; elsewhere it counts as no host.
      split at h
      · cases h
      · rename_i hne
        obtain ⟨x, -, h⟩ := exists_of_bind_eq_ok h
        cases h
        intro b hb
        cases hb
        exact hproper hne
    · cases h
      intro b hb
      split at hb
      · cases hb
      · rename_i hne
        cases hb
        exact hproper hne

end Url

end BrowserShell
