import Blocklist.Proofs.Text.Basic
import Blocklist.Proofs.Text.Trim
import Blocklist.Rule.Reading

/-!
# Hosts lines, written and read

`hostsAddress?_append`: in a text that is an address, a zone or none, and what follows them, it depends on
what follows whether this is a hosts line. `HostsRule.Proper`: what reading makes of a line
(`proper_of_read`). Such a rule is read back if and only if it has a hostname
(`isHostsLine_text_iff`, `read_text`).
-/

namespace Blocklist

/-- A zone with its percent sign, or nothing. -/
def IsZone (z : Text) : Prop := z = [] ∨ ∃ w : Text, w ≠ [] ∧ z = '%' :: w ∧ ∀ c ∈ w, c.isAlphanum

section
variable {c : Char} {a line s t w z : Text}

/-! ### Addresses -/

theorem toNat_of_isAddressChar (h : isAddressChar c) : 0x2E ≤ c.toNat ∧ c.toNat ≤ 0x7A := by
  have hletter {l u : Char} (hl : 0x2E ≤ l.toNat) (hu : u.toNat ≤ 0x7A) (h : l ≤ c ∧ c ≤ u) :
      0x2E ≤ c.toNat ∧ c.toNat ≤ 0x7A :=
    ⟨Nat.le_trans hl (Char.le_def.1 h.1), Nat.le_trans (Char.le_def.1 h.2) hu⟩
  simp only [isAddressChar, Address.isHexDigit, Bool.or_eq_true, Bool.and_eq_true, decide_eq_true_eq] at h
  obtain ((((((h | h) | h) | rfl) | rfl) | rfl) | rfl) := h
  · have := toNat_of_isAlphanum (isAlphanum_iff.2 (.inr h))
    omega
  · exact hletter (by decide) (by decide) h
  · exact hletter (by decide) (by decide) h
  · decide
  · decide
  · decide
  · decide

theorem isBlank_of_isAddressChar (h : isAddressChar c) : isBlank c = false := by
  have := toNat_of_isAddressChar h
  exact isBlank_eq_false (by omega)

theorem isAddressChar_of_isBlank (h : isBlank c) : isAddressChar c = false := by
  rw [Bool.eq_false_iff]
  intro hc
  rw [isBlank_of_isAddressChar hc] at h
  cases h

namespace IsZone

theorem ne_hash_and_not_blank (h : IsZone z) : ∀ c ∈ z, isBlank c = false ∧ c ≠ '#' := by
  rcases h with rfl | ⟨w, -, rfl, hw⟩
  · simp
  · refine List.forall_mem_cons.2 ⟨by decide, fun c hc => ?_⟩
    have := toNat_of_isAlphanum (hw c hc)
    refine ⟨isBlank_eq_false (by omega), ?_⟩
    rintro rfl
    exact absurd this (by decide)

theorem head_not_address (h : IsZone z) (ht : ∀ c ∈ t.head?, isBlank c) :
    ∀ c ∈ (z ++ t).head?, isAddressChar c = false := by
  rcases h with rfl | ⟨w, -, rfl, -⟩
  · exact fun c hc => isAddressChar_of_isBlank (ht c hc)
  · exact fun c hc => Option.some.inj hc ▸ by decide

end IsZone

theorem dropZone?_append (hz : IsZone z) (ht : ∀ c ∈ t.head?, isBlank c) : dropZone? (z ++ t) = some t := by
  rcases hz with rfl | ⟨w, hne, rfl, hw⟩
  · rw [List.nil_append, dropZone?.eq_def]
    split
    · rename_i s
      exact absurd (ht '%' rfl) (by decide)
    · rfl
  · have ht : ∀ c ∈ t.head?, c.isAlphanum = false := by
      intro c hc
      rw [Bool.eq_false_iff]
      intro h
      have := toNat_of_isAlphanum h
      have hblank := ht c hc
      rw [isBlank_eq_false (by omega)] at hblank
      cases hblank
    rw [List.cons_append, dropZone?, Text.takeWhile_append hw ht, Text.dropWhile_append hw ht]
    cases w with
    | nil => exact absurd rfl hne
    | cons c w => rfl

theorem eq_append_of_dropZone? (h : dropZone? s = some t) : ∃ z, IsZone z ∧ s = z ++ t := by
  rw [dropZone?.eq_def] at h
  split at h
  · rename_i s
    split at h
    · cases h
    · rename_i w hne
      obtain rfl := Option.some.inj h
      refine ⟨'%' :: s.takeWhile Char.isAlphanum, .inr ⟨_, ?_, rfl, ?_⟩, ?_⟩
      · exact hne
      · exact List.all_eq_true.1 List.all_takeWhile
      · rw [List.cons_append, List.takeWhile_append_dropWhile]
  · obtain rfl := Option.some.inj h
    exact ⟨[], .inl rfl, rfl⟩

/-! ### Lines -/

theorem eq_cons_of_isHostsTail (h : isHostsTail t) : ∃ b s, t = b :: s ∧ isBlank b := by
  cases t with
  | nil => cases h
  | cons b s =>
    refine ⟨b, s, rfl, ?_⟩
    cases hb : isBlank b with
    | true => rfl
    | false => simp [isHostsTail, List.takeWhile_cons, hb] at h

theorem isHostsTail_cons_space (hne : s ≠ []) (hhead : ∀ c ∈ s.head?, isBlank c = false) (hhash : '#' ∉ s) :
    isHostsTail (' ' :: s) := by
  have hspace : ∀ c ∈ [' '], isBlank c := List.forall_mem_singleton.2 (by decide)
  have hs : ∀ c ∈ s, decide (c ≠ '#') := by
    intro c hc
    rw [decide_eq_true_eq]
    rintro rfl
    exact hhash hc
  have hbody : s.takeWhile (· ≠ '#') = s := List.takeWhile_eq_self_iff.2 hs
  have hnote : s.dropWhile (· ≠ '#') = [] := List.dropWhile_eq_nil_iff.2 hs
  rw [isHostsTail, ← List.singleton_append, Text.takeWhile_append hspace hhead,
    Text.dropWhile_append hspace hhead, hbody, hnote]
  simp [hne]

theorem hostsAddress?_append (htrim : (a ++ (z ++ t)).Trimmed) (hne : a ≠ []) (ha : ∀ c ∈ a, isAddressChar c)
    (hz : IsZone z) (ht : ∀ c ∈ t.head?, isBlank c) :
    hostsAddress? (a ++ (z ++ t)) = if isHostsTail t then some a else none := by
  have hhead := hz.head_not_address ht
  simp only [hostsAddress?, Text.trim_eq_self_iff.2 htrim, Text.dropWhile_append ha hhead,
    Text.takeWhile_append ha hhead, dropZone?_append hz ht]
  simp [hne]

theorem eq_append_of_hostsAddress? (h : hostsAddress? line = some a) :
    a ≠ [] ∧ (∀ c ∈ a, isAddressChar c) ∧
      ∃ z t, line.trim = a ++ (z ++ t) ∧ IsZone z ∧ isHostsTail t := by
  simp only [hostsAddress?] at h
  split at h
  · cases h
  rename_i t hzone
  split at h
  · rename_i hif
    obtain ⟨hne, ht⟩ := Bool.and_eq_true_iff.1 hif
    obtain ⟨z, hz, hs⟩ := eq_append_of_dropZone? hzone
    obtain rfl := Option.some.inj h
    refine ⟨by simpa using hne, List.all_eq_true.1 List.all_takeWhile, z, t, ?_, hz, ht⟩
    rw [← hs, List.takeWhile_append_dropWhile]
  · cases h

theorem isHostsLine_iff :
    isHostsLine line ↔ ∃ a, hostsAddress? line = some a ∧ (Address.canonical? a).isSome := by
  rw [isHostsLine]
  cases hostsAddress? line <;> simp

end

namespace HostsRule

/-- An address, and hostnames that are words without a `#`. -/
structure Proper (r : HostsRule) : Prop where
  ip : ∃ a z, r.ip = a ++ z ∧ a ≠ [] ∧ (∀ c ∈ a, isAddressChar c) ∧ IsZone z ∧
    (Address.canonical? a).isSome
  words : ∀ w ∈ r.ip :: r.hostnames, w ≠ [] ∧ ∀ c ∈ w, isBlank c = false ∧ c ≠ '#'

variable {r : HostsRule} {line : Text}

theorem isHostsLine_of_read (h : read line = .ok r) : isHostsLine line := by
  unfold read at h
  split at h
  · assumption
  · cases h

/-- The first word of a hosts line is its address, with the zone. -/
theorem exists_words (h : isHostsLine line) :
    ∃ a z ws, Text.words (line.trim.takeWhile (· ≠ '#')) = (a ++ z) :: ws ∧ a ≠ [] ∧
      (∀ c ∈ a, isAddressChar c) ∧ IsZone z ∧ (Address.canonical? a).isSome := by
  obtain ⟨a, haddress, hcanonical⟩ := isHostsLine_iff.1 h
  obtain ⟨hne, ha, z, t, hs, hz, ht⟩ := eq_append_of_hostsAddress? haddress
  obtain ⟨b, s, rfl, hb⟩ := eq_cons_of_isHostsTail ht
  have hword : ∀ c ∈ a ++ z, isBlank c = false ∧ c ≠ '#' := by
    intro c hc
    rcases List.mem_append.1 hc with hc | hc
    · exact ⟨isBlank_of_isAddressChar (ha c hc), fun h => absurd (ha c hc) (h ▸ by decide)⟩
    · exact hz.ne_hash_and_not_blank c hc
  have hbhash : b ≠ '#' := fun h => absurd hb (h ▸ by decide)
  refine ⟨a, z, Text.words (s.takeWhile (· ≠ '#')), ?_, hne, ha, hz, hcanonical⟩
  rw [hs, ← List.append_assoc, List.takeWhile_append_of_pos fun c hc => by simpa using (hword c hc).2,
    List.takeWhile_cons_of_pos (by simpa using hbhash)]
  exact Text.words_append_blank (by simp [hne]) (fun c hc => (hword c hc).1) hb _

theorem isHostsLine_iff_exists_read : isHostsLine line ↔ ∃ r, read line = .ok r := by
  constructor
  · intro h
    obtain ⟨a, z, ws, hwords, -⟩ := exists_words h
    rw [read, if_pos h, hwords]
    exact ⟨_, rfl⟩
  · rintro ⟨r, hr⟩
    exact isHostsLine_of_read hr

theorem proper_of_read (h : read line = .ok r) : r.Proper := by
  obtain ⟨a, z, ws, hwords, hne, ha, hz, hcanonical⟩ := exists_words (isHostsLine_of_read h)
  rw [read, if_pos (isHostsLine_of_read h), hwords] at h
  obtain rfl := Except.ok.inj h
  refine ⟨⟨a, z, rfl, hne, ha, hz, hcanonical⟩, fun w hw => ?_⟩
  obtain ⟨hne, hw⟩ := Text.of_mem_words (hwords ▸ hw)
  refine ⟨hne, fun c hc => ⟨(hw c hc).1, ?_⟩⟩
  simpa using List.all_eq_true.1 List.all_takeWhile c (hw c hc).2

namespace Proper

theorem words_not_blank (h : r.Proper) :
    ∀ w ∈ r.ip :: r.hostnames, w ≠ [] ∧ ∀ c ∈ w, isBlank c = false := fun w hw =>
  (h.words w hw).imp_right fun hall c hc => (hall c hc).1

theorem text_trimmed (h : r.Proper) : r.text.Trimmed := Text.trimmed_join h.words_not_blank

theorem isHostsLine_text_iff (h : r.Proper) : isHostsLine r.text ↔ r.hostnames ≠ [] := by
  obtain ⟨a, z, hip, hne, ha, hz, hcanonical⟩ := h.ip
  have htrim := h.text_trimmed
  cases hnames : r.hostnames with
  | nil =>
    have htext : r.text = a ++ (z ++ []) := by rw [text, hnames, hip, List.append_nil]; rfl
    rw [htext] at htrim
    have hnone : hostsAddress? r.text = none := by
      rw [htext, hostsAddress?_append htrim hne ha hz (by simp)]
      rfl
    rw [isHostsLine, hnone]
    simp
  | cons w ws =>
    have htext : r.text = a ++ (z ++ ' ' :: Text.join [' '] (w :: ws)) := by
      rw [text, hnames, hip, Text.join, List.append_assoc, List.append_assoc]
      · rfl
      · exact List.cons_ne_nil _ _
    have hwords := h.words
    have hblank := h.words_not_blank
    rw [hnames, List.forall_mem_cons] at hwords hblank
    have htail : isHostsTail (' ' :: Text.join [' '] (w :: ws)) := by
      refine isHostsTail_cons_space (Text.join_ne_nil (hwords.2 w (List.mem_cons_self ..)).1) ?_ ?_
      · exact (Text.trimmed_join hblank.2).1
      · intro hmem
        rcases Text.mem_join hmem with hmem | ⟨v, hv, hmem⟩
        · exact absurd hmem (by decide)
        · exact ((hwords.2 v hv).2 _ hmem).2 rfl
    rw [htext] at htrim
    have hsome : hostsAddress? r.text = some a := by
      have hspace : ∀ c ∈ (' ' :: Text.join [' '] (w :: ws)).head?, isBlank c := fun c hc =>
        Option.some.inj hc ▸ by decide
      rw [htext, hostsAddress?_append htrim hne ha hz hspace, if_pos htail]
    rw [isHostsLine, hsome]
    simpa using hcanonical

theorem text_ne_nil (h : r.Proper) : r.text ≠ [] :=
  Text.join_ne_nil (h.words r.ip (List.mem_cons_self ..)).1

theorem not_isComment_text (h : r.Proper) : ¬ isComment r.text := by
  have hhead : ∀ c ∈ r.text.head?, isAddressChar c := by
    obtain ⟨a, z, hip, hne, ha, -⟩ := h.ip
    obtain ⟨c, a, rfl⟩ := List.exists_cons_of_ne_nil hne
    have htext : r.text.head? = some c := by
      rw [text, hip]
      cases r.hostnames <;> rfl
    rw [htext]
    exact fun d hd => Option.some.inj hd ▸ ha c (List.mem_cons_self ..)
  rw [isComment, Text.trim_eq_self_iff.2 h.text_trimmed]
  split
  · rename_i s hs
    exact absurd (hhead '!' (by rw [hs]; rfl)) (by decide)
  · rename_i s hs
    exact absurd (hhead '#' (by rw [hs]; rfl)) (by decide)
  · exact Bool.false_ne_true

theorem read_text (h : r.Proper) (hnames : r.hostnames ≠ []) : read r.text = .ok r := by
  have hhash : ∀ c ∈ r.text, decide (c ≠ '#') := by
    intro c hc
    rw [decide_eq_true_eq]
    rcases Text.mem_join hc with hc | ⟨w, hw, hc⟩
    · exact fun h => absurd hc (h ▸ by decide)
    · exact ((h.words w hw).2 c hc).2
  have hwords : Text.words r.text = r.ip :: r.hostnames := Text.words_join h.words_not_blank
  rw [read, if_pos (h.isHostsLine_text_iff.2 hnames), Text.trim_eq_self_iff.2 h.text_trimmed,
    List.takeWhile_eq_self_iff.2 hhash, hwords]

end Proper

end HostsRule

end Blocklist
