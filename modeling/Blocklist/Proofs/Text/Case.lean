import Blocklist.Proofs.Text.Basic
import Blocklist.Proofs.Text.Trim
import Blocklist.Text.Case
import Mathlib.Data.List.Basic
import Mathlib.Data.List.Induction

/-!
# Lower case

What lower-casing can make of a text. Only letters turn into other ASCII characters
(`eq_of_lowerChar_eq`), and a text whose lower case is ASCII was mapped character by character
(`lower_eq_map`). What is in lower case stays as it is (`lower_lower`).
-/

namespace Blocklist
open Case

variable {c d : Char}

theorem toNat_ofNat_toNat {n : Nat} (h : n < 0xD800 ∨ (0xE000 ≤ n ∧ n < 0x110000)) :
    (Char.ofNat n).toNat = n := by
  have hvalid : n.isValidChar := by
    simp only [Nat.isValidChar]
    omega
  rw [Char.ofNat, dif_pos hvalid]
  rfl

/-- A run of the table leads to characters. -/
theorem toNat_lowerRuns_target {r : Run} (h : r ∈ lowerRuns) {n : Nat} (hn : r.has n) :
    ((Char.ofNat (n + r.delta).toNat).toNat : Int) = n + r.delta := by
  have hall : ∀ r ∈ lowerRuns, 0 ≤ r.first + r.delta ∧
      (r.last + r.delta < 0xD800 ∨ (0xE000 ≤ r.first + r.delta ∧ r.last + r.delta < 0x110000)) := by decide +kernel
  simp only [Run.has, Bool.and_eq_true, decide_eq_true_eq] at hn
  have := hall r h
  rw [toNat_ofNat_toNat (by omega)]
  omega

/-- Where a run of the table leads: to a lower-case ASCII letter, or out of ASCII. -/
theorem lowerRuns_target {r : Run} (h : r ∈ lowerRuns) {n : Nat} (hn : r.has n) :
    0x80 ≤ (Char.ofNat (n + r.delta).toNat).toNat ∨ (Char.ofNat (n + r.delta).toNat).isLower := by
  have hall : ∀ r ∈ lowerRuns, 0x80 ≤ r.first + r.delta ∨
      (r.first = r.last ∧ (Char.ofNat (r.first + r.delta).toNat).isLower) := by decide +kernel
  have htarget := toNat_lowerRuns_target h hn
  simp only [Run.has, Bool.and_eq_true, decide_eq_true_eq] at hn
  rcases hall r h with hlow | ⟨heq, hlower⟩
  · left
    omega
  · right
    have : n = r.first := by omega
    rwa [this]

/-- No run leads to a character that a run leads away from: either they are apart, or one goes over the even places
of the other. -/
theorem lowerRuns_target_fixed {r r' : Run} (h : r ∈ lowerRuns) (h' : r' ∈ lowerRuns) {n : Nat} (hn : r.has n) :
    r'.has (Char.ofNat (n + r.delta).toNat).toNat = false := by
  have hall : ∀ r ∈ lowerRuns, ∀ r' ∈ lowerRuns.filter fun r' =>
      Nat.ble (r.first + r.delta).toNat r'.last && Nat.ble r'.first (r.last + r.delta).toNat,
      (r.step = 2 ∨ r.first = r.last) ∧ r'.step = 2 ∧ ((r.first + r.delta).toNat - r'.first) % 2 = 1 := by
    decide +kernel
  have htarget := toNat_lowerRuns_target h hn
  rw [Bool.eq_false_iff]
  intro hn'
  simp only [Run.has, Bool.and_eq_true, decide_eq_true_eq] at hn hn'
  obtain ⟨hstep, hstep', hodd⟩ := hall r h r' (List.mem_filter.2 ⟨h', by
    rw [Bool.and_eq_true, Nat.ble_eq, Nat.ble_eq]
    omega⟩)
  rw [hstep'] at hn'
  rcases hstep with hstep | heq
  · rw [hstep] at hn
    omega
  · omega

theorem lowerChar_of_not_ascii (h : 0x80 ≤ c.toNat) :
    0x80 ≤ (lowerChar c).toNat ∨ (lowerChar c).isLower := by
  rw [lowerChar, if_neg (by omega)]
  split
  · rename_i r hr
    have hhas : r.has c.toNat := by simpa using List.find?_some hr
    exact lowerRuns_target (List.mem_of_find?_eq_some hr) hhas
  · exact .inl h

theorem toLower_of_not_isUpper (h : c.isUpper = false) : c.toLower = c := by
  unfold Char.isUpper at h
  unfold Char.toLower
  rw [dif_neg (decide_eq_false_iff_not.1 h)]

theorem toNat_toLower (h : c.isUpper) : c.toLower.toNat = c.toNat + 32 := by
  have hbound := isUpper_iff.1 h
  have hdiff : ('a'.val - 'A'.val : UInt32).toNat = 32 := by decide
  unfold Char.isUpper at h
  show c.toLower.val.toNat = c.val.toNat + 32
  unfold Char.toLower
  rw [dif_pos (decide_eq_true_iff.1 h), UInt32.toNat_add, hdiff]
  have : c.val.toNat ≤ 90 := hbound.2
  omega

theorem isLower_toLower (h : c.isUpper) : c.toLower.isLower := by
  have hbound := isUpper_iff.1 h
  rw [isLower_iff, toNat_toLower h]
  omega

/-- Nothing but a character without case is mapped to it. -/
theorem toLower_eq_iff (hupper : d.isUpper = false) (hlower : d.isLower = false) : c.toLower = d ↔ c = d := by
  cases hc : c.isUpper with
  | false => rw [toLower_of_not_isUpper hc]
  | true =>
    refine iff_of_false ?_ ?_
    · rintro rfl
      exact Bool.false_ne_true (hlower.symm.trans (isLower_toLower hc))
    · rintro rfl
      exact Bool.false_ne_true (hupper.symm.trans hc)

theorem isUpper_eq_false_of_isLower (h : c.isLower) : c.isUpper = false := by
  have hbound := isLower_iff.1 h
  rw [Bool.eq_false_iff, ne_eq, isUpper_iff]
  omega

/-- A character that is no lower-case letter of ASCII is the lower case of itself only. -/
theorem eq_of_lowerChar_eq (h : lowerChar d = c) (hc : c.toNat < 0x80) (hlower : c.isLower = false) :
    d = c := by
  by_cases hd : d.toNat < 0x80
  · rw [lowerChar_of_ascii hd] at h
    cases hupper : d.isUpper with
    | true =>
      rw [← h, isLower_toLower hupper] at hlower
      cases hlower
    | false => rwa [toLower_of_not_isUpper hupper] at h
  · rcases lowerChar_of_not_ascii (Nat.le_of_not_lt hd) with hbig | hsmall
    · rw [h] at hbig
      omega
    · rw [h, hlower] at hsmall
      cases hsmall

theorem not_isUpper_lowerChar (h : (lowerChar c).toNat < 0x80) : (lowerChar c).isUpper = false := by
  by_cases hc : c.toNat < 0x80
  · rw [lowerChar_of_ascii hc]
    cases hupper : c.isUpper with
    | true => exact isUpper_eq_false_of_isLower (isLower_toLower hupper)
    | false => rw [toLower_of_not_isUpper hupper, hupper]
  · rcases lowerChar_of_not_ascii (Nat.le_of_not_lt hc) with hbig | hsmall
    · omega
    · exact isUpper_eq_false_of_isLower hsmall

theorem lowerChar_eq_self (hupper : c.toNat < 0x80 → c.isUpper = false)
    (houtside : 0x80 ≤ c.toNat → ∀ r ∈ lowerRuns, r.has c.toNat = false) : lowerChar c = c := by
  by_cases hc : c.toNat < 0x80
  · rw [lowerChar_of_ascii hc, toLower_of_not_isUpper (hupper hc)]
  · have hnone : lowerRuns.find? (·.has c.toNat) = none :=
      List.find?_eq_none.2 fun r hr => Bool.eq_false_iff.1 (houtside (Nat.le_of_not_lt hc) r hr)
    rw [lowerChar, if_neg hc, hnone]

theorem lowerChar_lowerChar (c : Char) : lowerChar (lowerChar c) = lowerChar c := by
  refine lowerChar_eq_self not_isUpper_lowerChar fun hbig r' hr' => ?_
  by_cases hc : c.toNat < 0x80
  · exfalso
    rw [lowerChar_of_ascii hc] at hbig
    cases hupper : c.isUpper with
    | true =>
      have := isUpper_iff.1 hupper
      rw [toNat_toLower hupper] at hbig
      omega
    | false =>
      rw [toLower_of_not_isUpper hupper] at hbig
      omega
  · rw [lowerChar, if_neg hc]
    split
    · rename_i r hr
      have hhas : r.has c.toNat := by simpa using List.find?_some hr
      exact lowerRuns_target_fixed (List.mem_of_find?_eq_some hr) hr' hhas
    · rename_i hnone
      exact Bool.eq_false_iff.2 (List.find?_eq_none.1 hnone r' hr')

/-- Blanks have no case. -/
theorem lowerChar_of_isBlank (h : isBlank c) : lowerChar c = c := by
  have hblank : ∀ n ∈ [0x85, 0xA0, 0x1680, 0x2028, 0x2029, 0x202F, 0x205F, 0x3000] ++ (List.range 11).map (0x2000 + ·),
      ∀ r ∈ lowerRuns, r.has n = false := by decide +kernel
  simp only [isBlank, Bool.or_eq_true, Bool.and_eq_true, decide_eq_true_eq] at h
  refine lowerChar_eq_self (fun hc => ?_) fun hc => hblank c.toNat (List.mem_append.2 ?_)
  · rw [Bool.eq_false_iff, ne_eq, isUpper_iff]
    omega
  · by_cases hrange : 0x2000 ≤ c.toNat ∧ c.toNat ≤ 0x200A
    · exact .inr (List.mem_map.2 ⟨c.toNat - 0x2000, List.mem_range.2 (by omega), by omega⟩)
    · left
      simp only [List.mem_cons, List.not_mem_nil, or_false]
      omega

namespace Text

variable {s t : Text}

theorem lower_nil : lower [] = [] := rfl

theorem lowerAt_ne_nil (b : Text) (c : Char) (a : Text) : lowerAt b c a ≠ [] := by
  unfold lowerAt
  split
  · simp
  · split
    · split <;> simp
    · simp

theorem lower_eq_nil_iff : lower s = [] ↔ s = [] := by
  cases s with
  | nil => simp [lower_nil]
  | cons c s => simp [lower, lowerAfter, lowerAt_ne_nil]

/-- A text whose lower case is ASCII was mapped character by character. -/
theorem lower_eq_map (h : ∀ c ∈ lower s, c.toNat < 0x80) : lower s = s.map lowerChar := by
  suffices ∀ b, (∀ c ∈ lowerAfter b s, c.toNat < 0x80) → lowerAfter b s = s.map lowerChar from this [] h
  clear h
  intro b h
  induction s generalizing b with
  | nil => rfl
  | cons c s ih =>
    rw [lowerAfter] at h ⊢
    have hat : lowerAt b c s = [lowerChar c] := by
      have h := fun d hd => h d (List.mem_append_left _ hd)
      unfold lowerAt at h ⊢
      split
      · rename_i hc
        rw [if_pos hc] at h
        exact absurd (h '\u0307' (by simp)) (by decide)
      · rename_i hc
        rw [if_neg hc] at h
        split
        · rename_i hsigma
          rw [if_pos hsigma] at h
          -- Both forms of the sigma are out of ASCII.
          split at h
          · exact absurd (h 'ς' (by simp)) (by decide)
          · exact absurd (h 'σ' (by simp)) (by decide)
        · rfl
    rw [hat, ih _ fun d hd => h d (List.mem_append_right _ hd)]
    rfl

/-- Only letters come from other characters. -/
theorem mem_of_mem_lower (h : c ∈ lower s) (hc : c.toNat < 0x80) (hlower : c.isLower = false) : c ∈ s := by
  suffices ∀ b, c ∈ lowerAfter b s → c ∈ s from this [] h
  clear h
  intro b h
  induction s generalizing b with
  | nil => exact h
  | cons d s ih =>
    rw [lowerAfter, List.mem_append] at h
    rcases h with h | h
    · unfold lowerAt at h
      split at h
      · simp only [List.mem_cons, List.not_mem_nil, or_false] at h
        rcases h with rfl | rfl
        · exact absurd hlower (by decide)
        · exact absurd hc (by decide)
      · split at h
        · split at h
          · exact absurd hc (List.mem_singleton.1 h ▸ by decide)
          · exact absurd hc (List.mem_singleton.1 h ▸ by decide)
        · rw [eq_of_lowerChar_eq (List.mem_singleton.1 h).symm hc hlower]
          exact List.mem_cons_self ..
    · exact List.mem_cons_of_mem d (ih _ h)

theorem mem_lower_of_mem (h : c ∈ s) (hc : c.toNat < 0x80) : c.toLower ∈ lower s := by
  suffices ∀ b, c.toLower ∈ lowerAfter b s from this []
  intro b
  induction s generalizing b with
  | nil => cases h
  | cons d s ih =>
    rw [lowerAfter, List.mem_append]
    rcases List.mem_cons.1 h with rfl | h
    · rw [lowerAt_of_ascii hc]
      exact .inl (List.mem_singleton_self _)
    · exact .inr (ih h _)

theorem lower_eq_self_iff (h : ∀ c ∈ s, c.toNat < 0x80) : lower s = s ↔ ∀ c ∈ s, c.toLower = c := by
  have hmap : lower s = s.map Char.toLower := lowerAfter_of_ascii h []
  rw [hmap]
  constructor
  · intro heq c hc
    exact List.map_eq_map_iff.1 (heq.trans (List.map_id s).symm) c hc
  · intro heq
    exact (List.map_congr_left heq).trans (List.map_id s)

theorem lower_eq_self_of_fixed (h : ∀ c ∈ s, lowerChar c = c ∧ c ≠ 'İ' ∧ c ≠ 'Σ') : lower s = s := by
  suffices ∀ b, lowerAfter b s = s from this []
  intro b
  induction s generalizing b with
  | nil => rfl
  | cons c s ih =>
    obtain ⟨hc, hi, hsigma⟩ := h c (List.mem_cons_self ..)
    rw [lowerAfter, lowerAt, if_neg hi, if_neg hsigma, hc, ih fun d hd => h d (List.mem_cons_of_mem c hd)]
    rfl

theorem fixed_of_mem_lower (h : c ∈ lower s) : lowerChar c = c ∧ c ≠ 'İ' ∧ c ≠ 'Σ' := by
  suffices ∀ b, c ∈ lowerAfter b s → lowerChar c = c ∧ c ≠ 'İ' ∧ c ≠ 'Σ' from this [] h
  clear h
  have hletters {c : Char} (hc : c ∈ ['i', '\u0307', 'ς', 'σ']) : lowerChar c = c ∧ c ≠ 'İ' ∧ c ≠ 'Σ' := by
    have hruns : ∀ n ∈ ['i', '\u0307', 'ς', 'σ'].map Char.toNat, ∀ r ∈ lowerRuns, r.has n = false := by decide +kernel
    suffices c.isUpper = false ∧ c ≠ 'İ' ∧ c ≠ 'Σ' from
      ⟨lowerChar_eq_self (fun _ => this.1) fun _ => hruns _ (List.mem_map_of_mem hc), this.2⟩
    simp only [List.mem_cons, List.not_mem_nil, or_false] at hc
    rcases hc with rfl | rfl | rfl | rfl <;> decide
  intro b h
  induction s generalizing b with
  | nil => cases h
  | cons d s ih =>
    rw [lowerAfter, List.mem_append] at h
    rcases h with h | h
    · unfold lowerAt at h
      split at h
      · exact hletters (List.mem_append_left ['ς', 'σ'] h)
      · split at h
        · split at h
          · exact hletters (by rw [List.mem_singleton.1 h]; decide)
          · exact hletters (by rw [List.mem_singleton.1 h]; decide)
        · obtain rfl := List.mem_singleton.1 h
          refine ⟨lowerChar_lowerChar d, fun heq => ?_, fun heq => ?_⟩
          · have := lowerChar_lowerChar d
            rw [heq] at this
            exact absurd this (by decide +kernel)
          · have := lowerChar_lowerChar d
            rw [heq] at this
            exact absurd this (by decide +kernel)
    · exact ih _ h

theorem lower_lower (s : Text) : lower (lower s) = lower s :=
  lower_eq_self_of_fixed fun _ => fixed_of_mem_lower

/-! ### Dots -/

theorem nextIsCased_append_dot (s : Text) : nextIsCased (s ++ ['.']) = nextIsCased s := by
  have hdot : isIgnorable '.' := by decide
  unfold nextIsCased
  induction s with
  | nil => rw [List.nil_append, List.dropWhile_cons_of_pos hdot]
  | cons c s ih =>
    cases hc : isIgnorable c with
    | true => rw [List.cons_append, List.dropWhile_cons_of_pos hc, List.dropWhile_cons_of_pos hc, ih]
    | false => rw [List.cons_append, List.dropWhile_cons_of_neg (by simp [hc]),
        List.dropWhile_cons_of_neg (by simp [hc])]

/-- A dot at the end changes nothing before it, not even a final sigma. -/
theorem lower_append_dot (s : Text) : lower (s ++ ['.']) = lower s ++ ['.'] := by
  suffices ∀ b, lowerAfter b (s ++ ['.']) = lowerAfter b s ++ ['.'] from this []
  intro b
  induction s generalizing b with
  | nil => rfl
  | cons c s ih =>
    have hat : lowerAt b c (s ++ ['.']) = lowerAt b c s := by
      simp only [lowerAt, nextIsCased_append_dot]
    rw [List.cons_append, lowerAfter, lowerAfter, hat, ih, List.append_assoc]

theorem getLast?_lower_eq_dot_iff : (lower s).getLast? = some '.' ↔ s.getLast? = some '.' := by
  rcases List.eq_nil_or_concat s with rfl | ⟨t, c, rfl⟩
  · simp [lower_nil]
  rw [List.concat_eq_append, List.getLast?_concat]
  constructor
  · intro h
    suffices ∀ b, (lowerAfter b (t ++ [c])).getLast? = (lowerAt ((t.reverse) ++ b) c []).getLast? by
      have hlast : (lowerAt (t.reverse ++ []) c []).getLast? = some '.' := (this []).symm.trans h
      unfold lowerAt at hlast
      split at hlast
      · exact absurd hlast (by decide)
      · split at hlast
        · split at hlast
          · exact absurd hlast (by decide)
          · exact absurd hlast (by decide)
        · have hc : lowerChar c = '.' := Option.some.inj hlast
          rw [eq_of_lowerChar_eq hc (by decide) (by decide)]
    intro b
    clear h
    induction t generalizing b with
    | nil => simp [lowerAfter]
    | cons d t ih =>
      have hne : lowerAfter (d :: b) (t ++ [c]) ≠ [] := by cases t <;> simp [lowerAfter, lowerAt_ne_nil]
      rw [List.cons_append, lowerAfter, List.getLast?_append_of_ne_nil _ hne, ih]
      simp
  · intro h
    rw [Option.some.inj h, lower_append_dot, List.getLast?_concat]

theorem lower_removeSuffix_dot (s : Text) : lower (removeSuffix ['.'] s) = removeSuffix ['.'] (lower s) := by
  by_cases h : s.getLast? = some '.'
  · obtain ⟨r, rfl⟩ := singleton_suffix_iff.2 h
    rw [lower_append_dot, removeSuffix_append, removeSuffix_append]
  · have hlower : (lower s).getLast? ≠ some '.' := fun hl => h (getLast?_lower_eq_dot_iff.1 hl)
    rw [removeSuffix_eq_self (mt singleton_suffix_iff.1 h),
      removeSuffix_eq_self (mt singleton_suffix_iff.1 hlower)]

theorem lower_dropEndWhile_dot (s : Text) :
    lower (dropEndWhile (· = '.') s) = dropEndWhile (· = '.') (lower s) := by
  induction s using List.reverseRecOn with
  | nil => rfl
  | append_singleton s c ih =>
    by_cases hc : c = '.'
    · subst hc
      have hdot : ∀ d ∈ ['.'], decide (d = '.') := List.forall_mem_singleton.2 rfl
      rw [lower_append_dot, dropEndWhile_append_of_pos hdot, dropEndWhile_append_of_pos hdot, ih]
    · have hlast : (s ++ [c]).getLast? ≠ some '.' := by
        rw [List.getLast?_concat]
        exact fun h => hc (Option.some.inj h)
      have hlower : (lower (s ++ [c])).getLast? ≠ some '.' := mt getLast?_lower_eq_dot_iff.1 hlast
      have hkeep {t : Text} (ht : t.getLast? ≠ some '.') : dropEndWhile (· = '.') t = t := by
        refine dropEndWhile_eq_self_iff.2 fun d hd => decide_eq_false ?_
        rintro rfl
        exact ht hd
      rw [hkeep hlast, hkeep hlower]

end Text
end Blocklist
