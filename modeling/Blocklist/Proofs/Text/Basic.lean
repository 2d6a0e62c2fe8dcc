import Blocklist.Text.Blank

/-!
# Ends and cuts of texts

`startsWith` and `dropPrefix?` in terms of `<+:`, the optional ends that `removePrefix` and `removeSuffix`
take away, `cut?` at a single character, the codes of ASCII letters and digits, and which characters are blank.
-/

namespace Blocklist

/-- The printable ASCII characters but the space are not blank. -/
theorem isBlank_eq_false {c : Char} (h : 0x21 ≤ c.toNat ∧ c.toNat ≤ 0x7E) : isBlank c = false := by
  simp only [isBlank, Bool.or_eq_false_iff, Bool.and_eq_false_iff, decide_eq_false_iff_not]
  omega

/-- What holds of each character of a list is seen by looking at each of them, and not at all characters. -/
theorem forall_mem_of_all {s : List Char} {P : Char → Prop} [DecidablePred P] (h : s.all (P ·)) : ∀ c ∈ s, P c := by
  simpa using h

theorem isUpper_iff {c : Char} : c.isUpper ↔ 65 ≤ c.toNat ∧ c.toNat ≤ 90 :=
  decide_eq_true_iff.trans (and_congr UInt32.le_iff_toNat_le UInt32.le_iff_toNat_le)

theorem isLower_iff {c : Char} : c.isLower ↔ 97 ≤ c.toNat ∧ c.toNat ≤ 122 :=
  Bool.and_eq_true_iff.trans <| and_congr (decide_eq_true_iff.trans UInt32.le_iff_toNat_le)
    (decide_eq_true_iff.trans UInt32.le_iff_toNat_le)

theorem isDigit_iff {c : Char} : c.isDigit ↔ 48 ≤ c.toNat ∧ c.toNat ≤ 57 :=
  Bool.and_eq_true_iff.trans <| and_congr (decide_eq_true_iff.trans UInt32.le_iff_toNat_le)
    (decide_eq_true_iff.trans UInt32.le_iff_toNat_le)

theorem isAlphanum_iff {c : Char} : c.isAlphanum ↔ (c.isUpper ∨ c.isLower) ∨ c.isDigit := by
  rw [← Bool.or_eq_true, ← Bool.or_eq_true]
  rfl

theorem toNat_of_isAlphanum {c : Char} (h : c.isAlphanum) : 0x30 ≤ c.toNat ∧ c.toNat ≤ 0x7A := by
  rw [isAlphanum_iff, isUpper_iff, isLower_iff, isDigit_iff] at h
  omega

end Blocklist

namespace Blocklist.Text
variable {p s r : Text}

theorem dropPrefix?_append (p r : Text) : dropPrefix? p (p ++ r) = some r :=
  dropPrefix?_eq_some_iff.2 rfl

theorem startsWith_iff : startsWith p s = true ↔ p <+: s := by
  unfold startsWith
  rw [Option.isSome_iff_exists]
  constructor
  · rintro ⟨r, h⟩
    exact ⟨r, (dropPrefix?_eq_some_iff.1 h).symm⟩
  · rintro ⟨r, h⟩
    exact ⟨r, dropPrefix?_eq_some_iff.2 h.symm⟩

theorem startsWith_eq_false_iff : startsWith p s = false ↔ ¬ p <+: s := by
  rw [← startsWith_iff, Bool.not_eq_true]

theorem dropPrefix?_eq_none_iff : dropPrefix? p s = none ↔ ¬ p <+: s := by
  rw [← startsWith_eq_false_iff, startsWith, Option.isSome_eq_false_iff, Option.isNone_iff_eq_none]

/-! ### Optional ends -/

theorem removePrefix_append (p s : Text) : removePrefix p (p ++ s) = s := by
  rw [removePrefix, dropPrefix?_append]; rfl

theorem removePrefix_eq_self (h : ¬ p <+: s) : removePrefix p s = s := by
  rw [removePrefix, dropPrefix?_eq_none_iff.2 h]; rfl

theorem removePrefix_concat {c : Char} (h : p.getLast? ≠ some c) (s : Text) :
    removePrefix p (s ++ [c]) = removePrefix p s ++ [c] := by
  by_cases hs : p <+: s
  · obtain ⟨r, rfl⟩ := hs
    rw [List.append_assoc, removePrefix_append, removePrefix_append]
  · rw [removePrefix_eq_self hs, removePrefix_eq_self]
    intro hsc
    rcases List.prefix_concat_iff.1 hsc with rfl | hs'
    · exact h List.getLast?_concat
    · exact hs hs'

/-- The prefix that goes is `p` or nothing. -/
theorem eq_append_removePrefix (p s : Text) : ∃ m, (m = [] ∨ m = p) ∧ s = m ++ removePrefix p s := by
  by_cases h : p <+: s
  · obtain ⟨r, rfl⟩ := h
    exact ⟨p, .inr rfl, by rw [removePrefix_append]⟩
  · exact ⟨[], .inl rfl, by rw [removePrefix_eq_self h, List.nil_append]⟩

theorem dropSuffix?_append (p r : Text) : dropSuffix? p (r ++ p) = some r :=
  dropSuffix?_eq_some_iff.2 rfl

theorem dropSuffix?_eq_none_iff : dropSuffix? p s = none ↔ ¬ p <:+ s := by
  constructor
  · rintro h ⟨r, rfl⟩
    rw [dropSuffix?_append] at h
    cases h
  · intro h
    rw [Option.eq_none_iff_forall_ne_some]
    intro r hr
    exact h ⟨r, (dropSuffix?_eq_some_iff.1 hr).symm⟩

theorem removeSuffix_append (p s : Text) : removeSuffix p (s ++ p) = s := by
  rw [removeSuffix, dropSuffix?_append]; rfl

theorem removeSuffix_eq_self (h : ¬ p <:+ s) : removeSuffix p s = s := by
  rw [removeSuffix, dropSuffix?_eq_none_iff.2 h]; rfl

/-- The suffix that goes is `p` or nothing. -/
theorem eq_removeSuffix_append (p s : Text) : ∃ m, (m = [] ∨ m = p) ∧ s = removeSuffix p s ++ m := by
  by_cases h : p <:+ s
  · obtain ⟨r, rfl⟩ := h
    exact ⟨p, .inr rfl, by rw [removeSuffix_append]⟩
  · exact ⟨[], .inl rfl, by rw [removeSuffix_eq_self h, List.append_nil]⟩

/-- Only the characters of the suffix can go. -/
theorem mem_removeSuffix {c : Char} (h : c ∈ s) (hp : c ∉ p) : c ∈ removeSuffix p s := by
  by_cases hs : p <:+ s
  · obtain ⟨r, rfl⟩ := hs
    rw [removeSuffix_append]
    exact (List.mem_append.1 h).resolve_right hp
  · rwa [removeSuffix_eq_self hs]

theorem singleton_suffix_iff {c : Char} : [c] <:+ s ↔ s.getLast? = some c := by
  rw [List.getLast?_eq_some_iff]
  exact ⟨fun ⟨r, h⟩ => ⟨r, h.symm⟩, fun ⟨r, h⟩ => ⟨r, h.symm⟩⟩

theorem dropLineFeed_append_cons {c : Char} (hc : c ≠ '\n') (s t : Text) :
    (s ++ c :: t).dropLineFeed = s ++ c :: t.dropLineFeed := by
  by_cases h : ['\n'] <:+ t
  · obtain ⟨q, rfl⟩ := h
    rw [dropLineFeed, dropLineFeed, removeSuffix_append, ← List.cons_append, ← List.append_assoc,
      removeSuffix_append]
  · rw [dropLineFeed, dropLineFeed, removeSuffix_eq_self h, removeSuffix_eq_self]
    rw [singleton_suffix_iff] at h ⊢
    rw [List.getLast?_append, List.getLast?_cons]
    cases ht : t.getLast? with
    | none => simpa using hc
    | some d => rw [ht] at h; simpa using h

theorem dropLineFeed_map {g : Char → Char} (h : ∀ c, g c = '\n' ↔ c = '\n') (s : Text) :
    dropLineFeed (s.map g) = (dropLineFeed s).map g := by
  have hfeed : g '\n' = '\n' := (h '\n').2 rfl
  by_cases hs : ['\n'] <:+ s
  · obtain ⟨r, rfl⟩ := hs
    have hmap : (r ++ ['\n']).map g = r.map g ++ ['\n'] := by rw [List.map_append, List.map_singleton, hfeed]
    rw [hmap, dropLineFeed, dropLineFeed, removeSuffix_append, removeSuffix_append]
  · rw [dropLineFeed, dropLineFeed, removeSuffix_eq_self hs, removeSuffix_eq_self]
    rw [singleton_suffix_iff, List.getLast?_map, Option.map_eq_some_iff]
    rintro ⟨c, hc, hg⟩
    exact hs (singleton_suffix_iff.2 ((h c).1 hg ▸ hc))

section
variable {c : Char} {a b : Text}

theorem cut?_eq_none_of_not_mem (hc : c ∈ p) (h : c ∉ s) : cut? p s = none := by
  rw [Option.eq_none_iff_forall_ne_some]
  rintro ⟨a, b⟩ hcut
  rw [eq_of_cut? hcut] at h
  exact h (List.mem_append_left b (List.mem_append_right a hc))

theorem cutAfterLast?_eq_none {f : Char → Bool} (h : ∀ c ∈ s, f c = false) : cutAfterLast? f s = none := by
  induction s with
  | nil => rfl
  | cons c s ih =>
    rw [cutAfterLast?, ih fun d hd => h d (List.mem_cons_of_mem c hd), h c (List.mem_cons_self ..)]
    rfl

theorem cutAfterLast?_append {f : Char → Bool} {t a b : Text} (h : cutAfterLast? f t = some (a, b)) (s : Text) :
    cutAfterLast? f (s ++ t) = some (s ++ a, b) := by
  induction s with
  | nil => exact h
  | cons c s ih => rw [List.cons_append, cutAfterLast?, ih]; rfl

theorem cutAfterLast?_concat_append {f : Char → Bool} {c : Char} {t : Text} (hc : f c)
    (h : cutAfterLast? f t = none) (s : Text) : cutAfterLast? f (s ++ [c] ++ t) = some (s ++ [c], t) := by
  rw [List.append_assoc]
  refine cutAfterLast?_append ?_ s
  rw [List.singleton_append, cutAfterLast?, h]
  simp [hc]

theorem eq_of_cutAfterLast? {f : Char → Bool} {a b : Text} (h : cutAfterLast? f s = some (a, b)) :
    s = a ++ b ∧ ∃ front c, a = front ++ [c] ∧ f c := by
  induction s generalizing a with
  | nil => cases h
  | cons c s ih =>
    rw [cutAfterLast?] at h
    split at h
    · rename_i a' b' hcut
      obtain ⟨rfl, rfl⟩ := Prod.mk.inj (Option.some.inj h)
      obtain ⟨rfl, front, d, rfl, hd⟩ := ih hcut
      exact ⟨rfl, c :: front, d, rfl, hd⟩
    · split at h
      · rename_i hc
        obtain ⟨rfl, rfl⟩ := Prod.mk.inj (Option.some.inj h)
        exact ⟨rfl, [], c, rfl, hc⟩
      · cases h

theorem cut?_singleton_cons (c d : Char) (s : Text) :
    cut? [c] (d :: s) = if c = d then some ([], s) else (cut? [c] s).map fun (a, b) => (d :: a, b) := by
  rw [cut?, dropPrefix?]
  split <;> simp_all [dropPrefix?]

theorem cut?_singleton_eq_none_iff : cut? [c] s = none ↔ c ∉ s := by
  induction s with
  | nil => simp [cut?]
  | cons d s ih =>
    rw [cut?_singleton_cons, List.mem_cons, not_or]
    split
    · rename_i h
      simp [h]
    · rename_i h
      rw [Option.map_eq_none_iff, ih]
      simp [h]

/-- The cut is at the first place. -/
theorem cut?_singleton_eq_some_iff : cut? [c] s = some (a, b) ↔ s = a ++ c :: b ∧ c ∉ a := by
  induction s generalizing a with
  | nil => simp [cut?]
  | cons d s ih =>
    rw [cut?_singleton_cons]
    split
    · rename_i h
      subst h
      constructor
      · intro h
        obtain ⟨rfl, rfl⟩ := Prod.mk.inj (Option.some.inj h)
        simp
      · rintro ⟨hs, ha⟩
        cases a with
        | nil => rw [(List.cons.inj hs).2]
        | cons e a => exact absurd ((List.cons.inj hs).1 ▸ List.mem_cons_self ..) ha
    · rename_i hcd
      rw [Option.map_eq_some_iff]
      constructor
      · rintro ⟨⟨a', b'⟩, hcut, heq⟩
        obtain ⟨rfl, rfl⟩ := Prod.mk.inj heq
        obtain ⟨rfl, ha⟩ := ih.1 hcut
        exact ⟨rfl, List.not_mem_cons_of_ne_of_not_mem hcd ha⟩
      · rintro ⟨hs, ha⟩
        cases a with
        | nil => exact absurd (List.cons.inj hs).1.symm hcd
        | cons e a =>
          obtain ⟨rfl, rfl⟩ := List.cons.inj hs
          exact ⟨(a, b), ih.2 ⟨rfl, List.not_mem_of_not_mem_cons ha⟩, rfl⟩

end

end Blocklist.Text
