import Blocklist.Proofs.Optimize.Patterns

/-!
# Patterns in normal form

No step applies to a pattern in normal form (`no_step_iff_normal`). Each step is tried once, in one order,
and so what is left to do afterwards shows in the pattern beforehand (`normal_simplifyPattern_iff`): it is `Layered`.
-/

namespace Blocklist.Optimize
open AdblockRule

variable {p q s : Text}

/-- The domain mark, a name, a slash, and at most a line feed after it. -/
inductive NameSlash (p : Text) : Prop
  | intro {name m : Text} (eq : p = domainMark ++ (name ++ '/' :: m)) (ne_nil : name ≠ [])
      (chars : ∀ c ∈ name, isAnchoredChar c) (feed : m = [] ∨ m = ['\n'])

/-- Neither a wildcard right after the domain mark nor one right before the last separator, and no slash that ends a
name after the domain mark. -/
structure Normal (p : Text) : Prop where
  no_leading : ¬ domainMark ++ [wildcard] <+: p
  no_trailing : ¬ [wildcard, separator] <:+ p
  no_slash : ¬ NameSlash p

/-- What one round of steps does not bring into normal form. Behind the wildcard that goes from the front, maybe with
a dot, is another one or a name with a slash, or in front of the one that goes from the end is another one. -/
inductive Layered (p : Text) : Prop
  | leading {s t : Text} (eq : p = domainMark ++ wildcard :: s) (next : Text.removePrefix ['.'] s = wildcard :: t)
      (more : t ≠ [separator])
  | slash {s : Text} (eq : p = domainMark ++ wildcard :: s) (next : NameSlash (domainMark ++ Text.removePrefix ['.'] s))
  | trailing {s : Text} (eq : p = s ++ [wildcard, wildcard, separator]) (more : s ≠ domainMark)

/-! ### Steps that do not apply -/

theorem isNameWithSlash_iff : isNameWithSlash p ↔ NameSlash p := by
  rw [isNameWithSlash]
  constructor
  · intro h
    split at h
    · cases h
    rename_i s hs
    obtain ⟨hne, hslash⟩ := Bool.and_eq_true_iff.1 h
    obtain ⟨m, hm, hrest⟩ := Text.eq_removeSuffix_append ['\n'] (s.dropWhile isAnchoredChar)
    rw [← Text.dropLineFeed, of_decide_eq_true hslash] at hrest
    refine .intro ?_ (of_decide_eq_true hne) (fun c hc => List.mem_takeWhile_imp hc) hm
    rw [← List.singleton_append, ← hrest, List.takeWhile_append_dropWhile]
    exact Text.dropPrefix?_eq_some_iff.1 hs
  · rintro @⟨name, m, rfl, hne, hchars, hm⟩
    have hslash : isAnchoredChar '/' = false := by decide
    have hend : Text.dropLineFeed ('/' :: m) = ['/'] := by rcases hm with rfl | rfl <;> decide
    rw [Text.dropPrefix?_append]
    dsimp only
    rw [Text.takeWhile_append hchars (by simpa using hslash), Text.dropWhile_append hchars (by simpa using hslash)]
    exact Bool.and_eq_true_iff.2 ⟨decide_eq_true hne, decide_eq_true hend⟩

theorem slashStep?_eq_none_iff : slashStep? p = none ↔ ¬ NameSlash p := by
  rw [slashStep?, ← isNameWithSlash_iff]
  cases isNameWithSlash p <;> simp

theorem leadingStep?_eq_none_iff : leadingStep? p = none ↔ ¬ domainMark ++ [wildcard] <+: p := by
  rw [leadingStep?, Option.map_eq_none_iff, Text.dropPrefix?_eq_none_iff]

theorem trailingStep?_eq_none_iff : trailingStep? p = none ↔ ¬ [wildcard, separator] <:+ p := by
  rw [trailingStep?, Option.map_eq_none_iff, Text.dropSuffix?_eq_none_iff]

theorem normal_iff : Normal p ↔ slashStep? p = none ∧ leadingStep? p = none ∧ trailingStep? p = none := by
  rw [slashStep?_eq_none_iff, leadingStep?_eq_none_iff, trailingStep?_eq_none_iff]
  exact ⟨fun h => ⟨h.no_slash, h.no_leading, h.no_trailing⟩, fun ⟨hslash, hleading, htrailing⟩ =>
    ⟨hleading, htrailing, hslash⟩⟩

theorem simplifyPattern_of_normal (h : Normal p) : simplifyPattern p = (p, 0) := by
  obtain ⟨hslash, hleading, htrailing⟩ := normal_iff.1 h
  rw [simplifyPattern_eq, applyStep_none hslash, applyStep_none hleading, applyStep_none htrailing]

theorem le_applyStep (x : Text × Nat) (step? : Text → Option Text) : x.2 ≤ (applyStep x step?).2 := by
  rw [applyStep]
  split
  · exact Nat.le_succ _
  · exact Nat.le_refl _

/-- Nothing is counted exactly if no step applies. -/
theorem no_step_iff_normal : (simplifyPattern p).2 = 0 ↔ Normal p := by
  refine ⟨fun h => ?_, fun h => by rw [simplifyPattern_of_normal h]⟩
  rw [simplifyPattern_eq] at h
  cases hslash : slashStep? p with
  | some q =>
    rw [applyStep_some hslash] at h
    have := (le_applyStep _ leadingStep?).trans (le_applyStep (applyStep (q, 0 + 1) leadingStep?) trailingStep?)
    omega
  | none =>
  rw [applyStep_none hslash] at h
  cases hleading : leadingStep? p with
  | some q =>
    rw [applyStep_some hleading] at h
    have := le_applyStep (q, 0 + 1) trailingStep?
    omega
  | none =>
  rw [applyStep_none hleading] at h
  cases htrailing : trailingStep? p with
  | some q =>
    rw [applyStep_some htrailing] at h
    cases h
  | none => exact normal_iff.2 ⟨hslash, hleading, htrailing⟩

/-! ### The first steps -/

/-- What a step makes of a pattern; one to which it does not apply stays as it is. -/
theorem applyStep_fst (x : Text × Nat) (step? : Text → Option Text) :
    (applyStep x step?).1 = (step? x.1).getD x.1 := by
  rw [applyStep]
  split
  · rename_i h
    rw [h, Option.getD_some]
  · rename_i h
    rw [h, Option.getD_none]

theorem not_nameSlash_concat_separator : ¬ NameSlash (s ++ [separator]) := by
  rintro ⟨eq, -, -, feed⟩
  have hlast := congrArg List.getLast? eq
  rcases feed with rfl | rfl
  · simp [separator, ← List.append_assoc] at hlast
  · simp [separator] at hlast

theorem leading_prefix_cons (s : Text) : domainMark ++ [wildcard] <+: domainMark ++ wildcard :: s :=
  (List.prefix_append_right_inj _).2 (List.prefix_append [wildcard] s)

theorem not_leading_of_name {name : Text} (hne : name ≠ []) (hchars : ∀ c ∈ name, isAnchoredChar c) (t : Text) :
    ¬ domainMark ++ [wildcard] <+: domainMark ++ (name ++ t) := by
  rw [List.prefix_append_right_inj]
  intro hstar
  obtain ⟨c, name, rfl⟩ := List.exists_cons_of_ne_nil hne
  obtain rfl := (List.cons_prefix_cons.1 hstar).1
  exact absurd (hchars _ (List.mem_cons_self ..)) (by decide)

theorem not_leading_of_nameSlash (h : NameSlash p) : ¬ domainMark ++ [wildcard] <+: p := by
  obtain ⟨rfl, hne, hchars, -⟩ := h
  exact not_leading_of_name hne hchars _

theorem not_trailing_of_nameSlash (h : NameSlash p) : ¬ [wildcard, separator] <:+ p := by
  rintro ⟨s, rfl⟩
  exact not_nameSlash_concat_separator (s := s ++ [wildcard]) (by simpa using h)

/-- A pattern with a separator at its end, judged by what stands before it. -/
theorem normal_concat_separator_iff :
    Normal (s ++ [separator]) ↔ ¬ domainMark ++ [wildcard] <+: s ∧ ¬ [wildcard] <:+ s := by
  have hleading : domainMark ++ [wildcard] <+: s ++ [separator] ↔ domainMark ++ [wildcard] <+: s := by
    rw [List.prefix_concat_iff, or_iff_right]
    intro heq
    exact absurd (List.append_inj_right' heq rfl) (by decide)
  have htrailing : [wildcard, separator] <:+ s ++ [separator] ↔ [wildcard] <:+ s :=
    @List.suffix_append_self_iff _ [wildcard] _ _
  constructor
  · exact fun h => ⟨mt hleading.2 h.no_leading, mt htrailing.2 h.no_trailing⟩
  · exact fun h => ⟨mt hleading.1 h.1, mt htrailing.1 h.2, not_nameSlash_concat_separator⟩

theorem normal_of_slashStep? (h : slashStep? p = some q) : Normal q := by
  rw [slashStep?] at h
  split at h
  · rename_i hname
    obtain rfl := Option.some.inj h
    obtain @⟨name, m, rfl, hne, hchars, hm⟩ := isNameWithSlash_iff.1 hname
    have hlast : ¬ [wildcard] <:+ domainMark ++ name := by
      rw [Text.singleton_suffix_iff, List.getLast?_append_of_ne_nil _ hne]
      intro hstar
      exact absurd (hchars _ (List.mem_of_getLast? hstar)) (by decide)
    rcases hm with rfl | rfl
    · rw [← List.append_assoc, List.dropLast_concat, normal_concat_separator_iff]
      exact ⟨by simpa using not_leading_of_name hne hchars [], hlast⟩
    · -- The line feed goes, and the slash stays.
      rw [show domainMark ++ (name ++ ['/', '\n']) = (domainMark ++ (name ++ ['/'])) ++ ['\n'] by simp,
        List.dropLast_concat, normal_concat_separator_iff]
      refine ⟨not_leading_of_name hne hchars ['/'], ?_⟩
      rw [← List.append_assoc, Text.singleton_suffix_iff, List.getLast?_concat]
      decide
  · cases h

/-! ### The last step -/

/-- What the last step leaves to do, where it is still to come. -/
inductive Unfinished (p : Text) : Prop
  | leading (front : domainMark ++ [wildcard] <+: p) (more : p ≠ domainMark ++ [wildcard, separator])
  | slash (name : NameSlash p)
  | trailing (back : [wildcard, wildcard, separator] <:+ p)

/-- Of the wildcard at the end, only the shortest pattern has need at the front. -/
theorem leading_append_iff :
    domainMark ++ [wildcard] <+: s ++ [wildcard, separator] ↔ domainMark ++ [wildcard] <+: s ∨ s = domainMark := by
  constructor
  · intro h
    match s, h with
    | [], h => exact absurd (List.cons_prefix_cons.1 h).1 (by decide)
    | [c], h => exact absurd (List.cons_prefix_cons.1 (List.cons_prefix_cons.1 h).2).1 (by decide)
    | [c, d], h =>
      obtain ⟨rfl, hrest⟩ := List.cons_prefix_cons.1 h
      obtain ⟨rfl, -⟩ := List.cons_prefix_cons.1 hrest
      exact .inr rfl
    | c :: d :: e :: s, h =>
      refine .inl (List.prefix_of_prefix_length_le h (List.prefix_append _ _) ?_)
      exact Nat.le_add_left 3 s.length
  · rintro (h | rfl)
    · exact h.trans (List.prefix_append _ _)
    · exact leading_prefix_cons _

theorem normal_trailing_iff : Normal ((trailingStep? p).getD p) ↔ ¬ Unfinished p := by
  cases htrailing : trailingStep? p with
  | none =>
    have hnone := trailingStep?_eq_none_iff.1 htrailing
    rw [Option.getD_none]
    constructor
    · rintro h (⟨front, -⟩ | name | back)
      · exact h.no_leading front
      · exact h.no_slash name
      · exact hnone ((List.suffix_cons wildcard _).trans back)
    · refine fun h => ⟨fun front => h (.leading front fun heq => hnone ?_), hnone, fun name => h (.slash name)⟩
      exact heq ▸ List.suffix_append _ _
  | some q =>
    obtain ⟨s, rfl, rfl⟩ := of_trailingStep? htrailing
    have hback : [wildcard, wildcard, separator] <:+ s ++ [wildcard, separator] ↔ [wildcard] <:+ s :=
      @List.suffix_append_self_iff _ [wildcard] _ _
    rw [Option.getD_some, normal_concat_separator_iff]
    constructor
    · rintro ⟨hfront, hend⟩ (⟨front, more⟩ | name | back)
      · exact more (congrArg (· ++ _) ((leading_append_iff.1 front).resolve_left hfront))
      · exact not_trailing_of_nameSlash name (List.suffix_append _ _)
      · exact hend (hback.1 back)
    · refine fun h => ⟨fun front => h (.leading (leading_append_iff.2 (.inl front)) fun heq => ?_),
        fun back => h (.trailing (hback.2 back))⟩
      rw [List.append_cancel_right heq] at front
      exact absurd front (by decide)

/-! ### One round of steps -/

/-- Two wildcards at the end are not touched by the step at the front, unless it takes one of them. -/
theorem trailing_removePrefix_iff :
    [wildcard, wildcard, separator] <:+ domainMark ++ Text.removePrefix ['.'] s ↔
      ∃ t, domainMark ++ wildcard :: s = t ++ [wildcard, wildcard, separator] ∧ t ≠ domainMark := by
  constructor
  · rintro ⟨w, hw⟩
    obtain ⟨m, -, hs⟩ := Text.eq_append_removePrefix ['.'] s
    -- The domain mark is no part of the suffix.
    rcases w with _ | ⟨c, _ | ⟨d, w⟩⟩
    · exact absurd (List.cons.inj hw).1 (by decide)
    · exact absurd (List.cons.inj (List.cons.inj hw).2).1 (by decide)
    · have hw : w ++ [wildcard, wildcard, separator] = Text.removePrefix ['.'] s :=
        (List.cons.inj (List.cons.inj hw).2).2
      refine ⟨domainMark ++ wildcard :: (m ++ w), ?_, by simp [domainMark]⟩
      rw [hs, ← hw]
      simp
  · rintro ⟨t, ht, hne⟩
    rcases t with _ | ⟨c, _ | ⟨d, _ | ⟨e, t⟩⟩⟩
    · exact absurd (List.cons.inj ht).1 (by decide)
    · exact absurd (List.cons.inj (List.cons.inj ht).2).1 (by decide)
    · obtain ⟨rfl, hrest⟩ := List.cons.inj ht
      obtain ⟨rfl, -⟩ := List.cons.inj hrest
      exact absurd rfl hne
    · have ht : s = t ++ [wildcard] ++ [wildcard] ++ [separator] := by
        simpa using (List.cons.inj (List.cons.inj (List.cons.inj ht).2).2).2
      rw [ht, Text.removePrefix_concat (by decide), Text.removePrefix_concat (by decide),
        Text.removePrefix_concat (by decide)]
      exact ⟨domainMark ++ Text.removePrefix ['.'] t, by simp⟩

theorem layered_iff_of_leadingStep? (h : leadingStep? p = some q) : Layered p ↔ Unfinished q := by
  obtain ⟨s, rfl, rfl⟩ := of_leadingStep? h
  have hsame {t : Text} (eq : domainMark ++ wildcard :: s = domainMark ++ wildcard :: t) : s = t :=
    (List.cons.inj (List.append_cancel_left eq)).2
  constructor
  · rintro (⟨eq, next, more⟩ | ⟨eq, next⟩ | ⟨eq, more⟩)
    · rw [hsame eq, next]
      refine .leading (leading_prefix_cons _) fun heq => more ?_
      exact (List.cons.inj (List.append_cancel_left heq)).2
    · rw [hsame eq]
      exact .slash next
    · exact .trailing (trailing_removePrefix_iff.2 ⟨_, eq, more⟩)
  · rintro (⟨front, more⟩ | name | back)
    · obtain ⟨t, ht⟩ := List.prefix_append_right_inj _ |>.1 front
      rw [← ht] at more
      exact .leading rfl ht.symm fun heq => more (congrArg (domainMark ++ wildcard :: ·) heq)
    · exact .slash rfl name
    · obtain ⟨t, eq, more⟩ := trailing_removePrefix_iff.1 back
      exact .trailing eq more

/-- Without a wildcard at the front, a pattern is layered at its end only. -/
theorem layered_iff_of_not_leading (h : ¬ domainMark ++ [wildcard] <+: p) :
    Layered p ↔ [wildcard, wildcard, separator] <:+ p := by
  constructor
  · rintro (⟨rfl, -⟩ | ⟨rfl, -⟩ | ⟨rfl, -⟩)
    · exact absurd (leading_prefix_cons _) h
    · exact absurd (leading_prefix_cons _) h
    · exact List.suffix_append _ _
  · rintro ⟨s, rfl⟩
    refine .trailing rfl ?_
    rintro rfl
    exact h (leading_prefix_cons _)

/-- A pattern is in normal form after one round of steps unless it was layered before. -/
theorem normal_simplifyPattern_iff : Normal (simplifyPattern p).1 ↔ ¬ Layered p := by
  rw [simplifyPattern_eq, applyStep_fst]
  cases hslash : slashStep? p with
  | some q =>
    -- Only a name stands before the slash, and so neither wildcard is there, before or after.
    have hname : NameSlash p := by
      by_contra hnone
      rw [slashStep?_eq_none_iff.2 hnone] at hslash
      cases hslash
    have hq := normal_of_slashStep? hslash
    obtain ⟨-, hleading, htrailing⟩ := normal_iff.1 hq
    rw [applyStep_some hslash, applyStep_none hleading, htrailing]
    refine iff_of_true hq ?_
    rw [layered_iff_of_not_leading (not_leading_of_nameSlash hname)]
    exact fun back => not_trailing_of_nameSlash hname ((List.suffix_cons wildcard _).trans back)
  | none =>
  rw [applyStep_none hslash, applyStep_fst]
  cases hleading : leadingStep? p with
  | some q => rw [Option.getD_some, normal_trailing_iff, layered_iff_of_leadingStep? hleading]
  | none =>
    have hfront := leadingStep?_eq_none_iff.1 hleading
    rw [Option.getD_none, normal_trailing_iff, layered_iff_of_not_leading hfront]
    refine not_congr ⟨?_, .trailing⟩
    rintro (⟨front, -⟩ | name | back)
    · exact absurd front hfront
    · exact absurd name (slashStep?_eq_none_iff.1 hslash)
    · exact back

end Blocklist.Optimize
