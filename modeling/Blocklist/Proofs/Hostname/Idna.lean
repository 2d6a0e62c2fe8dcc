import Blocklist.Hostname.Idna
import Blocklist.Proofs.Text.Normal
import Blocklist.Proofs.Text.Trim

/-!
# Names in ASCII

What stands at the start of a name that was written in ASCII. A label without blanks either is encoded, and so
starts with `xn--`, or becomes a text without blanks (`of_labelToAscii?`); a name with a dot in it keeps a dot after
its first label (`of_toAscii?`).
-/

namespace Blocklist

variable {c d : Char} {l p s w x : Text} {n : Nat}

/-! ### Prepared labels -/

namespace Nameprep

/-- A range of code points with no blank in it. -/
def NoBlanks (first last : Int) : Prop :=
  0x21 ≤ first ∧ last < 0x85 ∨ 0xA1 ≤ first ∧ last < 0x1680 ∨ 0x1681 ≤ first ∧ last < 0x2000 ∨
    0x2060 ≤ first ∧ last < 0x3000 ∨ 0x3001 ≤ first

instance (first last : Int) : Decidable (NoBlanks first last) :=
  inferInstanceAs (Decidable (_ ∨ _ ∨ _ ∨ _ ∨ _))

theorem noBlanks_of_mem_foldRuns : ∀ r ∈ foldRuns, NoBlanks (r.first + r.delta) (r.last + r.delta) := by
  decide +kernel

/-- What is folded to a blank has a letter beside it that stays. -/
theorem noBlanks_of_mem_foldLong :
    ∀ p ∈ foldLong, (∀ n ∈ p.2, isBlank (Char.ofNat n) = false) ∨ 'ι'.toNat ∈ p.2 := by
  decide +kernel

theorem isBlank_foldRuns {r : Case.Run} (hr : r ∈ foldRuns) (hn : r.has n) :
    isBlank (Char.ofNat (n + r.delta).toNat) = false := by
  have hrange := noBlanks_of_mem_foldRuns r hr
  simp only [Case.Run.has, Bool.and_eq_true, decide_eq_true_eq] at hn
  have hcode := Normal.toNat_ofNat (n + r.delta).toNat
  simp only [NoBlanks] at hrange
  simp only [isBlank, Bool.or_eq_false_iff, Bool.and_eq_false_iff, decide_eq_false_iff_not]
  omega

theorem isBlank_of_mem_fold (hc : isBlank c = false) : (∀ d ∈ fold c, isBlank d = false) ∨ 'ι' ∈ fold c := by
  simp only [fold]
  split
  · exact .inl (by simp)
  split
  · rename_i r hr
    have hhas : r.has c.toNat := by simpa using List.find?_some hr
    exact .inl (List.forall_mem_singleton.2 (isBlank_foldRuns (List.mem_of_find?_eq_some hr) hhas))
  split
  · rename_i target htarget
    obtain ⟨before, after, hlist, -⟩ := List.lookup_eq_some_iff.1 htarget
    have hmem : (c.toNat, target) ∈ foldLong := hlist ▸ List.mem_append_right _ (List.mem_cons_self ..)
    refine (noBlanks_of_mem_foldLong _ hmem).imp (fun hall d hd => ?_) fun hiota => ?_
    · obtain ⟨n, hn, rfl⟩ := List.mem_map.1 hd
      exact hall n hn
    · exact Char.ofNat_toNat 'ι' ▸ List.mem_map_of_mem hiota
  · exact .inl (List.forall_mem_singleton.2 hc)

/-- A label without blanks that can be prepared in ASCII has no blanks then. -/
theorem isBlank_of_prepare? (hl : ∀ c ∈ l, isBlank c = false) (h : prepare? l = some s)
    (hascii : ∀ c ∈ s, c.toNat < 0x80) : ∀ c ∈ s, isBlank c = false := by
  have hs : Normal.normalize (l.flatMap fold) = s := by
    rw [prepare?] at h
    split at h
    · cases h
    · exact Option.some.inj h
  subst hs
  intro d hd
  rw [Normal.mem_normalize hascii, List.mem_flatMap] at hd
  obtain ⟨b, hb, hd⟩ := hd
  have hparts {b : Char} (hb : b ∈ l.flatMap fold) : ∀ d ∈ Normal.decompose b, d.toNat < 0x80 := fun d hd =>
    hascii d ((Normal.mem_normalize hascii).2 (List.mem_flatMap.2 ⟨b, hb, hd⟩))
  refine Normal.isBlank_of_mem_decompose ?_ (hparts hb) hd
  obtain ⟨a, ha, hba⟩ := List.mem_flatMap.1 hb
  refine (isBlank_of_mem_fold (hl a ha)).resolve_right (fun hiota => ?_) b hba
  have hself : Normal.decompose 'ι' = ['ι'] := by decide +kernel
  have := hparts (List.mem_flatMap.2 ⟨a, ha, hiota⟩) 'ι' (hself ▸ List.mem_singleton_self _)
  exact absurd this (by decide)

end Nameprep

/-! ### Labels and names -/

namespace Idna

theorem isAscii_iff : s.isAscii ↔ ∀ c ∈ s, c.toNat < 0x80 := by
  simp [Text.isAscii]

theorem of_fitting? (h : fitting? l = some p) : p = l ∧ l ≠ [] := by
  rw [fitting?] at h
  split at h
  · rename_i hlength
    simp only [Bool.and_eq_true, decide_eq_true_eq] at hlength
    exact ⟨(Option.some.inj h).symm, List.length_pos_iff.1 hlength.1⟩
  · cases h

/-- A label without blanks is encoded, or has no blanks in ASCII either. -/
theorem of_labelToAscii? (h : labelToAscii? l = some p) (hl : ∀ c ∈ l, isBlank c = false) :
    acePrefix <+: p ∨ p ≠ [] ∧ ∀ c ∈ p, isBlank c = false := by
  rw [labelToAscii?] at h
  split at h
  · obtain ⟨rfl, hne⟩ := of_fitting? h
    exact .inr ⟨hne, hl⟩
  split at h
  · cases h
  rename_i s hs
  split at h
  · rename_i hascii
    obtain ⟨rfl, hne⟩ := of_fitting? h
    exact .inr ⟨hne, Nameprep.isBlank_of_prepare? hl hs (isAscii_iff.1 hascii)⟩
  split at h
  · cases h
  · obtain ⟨rfl, -⟩ := of_fitting? h
    exact .inl (List.prefix_append ..)

theorem exists_of_hasInnerDot (h : hasInnerDot w) : ∃ a b, w = a ++ '.' :: b ∧ a ≠ [] ∧ b ≠ [] := by
  rw [hasInnerDot, List.elem_eq_mem, decide_eq_true_eq] at h
  cases w with
  | nil => cases h
  | cons c w =>
    obtain ⟨a, b, hab⟩ := List.append_of_mem h
    obtain ⟨w, e, rfl⟩ := (List.eq_nil_or_concat w).resolve_left (by rintro rfl; cases h)
    rw [List.drop_succ_cons, List.drop_zero, List.concat_eq_append, List.dropLast_concat] at hab
    refine ⟨c :: a, b ++ [e], ?_, List.cons_ne_nil c a, List.concat_ne_nil e b⟩
    rw [List.concat_eq_append, hab, List.append_assoc]
    rfl

/-- The labels of a name with a dot between its ends, without an empty one at the end, are more than one. -/
theorem exists_labels (hdot : hasInnerDot w) :
    let labels := Text.splitWhere Hostname.isDot w
    ∃ l q rest, l ∈ labels ∧ (if labels.getLast? = some [] then labels.dropLast else labels) = l :: q :: rest := by
  obtain ⟨a, b, rfl, -, hb⟩ := exists_of_hasInnerDot hdot
  obtain ⟨l, before, hbefore⟩ := List.exists_cons_of_ne_nil (Text.splitWhere_ne_nil Hostname.isDot a)
  have hne := Text.splitWhere_ne_nil Hostname.isDot b
  simp only [Text.splitWhere_append_cons (show Hostname.isDot '.' from rfl), hbefore]
  split
  · rename_i hlast
    rw [List.getLast?_append_of_ne_nil _ hne] at hlast
    have hdrop : (Text.splitWhere Hostname.isDot b).dropLast ≠ [] := by
      intro hnil
      obtain ⟨init, hinit⟩ := List.getLast?_eq_some_iff.1 hlast
      rw [hinit, List.dropLast_concat] at hnil
      rw [hnil] at hinit
      exact hb (Text.eq_of_splitWhere_singleton hinit)
    obtain ⟨q, rest, hrest⟩ := List.exists_cons_of_ne_nil (List.append_ne_nil_of_right_ne_nil before hdrop)
    rw [List.dropLast_append_of_ne_nil hne]
    exact ⟨l, q, rest, List.mem_cons_self .., congrArg (l :: ·) hrest⟩
  · obtain ⟨q, rest, hrest⟩ := List.exists_cons_of_ne_nil (List.append_ne_nil_of_right_ne_nil before hne)
    exact ⟨l, q, rest, List.mem_cons_self .., congrArg (l :: ·) hrest⟩

/-- A name with a dot between its ends that can be written in ASCII keeps a dot after its first label. -/
theorem of_toAscii? (h : toAscii? w = some x) (hdot : hasInnerDot w) :
    ∃ l p t, l ∈ Text.splitWhere Hostname.isDot w ∧ labelToAscii? l = some p ∧ x = p ++ '.' :: t := by
  obtain ⟨l, q, rest, hl, hbody⟩ := exists_labels hdot
  simp only [toAscii?, hbody] at h
  cases hparts : (l :: q :: rest).mapM labelToAscii? with
  | none =>
    rw [hparts] at h
    cases h
  | some parts =>
    rw [hparts] at h
    obtain rfl := Option.some.inj h
    simp only [List.mapM_cons, bind, Option.bind_eq_some_iff, pure, Option.some.injEq] at hparts
    obtain ⟨p, hp, _, ⟨p', -, parts, -, rfl⟩, rfl⟩ := hparts
    rw [Text.join_cons (List.cons_ne_nil p' parts), List.append_assoc]
    exact ⟨l, p, _, hl, hp, rfl⟩

end Idna
end Blocklist
