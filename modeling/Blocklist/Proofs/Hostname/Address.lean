import Blocklist.Proofs.Rule.Hosts

/-!
# Texts of addresses

An address without a zone is written in digits of base sixteen, colons and dots (`isAddressChar_of_parse?`). Nothing
of it is cut off where an address is looked for between blanks and brackets (`canonical?_of_parse?`).
-/

namespace Blocklist.Address

variable {a : Address} {c : Char} {l s : Text} {parts pieces : List Text} {groups : List Nat}

theorem isSome_of_mapM {α β : Type} {f : α → Option β} {xs : List α} {ys : List β} (h : xs.mapM f = some ys) :
    ∀ x ∈ xs, (f x).isSome := by
  induction xs generalizing ys with
  | nil => simp
  | cons x xs ih =>
    rw [List.mapM_cons] at h
    obtain ⟨y, hy, h⟩ := Option.bind_eq_some_iff.1 h
    obtain ⟨zs, hzs, -⟩ := Option.bind_eq_some_iff.1 h
    exact List.forall_mem_cons.2 ⟨by rw [hy]; rfl, ih hzs⟩

/-- Nothing but characters of an address, and no bracket or colon among them. -/
def IsPiece (p : Text) : Prop := ∀ c ∈ p, isHexDigit c ∨ c = '.'

theorem isPiece_of_octet? (h : (octet? s).isSome) : IsPiece s := by
  rw [octet?] at h
  split at h
  · rename_i hif
    simp only [Bool.and_eq_true] at hif
    intro c hc
    have hdigit := List.all_eq_true.1 hif.1.1.1.2 c hc
    exact .inl (by rw [isHexDigit, hdigit]; rfl)
  · cases h

theorem isPiece_of_group? (h : (group? s).isSome) : IsPiece s := by
  rw [group?] at h
  split at h
  · rename_i hif
    simp only [Bool.and_eq_true] at hif
    exact fun c hc => .inl (List.all_eq_true.1 hif.1.2 c hc)
  · cases h

theorem isPiece_of_v4Octets? (h : v4Octets? s = some groups) : IsPiece s := by
  rw [v4Octets?] at h
  split at h
  · intro c hc
    by_cases hdot : c = '.'
    · exact .inr hdot
    · obtain ⟨p, hp, hcp⟩ := Text.mem_splitOn hc hdot
      exact isPiece_of_octet? (isSome_of_mapM h p hp) c hcp
  · cases h

/-- If the pieces of an address are as they should be after its dotted end is replaced, so they are before. -/
theorem isPiece_of_expandTail? (h : expandTail? pieces = some parts) (hparts : ∀ p ∈ parts, IsPiece p) :
    ∀ p ∈ pieces, IsPiece p := by
  rw [expandTail?] at h
  split at h
  · rename_i last hlast
    obtain ⟨front, rfl⟩ := List.getLast?_eq_some_iff.1 hlast
    split at h
    · split at h
      · rename_i hv4
        obtain rfl := Option.some.inj h
        rw [List.dropLast_concat] at hparts
        intro p hp
        rcases List.mem_append.1 hp with hp | hp
        · exact hparts p (List.mem_append_left _ hp)
        · exact List.mem_singleton.1 hp ▸ isPiece_of_v4Octets? hv4
      · cases h
    · exact Option.some.inj h ▸ hparts
  · cases h

theorem isPiece_of_sideGroups? (h : sideGroups? parts = some groups) : ∀ p ∈ parts, IsPiece p := by
  rw [sideGroups?] at h
  split at h
  · rename_i hnil
    rw [hnil, List.forall_mem_singleton]
    exact fun c hc => absurd hc List.not_mem_nil
  · exact fun p hp => isPiece_of_group? (isSome_of_mapM h p hp)

/-- The pieces around a `::` at the place `i + 1`. -/
theorem forall_mem_of_sides {P : Text → Prop} {i : Nat} (hhigh : ∀ p ∈ parts.take (i + 1), P p) (hnil : P [])
    (hmiddle : parts[i + 1]? = some []) (hlow : ∀ p ∈ parts.drop (i + 2), P p) : ∀ p ∈ parts, P p := by
  intro p hp
  obtain ⟨j, hj⟩ := List.mem_iff_getElem?.1 hp
  rcases Nat.lt_trichotomy j (i + 1) with hlt | rfl | hgt
  · exact hhigh p (List.mem_of_getElem? ((List.getElem?_take_of_lt hlt).trans hj))
  · rw [hmiddle] at hj
    exact Option.some.inj hj ▸ hnil
  · refine hlow p (List.mem_of_getElem? (i := j - (i + 2)) ?_)
    rw [List.getElem?_drop, ← hj]
    congr 1
    omega

theorem isPiece_of_v6Groups? (h : v6Groups? s = some groups) : ∀ p ∈ s.splitOn ':', IsPiece p := by
  rw [v6Groups?] at h
  dsimp only at h
  split at h
  · cases h
  obtain ⟨parts, hparts, h⟩ := Option.bind_eq_some_iff.1 h
  refine isPiece_of_expandTail? hparts ?_
  split at h
  · cases h
  split at h
  · split at h
    · exact fun p hp => isPiece_of_group? (isSome_of_mapM h p hp)
    · cases h
  · rename_i i hi
    obtain ⟨high, hhigh, h⟩ := Option.bind_eq_some_iff.1 h
    obtain ⟨low, hlow, -⟩ := Option.bind_eq_some_iff.1 h
    refine forall_mem_of_sides (isPiece_of_sideGroups? hhigh) (by simp [IsPiece]) ?_ (isPiece_of_sideGroups? hlow)
    -- The empty piece is one of the inner ones, which are counted from the second piece on.
    obtain ⟨hlt, hnil, -⟩ := List.findIdx?_eq_some_iff_getElem.1 hi
    rw [List.length_dropLast, List.length_drop] at hlt
    refine List.getElem?_eq_some_iff.2 ⟨by omega, ?_⟩
    simpa [Nat.add_comm] using of_decide_eq_true hnil

theorem forall_mem_of_parse? (h : parse? s = some a) : ∀ c ∈ s, (isHexDigit c ∨ c = '.') ∨ c = ':' := by
  intro c hc
  rw [parse?] at h
  split at h
  · rename_i hv4
    exact .inl (isPiece_of_v4Octets? hv4 c hc)
  · obtain ⟨groups, hv6, -⟩ := Option.map_eq_some_iff.1 h
    by_cases hcolon : c = ':'
    · exact .inr hcolon
    · obtain ⟨p, hp, hcp⟩ := Text.mem_splitOn hc hcolon
      exact .inl (isPiece_of_v6Groups? hv6 p hp c hcp)

theorem isAddressChar_of_parse? (h : parse? s = some a) : ∀ c ∈ s, isAddressChar c := by
  intro c hc
  rw [isAddressChar]
  rcases forall_mem_of_parse? h c hc with (hhex | rfl) | rfl
  · simp [hhex]
  · decide
  · decide

theorem ne_nil_of_parse? (h : parse? s = some a) : s ≠ [] := by
  rintro rfl
  cases h

/-- An address without a zone is found as it is. -/
theorem canonical?_of_parse? (h : parse? s = some a) : canonical? s = some a.text := by
  have hmark : ∀ d ∈ ['[', ']', '%'], d ∉ s := by
    intro d hd hmem
    have hd : (d = '[' ∨ d = ']') ∨ d = '%' := by simpa [or_assoc] using hd
    rcases hd with (rfl | rfl) | rfl
    all_goals exact absurd (forall_mem_of_parse? h _ hmem) (by decide)
  have hblank : s.trim = s :=
    Text.trim_eq_self_iff.2 (Text.trimmed_word fun c hc => isBlank_of_isAddressChar (isAddressChar_of_parse? h c hc))
  have hbracket : s.trimBy (fun c => c = '[' || c = ']') = s := by
    have hnone : ∀ c ∈ s, (decide (c = '[') || decide (c = ']')) = false := by
      intro c hc
      rw [Bool.or_eq_false_iff, decide_eq_false_iff_not, decide_eq_false_iff_not]
      constructor
      · rintro rfl
        exact hmark '[' (by decide) hc
      · rintro rfl
        exact hmark ']' (by decide) hc
    rw [Text.trimBy, Text.dropWhile_eq_self_iff.2 fun c hc => hnone c (List.mem_of_head? hc),
      Text.dropEndWhile_eq_self_iff.2 fun c hc => hnone c (List.mem_of_getLast? hc)]
  have hzone : s.takeWhile (· ≠ '%') = s := by
    refine List.takeWhile_eq_self_iff.2 fun c hc => decide_eq_true fun hpercent => ?_
    exact hmark '%' (by decide) (hpercent ▸ hc)
  rw [canonical?, hblank, hbracket, hzone, h]
  rfl

end Blocklist.Address
