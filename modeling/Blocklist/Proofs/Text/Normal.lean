import Blocklist.Proofs.Text.Case
import Blocklist.Text.Normal

/-!
# Normal forms that are ASCII

A composed character is never ASCII, so a normal form in ASCII has exactly the characters of the decompositions
(`mem_normalize`). Where these are ASCII, they have blanks for blanks only (`isBlank_of_mem_decompose`).
-/

namespace Blocklist.Normal

variable {a b c d : Char} {base : Option Char} {marks s : Text} {last n : Nat}

theorem toNat_ofNat (n : Nat) : (Char.ofNat n).toNat = n ∨ (Char.ofNat n).toNat = 0 := by
  by_cases h : n.isValidChar
  · left
    refine toNat_ofNat_toNat ?_
    simp only [Nat.isValidChar] at h
    omega
  · right
    rw [Char.ofNat, dif_neg h]
    rfl

/-- Beyond the blanks of ASCII there is none in ASCII. -/
theorem isBlank_ofNat (h : 0x21 ≤ n) (hascii : (Char.ofNat n).toNat < 0x80) : isBlank (Char.ofNat n) = false := by
  have hcode := toNat_ofNat n
  simp only [isBlank, Bool.or_eq_false_iff, Bool.and_eq_false_iff, decide_eq_false_iff_not]
  omega

/-! ### Composition -/

theorem first_of_mem_composites :
    ∀ e ∈ composites, 0x80 ≤ e.first ∧ e.first < 0xD800 ∨ 0xE000 ≤ e.first ∧ e.first < 0x110000 := by
  decide +kernel

theorem compose?_not_ascii (h : compose? a b = some c) : 0x80 ≤ c.toNat := by
  rw [compose?] at h
  split at h
  · rename_i n hn
    obtain rfl := Option.some.inj h
    have hrange : 0x80 ≤ n ∧ n < 0xD800 := by
      simp only [hangulWhole?, Bool.and_eq_true, decide_eq_true_eq] at hn
      split at hn
      · obtain rfl := Option.some.inj hn
        omega
      split at hn
      · obtain rfl := Option.some.inj hn
        omega
      · cases hn
    rw [toNat_ofNat_toNat (.inl hrange.2)]
    exact hrange.1
  · obtain ⟨e, he, rfl⟩ := Option.map_eq_some_iff.1 h
    have hfirst := first_of_mem_composites e (List.mem_of_find?_eq_some he)
    rw [toNat_ofNat_toNat (by omega)]
    omega

theorem mem_insertMark : d ∈ insertMark c s ↔ d = c ∨ d ∈ s := by
  induction s with
  | nil => simp [insertMark]
  | cons e s ih =>
    rw [insertMark]
    split
    · rw [List.mem_cons]
    · rw [List.mem_cons, ih, List.mem_cons, or_left_comm]

theorem mem_sortMarks : d ∈ sortMarks s ↔ d ∈ s := by
  induction s with
  | nil => rfl
  | cons c s ih =>
    rw [sortMarks]
    split
    · rw [List.mem_cons, List.mem_cons, ih]
    · rw [mem_insertMark, List.mem_cons, ih]

/-- The character that `c` is composed with `base` into, if nothing between them keeps them apart. -/
def whole? (base : Option Char) (marks : Text) (last : Nat) (c : Char) : Option Char :=
  if marks = [] || last < combiningClass c then base.bind (compose? · c) else none

theorem whole?_not_ascii (h : whole? base marks last c = some d) : 0x80 ≤ d.toNat := by
  rw [whole?] at h
  split at h
  · obtain ⟨a, -, hcompose⟩ := Option.bind_eq_some_iff.1 h
    exact compose?_not_ascii hcompose
  · cases h

theorem composeAfter_of_some (h : whole? base marks last c = some d) (s : Text) :
    composeAfter base marks last (c :: s) = composeAfter (some d) marks last s := by
  rw [composeAfter]
  simp only [show (if _ then _ else none) = some d from h]

theorem composeAfter_of_none (h : whole? base marks last c = none) (s : Text) :
    composeAfter base marks last (c :: s) =
      if combiningClass c = 0 then base.toList ++ marks ++ composeAfter (some c) [] 0 s
      else composeAfter base (marks ++ [c]) (combiningClass c) s := by
  rw [composeAfter]
  simp only [show (if _ then _ else none) = none from h]

/-- Nothing was composed where the result is ASCII. -/
theorem mem_composeAfter (h : ∀ c ∈ composeAfter base marks last s, c.toNat < 0x80) (d : Char) :
    d ∈ composeAfter base marks last s ↔ d ∈ base.toList ++ marks ++ s := by
  induction s generalizing base marks last d with
  | nil => rw [composeAfter, List.append_nil]
  | cons c s ih =>
    cases hwhole : whole? base marks last c with
    | some whole =>
      -- The composed character would be in the result.
      rw [composeAfter_of_some hwhole] at h
      have hascii := h whole ((ih h whole).2 (by simp))
      have := whole?_not_ascii hwhole
      omega
    | none =>
      rw [composeAfter_of_none hwhole] at h ⊢
      split at h
      · rename_i hk
        rw [if_pos hk, List.mem_append, ih fun c hc => h c (List.mem_append_right _ hc)]
        simp [or_assoc]
      · rename_i hk
        rw [if_neg hk, ih h]
        simp

theorem mem_normalize (h : ∀ c ∈ normalize s, c.toNat < 0x80) : d ∈ normalize s ↔ d ∈ s.flatMap decompose := by
  rw [normalize, mem_composeAfter h d, Option.toList_none, List.nil_append, List.nil_append, mem_sortMarks]

/-! ### Decomposition -/

/-- Where blanks stand in the decompositions of an entry: nowhere, or beside other characters than those of ASCII,
or in the decomposition of a blank. -/
def Entry.Clear (e : Entry) : Prop :=
  (∀ n ∈ e.target, 0x21 ≤ n) ∨ (2 ≤ e.target.length ∧ ∃ n ∈ e.target, 0x80 ≤ n ∧ n < 0xD800) ∨
    e.first = e.last ∧ isBlank (Char.ofNat e.first)

instance : DecidablePred Entry.Clear := fun _ => inferInstanceAs (Decidable (_ ∨ _ ∨ _))

theorem clear_of_mem_decompositions : ∀ e ∈ decompositions, e.Clear := by decide +kernel

theorem hangulParts?_not_ascii {parts : List Nat} (h : hangulParts? n = some parts) :
    ∃ m ∈ parts, 0x80 ≤ m ∧ m < 0xD800 := by
  rw [hangulParts?] at h
  split at h
  · rename_i hrange
    simp only [Bool.and_eq_true, decide_eq_true_eq] at hrange
    obtain rfl := Option.some.inj h
    refine ⟨0x1100 + (n - 0xAC00) / 588, ?_, by omega⟩
    split <;> exact List.mem_cons_self ..
  · cases h

/-- A text that has a character of such a code is not ASCII. -/
theorem not_ascii_map_ofNat {codes : List Nat} (h : ∃ n ∈ codes, 0x80 ≤ n ∧ n < 0xD800) :
    ¬ ∀ d ∈ codes.map Char.ofNat, d.toNat < 0x80 := by
  intro hascii
  obtain ⟨n, hn, hlow, hhigh⟩ := h
  have := hascii _ (List.mem_map_of_mem hn)
  rw [toNat_ofNat_toNat (.inl hhigh)] at this
  omega

/-- The entry of a character that is no blank does not decompose a blank. -/
theorem Entry.Clear.of_not_blank {e : Entry} (h : e.Clear) (hc : isBlank c = false) (hfirst : e.first ≤ c.toNat)
    (hlast : c.toNat ≤ e.last) :
    (∀ n ∈ e.target, 0x21 ≤ n) ∨ 2 ≤ e.target.length ∧ ∃ n ∈ e.target, 0x80 ≤ n ∧ n < 0xD800 := by
  rcases h with hall | hmixed | ⟨heq, hblank⟩
  · exact .inl hall
  · exact .inr hmixed
  · have hcode : e.first = c.toNat := by omega
    rw [hcode, Char.ofNat_toNat, hc] at hblank
    cases hblank

/-- Where the decomposition of a character that is no blank is ASCII, there is no blank in it. -/
theorem isBlank_of_mem_decompose (hc : isBlank c = false) (h : ∀ d ∈ decompose c, d.toNat < 0x80)
    (hd : d ∈ decompose c) : isBlank d = false := by
  have hascii := h d hd
  have hclear (e : Entry) (he : decompositions.find? (fun e => e.first ≤ c.toNat && c.toNat ≤ e.last) = some e) :
      (∀ n ∈ e.target, 0x21 ≤ n) ∨ 2 ≤ e.target.length ∧ ∃ n ∈ e.target, 0x80 ≤ n ∧ n < 0xD800 := by
    have hrange : e.first ≤ c.toNat ∧ c.toNat ≤ e.last := by simpa using List.find?_some he
    exact (clear_of_mem_decompositions e (List.mem_of_find?_eq_some he)).of_not_blank hc hrange.1 hrange.2
  simp only [decompose] at h hd
  split at hd
  · rwa [List.mem_singleton.1 hd]
  rename_i hn
  rw [if_neg hn] at h
  split at hd
  · rename_i parts hparts
    simp only [hparts] at h
    exact absurd h (not_ascii_map_ofNat (hangulParts?_not_ascii hparts))
  rename_i hparts
  simp only [hparts] at h
  split at hd
  · rename_i first last m he
    obtain rfl := List.mem_singleton.1 hd
    rcases hclear _ he with hall | ⟨hlength, -⟩
    · have := hall m (List.mem_singleton_self m)
      exact isBlank_ofNat (by omega) hascii
    · exact absurd hlength (Nat.not_succ_le_self 1)
  · rename_i e hsingle he
    rcases hclear e he with hall | ⟨-, hmixed⟩
    · obtain ⟨n, hn, rfl⟩ := List.mem_map.1 hd
      exact isBlank_ofNat (hall n hn) hascii
    · simp only [he] at h
      exact absurd h (not_ascii_map_ofNat hmixed)
  · rwa [List.mem_singleton.1 hd]

end Blocklist.Normal
