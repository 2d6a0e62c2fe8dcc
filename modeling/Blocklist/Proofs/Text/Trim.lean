import Blocklist.Text.Blank
import Mathlib.Data.List.Basic
import Mathlib.Data.List.TakeWhile

/-!
# Blanks at the ends of a text

`Trimmed s`: there are none. `trim` makes any text so (`trimmed_trim`), changes no other
(`trim_eq_self_iff`), and what it takes away are blanks (`eq_append_trim`). `words_join`: the words of
words joined by a blank are these words.
-/

namespace Blocklist.Text

/-- Neither the first character is blank nor the last. -/
def Trimmed (s : Text) : Prop :=
  (∀ c ∈ s.head?, isBlank c = false) ∧ ∀ c ∈ s.getLast?, isBlank c = false

-- Only the two characters are looked at, where another instance may try all there are.
instance : DecidablePred Trimmed := fun _ =>
  @instDecidableAnd _ _ (Option.decidableForallMem _) (Option.decidableForallMem _)

section
variable {f : Char → Bool} {s t : Text}

theorem head?_dropWhile (f : Char → Bool) (s : Text) : ∀ c ∈ (s.dropWhile f).head?, f c = false := by
  intro c hc
  have h := List.head?_dropWhile_not f s
  rw [Option.mem_def.1 hc] at h
  exact h

theorem dropWhile_eq_self_iff : s.dropWhile f = s ↔ ∀ c ∈ s.head?, f c = false := by
  constructor
  · intro h
    rw [← h]
    exact head?_dropWhile f s
  · intro h
    cases s with
    | nil => rfl
    | cons d s => rw [List.dropWhile_cons, h d rfl]; rfl

theorem dropWhile_append (hs : ∀ c ∈ s, f c) (ht : ∀ c ∈ t.head?, f c = false) :
    (s ++ t).dropWhile f = t := by
  rw [List.dropWhile_append_of_pos hs, dropWhile_eq_self_iff.2 ht]

theorem takeWhile_append (hs : ∀ c ∈ s, f c) (ht : ∀ c ∈ t.head?, f c = false) :
    (s ++ t).takeWhile f = s := by
  rw [List.takeWhile_append_of_pos hs]
  cases t with
  | nil => exact List.append_nil s
  | cons d t =>
    rw [List.takeWhile_cons_of_neg (by simp [ht d rfl]), List.append_nil]

theorem dropEndWhile_eq_self_iff : dropEndWhile f s = s ↔ ∀ c ∈ s.getLast?, f c = false := by
  rw [← List.head?_reverse, ← dropWhile_eq_self_iff, dropEndWhile, List.reverse_eq_iff]

theorem getLast?_dropEndWhile (f : Char → Bool) (s : Text) :
    ∀ c ∈ (dropEndWhile f s).getLast?, f c = false := by
  rw [dropEndWhile, List.getLast?_reverse]
  exact head?_dropWhile f s.reverse

theorem dropEndWhile_append_of_pos (ht : ∀ c ∈ t, f c) : dropEndWhile f (s ++ t) = dropEndWhile f s := by
  rw [dropEndWhile, List.reverse_append, List.dropWhile_append_of_pos fun c hc => ht c (List.mem_reverse.1 hc)]
  rfl

theorem dropEndWhile_append_cons {c : Char} (hc : f c = false) (s t : Text) :
    dropEndWhile f (s ++ c :: t) = s ++ c :: dropEndWhile f t := by
  rw [dropEndWhile, dropEndWhile, List.reverse_append, List.reverse_cons, List.append_assoc, List.dropWhile_append]
  split
  · rename_i h
    rw [List.isEmpty_iff.1 h, List.singleton_append, List.dropWhile_cons_of_neg (by simp [hc])]
    simp
  · simp

theorem eq_dropEndWhile_append (f : Char → Bool) (s : Text) :
    ∃ b, s = dropEndWhile f s ++ b ∧ ∀ c ∈ b, f c := by
  refine ⟨(s.reverse.takeWhile f).reverse, ?_, ?_⟩
  · rw [dropEndWhile, ← List.reverse_append, List.takeWhile_append_dropWhile, List.reverse_reverse]
  · intro c hc
    exact List.all_eq_true.1 List.all_takeWhile c (List.mem_reverse.1 hc)

/-- Cutting characters off the end leaves the start, unless nothing is left. -/
theorem head?_dropEndWhile (f : Char → Bool) (s : Text) : ∀ c ∈ (dropEndWhile f s).head?, c ∈ s.head? := by
  obtain ⟨b, hs, -⟩ := eq_dropEndWhile_append f s
  intro c hc
  rw [hs, List.head?_append, Option.mem_def.1 hc]
  rfl

/-! ### `trim` -/

theorem trimmed_trim (s : Text) : s.trim.Trimmed := by
  refine ⟨fun c hc => ?_, getLast?_dropEndWhile isBlank _⟩
  exact head?_dropWhile isBlank s c (head?_dropEndWhile isBlank _ c hc)

theorem trim_eq_self_iff : s.trim = s ↔ s.Trimmed := by
  constructor
  · intro h
    rw [← h]
    exact trimmed_trim s
  · intro h
    rw [trim, trimBy, dropWhile_eq_self_iff.2 h.1, dropEndWhile_eq_self_iff.2 h.2]

/-- Up to a character that is not blank, only the start of a text can be trimmed. -/
theorem trim_append_cons {c : Char} (hs : ∀ d ∈ s.head?, isBlank d = false) (hc : isBlank c = false) (t : Text) :
    trim (s ++ c :: t) = s ++ c :: dropEndWhile isBlank t := by
  rw [trim, trimBy, dropWhile_eq_self_iff.2, dropEndWhile_append_cons hc]
  cases s with
  | nil => exact fun d hd => Option.some.inj hd ▸ hc
  | cons e s => exact hs

theorem trim_cons_of_not_blank {c : Char} (hc : isBlank c = false) (s : Text) :
    trim (c :: s) = c :: dropEndWhile isBlank s :=
  trim_append_cons (s := []) (by simp) hc s

theorem eq_append_trim (s : Text) :
    ∃ a b, s = a ++ s.trim ++ b ∧ (∀ c ∈ a, isBlank c) ∧ ∀ c ∈ b, isBlank c := by
  obtain ⟨b, hs, hb⟩ := eq_dropEndWhile_append isBlank (s.dropWhile isBlank)
  refine ⟨s.takeWhile isBlank, b, ?_, List.all_eq_true.1 List.all_takeWhile, hb⟩
  rw [List.append_assoc, trim, trimBy, ← hs, List.takeWhile_append_dropWhile]

theorem length_trim_le (s : Text) : s.trim.length ≤ s.length := by
  obtain ⟨a, b, hs, -⟩ := eq_append_trim s
  have := congrArg List.length hs
  rw [List.length_append, List.length_append] at this
  omega

theorem trim_eq_self_of_length_le (h : s.length ≤ s.trim.length) : s.trim = s := by
  obtain ⟨a, b, hs, -⟩ := eq_append_trim s
  have hlength := congrArg List.length hs
  rw [List.length_append, List.length_append] at hlength
  have ha : a = [] := List.length_eq_zero_iff.1 (by omega)
  have hb : b = [] := List.length_eq_zero_iff.1 (by omega)
  rw [ha, hb, List.nil_append, List.append_nil] at hs
  exact hs.symm

theorem mem_of_mem_trim {c : Char} (h : c ∈ s.trim) : c ∈ s := by
  obtain ⟨a, b, hs, -⟩ := eq_append_trim s
  rw [hs]
  exact List.mem_append_left b (List.mem_append_right a h)

theorem trim_eq_nil_iff : s.trim = [] ↔ s.isBlankText := by
  rw [isBlankText, List.all_eq_true]
  constructor
  · intro h
    obtain ⟨a, b, hs, ha, hb⟩ := eq_append_trim s
    rw [hs, h, List.append_nil]
    intro c hc
    exact (List.mem_append.1 hc).elim (ha c) (hb c)
  · intro h
    rw [trim, trimBy, List.dropWhile_eq_nil_iff.2 h]
    rfl

namespace Trimmed

theorem nil : Trimmed [] := ⟨by simp, by simp⟩

theorem isBlankText_eq_false (h : s.Trimmed) (hne : s ≠ []) : s.isBlankText = false := by
  rw [Bool.eq_false_iff]
  intro hb
  rw [← trim_eq_nil_iff, trim_eq_self_iff.2 h] at hb
  exact hne hb

/-- What stands between two texts does not matter. -/
theorem append (hs : s.Trimmed) (ht : t.Trimmed) (hne : s ≠ []) (hne' : t ≠ []) (u : Text) :
    (s ++ u ++ t).Trimmed := by
  constructor
  · rw [List.append_assoc, List.head?_append_of_ne_nil _ hne]
    exact hs.1
  · rw [List.getLast?_append_of_ne_nil _ hne']
    exact ht.2

/-- Around a character that is not blank, only the outer ends matter. -/
theorem append_cons {c : Char} (hs : ∀ d ∈ s.head?, isBlank d = false) (hc : isBlank c = false)
    (ht : ∀ d ∈ t.getLast?, isBlank d = false) : (s ++ c :: t).Trimmed := by
  constructor
  · cases s with
    | nil => exact fun d hd => Option.some.inj hd ▸ hc
    | cons e s => exact hs
  · rw [List.getLast?_append_of_ne_nil _ (List.cons_ne_nil c t), List.getLast?_cons]
    cases ht' : t.getLast? with
    | none => exact fun d hd => Option.some.inj hd ▸ hc
    | some e => exact fun d hd => Option.some.inj hd ▸ ht e ht'

end Trimmed

end

/-! ### Words -/

section
variable {w s : Text} {c : Char}

theorem splitWhere_word {f : Char → Bool} (h : ∀ c ∈ w, f c = false) : splitWhere f w = [w] := by
  induction w with
  | nil => rfl
  | cons c w ih =>
    rw [splitWhere, h c (List.mem_cons_self ..), ih fun d hd => h d (List.mem_cons_of_mem _ hd)]
    rfl

theorem splitWhere_word_append {f : Char → Bool} (h : ∀ c ∈ w, f c = false) (hc : f c) (s : Text) :
    splitWhere f (w ++ c :: s) = w :: splitWhere f s := by
  induction w with
  | nil => rw [List.nil_append, splitWhere, if_pos hc]
  | cons d w ih =>
    rw [List.cons_append, splitWhere, h d (List.mem_cons_self ..),
      ih fun d' hd => h d' (List.mem_cons_of_mem _ hd)]
    rfl

theorem splitWhere_append_cons {f : Char → Bool} (hc : f c) (s t : Text) :
    splitWhere f (s ++ c :: t) = splitWhere f s ++ splitWhere f t := by
  induction s with
  | nil => simp [splitWhere, hc]
  | cons d s ih =>
    rw [List.cons_append, splitWhere, splitWhere, ih]
    split
    · rfl
    · cases hs : splitWhere f s with
      | nil => exact absurd hs (splitWhere_ne_nil f s)
      | cons p r => rfl

theorem splitWhere_congr {f g : Char → Bool} (h : ∀ c ∈ s, f c = g c) : splitWhere f s = splitWhere g s := by
  induction s with
  | nil => rfl
  | cons d s ih =>
    rw [splitWhere, splitWhere, h d (List.mem_cons_self ..), ih fun c hc => h c (List.mem_cons_of_mem _ hc)]

/-- A text in one piece is the piece. -/
theorem eq_of_splitWhere_singleton {f : Char → Bool} (h : splitWhere f s = [w]) : s = w := by
  induction s generalizing w with
  | nil => exact (List.cons.inj h).1
  | cons d s ih =>
    rw [splitWhere] at h
    split at h
    · exact absurd (List.cons.inj h).2 (splitWhere_ne_nil f s)
    split at h
    · rename_i hnil
      exact absurd hnil (splitWhere_ne_nil f s)
    · rename_i p rest hs
      obtain ⟨rfl, rfl⟩ := List.cons.inj h
      rw [ih hs]

/-- The pieces of two texts one after the other, of which two get joined. -/
theorem exists_splitWhere_append (f : Char → Bool) (s t : Text) :
    ∃ front last first back, splitWhere f s = front ++ [last] ∧ last <:+ s ∧ splitWhere f t = first :: back ∧
      splitWhere f (s ++ t) = front ++ (last ++ first) :: back := by
  obtain ⟨first, back, ht⟩ := List.exists_cons_of_ne_nil (splitWhere_ne_nil f t)
  induction s with
  | nil => exact ⟨[], [], first, back, rfl, List.suffix_refl _, ht, ht⟩
  | cons d s ih =>
    obtain ⟨front, last, first', back', hs, hlast, ht', happend⟩ := ih
    rw [List.cons_append, splitWhere, splitWhere]
    by_cases hd : f d
    · rw [if_pos hd, if_pos hd, hs, happend]
      exact ⟨[] :: front, last, first', back', rfl, hlast.trans (List.suffix_cons d s), ht', rfl⟩
    · rw [if_neg hd, if_neg hd, hs, happend]
      cases front with
      | nil =>
        rw [List.nil_append] at hs
        rw [eq_of_splitWhere_singleton hs]
        exact ⟨[], d :: last, first', back', rfl, List.suffix_refl _, ht', rfl⟩
      | cons p front =>
        exact ⟨(d :: p) :: front, last, first', back', rfl, hlast.trans (List.suffix_cons d s), ht', rfl⟩

theorem splitWhere_map {f : Char → Bool} {g : Char → Char} (h : ∀ c, f (g c) = f c) (s : Text) :
    splitWhere f (s.map g) = (splitWhere f s).map (List.map g) := by
  induction s with
  | nil => rfl
  | cons d s ih =>
    rw [List.map_cons, splitWhere, splitWhere, h, ih]
    split
    · rfl
    · cases splitWhere f s <;> rfl

theorem mem_of_mem_splitWhere {f : Char → Bool} (h : w ∈ splitWhere f s) :
    ∀ c ∈ w, f c = false ∧ c ∈ s := by
  induction s generalizing w with
  | nil =>
    obtain rfl := List.mem_singleton.1 h
    simp
  | cons d s ih =>
    rw [splitWhere] at h
    split at h
    · rcases List.mem_cons.1 h with rfl | h
      · simp
      · exact fun c hc => (ih h c hc).imp_right (List.mem_cons_of_mem _)
    · rename_i hd
      have hd : f d = false := Bool.eq_false_iff.2 hd
      split at h
      · rename_i hnil
        exact absurd hnil (splitWhere_ne_nil f s)
      · rename_i piece rest hs
        rcases List.mem_cons.1 h with rfl | h
        · intro c hc
          rcases List.mem_cons.1 hc with rfl | hc
          · exact ⟨hd, List.mem_cons_self ..⟩
          · exact (ih (hs ▸ List.mem_cons_self ..) c hc).imp_right (List.mem_cons_of_mem _)
        · exact fun c hc => (ih (hs ▸ List.mem_cons_of_mem _ h) c hc).imp_right (List.mem_cons_of_mem _)

/-- A word is not empty, has no blanks, and its characters are in the text. -/
theorem of_mem_words (h : w ∈ words s) : w ≠ [] ∧ ∀ c ∈ w, isBlank c = false ∧ c ∈ s := by
  obtain ⟨hsplit, hne⟩ := List.mem_filter.1 h
  exact ⟨by simpa using hne, mem_of_mem_splitWhere hsplit⟩

theorem words_append_blank (hne : w ≠ []) (h : ∀ c ∈ w, isBlank c = false) (hc : isBlank c) (s : Text) :
    words (w ++ c :: s) = w :: words s := by
  rw [words, splitWhere_word_append h hc, List.filter_cons_of_pos (by simpa using hne)]
  rfl

theorem words_word (hne : w ≠ []) (h : ∀ c ∈ w, isBlank c = false) : words w = [w] := by
  rw [words, splitWhere_word h, List.filter_cons_of_pos (by simpa using hne)]
  rfl

theorem words_join {ws : List Text} (h : ∀ w ∈ ws, w ≠ [] ∧ ∀ c ∈ w, isBlank c = false) :
    words (join [' '] ws) = ws := by
  induction ws with
  | nil => rfl
  | cons w ws ih =>
    obtain ⟨hne, hw⟩ := h w (List.mem_cons_self ..)
    cases ws with
    | nil => exact words_word hne hw
    | cons v ws =>
      rw [join, List.append_assoc, List.singleton_append, words_append_blank hne hw (by decide),
        ih fun u hu => h u (List.mem_cons_of_mem _ hu)]
      exact List.cons_ne_nil v ws

theorem join_cons {sep : Text} {pieces : List Text} (hne : pieces ≠ []) (p : Text) :
    join sep (p :: pieces) = p ++ (sep ++ join sep pieces) := by
  obtain ⟨q, pieces, rfl⟩ := List.exists_cons_of_ne_nil hne
  exact List.append_assoc ..

theorem join_cons_eq_append (sep p : Text) (pieces : List Text) :
    join sep (p :: pieces) = p ++ pieces.flatMap (sep ++ ·) := by
  induction pieces generalizing p with
  | nil => exact (List.append_nil p).symm
  | cons q pieces ih => rw [join_cons (List.cons_ne_nil q pieces), ih, List.flatMap_cons, List.append_assoc]

theorem join_concat {sep : Text} {pieces : List Text} (hne : pieces ≠ []) (p : Text) :
    join sep (pieces ++ [p]) = join sep pieces ++ (sep ++ p) := by
  induction pieces with
  | nil => exact absurd rfl hne
  | cons q pieces ih =>
    by_cases hpieces : pieces = []
    · rw [hpieces]
      exact List.append_assoc ..
    · rw [List.cons_append, join_cons (List.concat_ne_nil p pieces), join_cons hpieces, ih hpieces]
      simp only [List.append_assoc]

/-- Joining pieces and splitting at the joints gives the pieces back. -/
theorem splitOn_join {pieces : List Text} (hne : pieces ≠ []) (h : ∀ p ∈ pieces, c ∉ p) :
    splitOn c (join [c] pieces) = pieces := by
  have hword {p : Text} (hp : c ∉ p) : ∀ d ∈ p, decide (d = c) = false :=
    fun d hd => decide_eq_false fun heq => hp (heq ▸ hd)
  induction pieces with
  | nil => exact absurd rfl hne
  | cons p pieces ih =>
    obtain ⟨hp, hpieces⟩ := List.forall_mem_cons.1 h
    by_cases hne' : pieces = []
    · rw [hne']
      exact splitWhere_word (hword hp)
    · rw [join_cons hne', splitOn, List.singleton_append, splitWhere_word_append (hword hp) (decide_eq_true rfl)]
      exact congrArg (p :: ·) (ih hne' hpieces)

theorem join_ne_nil {sep : Text} {ws : List Text} (hne : w ≠ []) : join sep (w :: ws) ≠ [] := by
  cases ws with
  | nil => exact hne
  | cons v ws => simp [join, hne]

theorem trimmed_word (h : ∀ c ∈ w, isBlank c = false) : w.Trimmed :=
  ⟨fun c hc => h c (List.mem_of_head? hc), fun c hc => h c (List.mem_of_getLast? hc)⟩

theorem trimmed_join {sep : Text} {ws : List Text} (h : ∀ w ∈ ws, w ≠ [] ∧ ∀ c ∈ w, isBlank c = false) :
    (join sep ws).Trimmed := by
  induction ws with
  | nil => exact .nil
  | cons w ws ih =>
    rw [List.forall_mem_cons] at h
    obtain ⟨⟨hne, hw⟩, hws⟩ := h
    cases ws with
    | nil => exact trimmed_word hw
    | cons v ws =>
      have hrest : join sep (v :: ws) ≠ [] := join_ne_nil (hws v (List.mem_cons_self ..)).1
      exact (trimmed_word hw).append (ih hws) hne hrest sep

theorem mem_join {sep : Text} {ws : List Text} (h : c ∈ join sep ws) : c ∈ sep ∨ ∃ w ∈ ws, c ∈ w := by
  induction ws with
  | nil => cases h
  | cons w ws ih =>
    cases ws with
    | nil => exact .inr ⟨w, List.mem_cons_self .., h⟩
    | cons v ws =>
      rw [join, List.mem_append, List.mem_append] at h
      · obtain (h | h) | h := h
        · exact .inr ⟨w, List.mem_cons_self .., h⟩
        · exact .inl h
        · refine (ih h).imp_right ?_
          rintro ⟨u, hu, hc⟩
          exact ⟨u, List.mem_cons_of_mem w hu, hc⟩
      · exact List.cons_ne_nil v ws

theorem mem_splitOn {s : Text} {d : Char} (h : c ∈ s) (hc : c ≠ d) : ∃ w ∈ s.splitOn d, c ∈ w := by
  rw [← join_splitOn d s] at h
  rcases mem_join h with h | h
  · exact absurd (List.mem_singleton.1 h) hc
  · exact h

end

end Blocklist.Text
