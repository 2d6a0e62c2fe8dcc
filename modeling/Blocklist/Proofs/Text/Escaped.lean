import Blocklist.Proofs.Text.Basic
import Blocklist.Proofs.Text.Trim
import Blocklist.Text.Escaped

/-!
# Escapes

`Protected c s`: every `c` in `s` is escaped. Any character but the backslash forgets what came before
it, so the property passes to the pieces of a text and back (`protected_append_cons`), and the last
unescaped `c` is where a protected rest follows (`cutLastUnescaped?_eq_some_iff`). For `splitEscaped`,
`length_flatten_splitEscaped` counts the characters: each delimiter costs one, be it that it separates or
that it stands for itself.
-/

namespace Blocklist.Text

/-! ### Backslashes -/

/-- Whether a backslash protects the character after `s`, where `e` says it for the first of `s`. -/
def escapes (e : Bool) : Text → Bool
  | [] => e
  | d :: s => escapes (d = '\\' && !e) s

/-- A backslash protects every `c`. -/
def Protected (c : Char) (s : Text) : Prop := cutLastUnescaped? c s = none

instance (c : Char) (s : Text) : Decidable (Protected c s) :=
  inferInstanceAs (Decidable (cutLastUnescaped? c s = none))

section
variable {c d : Char} {e : Bool} {s t a b : Text}

theorem escapes_of_not_mem (h : '\\' ∉ s) : escapes false s = false := by
  induction s with
  | nil => rfl
  | cons d s ih =>
    rw [List.mem_cons, not_or] at h
    rw [escapes, decide_eq_false (Ne.symm h.1), Bool.false_and, ih h.2]

theorem escapes_append : escapes e (s ++ t) = escapes (escapes e s) t := by
  induction s generalizing e with
  | nil => rfl
  | cons d s ih => rw [List.cons_append, escapes, ih, escapes]

/-- Any character but the backslash forgets what came before it. -/
theorem escapes_append_cons (hd : d ≠ '\\') : escapes e (s ++ d :: t) = escapes false t := by
  rw [escapes_append, escapes, decide_eq_false hd, Bool.false_and]

theorem cutLastUnescapedAfter?_cons_eq_none_iff :
    cutLastUnescapedAfter? c e (d :: s) = none ↔
      cutLastUnescapedAfter? c (d = '\\' && !e) s = none ∧ (d = c → e = true) := by
  rw [cutLastUnescapedAfter?]
  split
  · rename_i h
    simp [h]
  · rename_i h
    simp [h]

theorem cutLastUnescapedAfter?_append_eq_none_iff :
    cutLastUnescapedAfter? c e (s ++ t) = none ↔
      cutLastUnescapedAfter? c e s = none ∧ cutLastUnescapedAfter? c (escapes e s) t = none := by
  induction s generalizing e with
  | nil => simp [cutLastUnescapedAfter?, escapes]
  | cons d s ih =>
    rw [List.cons_append, cutLastUnescapedAfter?_cons_eq_none_iff, cutLastUnescapedAfter?_cons_eq_none_iff,
      ih, escapes, and_right_comm]

theorem cutLastUnescapedAfter?_eq_some_iff (hc : c ≠ '\\') :
    cutLastUnescapedAfter? c e s = some (a, b) ↔
      s = a ++ c :: b ∧ escapes e a = false ∧ Protected c b := by
  constructor
  · intro h
    refine ⟨eq_of_cutLastUnescapedAfter? h, ?_⟩
    induction s generalizing e a with
    | nil => cases h
    | cons d s ih =>
      rw [cutLastUnescapedAfter?] at h
      split at h
      · rename_i a' b' h'
        obtain ⟨rfl, rfl⟩ := Prod.mk.inj (Option.some.inj h)
        rw [escapes]
        exact ih h'
      · rename_i hnone
        split at h
        · rename_i hd
          obtain ⟨rfl, rfl⟩ := Prod.mk.inj (Option.some.inj h)
          simp only [Bool.and_eq_true, decide_eq_true_eq, Bool.not_eq_true'] at hd
          obtain ⟨rfl, rfl⟩ := hd
          rw [decide_eq_false hc] at hnone
          exact ⟨rfl, hnone⟩
        · cases h
  · rintro ⟨rfl, he, hb⟩
    induction a generalizing e with
    | nil =>
      rw [escapes] at he
      rw [List.nil_append, cutLastUnescapedAfter?, decide_eq_false hc, Bool.false_and,
        show cutLastUnescapedAfter? c false b = none from hb, he]
      simp
    | cons d a ih => rw [List.cons_append, cutLastUnescapedAfter?, ih he]

theorem cutLastUnescaped?_eq_some_iff (hc : c ≠ '\\') :
    cutLastUnescaped? c s = some (a, b) ↔ s = a ++ c :: b ∧ escapes false a = false ∧ Protected c b :=
  cutLastUnescapedAfter?_eq_some_iff hc

theorem protected_of_not_mem (h : c ∉ s) : Protected c s := by
  suffices ∀ e, cutLastUnescapedAfter? c e s = none from this false
  intro e
  induction s generalizing e with
  | nil => rfl
  | cons d s ih =>
    rw [List.mem_cons, not_or] at h
    exact cutLastUnescapedAfter?_cons_eq_none_iff.2 ⟨ih h.2 _, fun hd => absurd hd.symm h.1⟩

theorem protected_nil (c : Char) : Protected c [] := rfl

theorem protected_append_cons (hd : d ≠ '\\') (hdc : d ≠ c) :
    Protected c (s ++ d :: t) ↔ Protected c s ∧ Protected c t := by
  rw [Protected, cutLastUnescaped?, cutLastUnescapedAfter?_append_eq_none_iff,
    cutLastUnescapedAfter?_cons_eq_none_iff, decide_eq_false hd, Bool.false_and]
  simp only [hdc, false_imp_iff, and_true]
  rfl

namespace Protected

theorem of_append_left (h : Protected c (s ++ t)) : Protected c s :=
  (cutLastUnescapedAfter?_append_eq_none_iff.1 h).1

theorem trim (h : Protected c s) : Protected c s.trim := by
  obtain ⟨a, b, hs, ha, -⟩ := eq_append_trim s
  rw [hs] at h
  have ha : '\\' ∉ a := fun hmem => absurd (ha _ hmem) (by decide)
  have h := (cutLastUnescapedAfter?_append_eq_none_iff.1 h.of_append_left).2
  rwa [escapes_of_not_mem ha] at h

end Protected

/-- Escaping a character neither takes the protection from another nor gives it. -/
theorem protected_replaceChar_iff (hd : d ≠ '\\') (hdc : d ≠ c) (hc : c ≠ '\\') :
    Protected c (replaceChar d ['\\', d] s) ↔ Protected c s := by
  suffices ∀ e, cutLastUnescapedAfter? c e (replaceChar d ['\\', d] s) = none ↔
      cutLastUnescapedAfter? c e s = none from this false
  intro e
  induction s generalizing e with
  | nil => exact Iff.rfl
  | cons c' s ih =>
    rw [cutLastUnescapedAfter?_cons_eq_none_iff, replaceChar, List.flatMap_cons]
    split
    · rename_i hc'
      subst hc'
      -- After the character the backslash before it is forgotten.
      rw [List.cons_append, List.singleton_append, cutLastUnescapedAfter?_cons_eq_none_iff,
        cutLastUnescapedAfter?_cons_eq_none_iff, decide_eq_false hd, Bool.false_and, Bool.false_and]
      have hrest := ih false
      rw [replaceChar] at hrest
      rw [hrest]
      constructor
      · exact fun h => ⟨h.1.1, fun h => absurd h hdc⟩
      · exact fun h => ⟨⟨h.1, fun h => absurd h hdc⟩, fun h => absurd h.symm hc⟩
    · rw [List.singleton_append, cutLastUnescapedAfter?_cons_eq_none_iff]
      have hrest := ih (decide (c' = '\\') && !e)
      rw [replaceChar] at hrest
      rw [hrest]

theorem protected_join_iff {ws : List Text} (hd : d ≠ '\\') (hdc : d ≠ c) :
    Protected c (join [d] ws) ↔ ∀ w ∈ ws, Protected c w := by
  induction ws with
  | nil => exact iff_of_true (protected_nil c) fun w hw => by cases hw
  | cons w ws ih =>
    cases ws with
    | nil => simp [join]
    | cons v ws =>
      rw [join, List.append_assoc, List.singleton_append, protected_append_cons hd hdc, ih,
        List.forall_mem_cons (a := w)]
      exact List.cons_ne_nil v ws

end

/-! ### Splitting -/

section
variable {delimiter escape last c : Char} {token s w : Text} {keepEmpty : Bool}

theorem splitEscapedAfter_nil (last : Option Char) :
    splitEscapedAfter delimiter escape false last token [] = [token].filter (· ≠ []) := by
  rw [splitEscapedAfter, List.filter_singleton]
  simp

theorem splitEscapedAfter_cons_of_ne (h : c ≠ delimiter) (last : Option Char) :
    splitEscapedAfter delimiter escape keepEmpty last token (c :: s) =
      splitEscapedAfter delimiter escape keepEmpty (some c) (token ++ [c]) s := by
  show (if c = delimiter then _ else _) = _
  rw [if_neg h]

theorem splitEscapedAfter_escaped :
    splitEscapedAfter delimiter escape keepEmpty (some escape) token (delimiter :: s) =
      splitEscapedAfter delimiter escape keepEmpty (some delimiter) (token.dropLast ++ [delimiter]) s := by
  show (if delimiter = delimiter then _ else _) = _
  rw [if_pos rfl]
  exact if_pos rfl

theorem splitEscapedAfter_delimiter (h : last ≠ escape) :
    splitEscapedAfter delimiter escape false (some last) token (delimiter :: s) =
      [token].filter (· ≠ []) ++ splitEscapedAfter delimiter escape false (some delimiter) [] s := by
  show (if delimiter = delimiter then _ else _) = _
  rw [if_pos rfl]
  show (if last = escape then _ else _) = _
  rw [if_neg h, List.filter_singleton]
  by_cases ht : token = []
  · simp [ht]
  · simp [ht]

/-- A text may as well follow a delimiter, if empty tokens do not count. -/
theorem splitEscaped_eq (h : delimiter ≠ escape) (s : Text) :
    splitEscaped delimiter escape false s =
      splitEscapedAfter delimiter escape false (some delimiter) [] s := by
  cases s with
  | nil => rfl
  | cons c s =>
    rw [splitEscaped, if_neg (List.cons_ne_nil c s)]
    by_cases hc : c = delimiter
    · have hfirst : splitEscapedAfter delimiter escape false none [] (delimiter :: s) =
          splitEscapedAfter delimiter escape false (some delimiter) [] s := by
        show (if delimiter = delimiter then _ else _) = _
        rw [if_pos rfl]
      rw [hc, hfirst, splitEscapedAfter_delimiter h]
      rfl
    · rw [splitEscapedAfter_cons_of_ne hc, splitEscapedAfter_cons_of_ne hc]

theorem splitEscapedAfter_word_append (h : delimiter ∉ w) (last : Char) (token s : Text) :
    splitEscapedAfter delimiter escape keepEmpty (some last) token (w ++ s) =
      splitEscapedAfter delimiter escape keepEmpty (some (w.getLastD last)) (token ++ w) s := by
  induction w generalizing last token with
  | nil => rw [List.nil_append, List.append_nil]; rfl
  | cons c w ih =>
    rw [List.mem_cons, not_or] at h
    rw [List.cons_append, splitEscapedAfter_cons_of_ne (Ne.symm h.1), ih h.2, List.getLastD_cons,
      List.append_assoc, List.singleton_append]

/-- Escaping the delimiters of a text makes it a part of one token. -/
theorem splitEscapedAfter_replaceChar_append (h : delimiter ≠ escape) (last : Char) (token v s : Text) :
    splitEscapedAfter delimiter escape keepEmpty (some last) token
        (replaceChar delimiter [escape, delimiter] v ++ s) =
      splitEscapedAfter delimiter escape keepEmpty
        (some ((replaceChar delimiter [escape, delimiter] v).getLastD last)) (token ++ v) s := by
  induction v generalizing last token with
  | nil => rw [List.append_nil]; rfl
  | cons c v ih =>
    have hflat : replaceChar delimiter [escape, delimiter] (c :: v) =
      (if c = delimiter then [escape, delimiter] else [c]) ++
        replaceChar delimiter [escape, delimiter] v := List.flatMap_cons
    rw [hflat]
    split
    · rename_i hc
      rw [hc, List.append_assoc, List.cons_append, List.singleton_append,
        splitEscapedAfter_cons_of_ne (Ne.symm h), splitEscapedAfter_escaped, ih, List.dropLast_concat,
        List.append_assoc, List.singleton_append, List.cons_append, List.singleton_append,
        List.getLastD_cons, List.getLastD_cons]
    · rename_i hc
      rw [List.append_assoc, List.singleton_append, splitEscapedAfter_cons_of_ne hc, ih,
        List.append_assoc, List.singleton_append, List.singleton_append, List.getLastD_cons]

theorem length_flatten_splitEscapedAfter (h : delimiter ≠ escape) (last : Char) (token : Text)
    (hlast : last = escape → token ≠ []) :
    (splitEscapedAfter delimiter escape false (some last) token s).flatten.length + s.count delimiter =
      token.length + s.length := by
  have hkept (token : Text) : ([token].filter (· ≠ [])).flatten = token := by
    rw [List.filter_singleton]
    cases token <;> simp
  induction s generalizing last token with
  | nil => rw [splitEscapedAfter_nil, hkept]; rfl
  | cons c s ih =>
    by_cases hc : c = delimiter
    · subst hc
      rw [List.count_cons_self, List.length_cons]
      by_cases hl : last = escape
      · have htoken := List.length_pos_iff.2 (hlast hl)
        have := ih c (token.dropLast ++ [c]) fun hc => absurd hc h
        rw [List.length_append, List.length_dropLast, List.length_singleton] at this
        rw [hl, splitEscapedAfter_escaped]
        omega
      · have := ih c [] fun hc => absurd hc h
        rw [List.length_nil] at this
        rw [splitEscapedAfter_delimiter hl, List.flatten_append, List.length_append, hkept]
        omega
    · have := ih c (token ++ [c]) fun _ => by simp
      rw [List.length_append, List.length_singleton] at this
      rw [splitEscapedAfter_cons_of_ne hc, List.count_cons_of_ne hc, List.length_cons]
      omega

theorem length_flatten_splitEscaped (h : delimiter ≠ escape) (s : Text) :
    (splitEscaped delimiter escape false s).flatten.length + s.count delimiter = s.length := by
  rw [splitEscaped_eq h, length_flatten_splitEscapedAfter h delimiter [] fun hd => absurd hd h,
    List.length_nil, Nat.zero_add]

/-- What stands at the end of a text stands at the end of a token, unless it is a delimiter. -/
theorem exists_concat_mem_splitEscaped (h : delimiter ≠ escape) (hc : c ≠ delimiter) (s : Text) :
    ∃ t, t ++ [c] ∈ splitEscaped delimiter escape false (s ++ [c]) := by
  suffices ∀ last token, ∃ t, t ++ [c] ∈ splitEscapedAfter delimiter escape false (some last) token (s ++ [c]) by
    rw [splitEscaped_eq h]
    exact this delimiter []
  induction s with
  | nil =>
    intro last token
    rw [List.nil_append, splitEscapedAfter_cons_of_ne hc, splitEscapedAfter_nil]
    exact ⟨token, List.mem_filter.2 ⟨List.mem_singleton_self _, by simp⟩⟩
  | cons d s ih =>
    intro last token
    rw [List.cons_append]
    by_cases hd : d = delimiter
    · subst hd
      by_cases hlast : last = escape
      · subst hlast
        rw [splitEscapedAfter_escaped]
        exact ih _ _
      · rw [splitEscapedAfter_delimiter hlast]
        exact (ih _ _).imp fun t ht => List.mem_append_right _ ht
    · rw [splitEscapedAfter_cons_of_ne hd]
      exact ih _ _

/-- Where a backslash protects the `c` of a text, it does so in its tokens. -/
theorem protected_of_mem_splitEscaped {t : Text} (hd : delimiter ≠ '\\') (hdc : delimiter ≠ c)
    (hs : Protected c s) (ht : t ∈ splitEscaped delimiter '\\' false s) : Protected c t := by
  suffices ∀ last token, Protected c (token ++ s) →
      t ∈ splitEscapedAfter delimiter '\\' false (some last) token s → Protected c t from
    this delimiter [] hs (splitEscaped_eq hd s ▸ ht)
  clear hs ht
  intro last token hs ht
  induction s generalizing last token with
  | nil =>
    rw [splitEscapedAfter_nil] at ht
    obtain rfl := List.mem_singleton.1 (List.mem_filter.1 ht).1
    rwa [List.append_nil] at hs
  | cons d s ih =>
    by_cases hdd : d = delimiter
    · subst hdd
      obtain ⟨htoken, hs⟩ := (protected_append_cons hd hdc).1 hs
      by_cases hl : last = '\\'
      · -- The backslash leaves the token, but the delimiter after it forgets it anyway.
        rw [hl, splitEscapedAfter_escaped] at ht
        refine ih d _ ?_ ht
        rw [List.append_assoc, List.singleton_append]
        refine (protected_append_cons hd hdc).2 ⟨?_, hs⟩
        obtain ⟨r, hr⟩ := List.dropLast_prefix token
        exact Protected.of_append_left (hr ▸ htoken)
      · rw [splitEscapedAfter_delimiter hl] at ht
        rcases List.mem_append.1 ht with ht | ht
        · obtain rfl := List.mem_singleton.1 (List.mem_filter.1 ht).1
          exact htoken
        · exact ih d [] hs ht
    · rw [splitEscapedAfter_cons_of_ne hdd] at ht
      refine ih d _ ?_ ht
      rwa [List.append_assoc]

end

end Blocklist.Text
