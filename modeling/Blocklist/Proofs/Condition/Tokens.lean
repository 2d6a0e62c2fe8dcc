import Blocklist.Condition
import Blocklist.Proofs.Text.Basic
import Mathlib.Data.List.Chain

/-!
# The tokens of a condition

`Laid ts s`: the text `s` has the spellings of the tokens `ts` in it, and nothing else but padding.
`tokens_of_laid`: its tokens are `ts`, provided that the words are `Apart`, for neighbours could run into
each other.
-/

namespace Blocklist.Condition

/-- A character that no token has. Blanks are among them, `&` and `|` are not. -/
def isPadding (c : Char) : Bool := !(isNameChar c || ['!', '(', ')', '&', '|'].elem c)

/-- The spelling of a truth value in lower case. -/
def truthWord (value : Bool) : Text := if value then ['t', 'r', 'u', 'e'] else ['f', 'a', 'l', 's', 'e']

namespace Token

/-- A truth value or a name. -/
def isWord : Token → Bool
  | .truth _ _ | .name _ => true
  | _ => false

/-- A word that stands for what its token says. -/
def WellSpelled : Token → Prop
  | .truth value w => w.map Char.toLower = truthWord value
  | .name w => w ≠ [] ∧ w.all isNameChar ∧ ∀ value, w.map Char.toLower ≠ truthWord value
  | _ => True

end Token

/-- No two words are neighbours. -/
def Apart (ts : List Token) : Prop := ts.IsChain fun t u => t.isWord = false ∨ u.isWord = false

/-- The tokens in order, with padding before, between and after them. -/
inductive Laid : List Token → Text → Prop
  | nil (pad : Text) (h : pad.all isPadding) : Laid [] pad
  | cons (pad : Text) (h : pad.all isPadding) (t : Token) {ts : List Token} {s : Text}
      (rest : Laid ts s) : Laid (t :: ts) (pad ++ t.text ++ s)

/-! ### Characters -/

section
variable {c : Char}

theorem isNameChar_iff : isNameChar c ↔ c.isAlphanum ∨ c = '_' := by
  simp [isNameChar]

theorem isNameChar_of_isPadding (h : isPadding c) : isNameChar c = false := by
  simp only [isPadding, Bool.not_eq_true', Bool.or_eq_false_iff] at h
  exact h.1

theorem not_mem_of_isPadding (h : isPadding c) : c ∉ ['!', '(', ')', '&', '|'] := by
  simp only [isPadding, Bool.not_eq_true', Bool.or_eq_false_iff, List.elem_eq_mem,
    decide_eq_false_iff_not] at h
  exact h.2

theorem toNat_of_isNameChar (h : isNameChar c) : 0x30 ≤ c.toNat ∧ c.toNat ≤ 0x7A := by
  rcases isNameChar_iff.1 h with h | rfl
  · exact toNat_of_isAlphanum h
  · decide

theorem isNameChar_of_isLower_toLower (h : c.toLower.isLower) : isNameChar c := by
  rw [isNameChar_iff, isAlphanum_iff]
  unfold Char.toLower at h
  split at h
  · rename_i hu
    exact .inl (.inl (.inl (decide_eq_true hu)))
  · exact .inl (.inl (.inr h))

theorem isPadding_of_isBlank (h : isBlank c) : isPadding c := by
  have hname : isNameChar c = false := by
    cases hn : isNameChar c with
    | false => rfl
    | true =>
      have := toNat_of_isNameChar hn
      rw [isBlank_eq_false (by omega)] at h
      cases h
  have hmem : c ∉ ['!', '(', ')', '&', '|'] := by
    intro hc
    simp only [List.mem_cons, List.not_mem_nil, or_false] at hc
    rcases hc with rfl | rfl | rfl | rfl | rfl <;> exact absurd h (by decide)
  simp only [isPadding, hname, List.elem_eq_mem, hmem, decide_false, Bool.or_self, Bool.not_false]

end

/-! ### One step of the scan -/

section
variable {w v s : Text} {c : Char}

theorem closeWord_nil (ts : List Token) : closeWord [] ts = ts := rfl

theorem closeWord_of_ne_nil (h : w ≠ []) (ts : List Token) : closeWord w ts = Token.ofWord w :: ts := by
  rw [closeWord, if_neg h]

theorem tokensAfter_padding (h : isPadding c) (w s : Text) :
    tokensAfter w (c :: s) = closeWord w (tokensAfter [] s) := by
  have hmem := not_mem_of_isPadding h
  simp only [List.mem_cons, List.not_mem_nil, or_false, not_or] at hmem
  obtain ⟨h1, h2, h3, h4, h5⟩ := hmem
  rw [tokensAfter.eq_def]
  split
  · rename_i heq; cases heq
  · rename_i heq; exact absurd (List.cons.inj heq).1 h4
  · rename_i heq; exact absurd (List.cons.inj heq).1 h5
  · rename_i heq
    obtain ⟨rfl, rfl⟩ := List.cons.inj heq
    rw [isNameChar_of_isPadding h, if_neg h1, if_neg h2, if_neg h3]
    rfl

theorem tokensAfter_nameChar (h : isNameChar c) (w s : Text) :
    tokensAfter w (c :: s) = tokensAfter (w ++ [c]) s := by
  have h4 : c ≠ '&' := by rintro rfl; exact absurd h (by decide)
  have h5 : c ≠ '|' := by rintro rfl; exact absurd h (by decide)
  rw [tokensAfter.eq_def]
  split
  · rename_i heq; cases heq
  · rename_i heq; exact absurd (List.cons.inj heq).1 h4
  · rename_i heq; exact absurd (List.cons.inj heq).1 h5
  · rename_i heq
    obtain ⟨rfl, rfl⟩ := List.cons.inj heq
    rw [if_pos h]

theorem tokensAfter_word (h : ∀ c ∈ v, isNameChar c) (w s : Text) :
    tokensAfter w (v ++ s) = tokensAfter (w ++ v) s := by
  induction v generalizing w with
  | nil => simp
  | cons c v ih =>
    rw [List.cons_append, tokensAfter_nameChar (h c (List.mem_cons_self ..)),
      ih fun c' h' => h c' (List.mem_cons_of_mem _ h'), List.append_assoc]
    rfl

theorem tokensAfter_symbol {t : Token} (h : t.isWord = false) (s : Text) :
    tokensAfter [] (t.text ++ s) = t :: tokensAfter [] s := by
  cases t with
  | truth value w => cases h
  | name w => cases h
  | and => rw [Token.text, List.cons_append, List.cons_append, tokensAfter.eq_def]; rfl
  | or => rw [Token.text, List.cons_append, List.cons_append, tokensAfter.eq_def]; rfl
  | not => rw [Token.text, List.cons_append, tokensAfter.eq_def]; rfl
  | opening => rw [Token.text, List.cons_append, tokensAfter.eq_def]; rfl
  | closing => rw [Token.text, List.cons_append, tokensAfter.eq_def]; rfl

/-- Where no name goes on, a pending word ends. -/
theorem tokensAfter_eq_closeWord (h : ∀ c ∈ s.head?, isNameChar c = false) (w : Text) :
    tokensAfter w s = closeWord w (tokensAfter [] s) := by
  rw [tokensAfter.eq_def, tokensAfter.eq_def []]
  split
  · rfl
  · rfl
  · rfl
  · rename_i c s _ _
    rw [h c rfl, if_neg Bool.false_ne_true, if_neg Bool.false_ne_true]
    split
    · rfl
    split
    · rfl
    split <;> rfl

theorem tokensAfter_pad {pad : Text} (h : pad.all isPadding) (s : Text) :
    tokensAfter [] (pad ++ s) = tokensAfter [] s := by
  induction pad with
  | nil => rfl
  | cons c pad ih =>
    rw [List.all_cons, Bool.and_eq_true] at h
    rw [List.cons_append, tokensAfter_padding h.1, closeWord_nil, ih h.2]

end

/-! ### Texts -/

namespace Token
variable {t : Token}

theorem isNameChar_of_map_toLower {value : Bool} {w : Text} (h : w.map Char.toLower = truthWord value) :
    ∀ c ∈ w, isNameChar c := by
  intro c hc
  have hmem : c.toLower ∈ truthWord value := h ▸ List.mem_map_of_mem hc
  have hall : (truthWord value).all Char.isLower := by cases value <;> decide
  exact isNameChar_of_isLower_toLower (List.all_eq_true.1 hall _ hmem)

/-- The spelling of a word is read as its token. -/
theorem word_text (hw : t.isWord) (h : t.WellSpelled) :
    t.text ≠ [] ∧ (∀ c ∈ t.text, isNameChar c) ∧ ofWord t.text = t := by
  cases t with
  | truth value w =>
    refine ⟨?_, isNameChar_of_map_toLower h, ?_⟩
    · rintro rfl; cases value <;> cases h
    · cases value <;> · rw [text, ofWord, h]; rfl
  | name w =>
    obtain ⟨hne, hall, hword⟩ := h
    refine ⟨hne, List.all_eq_true.1 hall, ?_⟩
    have htrue : ¬ w.map Char.toLower = ['t', 'r', 'u', 'e'] := hword true
    have hfalse : ¬ w.map Char.toLower = ['f', 'a', 'l', 's', 'e'] := hword false
    rw [text, ofWord, if_neg htrue, if_neg hfalse]
  | _ => cases hw

theorem text_symbol (hw : t.isWord = false) : ∃ c rest, t.text = c :: rest ∧ isNameChar c = false := by
  cases t with
  | truth value w => cases hw
  | name w => cases hw
  | _ => exact ⟨_, _, rfl, by decide⟩

end Token

namespace Apart
variable {t : Token} {ts us : List Token}

theorem cons (ht : t.isWord = false) (h : Apart ts) : Apart (t :: ts) :=
  List.isChain_cons.2 ⟨fun _ _ => .inl ht, h⟩

theorem append_cons (ht : t.isWord = false) (hts : Apart ts) (hus : Apart us) : Apart (ts ++ t :: us) := by
  refine List.isChain_append.2 ⟨hts, hus.cons ht, fun _ _ u hu => ?_⟩
  obtain rfl : t = u := Option.some.inj hu
  exact .inr ht

end Apart

/-- A text starts with no word if its first token is none. -/
theorem Laid.head_not_nameChar {ts : List Token} {s : Text} (h : Laid ts s)
    (ht : ∀ t ∈ ts.head?, t.isWord = false) : ∀ c ∈ s.head?, isNameChar c = false := by
  have hpad {pad : Text} (hp : pad.all isPadding) {d : Char} (hd : d ∈ pad.head?) :
      isNameChar d = false :=
    isNameChar_of_isPadding (List.all_eq_true.1 hp d (List.mem_of_head? hd))
  cases h with
  | nil _ hp => exact fun c hc => hpad hp hc
  | @cons pad hp t ts s rest =>
    intro c hc
    cases pad with
    | cons d pad => exact hpad hp hc
    | nil =>
      obtain ⟨d, more, htext, hd⟩ := Token.text_symbol (ht t rfl)
      rw [htext] at hc
      obtain rfl : d = c := Option.some.inj hc
      exact hd

/-- Laying tokens out and scanning the text gives the tokens back. -/
theorem tokens_of_laid {ts : List Token} {s : Text} (h : Laid ts s) (hspelled : ∀ t ∈ ts, t.WellSpelled)
    (hapart : Apart ts) : tokens s = ts := by
  unfold tokens
  induction h with
  | nil pad hp => rw [← List.append_nil pad, tokensAfter_pad hp]; rfl
  | @cons pad hp t ts s rest ih =>
    have ih := ih (fun u hu => hspelled u (List.mem_cons_of_mem _ hu)) (List.IsChain.tail hapart)
    rw [List.append_assoc, tokensAfter_pad hp]
    cases hw : t.isWord with
    | false => rw [tokensAfter_symbol hw, ih]
    | true =>
      obtain ⟨hne, hall, hword⟩ := Token.word_text hw (hspelled t (List.mem_cons_self ..))
      have hnext : ∀ u ∈ ts.head?, u.isWord = false := fun u hu =>
        (List.IsChain.rel_head? hapart hu).resolve_left (by simp [hw])
      rw [tokensAfter_word hall, List.nil_append,
        tokensAfter_eq_closeWord (rest.head_not_nameChar hnext), closeWord_of_ne_nil hne, hword, ih]

theorem tokens_of_isBlankText {s : Text} (h : s.isBlankText) : tokens s = [] := by
  have hpad : s.all isPadding :=
    List.all_eq_true.2 fun c hc => isPadding_of_isBlank (List.all_eq_true.1 h c hc)
  rw [tokens, ← List.append_nil s, tokensAfter_pad hpad]
  rfl

end Blocklist.Condition
