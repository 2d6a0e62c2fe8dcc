import Blocklist.Proofs.Condition.Grammar

/-!
# Conditions and closing parentheses

`holds_append_closing`: one more closing parenthesis at the end changes no condition, be it the one that was missing or
one too many, and however malformed the condition is. Reading with it and reading without it go side by side
(`Agrees`): what they leave differs by the parenthesis, or one reading has taken it for a group that the other took for
closed at the end of the tokens.
-/

namespace Blocklist.Condition

/-! ### Tokens -/

theorem closeWord_append (w : Text) (ts us : List Token) : closeWord w (ts ++ us) = closeWord w ts ++ us := by
  by_cases h : w = []
  · rw [h, closeWord_nil, closeWord_nil]
  · rw [closeWord_of_ne_nil h, closeWord_of_ne_nil h, List.cons_append]

/-- The spelling of an operator or a parenthesis ends a pending word. -/
theorem tokensAfter_symbol_append {t : Token} (h : t.isWord = false) (w s : Text) :
    tokensAfter w (t.text ++ s) = closeWord w (t :: tokensAfter [] s) := by
  obtain ⟨c, rest, htext, hc⟩ := Token.text_symbol h
  rw [tokensAfter_eq_closeWord, tokensAfter_symbol h]
  rw [htext]
  exact fun d hd => Option.some.inj hd ▸ hc

/-- Half of an operator is passed over. -/
theorem tokensAfter_half {c : Char} (hc : c = '&' ∨ c = '|') {s : Text} (hs : s.head? ≠ some c) (w : Text) :
    tokensAfter w (c :: s) = closeWord w (tokensAfter [] s) := by
  rw [tokensAfter.eq_def]
  split
  · rename_i heq; cases heq
  · rename_i heq
    obtain ⟨rfl, rfl⟩ := List.cons.inj heq
    exact absurd rfl hs
  · rename_i heq
    obtain ⟨rfl, rfl⟩ := List.cons.inj heq
    exact absurd rfl hs
  · rename_i heq
    obtain ⟨rfl, rfl⟩ := List.cons.inj heq
    rcases hc with rfl | rfl <;> rfl

theorem symbol_append_closing {t : Token} (h : t.isWord = false) {s : Text}
    (ih : tokensAfter [] (s ++ [')']) = tokensAfter [] s ++ [.closing]) (w : Text) :
    tokensAfter w (t.text ++ s ++ [')']) = closeWord w (t :: tokensAfter [] s) ++ [.closing] := by
  rw [List.append_assoc, tokensAfter_symbol_append h, ih, ← List.cons_append, closeWord_append]

/-- No token goes over the end of a text into a closing parenthesis. -/
theorem tokensAfter_append_closing (w s : Text) :
    tokensAfter w (s ++ [')']) = tokensAfter w s ++ [.closing] := by
  fun_induction tokensAfter w s with
  | case1 w =>
    rw [← closeWord_append]
    exact tokensAfter_symbol_append (t := .closing) rfl w []
  | case2 w s ih => exact symbol_append_closing (t := .and) rfl ih w
  | case3 w s ih => exact symbol_append_closing (t := .or) rfl ih w
  | case4 w c s _ _ hname ih => rw [List.cons_append, tokensAfter_nameChar hname, ih]
  | case5 w s _ _ _ ih => exact symbol_append_closing (t := .not) rfl ih w
  | case6 w s _ _ _ _ ih => exact symbol_append_closing (t := .opening) rfl ih w
  | case7 w s _ _ _ _ _ ih => exact symbol_append_closing (t := .closing) rfl ih w
  | case8 w c s hand hor hname hnot hopening hclosing ih =>
    rw [← closeWord_append, List.cons_append, ← ih]
    by_cases hhalf : c = '&' ∨ c = '|'
    · refine tokensAfter_half hhalf ?_ w
      cases s with
      | nil => simpa using Ne.symm hclosing
      | cons d s =>
        intro hd
        obtain rfl : d = c := Option.some.inj hd
        rcases hhalf with rfl | rfl
        · exact hand s rfl rfl
        · exact hor s rfl rfl
    · rw [not_or] at hhalf
      exact tokensAfter_padding (by simp [isPadding, hname, hnot, hopening, hclosing, hhalf]) w _

theorem tokens_append_closing (s : Text) : tokens (s ++ [')']) = tokens s ++ [.closing] :=
  tokensAfter_append_closing [] s

/-! ### Reading -/

/-- Where an operand is missing, nothing is read. -/
theorem readOperand_missing {ts : List Token} (h : ∀ t ∈ ts.head?, t = .and ∨ t = .or ∨ t = .closing) :
    (readOperand ts).1 = (.truth false, ts) := by
  cases ts with
  | nil => rw [readOperand] <;> simp
  | cons t ts => rcases h t rfl with rfl | rfl | rfl <;> rw [readOperand] <;> simp

/-- What is left of tokens, and what is left of them with a closing parenthesis at their end: that one is left as well,
or nothing is left of either. -/
inductive Trails : List Token → List Token → Prop
  | kept (ts : List Token) : Trails ts (ts ++ [.closing])
  | taken : Trails [] []

/-- A reading, and one of the same tokens with a closing parenthesis at their end, give the same expression. -/
structure Agrees (r r' : Condition × List Token) : Prop where
  same : r'.1 = r.1
  rest : Trails r.2 r'.2

namespace Trails
variable {t : Token} {ts ts' : List Token}

theorem eq_of_cons (h : Trails (t :: ts) ts') : ts' = t :: (ts ++ [.closing]) := by
  cases h
  rfl

theorem head?_ne (h : Trails ts ts') (ht : t ≠ .closing) (hts : ts.head? ≠ some t) : ts'.head? ≠ some t := by
  cases h with
  | kept =>
    cases ts with
    | nil => simpa using ht.symm
    | cons u ts => exact hts
  | taken => exact hts

theorem dropClosing (h : Trails ts ts') : Trails (dropClosing ts) (dropClosing ts') := by
  cases h with
  | taken => exact .taken
  | kept =>
    cases ts with
    | nil => exact .taken
    | cons t ts => cases t <;> exact .kept _

end Trails

mutual

theorem agrees_readOr (ts : List Token) : Agrees (readOr ts).1 (readOr (ts ++ [.closing])).1 := by
  obtain ⟨hsame, hrest⟩ := agrees_readAnd ts
  rw [readOr_eq, readOr_eq, hsame]
  exact agrees_readOrRest _ hrest
termination_by 4 * ts.length + 3
decreasing_by
  · omega
  · have := (readAnd ts).2
    omega

theorem agrees_readOrRest (c : Condition) {ts ts' : List Token} (h : Trails ts ts') :
    Agrees (readOrRest c ts).1 (readOrRest c ts').1 := by
  by_cases hor : ts.head? = some .or
  · obtain ⟨us, rfl⟩ := List.head?_eq_some_iff.1 hor
    obtain rfl := h.eq_of_cons
    obtain ⟨hsame, hrest⟩ := agrees_readAnd us
    rw [readOrRest_or, readOrRest_or, hsame]
    exact agrees_readOrRest _ hrest
  · rw [readOrRest_of_head hor, readOrRest_of_head (h.head?_ne (by decide) hor)]
    exact ⟨rfl, h⟩
termination_by 4 * ts.length
decreasing_by
  · subst_vars
    simp only [List.length_cons]
    omega
  · have := (readAnd us).2
    subst_vars
    simp only [List.length_cons]
    omega

theorem agrees_readAnd (ts : List Token) : Agrees (readAnd ts).1 (readAnd (ts ++ [.closing])).1 := by
  obtain ⟨hsame, hrest⟩ := agrees_readOperand ts
  rw [readAnd_eq, readAnd_eq, hsame]
  exact agrees_readAndRest _ hrest
termination_by 4 * ts.length + 2
decreasing_by
  · omega
  · have := (readOperand ts).2
    omega

theorem agrees_readAndRest (c : Condition) {ts ts' : List Token} (h : Trails ts ts') :
    Agrees (readAndRest c ts).1 (readAndRest c ts').1 := by
  by_cases hand : ts.head? = some .and
  · obtain ⟨us, rfl⟩ := List.head?_eq_some_iff.1 hand
    obtain rfl := h.eq_of_cons
    obtain ⟨hsame, hrest⟩ := agrees_readOperand us
    rw [readAndRest_and, readAndRest_and, hsame]
    exact agrees_readAndRest _ hrest
  · rw [readAndRest_of_head hand, readAndRest_of_head (h.head?_ne (by decide) hand)]
    exact ⟨rfl, h⟩
termination_by 4 * ts.length
decreasing_by
  · subst_vars
    simp only [List.length_cons]
    omega
  · have := (readOperand us).2
    subst_vars
    simp only [List.length_cons]
    omega

theorem agrees_readOperand (ts : List Token) : Agrees (readOperand ts).1 (readOperand (ts ++ [.closing])).1 := by
  match ts with
  | .not :: us =>
    obtain ⟨hsame, hrest⟩ := agrees_readOperand us
    rw [List.cons_append, readOperand_not, readOperand_not, hsame]
    exact ⟨rfl, hrest⟩
  | .opening :: us =>
    obtain ⟨hsame, hrest⟩ := agrees_readOr us
    rw [List.cons_append, readOperand_opening, readOperand_opening, hsame]
    exact ⟨rfl, hrest.dropClosing⟩
  | .truth value w :: us =>
    rw [List.cons_append, readOperand_truth, readOperand_truth]
    exact ⟨rfl, .kept us⟩
  | .name w :: us =>
    rw [List.cons_append, readOperand_name, readOperand_name]
    exact ⟨rfl, .kept us⟩
  | .and :: us | .or :: us | .closing :: us =>
    rw [List.cons_append, readOperand_missing (by simp), readOperand_missing (by simp)]
    exact ⟨rfl, .kept _⟩
  | [] =>
    rw [List.nil_append, readOperand_missing (by simp), readOperand_missing (by simp)]
    exact ⟨rfl, .kept []⟩
termination_by 4 * ts.length + 1
decreasing_by
  all_goals (simp only [List.length_cons]; omega)

end

/-- A condition that is not blank has the same truth with one more closing parenthesis at its end. -/
theorem holds_append_closing {s : Text} (h : s.isBlankText = false) (platform : Option Text) :
    holds (s ++ [')']) platform = holds s platform := by
  have hblank : (s ++ [')']).isBlankText = false := by
    rw [Text.isBlankText, List.all_append, show s.all isBlank = false from h, Bool.false_and]
  rw [holds, holds, ofText, ofText, h, hblank, tokens_append_closing, ofTokens, ofTokens]
  exact congrArg (eval platform) (agrees_readOr (tokens s)).same

/-- Of `!((mac &| ||`, the open groups are closed at the end, or the inner one by the parenthesis. -/
theorem holds_append_closing_malformed :
    holds "!((mac &| ||)".toList (some "mac".toList) = holds "!((mac &| ||".toList (some "mac".toList) :=
  holds_append_closing (s := "!((mac &| ||".toList) (by decide) (some "mac".toList)

end Blocklist.Condition
