import Blocklist.Proofs.Condition.Tokens

/-!
# The grammar of conditions

`Spells level c ts`: the tokens `ts` write the expression `c` with parentheses wherever the precedence
asks for them, and wherever else one likes. Chains of `&&` and of `||` need none, and so what is read may
be grouped otherwise than what was written: `Reads` says that it has the same truth, not that it is the
same expression. `reads_of_spells` is one induction for the three levels. The texts come in with
`holds_of_spells`, by way of `tokens_of_laid`.

What is true is said by `IsTrue`, for any valuation of the names; `eval` decides it for the one that makes
the platform true.
-/

namespace Blocklist.Condition

/-! ### Truth -/

/-- The truth of an expression under a valuation of its names. -/
def IsTrue (v : Text → Prop) : Condition → Prop
  | .truth value => value = true
  | .name text => v text
  | .not c => ¬ c.IsTrue v
  | .and a b => a.IsTrue v ∧ b.IsTrue v
  | .or a b => a.IsTrue v ∨ b.IsTrue v

/-- Evaluation decides truth where a name is true exactly when it is the platform. -/
theorem eval_iff_isTrue (platform : Option Text) (c : Condition) :
    c.eval platform = true ↔ c.IsTrue (some · = platform) := by
  induction c with
  | truth value => exact Iff.rfl
  | name text => rw [eval, IsTrue, decide_eq_true_iff, eq_comm]
  | not c ih => rw [eval, IsTrue, ← ih, Bool.not_eq_true', Bool.not_eq_true]
  | and a b iha ihb => rw [eval, IsTrue, ← iha, ← ihb, Bool.and_eq_true]
  | or a b iha ihb => rw [eval, IsTrue, ← iha, ← ihb, Bool.or_eq_true]

/-! ### Spellings -/

/-- How tightly an expression binds. -/
inductive Level where
  | disjunction
  | conjunction
  | operand
deriving DecidableEq, Repr

/-- The tokens that write an expression where one that binds as tightly as the level may stand. -/
inductive Spells : Level → Condition → List Token → Prop
  | truth (value : Bool) (w : Text) (h : w.map Char.toLower = truthWord value) :
    Spells .operand (.truth value) [.truth value w]
  | name (w : Text) (hne : w ≠ []) (hall : w.all isNameChar)
      (hword : ∀ value, w.map Char.toLower ≠ truthWord value) : Spells .operand (.name w) [.name w]
  | not {c : Condition} {ts : List Token} (h : Spells .operand c ts) :
    Spells .operand (.not c) (.not :: ts)
  | parentheses {c : Condition} {ts : List Token} (h : Spells .disjunction c ts) :
    Spells .operand c (.opening :: (ts ++ [.closing]))
  | operand {c : Condition} {ts : List Token} (h : Spells .operand c ts) : Spells .conjunction c ts
  | and {a b : Condition} {ts us : List Token} (ha : Spells .conjunction a ts)
      (hb : Spells .conjunction b us) : Spells .conjunction (.and a b) (ts ++ .and :: us)
  | conjunction {c : Condition} {ts : List Token} (h : Spells .conjunction c ts) :
    Spells .disjunction c ts
  | or {a b : Condition} {ts us : List Token} (ha : Spells .disjunction a ts)
      (hb : Spells .disjunction b us) : Spells .disjunction (.or a b) (ts ++ .or :: us)

namespace Spells
variable {level : Level} {c : Condition} {ts : List Token}

theorem ne_nil (h : Spells level c ts) : ts ≠ [] := by
  induction h with
  | operand _ ih | conjunction _ ih => exact ih
  | _ => simp

theorem wellSpelled (h : Spells level c ts) : ∀ t ∈ ts, t.WellSpelled := by
  induction h with
  | truth value w h => simpa [Token.WellSpelled] using h
  | name w hne hall hword =>
    intro t ht
    obtain rfl := List.mem_singleton.1 ht
    exact ⟨hne, hall, hword⟩
  | not _ ih => simpa [Token.WellSpelled] using ih
  | parentheses _ ih => simpa [Token.WellSpelled, or_imp, forall_and] using ih
  | operand _ ih | conjunction _ ih => exact ih
  | and _ _ iha ihb | or _ _ iha ihb =>
    simpa [Token.WellSpelled, or_imp, forall_and] using And.intro iha ihb

/-- Between two words stands an operator or a parenthesis. -/
theorem apart (h : Spells level c ts) : Apart ts := by
  induction h with
  | truth | name => exact .singleton _
  | not _ ih => exact ih.cons rfl
  | parentheses _ ih => exact .cons rfl (ih.append_cons rfl .nil)
  | operand _ ih | conjunction _ ih => exact ih
  | and _ _ iha ihb | or _ _ iha ihb => exact iha.append_cons rfl ihb

end Spells

/-! ### One step of reading -/

section
variable {c : Condition} {ts : List Token}

theorem readOr_eq (ts : List Token) :
    (readOr ts).1 = (readOrRest (readAnd ts).1.1 (readAnd ts).1.2).1 := by
  rw [readOr]; rfl

theorem readOrRest_or (c : Condition) (ts : List Token) :
    (readOrRest c (.or :: ts)).1 = (readOrRest (.or c (readAnd ts).1.1) (readAnd ts).1.2).1 := by
  rw [readOrRest]; rfl

theorem readOrRest_of_head (h : ts.head? ≠ some .or) : (readOrRest c ts).1 = (c, ts) := by
  rw [readOrRest.eq_def]
  split
  · exact absurd rfl h
  · rfl

theorem readAnd_eq (ts : List Token) :
    (readAnd ts).1 = (readAndRest (readOperand ts).1.1 (readOperand ts).1.2).1 := by
  rw [readAnd]; rfl

theorem readAndRest_and (c : Condition) (ts : List Token) :
    (readAndRest c (.and :: ts)).1 = (readAndRest (.and c (readOperand ts).1.1) (readOperand ts).1.2).1 := by
  rw [readAndRest]; rfl

theorem readAndRest_of_head (h : ts.head? ≠ some .and) : (readAndRest c ts).1 = (c, ts) := by
  rw [readAndRest.eq_def]
  split
  · exact absurd rfl h
  · rfl

theorem readOperand_not (ts : List Token) :
    (readOperand (.not :: ts)).1 = (.not (readOperand ts).1.1, (readOperand ts).1.2) := by
  rw [readOperand]

theorem readOperand_opening (ts : List Token) :
    (readOperand (.opening :: ts)).1 = ((readOr ts).1.1, dropClosing (readOr ts).1.2) := by
  rw [readOperand]

theorem readOperand_truth (value : Bool) (w : Text) (ts : List Token) :
    (readOperand (.truth value w :: ts)).1 = (.truth value, ts) := by
  rw [readOperand]

theorem readOperand_name (w : Text) (ts : List Token) :
    (readOperand (.name w :: ts)).1 = (.name w, ts) := by
  rw [readOperand]

end

/-! ### Reading what is spelled -/

/-- The same truth on every platform. -/
def Equiv (c d : Condition) : Prop := ∀ platform, c.eval platform = d.eval platform

namespace Equiv
variable {a b c d : Condition}

theorem refl (c : Condition) : Equiv c c := fun _ => rfl

theorem trans (h : Equiv a b) (h' : Equiv b c) : Equiv a c := fun p => (h p).trans (h' p)

theorem not (h : Equiv a b) : Equiv (.not a) (.not b) := by
  intro p
  rw [eval, eval, h p]

theorem and (h : Equiv a b) (h' : Equiv c d) : Equiv (.and a c) (.and b d) := by
  intro p
  rw [eval, eval, h p, h' p]

theorem or (h : Equiv a b) (h' : Equiv c d) : Equiv (.or a c) (.or b d) := by
  intro p
  rw [eval, eval, h p, h' p]

theorem and_assoc (a b c : Condition) : Equiv (.and (.and a b) c) (.and a (.and b c)) := fun _ =>
  Bool.and_assoc ..

theorem or_assoc (a b c : Condition) : Equiv (.or (.or a b) c) (.or a (.or b c)) := fun _ =>
  Bool.or_assoc ..

end Equiv

/-- What reading makes of the tokens `ts` of an expression `c`, whatever comes next. An operand is read
to its end. A conjunction leaves its reader where it may go on, also when it continues a conjunction
that starts with `b`; so does a disjunction, if no `&&` comes next. -/
def Reads (c : Condition) (ts : List Token) : Level → Prop
  | .operand => ∀ rest, ∃ d, (readOperand (ts ++ rest)).1 = (d, rest) ∧ Equiv d c
  | .conjunction =>
    (∀ rest, ∃ d, (readAnd (ts ++ rest)).1 = (readAndRest d rest).1 ∧ Equiv d c) ∧
    ∀ b rest, ∃ d, (readAndRest b (.and :: (ts ++ rest))).1 = (readAndRest d rest).1 ∧
      Equiv d (.and b c)
  | .disjunction => ∀ rest, rest.head? ≠ some .and →
    (∃ d, (readOr (ts ++ rest)).1 = (readOrRest d rest).1 ∧ Equiv d c) ∧
    ∀ b, ∃ d, (readOrRest b (.or :: (ts ++ rest))).1 = (readOrRest d rest).1 ∧ Equiv d (.or b c)

namespace Reads
variable {a b c : Condition} {ts us : List Token}

theorem not (h : Reads c ts .operand) : Reads (.not c) (.not :: ts) .operand := by
  intro rest
  obtain ⟨d, hread, hd⟩ := h rest
  refine ⟨.not d, ?_, hd.not⟩
  rw [List.cons_append, readOperand_not, hread]

theorem parentheses (h : Reads c ts .disjunction) : Reads c (.opening :: (ts ++ [.closing])) .operand := by
  intro rest
  obtain ⟨d, hread, hd⟩ := (h (.closing :: rest) (by simp)).1
  refine ⟨d, ?_, hd⟩
  rw [readOrRest_of_head (by simp)] at hread
  rw [List.cons_append, List.append_assoc, List.singleton_append, readOperand_opening, hread]
  rfl

theorem conjunction_of_operand (h : Reads c ts .operand) : Reads c ts .conjunction := by
  constructor
  · intro rest
    obtain ⟨d, hread, hd⟩ := h rest
    exact ⟨d, by rw [readAnd_eq, hread], hd⟩
  · intro b rest
    obtain ⟨d, hread, hd⟩ := h rest
    exact ⟨.and b d, by rw [readAndRest_and, hread], (Equiv.refl b).and hd⟩

theorem and (ha : Reads a ts .conjunction) (hb : Reads b us .conjunction) :
    Reads (.and a b) (ts ++ .and :: us) .conjunction := by
  constructor
  · intro rest
    obtain ⟨d, hread, hd⟩ := ha.1 (.and :: (us ++ rest))
    obtain ⟨e, hrest, he⟩ := hb.2 d rest
    refine ⟨e, ?_, he.trans (hd.and (.refl b))⟩
    rw [List.append_assoc, List.cons_append, hread, hrest]
  · intro first rest
    obtain ⟨d, hread, hd⟩ := ha.2 first (.and :: (us ++ rest))
    obtain ⟨e, hrest, he⟩ := hb.2 d rest
    refine ⟨e, ?_, he.trans ((hd.and (.refl b)).trans (.and_assoc first a b))⟩
    rw [List.append_assoc, List.cons_append, hread, hrest]

theorem disjunction_of_conjunction (h : Reads c ts .conjunction) : Reads c ts .disjunction := by
  intro rest hrest
  obtain ⟨d, hread, hd⟩ := h.1 rest
  rw [readAndRest_of_head hrest] at hread
  constructor
  · exact ⟨d, by rw [readOr_eq, hread], hd⟩
  · intro b
    exact ⟨.or b d, by rw [readOrRest_or, hread], (Equiv.refl b).or hd⟩

theorem or (ha : Reads a ts .disjunction) (hb : Reads b us .disjunction) :
    Reads (.or a b) (ts ++ .or :: us) .disjunction := by
  intro rest hnext
  -- What comes after `a` is the `||` in front of `b`, and so `a` is read to its end.
  obtain ⟨hfirst, hlater⟩ := ha (.or :: (us ++ rest)) (by simp)
  constructor
  · obtain ⟨d, hread, hd⟩ := hfirst
    obtain ⟨e, hrest, he⟩ := (hb rest hnext).2 d
    refine ⟨e, ?_, he.trans (hd.or (.refl b))⟩
    rw [List.append_assoc, List.cons_append, hread, hrest]
  · intro first
    obtain ⟨d, hread, hd⟩ := hlater first
    obtain ⟨e, hrest, he⟩ := (hb rest hnext).2 d
    refine ⟨e, ?_, he.trans ((hd.or (.refl b)).trans (.or_assoc first a b))⟩
    rw [List.append_assoc, List.cons_append, hread, hrest]

end Reads

theorem reads_of_spells {level : Level} {c : Condition} {ts : List Token} (h : Spells level c ts) :
    Reads c ts level := by
  induction h with
  | truth value w _ => exact fun rest => ⟨.truth value, readOperand_truth value w rest, .refl _⟩
  | name w _ _ _ => exact fun rest => ⟨.name w, readOperand_name w rest, .refl _⟩
  | not _ ih => exact ih.not
  | parentheses _ ih => exact ih.parentheses
  | operand _ ih => exact ih.conjunction_of_operand
  | and _ _ iha ihb => exact iha.and ihb
  | conjunction _ ih => exact ih.disjunction_of_conjunction
  | or _ _ iha ihb => exact iha.or ihb

theorem ofTokens_of_spells {c : Condition} {ts : List Token} (h : Spells .disjunction c ts) :
    Equiv (ofTokens ts) c := by
  obtain ⟨d, hread, hd⟩ := (reads_of_spells h [] (by simp)).1
  rw [readOrRest_of_head (by simp), List.append_nil] at hread
  rw [ofTokens, hread]
  exact hd

/-- A text that spells an expression holds on a platform exactly if the expression is true where the
platform is the only true name. -/
theorem holds_of_spells {c : Condition} {ts : List Token} {s : Text} (h : Spells .disjunction c ts)
    (hs : Laid ts s) (platform : Option Text) :
    holds s platform = true ↔ c.IsTrue (some · = platform) := by
  have htokens : tokens s = ts := tokens_of_laid hs h.wellSpelled h.apart
  have hblank : ¬ s.isBlankText := by
    intro hb
    rw [tokens_of_isBlankText hb] at htokens
    exact h.ne_nil htokens.symm
  rw [holds, ofText, if_neg hblank, htokens, ofTokens_of_spells h platform]
  exact eval_iff_isTrue platform c

/-- In `(!ios)&& TRUE ||mac`, the conjunction comes first: it holds everywhere but on `ios`. -/
theorem holds_of_spells_conjunction_first :
    holds "(!ios)&& TRUE ||mac".toList (some "mac".toList) = true ∧
      holds "(!ios)&& TRUE ||mac".toList none = true ∧
      holds "(!ios)&& TRUE ||mac".toList (some "ios".toList) = false := by
  have hios : Spells .operand (.not (.name "ios".toList)) [.not, .name "ios".toList] :=
    .not (.name _ (by decide) (by decide) (by decide))
  have hmac : Spells .operand (.name "mac".toList) [.name "mac".toList] :=
    .name _ (by decide) (by decide) (by decide)
  have htrue : Spells .operand (.truth true) [.truth true "TRUE".toList] := .truth _ _ (by decide)
  have hspells := Spells.or
    (.conjunction (.and (.operand (.parentheses (.conjunction (.operand hios)))) (.operand htrue)))
    (.conjunction (.operand hmac))
  have hiff (platform : Option Text) := holds_of_spells (s := "(!ios)&& TRUE ||mac".toList) hspells
    (.cons [] (by decide) .opening <| .cons [] (by decide) .not <|
      .cons [] (by decide) (.name _) <| .cons [] (by decide) .closing <| .cons [] (by decide) .and <|
      .cons [' '] (by decide) (.truth true _) <| .cons [' '] (by decide) .or <|
      .cons [] (by decide) (.name _) <| .nil [] (by decide)) platform
  refine ⟨(hiff _).2 (.inr rfl), (hiff _).2 (.inl ⟨nofun, rfl⟩), ?_⟩
  refine Bool.eq_false_iff.2 fun h => ?_
  rcases (hiff _).1 h with ⟨hios, -⟩ | hmac
  · exact hios rfl
  · exact (by decide : some "mac".toList ≠ some "ios".toList) hmac

end Blocklist.Condition
