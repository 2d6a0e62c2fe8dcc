import Blocklist.Proofs.Directive.Agreement
import Blocklist.Proofs.Directive.Balance

/-!
# Directives that do not fit together

The lines that open and close blocks are brackets, and `pairsOff` counts those that are open. A line is
`Stray` if it is a bracket without a partner, or separates branches and stands in no block. An expansion fails
at the first stray line and nowhere else (`expand_fails_iff`), whatever the platform makes of the conditions: the
scan for the end of a block finds the partner of its opening line, and both branches that it leaves close their
blocks (`Block.exists_of_read?`), so that no line of a branch that is not looked at is stray.
-/

namespace Blocklist

namespace SourceLine
variable {l : SourceLine}

/-- The line opens a block. -/
def Opens (l : SourceLine) : Prop := Directive.openingMark <+: l.text.trim

/-- The line separates the branches of a block. -/
def Divides (l : SourceLine) : Prop := Directive.alternativeMark <+: l.text.trim

/-- The line closes a block. -/
def Closes (l : SourceLine) : Prop := Directive.closingMark <+: l.text.trim

theorem opens_iff : l.Opens ↔ ∃ condition, Directive.of? l.text = some (.opening condition) := by
  constructor
  · rintro ⟨r, hr⟩
    exact ⟨_, Directive.of?_of_opening hr.symm⟩
  · rintro ⟨condition, h⟩
    rcases Directive.of_of? h with ⟨r, hr, -⟩ | ⟨-, hd⟩ | ⟨-, hd⟩ | ⟨r, -, hd⟩ | ⟨r, -, hd⟩
    · exact ⟨r, hr.symm⟩
    all_goals cases hd

theorem divides_iff : l.Divides ↔ Directive.of? l.text = some .alternative := by
  refine ⟨Directive.of?_of_alternative, fun h => ?_⟩
  rcases Directive.of_of? h with ⟨r, -, hd⟩ | ⟨hmark, -⟩ | ⟨-, hd⟩ | ⟨r, -, hd⟩ | ⟨r, -, hd⟩
  · cases hd
  · exact hmark
  all_goals cases hd

theorem closes_iff : l.Closes ↔ Directive.of? l.text = some .closing := by
  refine ⟨Directive.of?_of_closing, fun h => ?_⟩
  rcases Directive.of_of? h with ⟨r, -, hd⟩ | ⟨-, hd⟩ | ⟨hmark, -⟩ | ⟨r, -, hd⟩ | ⟨r, -, hd⟩
  · cases hd
  · cases hd
  · exact hmark
  all_goals cases hd

theorem not_closes_of_opens (h : l.Opens) : ¬ l.Closes := fun hc => by
  obtain ⟨condition, h⟩ := opens_iff.1 h
  simp [closes_iff, h] at hc

theorem not_divides_of_opens (h : l.Opens) : ¬ l.Divides := fun ha => by
  obtain ⟨condition, h⟩ := opens_iff.1 h
  simp [divides_iff, h] at ha

theorem not_divides_of_closes (h : l.Closes) : ¬ l.Divides := fun ha => by
  simp [divides_iff, closes_iff.1 h] at ha

end SourceLine

/-! ### Brackets -/

/-- The lines that open and close blocks pair off, up to `depth` closing lines for blocks that were open before. -/
def pairsOff : (depth : Nat) → List SourceLine → Bool
  | depth, [] => depth = 0
  | depth, l :: rest =>
    match Directive.of? l.text with
    | some (.opening _) => pairsOff (depth + 1) rest
    | some .closing =>
      match depth with
      | 0 => false
      | d + 1 => pairsOff d rest
    | _ => pairsOff depth rest

/-- The line `l` between `pre` and `post` is a bracket without a partner, or it separates branches and is not
between an opening line and its partner. -/
inductive Stray (pre : List SourceLine) (l : SourceLine) (post : List SourceLine) : Prop
  | opening (h : l.Opens)
      (halone : ∀ body c rest, post = body ++ c :: rest → c.Closes → ¬ pairsOff 0 body)
  | closing (h : l.Closes)
      (halone : ∀ front o body, pre = front ++ o :: body → o.Opens → ¬ pairsOff 0 body)
  | dividing (h : l.Divides)
      (hfree : ∀ front o before behind c rest, pre = front ++ o :: before → post = behind ++ c :: rest →
        o.Opens → c.Closes → ¬ pairsOff 0 (before ++ behind))

section
variable {a b body front lines more post pre rest : List SourceLine} {c l o : SourceLine} {d depth e k : Nat}

theorem pairsOff_opening (h : l.Opens) : pairsOff depth (l :: rest) = pairsOff (depth + 1) rest := by
  obtain ⟨condition, h⟩ := SourceLine.opens_iff.1 h
  simp only [pairsOff, h]

theorem pairsOff_closing (h : l.Closes) : pairsOff (depth + 1) (l :: rest) = pairsOff depth rest := by
  simp only [pairsOff, SourceLine.closes_iff.1 h]

theorem not_pairsOff_closing (h : l.Closes) : pairsOff 0 (l :: rest) = false := by
  simp only [pairsOff, SourceLine.closes_iff.1 h]

theorem pairsOff_other (ho : ¬ l.Opens) (hc : ¬ l.Closes) : pairsOff depth (l :: rest) = pairsOff depth rest := by
  rw [pairsOff.eq_def]
  dsimp only
  split
  · rename_i h; exact absurd (SourceLine.opens_iff.2 ⟨_, h⟩) ho
  · rename_i h; exact absurd (SourceLine.closes_iff.2 h) hc
  · rfl

theorem pairsOff_append (h : pairsOff k a) : pairsOff (k + d) (a ++ b) = pairsOff d b := by
  induction a generalizing k with
  | nil =>
    obtain rfl : k = 0 := by simpa [pairsOff] using h
    rw [Nat.zero_add, List.nil_append]
  | cons l a ih =>
    rw [List.cons_append]
    by_cases ho : l.Opens
    · rw [pairsOff_opening ho] at h ⊢
      rw [Nat.add_right_comm]
      exact ih h
    by_cases hc : l.Closes
    · cases k with
      | zero => simp [not_pairsOff_closing hc] at h
      | succ k =>
        rw [pairsOff_closing hc] at h
        rw [Nat.add_right_comm, pairsOff_closing hc]
        exact ih h
    · rw [pairsOff_other ho hc] at h ⊢
      exact ih h

/-- The line that closes the innermost of the blocks that are open. -/
theorem exists_closing (h : pairsOff (k + 1 + d) lines) :
    ∃ a c b, lines = a ++ c :: b ∧ c.Closes ∧ pairsOff k a ∧ pairsOff d b := by
  induction lines generalizing k with
  | nil => simp [pairsOff] at h
  | cons l rest ih =>
    by_cases ho : l.Opens
    · rw [pairsOff_opening ho, Nat.add_right_comm] at h
      obtain ⟨a, c, b, rfl, hc, ha, hb⟩ := ih h
      exact ⟨l :: a, c, b, rfl, hc, (pairsOff_opening ho).trans ha, hb⟩
    by_cases hc : l.Closes
    · rw [Nat.add_right_comm, pairsOff_closing hc] at h
      cases k with
      | zero => exact ⟨[], l, rest, rfl, hc, rfl, by simpa using h⟩
      | succ k =>
        obtain ⟨a, c, b, rfl, hc', ha, hb⟩ := ih h
        exact ⟨l :: a, c, b, rfl, hc', (pairsOff_closing hc).trans ha, hb⟩
    · rw [pairsOff_other ho hc] at h
      obtain ⟨a, c, b, rfl, hc', ha, hb⟩ := ih h
      exact ⟨l :: a, c, b, rfl, hc', (pairsOff_other ho hc).trans ha, hb⟩

/-! ### Lines in front that are closed -/

theorem closesBlocks_of_opens (h : l.Opens) : closesBlocks depth (l :: rest) = closesBlocks (depth + 1) rest := by
  obtain ⟨condition, hd⟩ := SourceLine.opens_iff.1 h
  exact closesBlocks_opening hd

theorem closesBlocks_of_closes (h : l.Closes) : closesBlocks (depth + 1) (l :: rest) = closesBlocks depth rest :=
  closesBlocks_closing (SourceLine.closes_iff.1 h)

theorem closesBlocks_other (ho : ¬ l.Opens) (hc : ¬ l.Closes) :
    closesBlocks (depth + 1) (l :: rest) = closesBlocks (depth + 1) rest := by
  by_cases ha : l.Divides
  · simp [closesBlocks_alternative (SourceLine.divides_iff.1 ha)]
  · exact closesBlocks_flat (fun condition hd => ho (SourceLine.opens_iff.2 ⟨condition, hd⟩))
      (mt SourceLine.divides_iff.2 ha) (mt SourceLine.closes_iff.2 hc)

theorem of_closesBlocks_cons (h : closesBlocks depth (l :: rest)) :
    l.Opens ∧ closesBlocks (depth + 1) rest ∨ (l.Closes ∧ ∃ d, depth = d + 1 ∧ closesBlocks d rest) ∨
      (¬ l.Opens ∧ ¬ l.Closes) ∧ (l.Divides → depth ≠ 0) ∧ closesBlocks depth rest := by
  by_cases ho : l.Opens
  · obtain ⟨condition, hd⟩ := SourceLine.opens_iff.1 ho
    exact .inl ⟨ho, closesBlocks_opening hd ▸ h⟩
  by_cases hc : l.Closes
  · have hd := SourceLine.closes_iff.1 hc
    cases depth with
    | zero => simp [not_closesBlocks_closing hd] at h
    | succ depth => exact .inr (.inl ⟨hc, depth, rfl, closesBlocks_closing hd ▸ h⟩)
  refine .inr (.inr ⟨⟨ho, hc⟩, ?_⟩)
  by_cases ha : l.Divides
  · rw [closesBlocks_alternative (SourceLine.divides_iff.1 ha), Bool.and_eq_true, decide_eq_true_eq] at h
    exact ⟨fun _ => h.1, h.2⟩
  · rw [closesBlocks_flat (fun condition hd => ho (SourceLine.opens_iff.2 ⟨condition, hd⟩))
      (mt SourceLine.divides_iff.2 ha) (mt SourceLine.closes_iff.2 hc)] at h
    exact ⟨fun hd => absurd hd ha, h⟩

theorem pairsOff_of_closesBlocks (h : closesBlocks depth lines) : pairsOff depth lines := by
  induction lines generalizing depth with
  | nil => exact h
  | cons l rest ih =>
    rcases of_closesBlocks_cons h with ⟨ho, hrest⟩ | ⟨hc, d, rfl, hrest⟩ | ⟨⟨ho, hc⟩, -, hrest⟩
    · exact (pairsOff_opening ho).trans (ih hrest)
    · exact (pairsOff_closing hc).trans (ih hrest)
    · exact (pairsOff_other ho hc).trans (ih hrest)

/-- Where a block is open, there is the line that opened the innermost one. -/
theorem exists_opening (h : closesBlocks depth (pre ++ post)) :
    ∃ d, closesBlocks d post ∧
      ((∃ front o body, pre = front ++ o :: body ∧ o.Opens ∧ pairsOff 0 body) ∨
        ∃ k, depth = d + k ∧ pairsOff k pre) := by
  induction pre generalizing depth with
  | nil => exact ⟨depth, h, .inr ⟨0, rfl, rfl⟩⟩
  | cons l pre ih =>
    have shift (h : ∃ front o body, pre = front ++ o :: body ∧ o.Opens ∧ pairsOff 0 body) :
        ∃ front o body, l :: pre = front ++ o :: body ∧ o.Opens ∧ pairsOff 0 body := by
      obtain ⟨front, o, body, rfl, ho, hbody⟩ := h
      exact ⟨l :: front, o, body, rfl, ho, hbody⟩
    rcases of_closesBlocks_cons h with ⟨ho, hrest⟩ | ⟨hc, e, rfl, hrest⟩ | ⟨⟨ho, hc⟩, -, hrest⟩
    · obtain ⟨d, hd, hpartner | ⟨k, hk, hpre⟩⟩ := ih hrest
      · exact ⟨d, hd, .inl (shift hpartner)⟩
      -- the line opens the block itself, or one around it
      · cases k with
        | zero => exact ⟨d, hd, .inl ⟨[], l, pre, rfl, ho, hpre⟩⟩
        | succ k => exact ⟨d, hd, .inr ⟨k, Nat.succ.inj hk, (pairsOff_opening ho).trans hpre⟩⟩
    · obtain ⟨d, hd, hpartner | ⟨k, rfl, hpre⟩⟩ := ih hrest
      · exact ⟨d, hd, .inl (shift hpartner)⟩
      · exact ⟨d, hd, .inr ⟨k + 1, rfl, (pairsOff_closing hc).trans hpre⟩⟩
    · obtain ⟨d, hd, hpartner | ⟨k, rfl, hpre⟩⟩ := ih hrest
      · exact ⟨d, hd, .inl (shift hpartner)⟩
      · exact ⟨d, hd, .inr ⟨k, rfl, (pairsOff_other ho hc).trans hpre⟩⟩

/-- No line is stray among lines that close their blocks, whatever comes behind them. -/
theorem not_stray_of_closesBlocks (h : closesBlocks 0 (pre ++ l :: post)) : ¬ Stray pre l (post ++ more) := by
  obtain ⟨d, hd, hopen⟩ := exists_opening h
  have hopen (hne : d ≠ 0) : ∃ front o body, pre = front ++ o :: body ∧ o.Opens ∧ pairsOff 0 body :=
    hopen.resolve_right fun ⟨k, hk, _⟩ => hne (Nat.eq_zero_of_add_eq_zero hk.symm).1
  have hclose {e : Nat} (hrest : closesBlocks (e + 1) post) :
      ∃ body c rest, post ++ more = body ++ c :: rest ∧ c.Closes ∧ pairsOff 0 body := by
    have hpairs : pairsOff (0 + 1 + e) post := by
      rw [Nat.zero_add, Nat.add_comm]
      exact pairsOff_of_closesBlocks hrest
    obtain ⟨body, c, rest, rfl, hc, hbody, -⟩ := exists_closing hpairs
    exact ⟨body, c, rest ++ more, by simp, hc, hbody⟩
  rcases of_closesBlocks_cons hd with ⟨ho, hrest⟩ | ⟨hc, e, rfl, hrest⟩ | ⟨⟨ho, hc⟩, hne, hrest⟩
  · rintro (⟨-, halone⟩ | ⟨hc, -⟩ | ⟨ha, -⟩)
    · obtain ⟨body, c, rest, hpost, hc, hbody⟩ := hclose hrest
      exact halone body c rest hpost hc hbody
    · exact SourceLine.not_closes_of_opens ho hc
    · exact SourceLine.not_divides_of_opens ho ha
  · rintro (⟨ho, -⟩ | ⟨-, halone⟩ | ⟨ha, -⟩)
    · exact SourceLine.not_closes_of_opens ho hc
    · obtain ⟨front, o, body, hpre, ho, hbody⟩ := hopen (Nat.succ_ne_zero e)
      exact halone front o body hpre ho hbody
    · exact SourceLine.not_divides_of_closes hc ha
  · rintro (⟨ho', -⟩ | ⟨hc', -⟩ | ⟨ha, hfree⟩)
    · exact ho ho'
    · exact hc hc'
    · obtain ⟨e, rfl⟩ := Nat.exists_eq_succ_of_ne_zero (hne ha)
      obtain ⟨front, o, before, hpre, ho, hbefore⟩ := hopen (Nat.succ_ne_zero e)
      obtain ⟨behind, c, rest, hpost, hc, hbehind⟩ := hclose hrest
      exact hfree front o before behind c rest hpre hpost ho hc ((pairsOff_append (d := 0) hbefore).trans hbehind)

theorem exists_pairsOff_of_append (h : pairsOff depth (a ++ b)) : ∃ d, pairsOff d b := by
  induction a generalizing depth with
  | nil => exact ⟨depth, h⟩
  | cons l a ih =>
    rw [List.cons_append] at h
    by_cases ho : l.Opens
    · exact ih (pairsOff_opening ho ▸ h)
    by_cases hc : l.Closes
    · cases depth with
      | zero => simp [not_pairsOff_closing hc] at h
      | succ depth => exact ih (pairsOff_closing hc ▸ h)
    · exact ih (pairsOff_other ho hc ▸ h)

/-- The partner of an opening line stands in front of what comes behind lines that pair off. -/
theorem not_pairsOff_of_opening (h : pairsOff depth (front ++ o :: a)) (ho : o.Opens) :
    pairsOff 0 (a ++ b) = false := by
  obtain ⟨d, hd⟩ := exists_pairsOff_of_append h
  rw [pairsOff_opening ho, Nat.add_comm, ← Nat.zero_add 1] at hd
  obtain ⟨body, c, rest, rfl, hc, hbody, -⟩ := exists_closing hd
  rw [List.append_assoc, List.cons_append]
  exact (pairsOff_append (d := 0) hbody).trans (not_pairsOff_closing hc)

/-- Behind lines that close their blocks a line is stray, but for an opening line that has its partner. -/
theorem stray_of_closesBlocks (h : closesBlocks 0 pre) (hmark : l.Opens ∨ l.Divides ∨ l.Closes)
    (halone : l.Opens → ∀ body c rest, post = body ++ c :: rest → c.Closes → ¬ pairsOff 0 body) : Stray pre l post := by
  have hpre := pairsOff_of_closesBlocks h
  rcases hmark with ho | ha | hc
  · exact .opening ho (halone ho)
  · refine .dividing ha ?_
    rintro front o before behind c rest rfl - ho -
    simp [not_pairsOff_of_opening hpre ho]
  · refine .closing hc ?_
    rintro front o body rfl ho
    simpa using not_pairsOff_of_opening (b := []) hpre ho

theorem Stray.of_closesBlocks (h : Stray a l post) (hpre : closesBlocks 0 pre) : Stray pre l post := by
  rcases h with ⟨ho, halone⟩ | ⟨hc, -⟩ | ⟨ha, -⟩
  · exact stray_of_closesBlocks hpre (.inl ho) fun _ => halone
  · exact stray_of_closesBlocks hpre (.inr (.inr hc)) fun ho => absurd hc (SourceLine.not_closes_of_opens ho)
  · exact stray_of_closesBlocks hpre (.inr (.inl ha)) fun ho => absurd ha (SourceLine.not_divides_of_opens ho)

/-- In a block, lines that pair off say nothing about what comes behind them. -/
theorem closesBlocks_append_of_pairsOff (h : pairsOff k a) :
    closesBlocks (k + (d + 1)) (a ++ b) = closesBlocks (d + 1) b := by
  induction a generalizing k with
  | nil =>
    obtain rfl : k = 0 := by simpa [pairsOff] using h
    rw [Nat.zero_add, List.nil_append]
  | cons l a ih =>
    rw [List.cons_append]
    by_cases ho : l.Opens
    · rw [pairsOff_opening ho] at h
      rw [closesBlocks_of_opens ho, Nat.add_right_comm]
      exact ih h
    by_cases hc : l.Closes
    · cases k with
      | zero => simp [not_pairsOff_closing hc] at h
      | succ k =>
        rw [pairsOff_closing hc] at h
        rw [Nat.add_right_comm, closesBlocks_of_closes hc]
        exact ih h
    · rw [pairsOff_other ho hc] at h
      rw [← Nat.add_assoc, closesBlocks_other ho hc]
      exact ih h

theorem closesBlocks_block (ho : o.Opens) (h : pairsOff 0 a) (hc : c.Closes) :
    closesBlocks 0 (o :: (a ++ c :: b)) = closesBlocks 0 b := by
  rw [closesBlocks_of_opens ho]
  exact (closesBlocks_append_of_pairsOff (d := 0) h).trans (closesBlocks_of_closes hc)

end

/-! ### The scan for the end of a block -/

namespace Block
variable {inElse : Bool} {depth : Nat} {lines more : List SourceLine} {b : Block}

theorem push_append_rest (inElse : Bool) (l : SourceLine) (b : Block) (more : List SourceLine) :
    push inElse l { b with rest := b.rest ++ more } =
      { push inElse l b with rest := (push inElse l b).rest ++ more } := by
  cases inElse <;> rfl

/-- One step of the scan: the line stays in the branch, separates the branches, or ends the block. -/
theorem collect?_step (depth : Nat) (inElse : Bool) (l : SourceLine) :
    (∃ d, (∀ rest, collect? depth inElse (l :: rest) = (collect? d inElse rest).map (push inElse l)) ∧
      ∀ rest, pairsOff depth (l :: rest) = pairsOff d rest) ∨
    (depth = 0 ∧ l.Divides ∧ ∀ rest, collect? depth inElse (l :: rest) = collect? 0 true rest) ∨
    (depth = 0 ∧ l.Closes ∧ ∀ rest, collect? depth inElse (l :: rest) = some ⟨[], [], rest⟩) := by
  by_cases ho : l.Opens
  · obtain ⟨condition, hd⟩ := SourceLine.opens_iff.1 ho
    exact .inl ⟨_, fun rest => collect?_cons_opening hd, fun rest => pairsOff_opening ho⟩
  by_cases hc : l.Closes
  · have hd := SourceLine.closes_iff.1 hc
    cases depth with
    | zero => exact .inr (.inr ⟨rfl, hc, fun rest => collect?_cons_closing hd⟩)
    | succ d => exact .inl ⟨_, fun rest => collect?_cons_closing_succ hd, fun rest => pairsOff_closing hc⟩
  by_cases ha : l.Divides
  · have hd := SourceLine.divides_iff.1 ha
    cases depth with
    | zero => exact .inr (.inl ⟨rfl, ha, fun rest => collect?_cons_alternative hd⟩)
    | succ d => exact .inl ⟨_, fun rest => collect?_cons_alternative_succ hd, fun rest => pairsOff_other ho hc⟩
  · refine .inl ⟨_, fun rest => collect?_cons_of_flat (fun condition hd => ?_) (mt SourceLine.divides_iff.2 ha)
      (mt SourceLine.closes_iff.2 hc), fun rest => pairsOff_other ho hc⟩
    exact ho (SourceLine.opens_iff.2 ⟨condition, hd⟩)

/-- The scan looks at no line behind the end that it finds. -/
theorem collect?_append_of_some (h : collect? depth inElse lines = some b) (more : List SourceLine) :
    collect? depth inElse (lines ++ more) = some { b with rest := b.rest ++ more } := by
  induction lines generalizing depth inElse b with
  | nil => cases h
  | cons l rest ih =>
    rw [List.cons_append]
    rcases collect?_step depth inElse l with ⟨d, hstep, -⟩ | ⟨-, -, hstep⟩ | ⟨-, -, hstep⟩
    · rw [hstep, Option.map_eq_some_iff] at h
      obtain ⟨b', hb', rfl⟩ := h
      rw [hstep, ih hb', Option.map_some, push_append_rest]
    · rw [hstep] at h ⊢
      exact ih h
    · rw [hstep] at h ⊢
      obtain rfl := Option.some.inj h
      rfl

/-- It ends at the partner of the opening line. -/
theorem exists_of_collect? (h : collect? depth inElse lines = some b) :
    ∃ body c, lines = body ++ c :: b.rest ∧ c.Closes ∧ pairsOff depth body := by
  induction lines generalizing depth inElse b with
  | nil => cases h
  | cons l rest ih =>
    rcases collect?_step depth inElse l with ⟨d, hstep, hpairs⟩ | ⟨rfl, ha, hstep⟩ | ⟨rfl, hc, hstep⟩
    · rw [hstep, Option.map_eq_some_iff] at h
      obtain ⟨b', hb', rfl⟩ := h
      obtain ⟨body, c, rfl, hc, hbody⟩ := ih hb'
      exact ⟨l :: body, c, by cases inElse <;> rfl, hc, (hpairs body).trans hbody⟩
    · rw [hstep] at h
      obtain ⟨body, c, rfl, hc, hbody⟩ := ih h
      refine ⟨l :: body, c, rfl, hc, ?_⟩
      exact (pairsOff_other (fun ho => SourceLine.not_divides_of_opens ho ha)
        fun hc => SourceLine.not_divides_of_closes hc ha).trans hbody
    · rw [hstep] at h
      obtain rfl := Option.some.inj h
      exact ⟨[], l, rfl, hc, rfl⟩

theorem exists_read?_of_pairsOff {body : List SourceLine} {c : SourceLine} (h : pairsOff 0 body) (hc : c.Closes)
    (rest : List SourceLine) : ∃ b, read? (body ++ c :: rest) = some b ∧ ∀ first, closesBlocks 0 (b.chosen first) := by
  have hclosed : closesBlocks 1 (body ++ [c]) :=
    (closesBlocks_append_of_pairsOff (d := 0) h).trans (closesBlocks_of_closes hc)
  obtain ⟨b, hb, -, hchosen⟩ := exists_read? hclosed
  refine ⟨{ b with rest := b.rest ++ rest }, ?_, hchosen⟩
  rw [← List.singleton_append, ← List.append_assoc]
  exact collect?_append_of_some hb rest

/-- A block goes up to the partner of its opening line, and its branches close their blocks. -/
theorem exists_of_read? (h : read? lines = some b) : ∃ body c, lines = body ++ c :: b.rest ∧ c.Closes ∧
    pairsOff 0 body ∧ ∀ first, closesBlocks 0 (b.chosen first) := by
  obtain ⟨body, c, hlines, hc, hbody⟩ := exists_of_collect? h
  obtain ⟨b', hb', hchosen⟩ := exists_read?_of_pairsOff hbody hc b.rest
  obtain rfl : b = b' := Option.some.inj (h.symm.trans (hlines ▸ hb'))
  exact ⟨body, c, hlines, hc, hbody, hchosen⟩

end Block

/-! ### Outlines -/

/-- Lines without an error close their blocks; an error in them is at a stray line, behind lines that do. -/
structure FailsAtStray (error? : Option DirectiveError) (lines : List SourceLine) : Prop where
  closes : error? = none → closesBlocks 0 lines
  stray : ∀ e, error? = some e →
    ∃ pre post, lines = pre ++ e.line :: post ∧ closesBlocks 0 pre ∧ Stray pre e.line post

/-- Lines in front that close their blocks change nothing. -/
theorem FailsAtStray.append {error? : Option DirectiveError} {lines : List SourceLine} (h : FailsAtStray error? lines)
    (front : List SourceLine) (hfront : ∀ rest, closesBlocks 0 (front ++ rest) = closesBlocks 0 rest) :
    FailsAtStray error? (front ++ lines) := by
  refine ⟨fun hnone => (hfront lines).trans (h.closes hnone), fun e he => ?_⟩
  obtain ⟨pre, post, rfl, hpre, hstray⟩ := h.stray e he
  have hclosed := (hfront pre).trans hpre
  exact ⟨front ++ pre, post, (List.append_assoc ..).symm, hclosed, hstray.of_closesBlocks hclosed⟩

theorem failsAtStray_outline (platform : Option Text) {lines : List SourceLine}
    (hsafari : ∀ l ∈ lines, ¬ Directive.safariMark <+: l.text.trim) :
    FailsAtStray (outline platform lines).error? lines := by
  induction lines using expand_induction platform with
  | nil =>
    rw [outline_nil]
    exact ⟨fun _ => rfl, fun e he => nomatch he⟩
  | content l rest hl ih =>
    rw [outline_cons_content hl]
    refine (ih fun m hm => hsafari m (List.mem_cons_of_mem l hm)).append [l] fun rest => ?_
    exact closesBlocks_flat (by simp [hl]) (by simp [hl]) (by simp [hl])
  | inclusion l rest path hl ih =>
    rw [outline_cons_inclusion hl]
    refine (ih fun m hm => hsafari m (List.mem_cons_of_mem l hm)).append [l] fun rest => ?_
    exact closesBlocks_flat (by simp [hl]) (by simp [hl]) (by simp [hl])
  | safari l rest closes hl ih => exact absurd (Directive.safariMark_prefix_of hl) (hsafari l (List.mem_cons_self ..))
  | block l rest condition b hl hb ihChosen ihRest =>
    obtain ⟨body, c, hlines, hc, hbody, hchosen⟩ := Block.exists_of_read? hb
    have hsub := (Block.sublist_of_read? hb (Condition.holds condition platform)).subset
    have hsafari' : ∀ m ∈ b.chosen (Condition.holds condition platform) ++ b.rest,
        ¬ Directive.safariMark <+: m.text.trim :=
      fun m hm => hsafari m (List.mem_cons_of_mem l (hsub hm))
    -- whichever branch is chosen, it has no error of its own
    have hfirst : (outline platform (b.chosen (Condition.holds condition platform))).error? = none :=
      Balanced.error?_outline ⟨hchosen _, fun m hm => hsafari' m (List.mem_append_left _ hm)⟩
    have hrest := ihRest fun m hm => hsafari' m (List.mem_append_right _ hm)
    have hblock (rest : List SourceLine) : closesBlocks 0 (l :: (body ++ [c]) ++ rest) = closesBlocks 0 rest := by
      rw [List.cons_append, List.append_assoc, List.singleton_append]
      exact closesBlocks_block (SourceLine.opens_iff.2 ⟨condition, hl⟩) hbody hc
    rw [outline_cons_opening hl hb, Outline.append_of_none hfirst]
    rw [show l :: rest = l :: (body ++ [c]) ++ b.rest by rw [hlines]; simp]
    exact hrest.append _ hblock
  | unterminated l rest condition hl hb =>
    rw [outline_cons_unterminated hl hb]
    refine ⟨fun h => (nomatch h), fun e he => ?_⟩
    obtain rfl := Option.some.inj he
    refine ⟨[], rest, rfl, rfl, .opening (SourceLine.opens_iff.2 ⟨condition, hl⟩) ?_⟩
    rintro body c more rfl hc hbody
    obtain ⟨b, hb', -⟩ := Block.exists_read?_of_pairsOff hbody hc more
    rw [hb] at hb'
    cases hb'
  | unmatched l rest hl =>
    rw [outline_cons_unmatched hl]
    refine ⟨fun h => (nomatch h), fun e he => ?_⟩
    obtain rfl := Option.some.inj he
    have hmark : l.Divides ∨ l.Closes := hl.imp SourceLine.divides_iff.2 SourceLine.closes_iff.2
    refine ⟨[], rest, rfl, rfl, stray_of_closesBlocks rfl (.inr hmark) fun ho => ?_⟩
    exact absurd hmark (not_or.2 ⟨SourceLine.not_divides_of_opens ho, SourceLine.not_closes_of_opens ho⟩)

/-! ### Expansions -/

section
open Attempt
variable {σ : Type} {f : Fetcher σ} {o : DownloadOptions} {lines : List SourceLine}
  {download : Text → Attempt DownloadError (Progress σ) (List SourceLine)} {p : Progress σ}

/-- An expansion whose inclusions do not fail unexpectedly ends with the error of its outline, if that has one. -/
theorem wp_expand_of_included
    (h : wp (Item.interpret (Download.inclusion f download) (outline o.platform lines).items)
      (fun r _ => ∀ e, r = .error e → e.isExpected) p) :
    wp (expand o.platform (Download.inclusion f download) lines) (fun r _ =>
      ∀ e, r = .error (.directive e) ↔ (outline o.platform lines).error? = some e) p := by
  have hunexpected := Item.wp_interpret_keeps (Download.inclusion f download) (I := fun _ => True)
    (E := fun e _ => e.isExpected = false) (outline o.platform lines).items
    (fun l path _ p _ => wp_mono (Download.wp_inclusion_unexpected p) fun _ _ hr => ⟨trivial, hr⟩) p trivial
  rw [expand_eq_interpret_outline]
  refine Outline.wp_interpret (wp_mono (wp_and h hunexpected) fun r q hr => ?_)
  obtain ⟨hexpected, -, herror⟩ := hr
  cases r with
  | error e =>
    have := hexpected e rfl
    rw [herror e rfl] at this
    cases this
  | ok ls =>
    refine ⟨fun e he d => ?_, fun hnone d => ?_⟩
    · rw [he, Except.error.injEq, DownloadError.directive.injEq, Option.some.injEq]
    · rw [hnone]
      exact ⟨fun hd => (nomatch hd), fun hd => (nomatch hd)⟩

end

/-- Directives that do not fit together make an expansion fail exactly if some line is stray, and the error is at the
first such line. -/
theorem expand_fails_iff {σ : Type} (f : Fetcher σ) (o : DownloadOptions) (levels : Nat) (lines : List SourceLine)
    (p : Progress σ) (hsafari : ∀ l ∈ lines, ¬ Directive.safariMark <+: l.text.trim)
    (hincluded : ∀ e, ((Item.interpret (Download.inclusion f fun next => Download.source f o levels next true)
      (outline o.platform lines).items).run p).1 = .error e → e.isExpected) :
    let r := ((expand o.platform (Download.inclusion f fun next => Download.source f o levels next true) lines).run p).1
    ((∃ e, r = .error (.directive e)) ↔ ∃ pre l post, lines = pre ++ l :: post ∧ Stray pre l post) ∧
    ∀ e, r = .error (.directive e) → ∃ pre post, lines = pre ++ e.line :: post ∧ Stray pre e.line post ∧
      ∀ front l back, pre = front ++ l :: back → ¬ Stray front l (back ++ e.line :: post) := by
  intro r
  have hr : ∀ e, r = .error (.directive e) ↔ (outline o.platform lines).error? = some e :=
    wp_expand_of_included hincluded
  obtain ⟨hnone, hsome⟩ := failsAtStray_outline o.platform hsafari
  simp only [hr]
  refine ⟨⟨?_, ?_⟩, fun e he => ?_⟩
  · rintro ⟨e, he⟩
    obtain ⟨pre, post, hlines, -, hstray⟩ := hsome e he
    exact ⟨pre, e.line, post, hlines, hstray⟩
  · rintro ⟨pre, l, post, rfl, hstray⟩
    refine Option.ne_none_iff_exists'.1 fun h => ?_
    exact not_stray_of_closesBlocks (hnone h) (show Stray pre l (post ++ []) by rwa [List.append_nil])
  · obtain ⟨pre, post, rfl, hpre, hstray⟩ := hsome e he
    refine ⟨pre, post, rfl, hstray, ?_⟩
    rintro front l back rfl
    exact not_stray_of_closesBlocks hpre

/-- An inclusion that fails, a block, and an alternative behind it. -/
def alternativeBehindBlock : List SourceLine :=
  SourceLine.split "!#include missing\n!#if (adguard\n!#else\n||a^\n!#endif\n!#else\n!#endif\n".toList "main".toList

theorem expand_fails_iff_alternativeBehindBlock :
    let run {α} (x : Attempt DownloadError (Progress Unit) α) := (x.run ⟨["main".toList], ()⟩).1
    let inclusion := Download.included (fun location => .error (.missing location)) {} 10
    (∀ l ∈ alternativeBehindBlock, ¬ Directive.safariMark <+: l.text.trim) ∧
    (∃ ls, run (Item.interpret inclusion (outline none alternativeBehindBlock).items) = .ok ls) ∧
    ∃ e, run (expand none inclusion alternativeBehindBlock) = .error (.directive e) ∧ e.line.number = 6 ∧
      ∃ pre post, alternativeBehindBlock = pre ++ e.line :: post ∧ Stray pre e.line post ∧
        ∀ front l back, pre = front ++ l :: back → ¬ Stray front l (back ++ e.line :: post) := by
  intro run inclusion
  have hsafari : ∀ l ∈ alternativeBehindBlock, ¬ Directive.safariMark <+: l.text.trim := by decide +kernel
  have hok : run (Item.interpret inclusion (outline none alternativeBehindBlock).items) =
      .ok [⟨"||a^".toList, "main".toList, 4⟩] :=
    eq_ok_of_mem_toOption (by decide +kernel)
  have herror : run (expand none inclusion alternativeBehindBlock) =
      .error (.directive (.unmatched ⟨"!#else".toList, "main".toList, 6⟩)) :=
    eq_error_of_mem_errorOf? (by decide +kernel)
  obtain ⟨-, hfirst⟩ := expand_fails_iff (.ofTexts fun location => .error (.missing location)) {} 10
    alternativeBehindBlock ⟨["main".toList], ()⟩ hsafari fun e he => by cases hok.symm.trans he
  exact ⟨hsafari, ⟨_, hok⟩, _, herror, rfl, hfirst _ herror⟩

end Blocklist
