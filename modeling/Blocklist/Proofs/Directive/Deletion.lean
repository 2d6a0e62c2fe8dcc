import Blocklist.Proofs.Directive.Origin

/-!
# Lines that are left out

A change to lines that keeps the text of each line and leaves out nothing but inclusions does the same to
their outline: `outline_filterMap`. To blocks and their ends it makes no difference
(`Block.read?_filterMap`). `split_eraseIdx`: a text without one of its lines has the lines of the text, that
one left out and those behind it numbered anew.
-/

namespace Blocklist

/-- A change to lines that keeps their texts and leaves out nothing but inclusions. -/
structure KeepsBlocks (g : SourceLine → Option SourceLine) : Prop where
  text : ∀ l l', g l = some l' → l'.text = l.text
  leftOut : ∀ l, g l = none → ∃ path, Directive.of? l.text = some (.inclusion path)

namespace KeepsBlocks
variable {g : SourceLine → Option SourceLine} {l : SourceLine}

theorem exists_some (hg : KeepsBlocks g) (h : ∀ path, Directive.of? l.text ≠ some (.inclusion path)) :
    ∃ l', g l = some l' ∧ l'.text = l.text := by
  cases hl : g l with
  | none =>
    obtain ⟨path, hpath⟩ := hg.leftOut l hl
    exact absurd hpath (h path)
  | some l' => exact ⟨l', rfl, hg.text l l' hl⟩

end KeepsBlocks

/-! ### Blocks -/

namespace Block
variable {g : SourceLine → Option SourceLine} {l l' : SourceLine} {inElse : Bool}

/-- The block of the changed lines. -/
def filterMap (g : SourceLine → Option SourceLine) (b : Block) : Block :=
  ⟨b.thenLines.filterMap g, b.elseLines.filterMap g, b.rest.filterMap g⟩

theorem filterMap_push_of_none (h : g l = none) (b : Block) : (push inElse l b).filterMap g = b.filterMap g := by
  cases inElse <;> simp [push, filterMap, h]

theorem filterMap_push_of_some (h : g l = some l') (b : Block) :
    (push inElse l b).filterMap g = push inElse l' (b.filterMap g) := by
  cases inElse <;> simp [push, filterMap, h]

theorem chosen_filterMap (first : Bool) (b : Block) :
    (b.filterMap g).chosen first = (b.chosen first).filterMap g := by
  cases first <;> rfl

theorem collect?_filterMap (hg : KeepsBlocks g) (depth : Nat) (inElse : Bool) (lines : List SourceLine) :
    collect? depth inElse (lines.filterMap g) = (collect? depth inElse lines).map (filterMap g) := by
  induction lines generalizing depth inElse with
  | nil => rfl
  | cons l rest ih =>
    cases hl : g l with
    | none =>
      obtain ⟨path, hd⟩ := hg.leftOut l hl
      rw [List.filterMap_cons_none hl, ih, collect?_cons_of_flat (by simp [hd]) (by simp [hd]) (by simp [hd]),
        Option.map_map]
      congr 1
      funext b
      exact (filterMap_push_of_none hl b).symm
    | some l' =>
      have htext := hg.text l l' hl
      -- a line that stays in the branch takes the depth from `depth` to `d`
      have pushed {d : Nat}
          (hchanged : collect? depth inElse (l' :: rest.filterMap g) =
            (collect? d inElse (rest.filterMap g)).map (push inElse l'))
          (hcollect : collect? depth inElse (l :: rest) = (collect? d inElse rest).map (push inElse l)) :
          collect? depth inElse (l' :: rest.filterMap g) = (collect? depth inElse (l :: rest)).map (filterMap g) := by
        rw [hchanged, hcollect, ih, Option.map_map, Option.map_map]
        congr 1
        funext b
        exact (filterMap_push_of_some hl b).symm
      rw [List.filterMap_cons_some hl]
      by_cases ho : ∃ condition, Directive.of? l.text = some (.opening condition)
      · obtain ⟨condition, ho⟩ := ho
        exact pushed (collect?_cons_opening (htext ▸ ho)) (collect?_cons_opening ho)
      by_cases ha : Directive.of? l.text = some .alternative
      · cases depth with
        | zero => rw [collect?_cons_alternative ha, collect?_cons_alternative (htext ▸ ha), ih]
        | succ depth => exact pushed (collect?_cons_alternative_succ (htext ▸ ha)) (collect?_cons_alternative_succ ha)
      by_cases hc : Directive.of? l.text = some .closing
      · cases depth with
        | zero => rw [collect?_cons_closing hc, collect?_cons_closing (htext ▸ hc)]; rfl
        | succ depth => exact pushed (collect?_cons_closing_succ (htext ▸ hc)) (collect?_cons_closing_succ hc)
      · have ho' : ∀ condition, Directive.of? l.text ≠ some (.opening condition) := fun c hd => ho ⟨c, hd⟩
        exact pushed (collect?_cons_of_flat (htext ▸ ho') (htext ▸ ha) (htext ▸ hc)) (collect?_cons_of_flat ho' ha hc)

theorem read?_filterMap (hg : KeepsBlocks g) (lines : List SourceLine) :
    read? (lines.filterMap g) = (read? lines).map (filterMap g) :=
  collect?_filterMap hg 0 false lines

end Block

theorem dropSafariBlock_filterMap {g : SourceLine → Option SourceLine} (hg : KeepsBlocks g) (lines : List SourceLine) :
    dropSafariBlock (lines.filterMap g) = (dropSafariBlock lines).filterMap g := by
  induction lines with
  | nil => rfl
  | cons l rest ih =>
    cases hl : g l with
    | none =>
      obtain ⟨path, hd⟩ := hg.leftOut l hl
      have hmark : l.text.trim ≠ Directive.safariMark := fun h => by
        rw [Directive.of?_of_safari (h.trans (List.append_nil _).symm)] at hd
        cases hd
      rw [List.filterMap_cons_none hl, ih, dropSafariBlock, if_neg hmark]
    | some l' =>
      rw [List.filterMap_cons_some hl, dropSafariBlock, dropSafariBlock, hg.text l l' hl, ih]
      split <;> rfl

/-! ### Outlines -/

/-- The item of a changed line. -/
def Item.filterMap (g : SourceLine → Option SourceLine) : Item → Option Item
  | content l => (g l).map content
  | inclusion l path => (g l).map (inclusion · path)

section
variable {g : SourceLine → Option SourceLine} {platform : Option Text}

theorem outline_filterMap (platform : Option Text) (hg : KeepsBlocks g) (lines : List SourceLine) :
    (outline platform (lines.filterMap g)).items = (outline platform lines).items.filterMap (Item.filterMap g) ∧
      ((outline platform (lines.filterMap g)).error? = none ↔ (outline platform lines).error? = none) := by
  induction lines using expand_induction platform with
  | nil => rw [List.filterMap_nil, outline_nil]; exact ⟨rfl, Iff.rfl⟩
  | content l rest hl ih =>
    obtain ⟨l', hl', htext⟩ := hg.exists_some (l := l) (by simp [hl])
    have hitem : Item.filterMap g (.content l) = some (.content l') := congrArg (Option.map Item.content) hl'
    rw [List.filterMap_cons_some hl', outline_cons_content hl, outline_cons_content (htext ▸ hl)]
    exact ⟨by simp only [Outline.cons, List.filterMap_cons_some hitem, ih.1], ih.2⟩
  | inclusion l rest path hl ih =>
    rw [outline_cons_inclusion hl]
    cases hl' : g l with
    | none =>
      have hitem : Item.filterMap g (.inclusion l path) = none := congrArg (Option.map (Item.inclusion · path)) hl'
      rw [List.filterMap_cons_none hl']
      exact ⟨by simp only [Outline.cons, List.filterMap_cons_none hitem, ih.1], ih.2⟩
    | some l' =>
      have hitem : Item.filterMap g (.inclusion l path) = some (.inclusion l' path) :=
        congrArg (Option.map (Item.inclusion · path)) hl'
      rw [List.filterMap_cons_some hl', outline_cons_inclusion (hg.text l l' hl' ▸ hl)]
      exact ⟨by simp only [Outline.cons, List.filterMap_cons_some hitem, ih.1], ih.2⟩
  | safari l rest closes hl ih =>
    obtain ⟨l', hl', htext⟩ := hg.exists_some (l := l) (by simp [hl])
    rw [List.filterMap_cons_some hl', outline_cons_safari hl, outline_cons_safari (htext ▸ hl),
      dropSafariBlock_filterMap hg]
    exact ih
  | block l rest condition b hl hb ihChosen ihRest =>
    obtain ⟨l', hl', htext⟩ := hg.exists_some (l := l) (by simp [hl])
    have hb' : Block.read? (rest.filterMap g) = some (b.filterMap g) := by
      rw [Block.read?_filterMap hg, hb, Option.map_some]
    rw [List.filterMap_cons_some hl', outline_cons_opening hl hb, outline_cons_opening (htext ▸ hl) hb',
      Block.chosen_filterMap]
    change (Outline.append _ (outline platform (b.rest.filterMap g))).items = _ ∧
      ((Outline.append _ (outline platform (b.rest.filterMap g))).error? = none ↔ _)
    cases he : (outline platform (b.chosen (Condition.holds condition platform))).error? with
    | none =>
      rw [Outline.append_of_none he, Outline.append_of_none (ihChosen.2.2 he), List.filterMap_append]
      exact ⟨by rw [ihChosen.1, ihRest.1], ihRest.2⟩
    | some e =>
      obtain ⟨e', he'⟩ := Option.ne_none_iff_exists'.1 fun h => by
        have := ihChosen.2.1 h
        rw [he] at this
        cases this
      rw [Outline.append_of_some he, Outline.append_of_some he']
      exact ihChosen
  | unterminated l rest condition hl hb =>
    obtain ⟨l', hl', htext⟩ := hg.exists_some (l := l) (by simp [hl])
    have hb' : Block.read? (rest.filterMap g) = none := by rw [Block.read?_filterMap hg, hb, Option.map_none]
    rw [List.filterMap_cons_some hl', outline_cons_unterminated hl hb, outline_cons_unterminated (htext ▸ hl) hb']
    exact ⟨rfl, by simp⟩
  | unmatched l rest hl =>
    obtain ⟨l', hl', htext⟩ := hg.exists_some (l := l) (by rcases hl with hl | hl <;> simp [hl])
    rw [List.filterMap_cons_some hl', outline_cons_unmatched hl, outline_cons_unmatched (htext ▸ hl)]
    exact ⟨rfl, by simp⟩

theorem error?_outline_filterMap (hg : KeepsBlocks g) {lines : List SourceLine}
    (h : (outline platform lines).error? = none) : (outline platform (lines.filterMap g)).error? = none :=
  (outline_filterMap platform hg lines).2.2 h

end

/-! ### One line less -/

namespace SourceLine
variable {l gone : SourceLine} {source : Text}

/-- All lines but `gone`; those behind it move up. -/
def leaveOut (gone l : SourceLine) : Option SourceLine :=
  if l = gone then none else some (if gone.number < l.number then { l with number := l.number - 1 } else l)

theorem leaveOut_self (gone : SourceLine) : leaveOut gone gone = none := if_pos rfl

theorem exists_leaveOut (h : l ≠ gone) :
    ∃ l', leaveOut gone l = some l' ∧ l'.text = l.text ∧ l'.source = l.source := by
  refine ⟨_, if_neg h, ?_⟩
  split <;> exact ⟨rfl, rfl⟩

theorem keepsBlocks_leaveOut {path : Text} (h : Directive.of? gone.text = some (.inclusion path)) :
    KeepsBlocks (leaveOut gone) where
  text l l' hl := by
    by_cases hgone : l = gone
    · rw [hgone, leaveOut_self] at hl; cases hl
    · obtain ⟨m, hm, htext, -⟩ := exists_leaveOut hgone
      obtain rfl := Option.some.inj (hl.symm.trans hm)
      exact htext
  leftOut l hl := by
    by_cases hgone : l = gone
    · exact ⟨path, hgone ▸ h⟩
    · obtain ⟨m, hm, -⟩ := exists_leaveOut hgone
      rw [hl] at hm; cases hm

theorem numbered_append (first : Nat) (ts us : List Text) :
    numbered source first (ts ++ us) = numbered source first ts ++ numbered source (first + ts.length) us := by
  induction ts generalizing first with
  | nil => rfl
  | cons t ts ih =>
    rw [List.cons_append, numbered, numbered, ih, List.length_cons, Nat.add_assoc, Nat.add_comm 1]
    rfl

theorem filterMap_numbered_before {first : Nat} {ts : List Text} (h : first + ts.length ≤ gone.number) :
    (numbered source first ts).filterMap (leaveOut gone) = numbered source first ts := by
  induction ts generalizing first with
  | nil => rfl
  | cons t ts ih =>
    rw [List.length_cons] at h
    have hne : (⟨t, source, first⟩ : SourceLine) ≠ gone := fun heq => by
      have : first = gone.number := congrArg number heq
      omega
    have hstay : ¬ gone.number < first := by omega
    have hkept : leaveOut gone ⟨t, source, first⟩ = some ⟨t, source, first⟩ := by
      rw [leaveOut, if_neg hne, if_neg hstay]
    rw [numbered, List.filterMap_cons_some hkept, ih (by omega)]

theorem filterMap_numbered_after {first : Nat} {ts : List Text} (h : gone.number ≤ first) :
    (numbered source (first + 1) ts).filterMap (leaveOut gone) = numbered source first ts := by
  induction ts generalizing first with
  | nil => rfl
  | cons t ts ih =>
    have hne : (⟨t, source, first + 1⟩ : SourceLine) ≠ gone := fun heq => by
      have : first + 1 = gone.number := congrArg number heq
      omega
    have hkept : leaveOut gone ⟨t, source, first + 1⟩ = some ⟨t, source, first⟩ := by
      rw [leaveOut, if_neg hne, if_pos (Nat.lt_succ_of_le h)]
      rfl
    rw [numbered, numbered, List.filterMap_cons_some hkept, ih (by omega)]

theorem numbered_eraseIdx {line : Text} {before after : List Text} :
    numbered source 1 (before ++ after) =
      (numbered source 1 (before ++ line :: after)).filterMap (leaveOut ⟨line, source, 1 + before.length⟩) := by
  rw [numbered_append, numbered_append, List.filterMap_append, filterMap_numbered_before (Nat.le_refl _), numbered,
    List.filterMap_cons_none (leaveOut_self _), filterMap_numbered_after (Nat.le_refl _)]

theorem split_eraseIdx {s s' : Text} (hgone : gone ∈ split s source)
    (h : texts s' = (texts s).eraseIdx (gone.number - 1)) :
    split s' source = (split s source).filterMap (leaveOut gone) := by
  obtain ⟨-, hget⟩ := getElem?_of_mem_split hgone
  rw [split, getElem?_numbered] at hget
  obtain ⟨line, hline, hl⟩ := Option.map_eq_some_iff.1 hget
  obtain ⟨hlt, hline⟩ := List.getElem?_eq_some_iff.1 hline
  have hbefore : ((texts s).take (gone.number - 1)).length = gone.number - 1 :=
    List.length_take_of_le (Nat.le_of_lt hlt)
  have htexts : texts s = (texts s).take (gone.number - 1) ++ line :: (texts s).drop (gone.number - 1 + 1) := by
    rw [← hline, ← List.drop_eq_getElem_cons hlt, List.take_append_drop]
  rw [split, split, h, List.eraseIdx_eq_take_drop_succ, numbered_eraseIdx, ← htexts, hbefore, hl]

end SourceLine

end Blocklist
