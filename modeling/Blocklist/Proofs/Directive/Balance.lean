import Blocklist.Proofs.Directive.Outline

/-!
# Blocks that are closed

`closesBlocks` counts the blocks that are open. Lines in which it ends with none, and which have no Safari
blocks, are `Balanced`; their outlines end with no error, whatever the platform. The point is
`Block.exists_collect?`: the scan for the end of a block finds it, and leaves branches in which the count
comes out even again.
-/

namespace Blocklist

/-- Every block among the lines is closed, as are `depth` blocks that were open before, and what divides
or closes a block stands inside of one. -/
def closesBlocks : (depth : Nat) → List SourceLine → Bool
  | depth, [] => depth = 0
  | depth, l :: rest =>
    match Directive.of? l.text with
    | some (.opening _) => closesBlocks (depth + 1) rest
    | some .alternative => depth ≠ 0 && closesBlocks depth rest
    | some .closing =>
      match depth with
      | 0 => false
      | d + 1 => closesBlocks d rest
    | _ => closesBlocks depth rest

section
variable {l : SourceLine} {rest : List SourceLine} {depth : Nat}

theorem closesBlocks_opening {condition : Text} (h : Directive.of? l.text = some (.opening condition)) :
    closesBlocks depth (l :: rest) = closesBlocks (depth + 1) rest := by
  simp only [closesBlocks, h]

theorem closesBlocks_alternative (h : Directive.of? l.text = some .alternative) :
    closesBlocks depth (l :: rest) = (depth ≠ 0 && closesBlocks depth rest) := by
  simp only [closesBlocks, h]

theorem closesBlocks_closing (h : Directive.of? l.text = some .closing) :
    closesBlocks (depth + 1) (l :: rest) = closesBlocks depth rest := by
  simp only [closesBlocks, h]

theorem not_closesBlocks_closing (h : Directive.of? l.text = some .closing) :
    closesBlocks 0 (l :: rest) = false := by
  simp only [closesBlocks, h]

theorem closesBlocks_flat (ho : ∀ condition, Directive.of? l.text ≠ some (.opening condition))
    (ha : Directive.of? l.text ≠ some .alternative) (hc : Directive.of? l.text ≠ some .closing) :
    closesBlocks depth (l :: rest) = closesBlocks depth rest := by
  rw [closesBlocks.eq_def]
  dsimp only
  split
  · rename_i h; exact absurd h (ho _)
  · rename_i h; exact absurd h ha
  · rename_i h; exact absurd h hc
  · rfl

end

namespace Block

/-- What a scan that has read `depth + 1` opening lines leaves to be closed: the branch that it is in
closes `depth` blocks, all else closes its own. -/
structure Closes (depth : Nat) (inElse : Bool) (b : Block) : Prop where
  rest : closesBlocks 0 b.rest
  thenLines : closesBlocks (if inElse then 0 else depth) b.thenLines
  elseLines : closesBlocks (if inElse then depth else 0) b.elseLines

theorem Closes.push {depth d : Nat} {inElse : Bool} {l : SourceLine} {b : Block} (h : Closes d inElse b)
    (hl : ∀ rest, closesBlocks d rest → closesBlocks depth (l :: rest)) :
    Closes depth inElse (push inElse l b) := by
  cases inElse with
  | false => exact ⟨h.rest, hl _ h.thenLines, h.elseLines⟩
  | true => exact ⟨h.rest, h.thenLines, hl _ h.elseLines⟩

theorem exists_collect? {depth : Nat} {lines : List SourceLine} (inElse : Bool)
    (h : closesBlocks (depth + 1) lines) : ∃ b, collect? depth inElse lines = some b ∧ Closes depth inElse b := by
  induction lines generalizing depth inElse with
  | nil => simp [closesBlocks] at h
  | cons l rest ih =>
    -- a line that stays in the branch takes the depth from `depth` to `d`
    have pushed {d : Nat} (hcollect : collect? depth inElse (l :: rest) = (collect? d inElse rest).map (push inElse l))
        (hrest : closesBlocks (d + 1) rest)
        (hl : ∀ rest, closesBlocks d rest → closesBlocks depth (l :: rest)) :
        ∃ b, collect? depth inElse (l :: rest) = some b ∧ Closes depth inElse b := by
      obtain ⟨b, hb, hc⟩ := ih inElse hrest
      exact ⟨_, by rw [hcollect, hb, Option.map_some], hc.push hl⟩
    by_cases ho : ∃ condition, Directive.of? l.text = some (.opening condition)
    · obtain ⟨condition, ho⟩ := ho
      rw [closesBlocks_opening ho] at h
      exact pushed (collect?_cons_opening ho) h fun rest hr => (closesBlocks_opening ho).trans hr
    by_cases ha : Directive.of? l.text = some .alternative
    · rw [closesBlocks_alternative ha, Bool.and_eq_true] at h
      cases depth with
      | zero =>
        obtain ⟨b, hb, hc⟩ := ih true h.2
        refine ⟨b, (collect?_cons_alternative ha).trans hb, hc.rest, ?_, ?_⟩
        · simpa using hc.thenLines
        · simpa using hc.elseLines
      | succ depth =>
        exact pushed (collect?_cons_alternative_succ ha) h.2 fun rest hr => by
          simp [closesBlocks_alternative ha, hr]
    by_cases hc : Directive.of? l.text = some .closing
    · rw [closesBlocks_closing hc] at h
      cases depth with
      | zero =>
        refine ⟨⟨[], [], rest⟩, collect?_cons_closing hc, h, ?_, ?_⟩ <;> simp [closesBlocks]
      | succ depth =>
        exact pushed (collect?_cons_closing_succ hc) h fun rest hr => (closesBlocks_closing hc).trans hr
    · have ho' : ∀ condition, Directive.of? l.text ≠ some (.opening condition) := fun c hd => ho ⟨c, hd⟩
      rw [closesBlocks_flat ho' ha hc] at h
      exact pushed (collect?_cons_of_flat ho' ha hc) h fun rest hr => (closesBlocks_flat ho' ha hc).trans hr

theorem exists_read? {lines : List SourceLine} (h : closesBlocks 1 lines) :
    ∃ b, read? lines = some b ∧ closesBlocks 0 b.rest ∧ ∀ first, closesBlocks 0 (b.chosen first) := by
  obtain ⟨b, hb, hc⟩ := exists_collect? false h
  refine ⟨b, hb, hc.rest, fun first => ?_⟩
  cases first
  · simpa [chosen] using hc.elseLines
  · simpa [chosen] using hc.thenLines

end Block

/-- Conditional blocks that are well nested, and no Safari blocks. -/
structure Balanced (lines : List SourceLine) : Prop where
  closed : closesBlocks 0 lines
  noSafari : ∀ l ∈ lines, ¬ Directive.safariMark <+: l.text.trim

theorem Balanced.error?_outline {platform : Option Text} {lines : List SourceLine} (h : Balanced lines) :
    (outline platform lines).error? = none := by
  obtain ⟨hclosed, hsafari⟩ := h
  induction lines using expand_induction platform with
  | nil => rw [outline_nil]
  | content l rest hl ih =>
    rw [closesBlocks_flat (by simp [hl]) (by simp [hl]) (by simp [hl])] at hclosed
    rw [outline_cons_content hl]
    exact ih hclosed fun m hm => hsafari m (List.mem_cons_of_mem l hm)
  | inclusion l rest path hl ih =>
    rw [closesBlocks_flat (by simp [hl]) (by simp [hl]) (by simp [hl])] at hclosed
    rw [outline_cons_inclusion hl]
    exact ih hclosed fun m hm => hsafari m (List.mem_cons_of_mem l hm)
  | safari l rest closes hl ih => exact absurd (Directive.safariMark_prefix_of hl) (hsafari l (List.mem_cons_self ..))
  | block l rest condition b hl hb ihChosen ihRest =>
    rw [closesBlocks_opening hl] at hclosed
    obtain ⟨b', hb', hrest, hchosen⟩ := Block.exists_read? hclosed
    obtain rfl : b' = b := Option.some.inj (hb'.symm.trans hb)
    have hsub := (Block.sublist_of_read? hb (Condition.holds condition platform)).subset
    have hsafari' : ∀ m ∈ b'.chosen (Condition.holds condition platform) ++ b'.rest,
        ¬ Directive.safariMark <+: m.text.trim :=
      fun m hm => hsafari m (List.mem_cons_of_mem l (hsub hm))
    have hfirst := ihChosen (hchosen _) fun m hm => hsafari' m (List.mem_append_left _ hm)
    rw [outline_cons_opening hl hb, Outline.append_of_none hfirst]
    exact ihRest hrest fun m hm => hsafari' m (List.mem_append_right _ hm)
  | unterminated l rest condition hl hb =>
    rw [closesBlocks_opening hl] at hclosed
    obtain ⟨b, hb', -⟩ := Block.exists_read? hclosed
    rw [hb] at hb'
    cases hb'
  | unmatched l rest hl =>
    rcases hl with hl | hl
    · simp [closesBlocks_alternative hl] at hclosed
    · simp [not_closesBlocks_closing hl] at hclosed

end Blocklist
