import Blocklist.Proofs.Directive.Document

/-!
# Outlines

What an expansion goes through does not depend on what its inclusions give: `outline platform lines`
are the content and the inclusions that the platform sees, in order, and the directive that stops the
expansion behind them, if one does. `expand_eq_interpret_outline`: an expansion interprets its outline.
`sublist_outline` and `directive?_of_mem_outline` say where the items come from.
-/

namespace Blocklist

namespace Item
variable {item : Item}

/-- The line that the item is. -/
def line : Item → SourceLine
  | content l => l
  | inclusion l _ => l

/-- The directive that the line of the item is. -/
def directive? : Item → Option Directive
  | content _ => none
  | inclusion _ path => some (.inclusion path)

end Item

/-- Items, and the error behind them. -/
structure Outline where
  items : List Item
  error? : Option DirectiveError

namespace Outline
variable {σ : Type} {inclusion : SourceLine → Text → Attempt DownloadError σ (List SourceLine)}

/-- One more item in front. -/
def cons (item : Item) (a : Outline) : Outline := { a with items := item :: a.items }

/-- An outline behind another one, which is not reached if that one ends with an error. -/
def append (a b : Outline) : Outline :=
  match a.error? with
  | none => { b with items := a.items ++ b.items }
  | some _ => a

/-- The lines of the items, unless there is an error behind them. -/
def interpret (inclusion : SourceLine → Text → Attempt DownloadError σ (List SourceLine)) (a : Outline) :
    Attempt DownloadError σ (List SourceLine) := do
  let ls ← Item.interpret inclusion a.items
  match a.error? with
  | none => return ls
  | some e => throw (.directive e)

theorem append_of_none {a b : Outline} (h : a.error? = none) :
    a.append b = { b with items := a.items ++ b.items } := by
  simp [append, h]

theorem append_of_some {a b : Outline} {e : DirectiveError} (h : a.error? = some e) : a.append b = a := by
  simp [append, h]

theorem interpret_none (items : List Item) : interpret inclusion ⟨items, none⟩ = Item.interpret inclusion items := by
  simp [interpret]

theorem interpret_error (e : DirectiveError) :
    interpret inclusion ⟨[], some e⟩ = throw (.directive e) := by
  simp [interpret, Item.interpret]

theorem interpret_cons (item : Item) (a : Outline) :
    interpret inclusion (a.cons item) =
      (do let ls ← item.lines inclusion; return ls ++ (← interpret inclusion a)) := by
  rcases a with ⟨items, _ | e⟩ <;> simp [interpret, cons, Item.interpret]

theorem interpret_append (a b : Outline) :
    interpret inclusion (a.append b) =
      (do let ls ← interpret inclusion a; return ls ++ (← interpret inclusion b)) := by
  rcases a with ⟨items, _ | e⟩
  · rw [append_of_none rfl]
    rcases b with ⟨more, _ | e⟩ <;> simp [interpret, Item.interpret_append]
  · rw [append_of_some rfl]
    simp [interpret]

end Outline

theorem Block.length_chosen_le {lines : List SourceLine} {b : Block} (h : Block.read? lines = some b)
    (first : Bool) : (b.chosen first).length ≤ lines.length :=
  ((List.sublist_append_left _ _).trans (Block.sublist_of_read? h first)).length_le

section
open Attempt

variable {σ : Type} {inclusion : SourceLine → Text → Attempt DownloadError σ (List SourceLine)} {s : σ}
  {Q : Except DownloadError (List SourceLine) → σ → Prop}

theorem Item.wp_interpret_cons {item : Item} {rest : List Item}
    (h : wp (item.lines inclusion) (fun
      | .ok ls, s' => wp (interpret inclusion rest) (fun r s'' => Q (r.map (ls ++ ·)) s'') s'
      | .error e, s' => Q (.error e) s') s) :
    wp (interpret inclusion (item :: rest)) Q s := by
  refine wp_bind (wp_mono h fun r s' hr => ?_)
  cases r with
  | error e => exact hr
  | ok ls =>
    refine wp_bind (wp_mono hr fun r s'' hr => ?_)
    cases r <;> exact hr

theorem Item.run_interpret_append (items more : List Item) (s : σ) :
    (interpret inclusion (items ++ more)).run s =
      match (interpret inclusion items).run s with
      | (.ok ls, s') =>
        match (interpret inclusion more).run s' with
        | (.ok ls', s'') => (.ok (ls ++ ls'), s'')
        | (.error e, s'') => (.error e, s'')
      | (.error e, s') => (.error e, s') := by
  rw [interpret_append, run_bind]
  rcases (interpret inclusion items).run s with ⟨_ | ls, s'⟩
  · rfl
  · dsimp only
    rw [run_bind]
    rcases (interpret inclusion more).run s' with ⟨_ | ls', s''⟩ <;> rfl

variable (inclusion) in
/-- What every inclusion among the items keeps, and says of its errors, holds for all of them together. -/
theorem Item.wp_interpret_keeps {I : σ → Prop} {E : DownloadError → σ → Prop} (items : List Item)
    (h : ∀ l path, .inclusion l path ∈ items → ∀ s, I s →
      wp (inclusion l path) (fun r s' => I s' ∧ ∀ e, r = .error e → E e s') s)
    (s : σ) (hs : I s) :
    wp (interpret inclusion items) (fun r s' => I s' ∧ ∀ e, r = .error e → E e s') s := by
  induction items generalizing s with
  | nil => exact ⟨hs, fun e he => nomatch he⟩
  | cons item rest ih =>
    have hfirst : wp (item.lines inclusion) (fun r s' => I s' ∧ ∀ e, r = .error e → E e s') s := by
      cases item with
      | content l => exact ⟨hs, fun e he => nomatch he⟩
      | inclusion l path => exact h l path (List.mem_cons_self ..) s hs
    refine wp_interpret_cons (wp_mono hfirst fun r s₁ hr => ?_)
    cases r with
    | error e => exact hr
    | ok ls =>
      refine wp_mono (ih (fun l path hl => h l path (List.mem_cons_of_mem item hl)) s₁ hr.1) fun r s₂ hr' => ?_
      cases r with
      | error e => exact hr'
      | ok more => exact ⟨hr'.1, fun e he => nomatch he⟩

theorem Outline.wp_interpret {a : Outline}
    (h : wp (Item.interpret inclusion a.items) (fun
      | .ok ls, s' => (∀ e, a.error? = some e → Q (.error (.directive e)) s') ∧ (a.error? = none → Q (.ok ls) s')
      | .error e, s' => Q (.error e) s') s) :
    wp (a.interpret inclusion) Q s := by
  refine wp_bind (wp_mono h fun r s' hr => ?_)
  cases r with
  | error e => exact hr
  | ok ls =>
    rcases a with ⟨items, _ | e⟩
    · exact hr.2 rfl
    · exact hr.1 e rfl

end

/-- The outline of some lines. -/
def outline (platform : Option Text) : List SourceLine → Outline
  | [] => ⟨[], none⟩
  | l :: rest =>
    match Directive.of? l.text with
    | some (.opening condition) =>
      match h : Block.read? rest with
      | none => ⟨[], some (.unterminated l)⟩
      | some b =>
        have := Block.length_chosen_le h (Condition.holds condition platform)
        have := Block.length_rest_lt h
        (outline platform (b.chosen (Condition.holds condition platform))).append (outline platform b.rest)
    | some .alternative | some .closing => ⟨[], some (.unmatched l)⟩
    | some (.inclusion path) => (outline platform rest).cons (.inclusion l path)
    | some (.safari _) =>
      have := length_dropSafariBlock_le rest
      outline platform (dropSafariBlock rest)
    | none => (outline platform rest).cons (.content l)
termination_by lines => lines.length
decreasing_by all_goals (simp only [List.length_cons]; omega)

section
variable {platform : Option Text} {l : SourceLine} {rest : List SourceLine}

theorem outline_nil : outline platform [] = ⟨[], none⟩ := by
  rw [outline.eq_def]

theorem outline_cons_content (h : Directive.of? l.text = none) :
    outline platform (l :: rest) = (outline platform rest).cons (.content l) := by
  rw [outline.eq_def]; simp only [h]

theorem outline_cons_inclusion {path : Text} (h : Directive.of? l.text = some (.inclusion path)) :
    outline platform (l :: rest) = (outline platform rest).cons (.inclusion l path) := by
  rw [outline.eq_def]; simp only [h]

theorem outline_cons_safari {closes : Bool} (h : Directive.of? l.text = some (.safari closes)) :
    outline platform (l :: rest) = outline platform (dropSafariBlock rest) := by
  rw [outline.eq_def]; simp only [h]

theorem outline_cons_opening {condition : Text} {b : Block}
    (h : Directive.of? l.text = some (.opening condition)) (hb : Block.read? rest = some b) :
    outline platform (l :: rest) =
      (outline platform (b.chosen (Condition.holds condition platform))).append
        (outline platform b.rest) := by
  rw [outline.eq_def]; simp only [h]
  split
  · rename_i hn; simp [hn] at hb
  · rename_i b' hb'
    obtain rfl : b' = b := Option.some.inj (hb'.symm.trans hb)
    rfl

theorem outline_cons_unterminated {condition : Text} (h : Directive.of? l.text = some (.opening condition))
    (hb : Block.read? rest = none) : outline platform (l :: rest) = ⟨[], some (.unterminated l)⟩ := by
  rw [outline.eq_def]; simp only [h]
  split
  · rfl
  · rename_i b hb'; simp [hb] at hb'

theorem outline_cons_unmatched
    (h : Directive.of? l.text = some .alternative ∨ Directive.of? l.text = some .closing) :
    outline platform (l :: rest) = ⟨[], some (.unmatched l)⟩ := by
  rw [outline.eq_def]; rcases h with h | h <;> simp only [h]

end

section
variable {σ : Type} {platform : Option Text} {lines : List SourceLine}
  {inclusion : SourceLine → Text → Attempt DownloadError σ (List SourceLine)}

theorem expand_eq_interpret_outline (lines : List SourceLine) :
    expand platform inclusion lines = (outline platform lines).interpret inclusion := by
  induction lines using expand_induction platform with
  | nil => rw [expand_nil, outline_nil]; rfl
  | content l rest hl ih =>
    rw [expand_cons_content hl, outline_cons_content hl, Outline.interpret_cons, ih]
    simp [Item.lines]
  | inclusion l rest path hl ih =>
    rw [expand_cons_inclusion hl, outline_cons_inclusion hl, Outline.interpret_cons, ih]
    rfl
  | safari l rest closes hl ih => rw [expand_cons_safari hl, outline_cons_safari hl, ih]
  | block l rest condition b hl hb ihChosen ihRest =>
    rw [expand_cons_opening hl hb, outline_cons_opening hl hb, Outline.interpret_append, ihChosen, ihRest]
  | unterminated l rest condition hl hb =>
    rw [expand_cons_unterminated hl hb, outline_cons_unterminated hl hb, Outline.interpret_error]
  | unmatched l rest hl => rw [expand_cons_unmatched hl, outline_cons_unmatched hl, Outline.interpret_error]

/-! ### Where the items come from -/

theorem sublist_outline (platform : Option Text) (lines : List SourceLine) :
    List.Sublist ((outline platform lines).items.map Item.line) lines := by
  induction lines using expand_induction platform with
  | nil => rw [outline_nil]; exact List.nil_sublist _
  | content l rest hl ih => rw [outline_cons_content hl]; exact ih.cons_cons l
  | inclusion l rest path hl ih => rw [outline_cons_inclusion hl]; exact ih.cons_cons l
  | safari l rest closes hl ih =>
    rw [outline_cons_safari hl]
    exact (ih.trans (dropSafariBlock_suffix rest).sublist).cons l
  | block l rest condition b hl hb ihChosen ihRest =>
    rw [outline_cons_opening hl hb]
    have hsub := Block.sublist_of_read? hb (Condition.holds condition platform)
    cases he : (outline platform (b.chosen (Condition.holds condition platform))).error? with
    | none =>
      rw [Outline.append_of_none he, List.map_append]
      exact ((ihChosen.append ihRest).trans hsub).cons l
    | some e =>
      rw [Outline.append_of_some he]
      exact ((ihChosen.trans (List.sublist_append_left _ _)).trans hsub).cons l
  | unterminated l rest condition hl hb =>
    rw [outline_cons_unterminated hl hb]; exact List.nil_sublist _
  | unmatched l rest hl => rw [outline_cons_unmatched hl]; exact List.nil_sublist _

theorem directive?_of_mem_outline {item : Item} (h : item ∈ (outline platform lines).items) :
    Directive.of? item.line.text = item.directive? := by
  induction lines using expand_induction platform with
  | nil => rw [outline_nil] at h; cases h
  | content l rest hl ih =>
    rw [outline_cons_content hl] at h
    rcases List.mem_cons.1 h with rfl | h
    · exact hl
    · exact ih h
  | inclusion l rest path hl ih =>
    rw [outline_cons_inclusion hl] at h
    rcases List.mem_cons.1 h with rfl | h
    · exact hl
    · exact ih h
  | safari l rest closes hl ih => rw [outline_cons_safari hl] at h; exact ih h
  | block l rest condition b hl hb ihChosen ihRest =>
    rw [outline_cons_opening hl hb] at h
    cases he : (outline platform (b.chosen (Condition.holds condition platform))).error? with
    | none =>
      rw [Outline.append_of_none he] at h
      rcases List.mem_append.1 h with h | h
      · exact ihChosen h
      · exact ihRest h
    | some e => rw [Outline.append_of_some he] at h; exact ihChosen h
  | unterminated l rest condition hl hb => rw [outline_cons_unterminated hl hb] at h; cases h
  | unmatched l rest hl => rw [outline_cons_unmatched hl] at h; cases h

theorem line_mem_of_mem_outline {item : Item} (h : item ∈ (outline platform lines).items) :
    item.line ∈ lines :=
  (sublist_outline platform lines).subset (List.mem_map_of_mem h)

end

end Blocklist
