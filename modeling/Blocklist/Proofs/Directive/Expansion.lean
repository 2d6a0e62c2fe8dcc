import Blocklist.Proofs.Directive.Attempt
import Blocklist.Proofs.Directive.Line

/-!
# What each line does

`collect?_cons_opening` and its companions are the steps of the scan for the end of a block,
`expand_cons_content` and its companions those of an expansion. `expand_induction` is induction along
an expansion, and `Block.sublist_of_read?` says that the lines of a block and those after it come from
the lines that it is read from, in order.
-/

namespace Blocklist

namespace Block
variable {l : SourceLine} {depth : Nat} {inElse : Bool} {rest : List SourceLine} {condition : Text}

theorem collect?_cons_opening (h : Directive.of? l.text = some (.opening condition)) :
    collect? depth inElse (l :: rest) = (collect? (depth + 1) inElse rest).map (push inElse l) := by
  simp only [collect?, h]

theorem collect?_cons_closing (h : Directive.of? l.text = some .closing) :
    collect? 0 inElse (l :: rest) = some ⟨[], [], rest⟩ := by
  simp only [collect?, h]

theorem collect?_cons_closing_succ (h : Directive.of? l.text = some .closing) :
    collect? (depth + 1) inElse (l :: rest) = (collect? depth inElse rest).map (push inElse l) := by
  simp only [collect?, h]

theorem collect?_cons_alternative (h : Directive.of? l.text = some .alternative) :
    collect? 0 inElse (l :: rest) = collect? 0 true rest := by
  simp only [collect?, h]

theorem collect?_cons_alternative_succ (h : Directive.of? l.text = some .alternative) :
    collect? (depth + 1) inElse (l :: rest) =
      (collect? (depth + 1) inElse rest).map (push inElse l) := by
  simp only [collect?, h]

/-- All other lines stay at their depth. -/
theorem collect?_cons_of_flat (ho : ∀ condition, Directive.of? l.text ≠ some (.opening condition))
    (ha : Directive.of? l.text ≠ some .alternative) (hc : Directive.of? l.text ≠ some .closing) :
    collect? depth inElse (l :: rest) = (collect? depth inElse rest).map (push inElse l) := by
  rw [collect?.eq_def]
  dsimp only
  split
  · rename_i h; exact absurd h (ho _)
  · rename_i h; exact absurd h hc
  · rename_i h; exact absurd h ha
  · rfl

/-- The branch that stays. -/
def chosen (first : Bool) (b : Block) : List SourceLine := if first then b.thenLines else b.elseLines

theorem sublist_push {b : Block} (h : ∀ first, List.Sublist (b.chosen first ++ b.rest) rest) (first : Bool) :
    List.Sublist ((push inElse l b).chosen first ++ (push inElse l b).rest) (l :: rest) := by
  cases inElse <;> cases first
  · exact (h false).cons l
  · exact (h true).cons_cons l
  · exact (h false).cons_cons l
  · exact (h true).cons l

theorem sublist_of_collect? {lines : List SourceLine} {b : Block} (h : collect? depth inElse lines = some b)
    (first : Bool) : List.Sublist (b.chosen first ++ b.rest) lines := by
  induction lines generalizing depth inElse b first with
  | nil => simp [collect?] at h
  | cons l rest ih =>
    have pushed {d : Nat} (h : (collect? d inElse rest).map (push inElse l) = some b) :
        List.Sublist (b.chosen first ++ b.rest) (l :: rest) := by
      obtain ⟨b', hb', rfl⟩ := Option.map_eq_some_iff.1 h
      exact sublist_push (ih hb') first
    rw [collect?.eq_def] at h
    dsimp only at h
    split at h
    · exact pushed h
    · split at h
      · obtain rfl := Option.some.inj h
        cases first <;> exact List.sublist_cons_self l rest
      · exact pushed h
    · split at h
      · exact (ih h first).cons l
      · exact pushed h
    · exact pushed h

theorem sublist_of_read? {lines : List SourceLine} {b : Block} (h : read? lines = some b) (first : Bool) :
    List.Sublist (b.chosen first ++ b.rest) lines :=
  sublist_of_collect? h first

end Block

theorem dropSafariBlock_suffix (lines : List SourceLine) : dropSafariBlock lines <:+ lines := by
  induction lines with
  | nil => exact List.suffix_refl _
  | cons l rest ih =>
    rw [dropSafariBlock]
    split
    · exact List.suffix_cons l rest
    · exact ih.trans (List.suffix_cons l rest)

section
variable {σ : Type} {platform : Option Text} {l : SourceLine} {rest : List SourceLine}
  {inclusion : SourceLine → Text → Attempt DownloadError σ (List SourceLine)}

theorem expand_nil : expand platform inclusion [] = pure [] := by
  rw [expand.eq_def]

theorem expand_cons_content (h : Directive.of? l.text = none) :
    expand platform inclusion (l :: rest) =
      (do return l :: (← expand platform inclusion rest)) := by
  rw [expand.eq_def]; simp only [h]

theorem expand_cons_inclusion {path : Text} (h : Directive.of? l.text = some (.inclusion path)) :
    expand platform inclusion (l :: rest) =
      (do let included ← inclusion l path; return included ++ (← expand platform inclusion rest)) := by
  rw [expand.eq_def]; simp only [h]

theorem expand_cons_safari {closes : Bool} (h : Directive.of? l.text = some (.safari closes)) :
    expand platform inclusion (l :: rest) = expand platform inclusion (dropSafariBlock rest) := by
  rw [expand.eq_def]; simp only [h]

theorem expand_cons_opening {condition : Text} {b : Block}
    (h : Directive.of? l.text = some (.opening condition)) (hb : Block.read? rest = some b) :
    expand platform inclusion (l :: rest) =
      (do
        let chosen ← expand platform inclusion (b.chosen (Condition.holds condition platform))
        return chosen ++ (← expand platform inclusion b.rest)) := by
  rw [expand.eq_def]; simp only [h]
  split
  · rename_i hn; simp [hn] at hb
  · rename_i b' hb'
    obtain rfl : b' = b := Option.some.inj (hb'.symm.trans hb)
    rw [Block.chosen]
    split <;> rfl

theorem expand_cons_unterminated {condition : Text} (h : Directive.of? l.text = some (.opening condition))
    (hb : Block.read? rest = none) :
    expand platform inclusion (l :: rest) = throw (.directive (.unterminated l)) := by
  rw [expand.eq_def]; simp only [h]
  split
  · rfl
  · rename_i b hb'; simp [hb] at hb'

theorem expand_cons_unmatched
    (h : Directive.of? l.text = some .alternative ∨ Directive.of? l.text = some .closing) :
    expand platform inclusion (l :: rest) = throw (.directive (.unmatched l)) := by
  rw [expand.eq_def]; rcases h with h | h <;> simp only [h]

end

/-- Induction along an expansion on `platform`. -/
theorem expand_induction (platform : Option Text) {motive : List SourceLine → Prop}
    (nil : motive [])
    (content : ∀ l rest, Directive.of? l.text = none → motive rest → motive (l :: rest))
    (inclusion : ∀ l rest path, Directive.of? l.text = some (.inclusion path) → motive rest →
      motive (l :: rest))
    (safari : ∀ l rest closes, Directive.of? l.text = some (.safari closes) →
      motive (dropSafariBlock rest) → motive (l :: rest))
    (block : ∀ l rest condition b, Directive.of? l.text = some (.opening condition) →
      Block.read? rest = some b → motive (b.chosen (Condition.holds condition platform)) →
      motive b.rest → motive (l :: rest))
    (unterminated : ∀ l rest condition, Directive.of? l.text = some (.opening condition) →
      Block.read? rest = none → motive (l :: rest))
    (unmatched : ∀ l rest, (Directive.of? l.text = some .alternative ∨
      Directive.of? l.text = some .closing) → motive (l :: rest))
    (lines : List SourceLine) : motive lines := by
  refine expand.induct (σ := Unit) platform (fun _ _ => pure []) motive nil unterminated ?_ ?_
    (fun l rest h => unmatched l rest (.inl h)) (fun l rest h => unmatched l rest (.inr h)) inclusion
    (fun l rest closes h _ => safari l rest closes h) content lines
  · intro l rest condition h b hb _ _ _ hc ihRest ihThen
    exact block l rest condition b h hb (by rw [Block.chosen, hc]; exact ihThen) ihRest
  · intro l rest condition h b hb _ _ _ hc ihRest ihElse
    exact block l rest condition b h hb (by rw [Block.chosen, if_neg hc]; exact ihElse) ihRest

section
variable {σ : Type} {platform : Option Text} {lines : List SourceLine}
  {inclusion : SourceLine → Text → Attempt DownloadError σ (List SourceLine)}
open Attempt

/-- What every inclusion among the lines keeps, the expansion keeps. -/
theorem wp_expand {I : σ → Prop}
    (h : ∀ l ∈ lines, ∀ path, Directive.of? l.text = some (.inclusion path) →
      ∀ s, I s → wp (inclusion l path) (fun _ s' => I s') s)
    (s : σ) (hs : I s) : wp (expand platform inclusion lines) (fun _ s' => I s') s := by
  -- after a part that keeps `I`, the rest starts from a state that satisfies it
  have seq {x y : Attempt DownloadError σ (List SourceLine)} (s : σ) (hx : wp x (fun _ s' => I s') s)
      (hy : ∀ s, I s → wp y (fun _ s' => I s') s) :
      wp (do let a ← x; return a ++ (← y)) (fun _ s' => I s') s := by
    refine wp_bind (wp_mono hx fun r s₁ h₁ => ?_)
    cases r with
    | error e => exact h₁
    | ok a =>
      refine wp_bind (wp_mono (hy s₁ h₁) fun r s₂ h₂ => ?_)
      cases r with
      | error e => exact h₂
      | ok b => exact h₂
  induction lines using expand_induction platform generalizing s with
  | nil => rw [expand_nil]; exact hs
  | content l rest hl ih =>
    rw [expand_cons_content hl]
    refine wp_bind (wp_mono (ih (fun l' h' => h l' (List.mem_cons_of_mem _ h')) s hs) fun r s' h' => ?_)
    cases r with
    | error e => exact h'
    | ok ls => exact h'
  | inclusion l rest path hl ih =>
    rw [expand_cons_inclusion hl]
    exact seq s (h l (List.mem_cons_self ..) path hl s hs)
      (ih fun l' h' => h l' (List.mem_cons_of_mem _ h'))
  | safari l rest closes hl ih =>
    rw [expand_cons_safari hl]
    exact ih (fun l' h' => h l' (List.mem_cons_of_mem _ ((dropSafariBlock_suffix rest).subset h'))) s hs
  | block l rest condition b hl hb ihChosen ihRest =>
    have hsub := (Block.sublist_of_read? hb (Condition.holds condition platform)).subset
    rw [expand_cons_opening hl hb]
    exact seq s
      (ihChosen (fun l' h' => h l' (List.mem_cons_of_mem _ (hsub (List.mem_append_left _ h')))) s hs)
      (ihRest fun l' h' => h l' (List.mem_cons_of_mem _ (hsub (List.mem_append_right _ h'))))
  | unterminated l rest condition hl hb => rw [expand_cons_unterminated hl hb]; exact hs
  | unmatched l rest hl => rw [expand_cons_unmatched hl]; exact hs

/-- Expansions by inclusions that one erases to the other are related in the same way. -/
theorem expand_erases {τ : Type} {π : τ → σ}
    {inclusion' : SourceLine → Text → Attempt DownloadError τ (List SourceLine)}
    (h : ∀ l path, Erases π (inclusion' l path) (inclusion l path)) (lines : List SourceLine) :
    Erases π (expand platform inclusion' lines) (expand platform inclusion lines) := by
  induction lines using expand_induction platform with
  | nil => rw [expand_nil, expand_nil]; exact .pure _
  | content l rest hl ih =>
    rw [expand_cons_content hl, expand_cons_content hl]
    exact ih.bind fun _ => .pure _
  | inclusion l rest path hl ih =>
    rw [expand_cons_inclusion hl, expand_cons_inclusion hl]
    exact (h l path).bind fun _ => ih.bind fun _ => .pure _
  | safari l rest closes hl ih =>
    rw [expand_cons_safari hl, expand_cons_safari hl]
    exact ih
  | block l rest condition b hl hb ihChosen ihRest =>
    rw [expand_cons_opening hl hb, expand_cons_opening hl hb]
    exact ihChosen.bind fun _ => ihRest.bind fun _ => .pure _
  | unterminated l rest condition hl hb =>
    rw [expand_cons_unterminated hl hb, expand_cons_unterminated hl hb]
    exact .throw _
  | unmatched l rest hl =>
    rw [expand_cons_unmatched hl, expand_cons_unmatched hl]
    exact .throw _

end

end Blocklist
