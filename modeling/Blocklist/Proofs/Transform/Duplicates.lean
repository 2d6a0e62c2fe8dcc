import Blocklist.Proofs.Cascade
import Blocklist.Proofs.Rule.Kind
import Blocklist.Transform.Duplicates
import Mathlib.Data.List.Nodup

/-!
# Lists without repeated rules

Deduplication is a cascade over marked lines, and the mark of a line is known from what stands above it
(`getElem?_markRepeated`). `deduplicate_picks`: it keeps the first of equal rules, and the comments and blank lines
with no repeated rule next below them. What is left are rules that are all different (`rulesOf_deduplicate`), and
such a list stays as it is.
-/

namespace Blocklist

theorem nodup_eraseDups {α : Type} [BEq α] [LawfulBEq α] (xs : List α) : xs.eraseDups.Nodup := by
  match xs with
  | [] => simp
  | x :: xs =>
    rw [List.eraseDups_cons, List.nodup_cons]
    constructor
    · intro hx
      have hx := (List.mem_filter.1 (List.mem_eraseDups.1 hx)).2
      simp at hx
    · exact nodup_eraseDups (xs.filter fun y => !y == x)
termination_by xs.length
decreasing_by exact Nat.lt_succ_of_le (List.length_filter_le ..)

namespace Transform

variable {l : Text} {lines seen : List Text} {i j : Nat}

/-! ### Marks -/

theorem markRepeated_cons (seen : List Text) (l : Text) (rest : List Text) :
    markRepeated seen (l :: rest) =
      if isCommentOrBlank l then (l, .attached) :: markRepeated seen rest
      else if l ∈ seen then (l, .removed) :: markRepeated seen rest
      else (l, .kept) :: markRepeated (l :: seen) rest := rfl

theorem map_fst_markRepeated (seen lines : List Text) : (markRepeated seen lines).map Prod.fst = lines := by
  induction lines generalizing seen with
  | nil => rfl
  | cons l lines ih =>
    rw [markRepeated_cons]
    split
    · rw [List.map_cons, ih]
    split
    · rw [List.map_cons, ih]
    · rw [List.map_cons, ih]

/-- A line that is not attached is removed if it stands above, in the list or in what was seen before. -/
theorem getElem?_markRepeated (seen lines : List Text) (i : Nat) :
    (markRepeated seen lines)[i]? = lines[i]?.map fun l =>
      (l, if isCommentOrBlank l then .attached else if l ∈ seen ∨ l ∈ lines.take i then .removed else .kept) := by
  induction lines generalizing seen i with
  | nil => rfl
  | cons l lines ih =>
    rw [markRepeated_cons]
    cases i with
    | zero =>
      split
      · rename_i hl
        simp [hl]
      split
      · rename_i hl hseen
        simp [hl, hseen]
      · rename_i hl hseen
        simp [hl, hseen]
    | succ i =>
      rw [List.getElem?_cons_succ, List.take_succ_cons]
      split
      · rename_i hl
        rw [List.getElem?_cons_succ, ih]
        refine Option.map_congr fun k _ => ?_
        by_cases hk : k = l <;> simp [hk, hl]
      split
      · rename_i hseen
        rw [List.getElem?_cons_succ, ih]
        refine Option.map_congr fun k _ => ?_
        by_cases hk : k = l <;> simp [hk, hseen]
      · rw [List.getElem?_cons_succ, ih]
        simp only [List.mem_cons, or_assoc, or_left_comm]

/-! ### What stays of the rules -/

theorem attached_iff_of_mem_markRepeated {seen : List Text} {p : Text × Mark} (hp : p ∈ markRepeated seen lines) :
    p.2 = .attached ↔ isCommentOrBlank p.1 := by
  induction lines generalizing seen with
  | nil => cases hp
  | cons l lines ih =>
    rw [markRepeated_cons] at hp
    split at hp
    · rename_i hl
      rcases List.mem_cons.1 hp with rfl | hp
      · simp [hl]
      · exact ih hp
    rename_i hl
    split at hp
    · rcases List.mem_cons.1 hp with rfl | hp
      · simp [hl]
      · exact ih hp
    · rcases List.mem_cons.1 hp with rfl | hp
      · simp [hl]
      · exact ih hp

/-- The rules that are marked as kept: each once, but for those seen further up. -/
theorem map_fst_filter_markRepeated (seen lines : List Text) :
    ((markRepeated seen lines).filter (·.2 = .kept)).map Prod.fst =
      ((rulesOf lines).filter (· ∉ seen)).eraseDups := by
  induction lines generalizing seen with
  | nil => rfl
  | cons l lines ih =>
    rw [markRepeated_cons]
    split
    · rename_i hl
      rw [List.filter_cons_of_neg (by simp), rulesOf_cons_of_comment hl, ih]
    rename_i hl
    rw [rulesOf_cons_of_rule (Bool.eq_false_iff.2 hl)]
    split
    · rename_i hseen
      rw [List.filter_cons_of_neg (by simp), List.filter_cons_of_neg (by simp [hseen]), ih]
    · rename_i hseen
      rw [List.filter_cons_of_pos (by simp), List.filter_cons_of_pos (by simp [hseen]), List.map_cons, ih,
        List.eraseDups_cons, List.filter_filter]
      refine congrArg (l :: List.eraseDups ·) (List.filter_congr fun k _ => ?_)
      by_cases hk : k = l <;> simp [hk]

/-- Deduplication keeps the first of equal rules. -/
theorem rulesOf_deduplicate (lines : List Text) : rulesOf (deduplicate lines) = (rulesOf lines).eraseDups := by
  have hrule : ∀ p ∈ (Cascade.sweep Prod.snd (markRepeated [] lines)).kept,
      (!isCommentOrBlank p.1) = decide (p.2 = .kept) := by
    intro p hp
    obtain ⟨hmem, hremoved⟩ := Cascade.mem_of_mem_kept hp
    have hattached := attached_iff_of_mem_markRepeated hmem
    cases hmark : p.2 <;> simp_all
  have hall : (rulesOf lines).filter (· ∉ []) = rulesOf lines := by simp
  rw [deduplicate, rulesOf, List.filter_map]
  rw [show List.filter ((!isCommentOrBlank ·) ∘ Prod.fst) _ = _ from List.filter_congr hrule,
    Cascade.filter_kept, map_fst_filter_markRepeated, hall]

/-- The rules that are left are all different. -/
theorem nodup_rulesOf_deduplicate (lines : List Text) : (rulesOf (deduplicate lines)).Nodup := by
  rw [rulesOf_deduplicate]
  exact nodup_eraseDups _

theorem mem_of_mem_deduplicate (hl : l ∈ deduplicate lines) : l ∈ lines := by
  obtain ⟨p, hp, rfl⟩ := List.mem_map.1 hl
  rw [← map_fst_markRepeated [] lines]
  exact List.mem_map_of_mem (Cascade.mem_of_mem_kept hp).1

/-! ### The lines that stay -/

/-- The line at this place is a rule that does not stand above. -/
def IsFirstRule (lines : List Text) (i : Nat) : Prop :=
  ∃ l, lines[i]? = some l ∧ isCommentOrBlank l = false ∧ l ∉ lines.take i

/-- The line at the place `j` is a rule, and between it and the place `i` above it are comments and blank lines
only. -/
structure IsNextRule (lines : List Text) (i j : Nat) : Prop where
  below : i < j
  rule : ∃ l, lines[j]? = some l ∧ isCommentOrBlank l = false
  between : ∀ k l, i < k → k < j → lines[k]? = some l → isCommentOrBlank l

/-- The line at this place stays: it is a rule that does not stand above, or it is a comment or blank and the next
rule below it, if there is one, does not stand further up. -/
inductive Unrepeated (lines : List Text) (i : Nat) : Prop
  | rule (first : IsFirstRule lines i)
  | remark {l : Text} (get : lines[i]? = some l) (remark : isCommentOrBlank l)
      (next : ∀ j, IsNextRule lines i j → IsFirstRule lines j)

/-- What the line `l` at this place is to the cascade. -/
def markAt (lines : List Text) (i : Nat) (l : Text) : Mark :=
  if isCommentOrBlank l then .attached else if (lines.take i).elem l then .removed else .kept

theorem markAt_eq : markAt lines i l =
    if isCommentOrBlank l then .attached else if l ∈ lines.take i then .removed else .kept := by
  simp only [markAt, List.elem_eq_mem, decide_eq_true_eq]

theorem markAt_eq_attached_iff : markAt lines i l = .attached ↔ isCommentOrBlank l := by
  rw [markAt_eq]
  cases isCommentOrBlank l <;> by_cases hmem : l ∈ lines.take i <;> simp [hmem]

theorem markAt_eq_kept_iff : markAt lines i l = .kept ↔ isCommentOrBlank l = false ∧ l ∉ lines.take i := by
  rw [markAt_eq]
  cases isCommentOrBlank l <;> by_cases hmem : l ∈ lines.take i <;> simp [hmem]

theorem getElem?_marked_iff {p : Text × Mark} :
    (markRepeated [] lines)[i]? = some p ↔ lines[i]? = some p.1 ∧ markAt lines i p.1 = p.2 := by
  rw [getElem?_markRepeated, Option.map_eq_some_iff]
  simp only [List.not_mem_nil, false_or, ← markAt_eq]
  constructor
  · rintro ⟨l, hl, rfl⟩
    exact ⟨hl, rfl⟩
  · rintro ⟨hl, hmark⟩
    exact ⟨p.1, hl, Prod.ext rfl hmark⟩

/-- Comments and blank lines are attached to the next rule. -/
theorem anchor?_marked_iff :
    (∀ p ∈ Cascade.anchor? Prod.snd ((markRepeated [] lines).drop (i + 1)), p.2 ≠ .removed) ↔
      ∀ j, IsNextRule lines i j → IsFirstRule lines j := by
  simp only [Option.mem_def, Cascade.anchor?_drop_eq_some_iff]
  constructor
  · rintro h j ⟨hij, ⟨l, hl, hrule⟩, hbetween⟩
    have hattached : markAt lines j l ≠ .attached := by
      rw [Ne, markAt_eq_attached_iff, hrule]
      exact Bool.false_ne_true
    have hremoved : markAt lines j l ≠ .removed := by
      refine h (l, markAt lines j l) ⟨j, hij, getElem?_marked_iff.2 ⟨hl, rfl⟩, hattached, fun k p hik hkj hp => ?_⟩
      obtain ⟨hk, hmark⟩ := getElem?_marked_iff.1 hp
      rw [← hmark]
      exact markAt_eq_attached_iff.2 (hbetween k p.1 hik hkj hk)
    have hkept : markAt lines j l = .kept := by
      cases hmark : markAt lines j l with
      | attached => exact absurd hmark hattached
      | removed => exact absurd hmark hremoved
      | kept => rfl
    exact ⟨l, hl, markAt_eq_kept_iff.1 hkept⟩
  · rintro h p ⟨j, hij, hp, hattached, hbetween⟩
    obtain ⟨hl, hmark⟩ := getElem?_marked_iff.1 hp
    have hrule : isCommentOrBlank p.1 = false := by
      rw [← hmark, Ne, markAt_eq_attached_iff] at hattached
      exact Bool.eq_false_iff.2 hattached
    obtain ⟨k, hk, hfirst⟩ := h j ⟨hij, ⟨p.1, hl, hrule⟩, fun k l hik hkj hk =>
      markAt_eq_attached_iff.1 (hbetween k (l, markAt lines k l) hik hkj (getElem?_marked_iff.2 ⟨hk, rfl⟩))⟩
    obtain rfl := Option.some.inj (hl.symm.trans hk)
    rw [← hmark, markAt_eq_kept_iff.2 hfirst]
    decide

theorem stays_marked_iff : Cascade.Stays Prod.snd (markRepeated [] lines) i ↔ Unrepeated lines i := by
  constructor
  · rintro (⟨get, kept⟩ | ⟨get, attached, next⟩)
    · obtain ⟨hl, hmark⟩ := getElem?_marked_iff.1 get
      exact .rule ⟨_, hl, markAt_eq_kept_iff.1 (hmark.trans kept)⟩
    · obtain ⟨hl, hmark⟩ := getElem?_marked_iff.1 get
      exact .remark hl (markAt_eq_attached_iff.1 (hmark.trans attached)) (anchor?_marked_iff.1 next)
  · rintro (⟨l, hl, hfirst⟩ | @⟨l, hl, hcomment, next⟩)
    · exact .kept (a := (l, .kept)) (getElem?_marked_iff.2 ⟨hl, markAt_eq_kept_iff.2 hfirst⟩) rfl
    · exact .attached (a := (l, .attached)) (getElem?_marked_iff.2 ⟨hl, markAt_eq_attached_iff.2 hcomment⟩) rfl
        (anchor?_marked_iff.2 next)

/-! ### Repeating it -/

theorem not_removed_of_mem_markRepeated (hnodup : (rulesOf lines).Nodup) (hseen : ∀ l ∈ rulesOf lines, l ∉ seen) :
    ∀ p ∈ markRepeated seen lines, p.2 ≠ .removed := by
  induction lines generalizing seen with
  | nil => exact fun p hp => by cases hp
  | cons l lines ih =>
    rw [markRepeated_cons]
    cases hl : isCommentOrBlank l with
    | true =>
      rw [rulesOf_cons_of_comment hl] at hnodup hseen
      rw [if_pos rfl, List.forall_mem_cons]
      exact ⟨by simp, ih hnodup hseen⟩
    | false =>
      rw [rulesOf_cons_of_rule hl] at hnodup hseen
      obtain ⟨hnew, hnodup⟩ := List.nodup_cons.1 hnodup
      obtain ⟨hl, hseen⟩ := List.forall_mem_cons.1 hseen
      rw [if_neg Bool.false_ne_true, if_neg hl, List.forall_mem_cons]
      refine ⟨by simp, ih hnodup fun k hk => ?_⟩
      rw [List.mem_cons, not_or]
      exact ⟨fun heq => hnew (heq ▸ hk), hseen k hk⟩

/-- A list of rules that are all different, with comments and blank lines between them, stays as it is. -/
theorem deduplicate_eq_self (hnodup : (rulesOf lines).Nodup) : deduplicate lines = lines := by
  rw [deduplicate, Cascade.kept_eq_self (not_removed_of_mem_markRepeated hnodup (by simp)), map_fst_markRepeated]

/-- Deduplication keeps, in their order, the rules that do not stand above and those comments and blank lines whose
next rule below does not stand further up or that have none below them. It leaves its own result as it is. -/
theorem deduplicate_picks (lines : List Text) :
    Picks (Unrepeated lines) lines (deduplicate lines) ∧ deduplicate (deduplicate lines) = deduplicate lines := by
  refine ⟨?_, deduplicate_eq_self (nodup_rulesOf_deduplicate lines)⟩
  have hpicks := ((Cascade.picks_kept Prod.snd (markRepeated [] lines)).congr fun _ => stays_marked_iff).map Prod.fst
  rwa [map_fst_markRepeated] at hpicks

-- A comment goes with the next rule, be it that blank lines stand between them.
example : deduplicate ["! a".toList, "||x.com^".toList, "! b".toList, [], "||x.com^".toList, "! c".toList] =
    ["! a".toList, "||x.com^".toList, "! c".toList] := by decide

end Transform
end Blocklist
