import Blocklist.Cascade
import Blocklist.Proofs.Picks

/-!
# What a cascade keeps

A cascade runs from the last line up and carries one bit. Seen from above, the bit says whether the next line
below that is not attached is removed (`carry_sweep_iff`), and so a line stays if it is kept, or if it is attached
and no removed line is next (`picks_kept`). Hence a list without removed lines stays as it is (`kept_eq_self`), and a
cascade leaves out nothing that matters to a second one which removes at least the same lines
(`kept_sweep_kept`).
-/

namespace Blocklist.Cascade
open Transform (Picks)

variable {α : Type} {mark stricter : α → Mark} {a b : α} {lines : List α} {i : Nat}

theorem kept_cons_attached (a : α) (c : Cascade α) :
    (cons a .attached c).kept = if c.carry then c.kept else a :: c.kept := by
  rw [cons]
  split
  · rfl
  · rfl

theorem carry_cons_attached (a : α) (c : Cascade α) : (cons a .attached c).carry = c.carry := by
  rw [cons]
  split
  · rfl
  · rfl

/-- The line below, if there is one, to which attached lines are attached: the first of `lines` that is not
attached itself. -/
def anchor? (mark : α → Mark) (lines : List α) : Option α := lines.find? (mark · ≠ .attached)

theorem anchor?_cons_of_attached (h : mark a = .attached) : anchor? mark (a :: lines) = anchor? mark lines := by
  rw [anchor?, List.find?_cons_of_neg (by simp [h]), anchor?]

theorem anchor?_cons_of_ne (h : mark a ≠ .attached) : anchor? mark (a :: lines) = some a := by
  rw [anchor?, List.find?_cons_of_pos (by simpa using h)]

/-- The line to which attached lines at a place are attached, with its own place. -/
theorem anchor?_drop_eq_some_iff :
    anchor? mark (lines.drop (i + 1)) = some b ↔ ∃ j, i < j ∧ lines[j]? = some b ∧ mark b ≠ .attached ∧
      ∀ k a, i < k → k < j → lines[k]? = some a → mark a = .attached := by
  simp only [anchor?, List.find?_eq_some_iff_getElem, List.getElem_drop, Bool.not_eq_true', decide_eq_true_eq,
    decide_eq_false_iff_not, Decidable.not_not]
  constructor
  · rintro ⟨hb, n, hn, rfl, hbefore⟩
    refine ⟨i + 1 + n, by omega, List.getElem?_eq_getElem _, hb, fun k a hik hk hget => ?_⟩
    obtain ⟨m, rfl⟩ := Nat.exists_eq_add_of_le (Nat.succ_le_of_lt hik)
    obtain ⟨-, rfl⟩ := List.getElem?_eq_some_iff.1 hget
    exact hbefore m (by omega)
  · rintro ⟨j, hij, hget, hb, hbefore⟩
    obtain ⟨n, rfl⟩ := Nat.exists_eq_add_of_le (Nat.succ_le_of_lt hij)
    obtain ⟨hlt, rfl⟩ := List.getElem?_eq_some_iff.1 hget
    refine ⟨hb, n, by rw [List.length_drop]; omega, rfl, fun m hm => ?_⟩
    exact hbefore (i + 1 + m) _ (by omega) (by omega) (List.getElem?_eq_getElem _)
/-- The next attached line above is lost exactly if the first line here that is not attached is removed. -/
theorem carry_sweep_iff : (sweep mark lines).carry ↔ ∃ b ∈ anchor? mark lines, mark b = .removed := by
  induction lines with
  | nil => simp [anchor?, empty]
  | cons a lines ih =>
    rw [sweep_cons]
    cases ha : mark a with
    | removed => simp [cons, anchor?_cons_of_ne, ha]
    | kept => simp [cons, anchor?_cons_of_ne, ha]
    | attached => rw [carry_cons_attached, ih, anchor?_cons_of_attached ha]

/-! ### The lines that stay -/

/-- The line at this place stays: it is kept, or it is attached, and the line it is attached to, if there is one, is
not removed. -/
inductive Stays (mark : α → Mark) (lines : List α) (i : Nat) : Prop
  | kept {a : α} (get : lines[i]? = some a) (kept : mark a = .kept)
  | attached {a : α} (get : lines[i]? = some a) (attached : mark a = .attached)
      (next : ∀ b ∈ anchor? mark (lines.drop (i + 1)), mark b ≠ .removed)

theorem stays_succ_iff : Stays mark (a :: lines) (i + 1) ↔ Stays mark lines i := by
  constructor
  · rintro (⟨get, kept⟩ | ⟨get, attached, next⟩)
    · exact .kept get kept
    · exact .attached get attached next
  · rintro (⟨get, kept⟩ | ⟨get, attached, next⟩)
    · exact .kept get kept
    · exact .attached get attached next

theorem stays_zero_iff_of_attached (h : mark a = .attached) :
    Stays mark (a :: lines) 0 ↔ (sweep mark lines).carry = false := by
  rw [← Bool.not_eq_true, carry_sweep_iff]
  constructor
  · rintro (⟨get, kept⟩ | ⟨-, -, next⟩) ⟨b, hb, hremoved⟩
    · obtain rfl := Option.some.inj get
      rw [h] at kept
      cases kept
    · exact next b hb hremoved
  · exact fun hnone => .attached rfl h fun b hb hremoved => hnone ⟨b, hb, hremoved⟩

theorem not_stays_zero_of_removed (h : mark a = .removed) : ¬ Stays mark (a :: lines) 0 := by
  rintro (⟨get, hmark⟩ | ⟨get, hmark, -⟩)
  all_goals
    obtain rfl := Option.some.inj get
    rw [h] at hmark
    cases hmark

theorem picks_kept (mark : α → Mark) (lines : List α) : Picks (Stays mark lines) lines (sweep mark lines).kept := by
  induction lines with
  | nil => exact .nil fun i => by rintro (⟨get, -⟩ | ⟨get, -⟩) <;> cases get
  | cons a lines ih =>
    have hlater := ih.congr fun i => (stays_succ_iff (a := a)).symm
    rw [sweep_cons]
    cases ha : mark a with
    | removed => exact hlater.cons_of_neg (not_stays_zero_of_removed ha)
    | kept => exact hlater.cons_of_pos (.kept rfl ha)
    | attached =>
      rw [kept_cons_attached]
      split
      · rename_i hcarry
        exact hlater.cons_of_neg fun h => by simp [(stays_zero_iff_of_attached ha).1 h] at hcarry
      · rename_i hcarry
        exact hlater.cons_of_pos ((stays_zero_iff_of_attached ha).2 (Bool.eq_false_iff.2 hcarry))

theorem mem_of_mem_kept (h : a ∈ (sweep mark lines).kept) : a ∈ lines ∧ mark a ≠ .removed := by
  obtain ⟨places, -, hplaces, hkept⟩ := picks_kept mark lines
  rw [hkept, List.mem_filterMap] at h
  obtain ⟨i, hi, hget⟩ := h
  refine ⟨List.mem_of_getElem? hget, ?_⟩
  rcases (hplaces i).1 hi with ⟨hget', hmark⟩ | ⟨hget', hmark, -⟩
  all_goals
    obtain rfl := Option.some.inj (hget.symm.trans hget')
    rw [hmark]
    decide

theorem filter_kept (mark : α → Mark) (lines : List α) :
    (sweep mark lines).kept.filter (mark · = .kept) = lines.filter (mark · = .kept) := by
  induction lines with
  | nil => rfl
  | cons a lines ih =>
    rw [sweep_cons]
    cases ha : mark a with
    | removed =>
      rw [List.filter_cons_of_neg (by simp [ha])]
      exact ih
    | kept =>
      rw [List.filter_cons_of_pos (by simp [ha]), ← ih, cons]
      exact List.filter_cons_of_pos (by simp [ha])
    | attached =>
      rw [List.filter_cons_of_neg (by simp [ha]), ← ih, cons]
      split
      · rfl
      · exact List.filter_cons_of_neg (by simp [ha])

theorem removed_sweep (mark : α → Mark) (lines : List α) :
    (sweep mark lines).removed = lines.countP (mark · = .removed) := by
  induction lines with
  | nil => rfl
  | cons a lines ih =>
    rw [sweep_cons, List.countP_cons, ← ih]
    cases mark a with
    | removed => rfl
    | kept => rfl
    | attached =>
      rw [cons]
      split
      · rfl
      · rfl

/-! ### One cascade after another -/

/-- Without removed lines nothing is lost. -/
theorem kept_eq_self (h : ∀ a ∈ lines, mark a ≠ .removed) : (sweep mark lines).kept = lines := by
  induction lines with
  | nil => rfl
  | cons a lines ih =>
    obtain ⟨ha, hlines⟩ := List.forall_mem_cons.1 h
    have hcarry : ¬ (sweep mark lines).carry := by
      rw [carry_sweep_iff]
      rintro ⟨b, hb, hremoved⟩
      exact hlines b (List.mem_of_find?_eq_some hb) hremoved
    rw [sweep_cons]
    cases hmark : mark a with
    | removed => exact absurd hmark ha
    | kept => rw [cons, ih hlines]
    | attached => rw [kept_cons_attached, if_neg hcarry, ih hlines]

/-- After a cascade, a second one that removes at least the same lines keeps what it keeps of the whole list. -/
theorem kept_sweep_kept (hattached : ∀ a, mark a = .attached ↔ stricter a = .attached)
    (hremoved : ∀ a, mark a = .removed → stricter a = .removed) (lines : List α) :
    (sweep stricter (sweep mark lines).kept).kept = (sweep stricter lines).kept := by
  -- What the first cascade would lose next, the stricter one would lose as well; otherwise the two agree on it.
  suffices h : (sweep stricter (sweep mark lines).kept).kept = (sweep stricter lines).kept ∧
      ((sweep mark lines).carry → (sweep stricter lines).carry) ∧
      ((sweep mark lines).carry = false →
        (sweep stricter (sweep mark lines).kept).carry = (sweep stricter lines).carry) from h.1
  induction lines with
  | nil => exact ⟨rfl, id, fun _ => rfl⟩
  | cons a lines ih =>
    obtain ⟨hkept, hlost, hagree⟩ := ih
    rw [sweep_cons, sweep_cons]
    cases ha : mark a with
    | removed =>
      rw [hremoved a ha]
      exact ⟨hkept, fun _ => rfl, fun h => absurd h.symm Bool.false_ne_true⟩
    | kept =>
      rw [cons, sweep_cons]
      cases hs : stricter a with
      | removed => exact ⟨hkept, fun h => absurd h Bool.false_ne_true, fun _ => rfl⟩
      | kept => exact ⟨congrArg (a :: ·) hkept, fun h => absurd h Bool.false_ne_true, fun _ => rfl⟩
      | attached =>
        rw [(hattached a).2 hs] at ha
        cases ha
    | attached =>
      rw [(hattached a).1 ha, carry_cons_attached, carry_cons_attached, kept_cons_attached, kept_cons_attached]
      cases hcarry : (sweep mark lines).carry with
      | true =>
        rw [if_pos rfl, if_pos (hlost hcarry)]
        exact ⟨hkept, fun _ => hlost hcarry, fun h => absurd h.symm Bool.false_ne_true⟩
      | false =>
        rw [if_neg Bool.false_ne_true, sweep_cons, (hattached a).1 ha, kept_cons_attached, carry_cons_attached,
          hagree hcarry, hkept]
        exact ⟨rfl, fun h => absurd h Bool.false_ne_true, fun _ => rfl⟩

end Blocklist.Cascade
