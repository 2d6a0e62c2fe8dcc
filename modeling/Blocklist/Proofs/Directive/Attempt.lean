import Blocklist.Directive.Expansion
import Blocklist.Proofs.Result

/-!
# Runs of attempts

`run_bind` and its companions run an attempt step by step. `wp x Q s`: run from `s`, the attempt `x`
ends with a result and a state that satisfy `Q`; it always ends, and an error is a result as well.
`Erases π x y`: the attempt `y` is `x` without the part of the state that `π` forgets. `Ends I P x`: the attempt
`x` keeps `I`, and ends with no error but those with `P`.
-/

namespace Blocklist

namespace Attempt

variable {ε σ α β : Type} {s : σ}

theorem run_pure (a : α) (s : σ) : (pure a : Attempt ε σ α).run s = (.ok a, s) := rfl

theorem run_bind (x : Attempt ε σ α) (f : α → Attempt ε σ β) (s : σ) :
    (x >>= f).run s =
      match x.run s with
      | (.ok a, s') => (f a).run s'
      | (.error e, s') => (.error e, s') := by
  change (match x s with | (r, s') => ExceptT.bindCont f r s') = _
  rcases h : x.run s with ⟨_ | a, s'⟩
  all_goals
    change x s = _ at h
    rw [h]
    rfl

/-- What an attempt that ends well has gone through. -/
theorem exists_of_run_bind {x : Attempt ε σ α} {f : α → Attempt ε σ β} {b : β} (h : ((x >>= f).run s).1 = .ok b) :
    ∃ a, (x.run s).1 = .ok a ∧ ((f a).run (x.run s).2).1 = .ok b := by
  rw [run_bind] at h
  rcases hx : x.run s with ⟨_ | a, s'⟩
  all_goals rw [hx] at h
  · cases h
  · exact ⟨a, rfl, h⟩

theorem exists_of_run_mapM {f : α → Attempt ε σ β} {xs : List α} {ys : List β} {y : β}
    (h : ((xs.mapM f).run s).1 = .ok ys) (hy : y ∈ ys) : ∃ x ∈ xs, ∃ s', ((f x).run s').1 = .ok y := by
  induction xs generalizing s ys with
  | nil =>
    rw [List.mapM_nil, run_pure] at h
    obtain rfl := Except.ok.inj h
    cases hy
  | cons x xs ih =>
    rw [List.mapM_cons] at h
    obtain ⟨z, hz, h⟩ := exists_of_run_bind h
    obtain ⟨zs, hzs, h⟩ := exists_of_run_bind h
    rw [run_pure] at h
    obtain rfl := Except.ok.inj h
    rcases List.mem_cons.1 hy with rfl | hy
    · exact ⟨x, List.mem_cons_self .., s, hz⟩
    · obtain ⟨x', hx', hrun⟩ := ih hzs hy
      exact ⟨x', List.mem_cons_of_mem x hx', hrun⟩

/-- Where each result tells what it is the result of, the results tell the elements in their order. -/
theorem map_of_run_mapM {f : α → Attempt ε σ β} {g : β → α} {xs : List α} {ys : List β}
    (hg : ∀ x s y, ((f x).run s).1 = .ok y → g y = x) (h : ((xs.mapM f).run s).1 = .ok ys) : ys.map g = xs := by
  induction xs generalizing s ys with
  | nil =>
    rw [List.mapM_nil, run_pure] at h
    obtain rfl := Except.ok.inj h
    rfl
  | cons x xs ih =>
    rw [List.mapM_cons] at h
    obtain ⟨y, hy, h⟩ := exists_of_run_bind h
    obtain ⟨ys', hys, h⟩ := exists_of_run_bind h
    rw [run_pure] at h
    obtain rfl := Except.ok.inj h
    rw [List.map_cons, hg x s y hy, ih hys]

theorem run_tryCatch (x : Attempt ε σ α) (handle : ε → Attempt ε σ α) (s : σ) :
    (tryCatch x handle).run s =
      match x.run s with
      | (.ok a, s') => (.ok a, s')
      | (.error e, s') => (handle e).run s' := by
  change (match x s with
    | (r, s') => (match r with | .ok a => pure (.ok a) | .error e => handle e : StateM σ (Except ε α)) s') = _
  rcases h : x.run s with ⟨_ | a, s'⟩
  all_goals
    change x s = _ at h
    rw [h]
    rfl

/-- Run from `s`, the attempt ends as `Q` says. -/
def wp (x : Attempt ε σ α) (Q : Except ε α → σ → Prop) (s : σ) : Prop := Q (x.run s).1 (x.run s).2

section
variable {Q : Except ε α → σ → Prop}

theorem wp_of_run {x : Attempt ε σ α} {r : Except ε α} {s' : σ} (h : x.run s = (r, s')) (hQ : Q r s') :
    wp x Q s := by
  rw [wp, h]; exact hQ

theorem wp_of_run_eq {x y : Attempt ε σ α} {s' : σ} (h : x.run s = y.run s') (hy : wp y Q s') : wp x Q s := by
  rw [wp, h]; exact hy

theorem wp_mono {x : Attempt ε σ α} {Q' : Except ε α → σ → Prop} (h : wp x Q s)
    (hQ : ∀ r s', Q r s' → Q' r s') : wp x Q' s :=
  hQ _ _ h

theorem wp_and {x : Attempt ε σ α} {R : Except ε α → σ → Prop} (hQ : wp x Q s) (hR : wp x R s) :
    wp x (fun r s' => Q r s' ∧ R r s') s :=
  ⟨hQ, hR⟩

theorem wp_bind {x : Attempt ε σ β} {f : β → Attempt ε σ α}
    (h : wp x (fun | .ok b, s' => wp (f b) Q s' | .error e, s' => Q (.error e) s') s) :
    wp (x >>= f) Q s := by
  rw [wp, run_bind]
  rw [wp] at h
  rcases hx : x.run s with ⟨_ | b, s'⟩
  all_goals rw [hx] at h; exact h

theorem wp_tryCatch {x : Attempt ε σ α} {handle : ε → Attempt ε σ α}
    (h : wp x (fun | .ok a, s' => Q (.ok a) s' | .error e, s' => wp (handle e) Q s') s) :
    wp (tryCatch x handle) Q s := by
  rw [wp, run_tryCatch]
  rw [wp] at h
  rcases hx : x.run s with ⟨_ | a, s'⟩
  all_goals rw [hx] at h; exact h

end

/-! ### Erasure -/

variable {τ : Type} {π : τ → σ}

/-- Seen through `π`, the attempt `x` is the attempt `y`: `π` forgets what only `x` keeps. -/
def Erases (π : τ → σ) (x : Attempt ε τ α) (y : Attempt ε σ α) : Prop :=
  ∀ t, y.run (π t) = ((x.run t).1, π (x.run t).2)

namespace Erases

theorem pure (a : α) : Erases π (pure a : Attempt ε τ α) (pure a) := fun _ => rfl

theorem throw (e : ε) : Erases π (throw e : Attempt ε τ α) (throw e) := fun _ => rfl

theorem bind {x : Attempt ε τ α} {y : Attempt ε σ α} {f : α → Attempt ε τ β} {g : α → Attempt ε σ β}
    (h : Erases π x y) (hf : ∀ a, Erases π (f a) (g a)) : Erases π (x >>= f) (y >>= g) := by
  intro t
  rw [run_bind, run_bind, h t]
  rcases x.run t with ⟨e | a, t'⟩
  · rfl
  · exact hf a t'

theorem tryCatch {x : Attempt ε τ α} {y : Attempt ε σ α} {f : ε → Attempt ε τ α} {g : ε → Attempt ε σ α}
    (h : Erases π x y) (hf : ∀ e, Erases π (f e) (g e)) :
    Erases π (tryCatch x f) (tryCatch y g) := by
  intro t
  rw [run_tryCatch, run_tryCatch, h t]
  rcases x.run t with ⟨e | a, t'⟩
  · exact hf e t'
  · rfl

theorem mapM {f : α → Attempt ε τ β} {g : α → Attempt ε σ β} (h : ∀ x, Erases π (f x) (g x))
    (xs : List α) : Erases π (xs.mapM f) (xs.mapM g) := by
  induction xs with
  | nil =>
    rw [List.mapM_nil, List.mapM_nil]
    exact .pure _
  | cons x xs ih =>
    rw [List.mapM_cons, List.mapM_cons]
    exact (h x).bind fun _ => ih.bind fun _ => .pure _

end Erases

/-! ### Errors -/

/-- The attempt keeps `I`, and `P` holds of an error that it ends with and of the state it leaves. -/
def Ends (I : σ → Prop) (P : ε → σ → Prop) (x : Attempt ε σ α) : Prop :=
  ∀ s, I s → wp x (fun r s' => I s' ∧ ∀ e, r = .error e → P e s') s

namespace Ends

variable {I : σ → Prop} {P : ε → σ → Prop}

theorem pure (a : α) : Ends I P (pure a : Attempt ε σ α) := fun _ hs => ⟨hs, fun _ he => by cases he⟩

theorem throw {e : ε} (h : ∀ s, P e s) : Ends I P (throw e : Attempt ε σ α) := by
  intro s hs
  refine ⟨hs, fun e' he => ?_⟩
  obtain rfl := Except.error.inj he
  exact h s

theorem mono {P' : ε → σ → Prop} {x : Attempt ε σ α} (h : Ends I P x) (hP : ∀ e s, P e s → P' e s) :
    Ends I P' x :=
  fun s hs => wp_mono (h s hs) fun _ _ hr => ⟨hr.1, fun e he => hP e _ (hr.2 e he)⟩

/-- What follows has to keep `I` only from results that `x` may have. -/
theorem bind_of_run {x : Attempt ε σ α} {f : α → Attempt ε σ β} (h : Ends I P x)
    (hf : ∀ a, (∃ s, (x.run s).1 = .ok a) → Ends I P (f a)) : Ends I P (x >>= f) := by
  intro s hs
  have hx := h s hs
  refine wp_bind ?_
  rw [wp] at hx ⊢
  rcases hrun : x.run s with ⟨e | a, s'⟩
  all_goals rw [hrun] at hx
  · refine ⟨hx.1, fun e' he => ?_⟩
    obtain rfl := Except.error.inj he
    exact hx.2 _ rfl
  · exact hf a ⟨s, congrArg Prod.fst hrun⟩ s' hx.1

theorem bind {x : Attempt ε σ α} {f : α → Attempt ε σ β} (h : Ends I P x) (hf : ∀ a, Ends I P (f a)) :
    Ends I P (x >>= f) :=
  h.bind_of_run fun a _ => hf a

theorem mapM {f : α → Attempt ε σ β} {xs : List α} (h : ∀ x ∈ xs, Ends I P (f x)) : Ends I P (xs.mapM f) := by
  induction xs with
  | nil =>
    rw [List.mapM_nil]
    exact .pure _
  | cons x xs ih =>
    rw [List.mapM_cons]
    have hrest := ih fun y hy => h y (List.mem_cons_of_mem x hy)
    exact (h x (List.mem_cons_self ..)).bind fun _ => hrest.bind fun _ => .pure _

end Ends

end Attempt
end Blocklist
