/-!
# Results that may be errors

What a result is, told by the value or the error that it holds, and what the parts of a result were: of one
computation after another (`exists_of_bind_ok`, `of_bind_error`), and of the same computation for each element of a
list (`exists_of_mem_mapM`, `exists_of_mapM_ok`, `exists_of_mapM_error`).
-/

namespace Blocklist

variable {ε α β : Type} {x : Except ε α} {a : α} {b : β} {e : ε} {f : α → Except ε β}

theorem eq_ok_of_mem_toOption (h : a ∈ x.toOption) : x = .ok a := by
  cases x with
  | error e => cases h
  | ok b => exact congrArg Except.ok (Option.some.inj h)

/-- The error that a result is. -/
def errorOf? : Except ε α → Option ε
  | .error e => some e
  | .ok _ => none

theorem eq_error_of_mem_errorOf? (h : e ∈ errorOf? x) : x = .error e := by
  cases x with
  | error e' => exact congrArg Except.error (Option.some.inj h)
  | ok a => cases h

theorem of_map_error {g : α → β} (h : x.map g = .error e) : x = .error e := by
  cases x with
  | error e' => exact congrArg Except.error (Except.error.inj h)
  | ok a => cases h

theorem exists_of_map_ok {g : α → β} (h : x.map g = .ok b) : ∃ a, x = .ok a ∧ g a = b := by
  cases x with
  | error e => cases h
  | ok a => exact ⟨a, rfl, Except.ok.inj h⟩

theorem exists_of_bind_ok (h : x >>= f = .ok b) : ∃ a, x = .ok a ∧ f a = .ok b := by
  cases x with
  | error e => cases h
  | ok a => exact ⟨a, rfl, h⟩

theorem of_bind_error (h : x >>= f = .error e) : x = .error e ∨ ∃ a, x = .ok a ∧ f a = .error e := by
  cases x with
  | error e' => exact .inl (congrArg Except.error (Except.error.inj h))
  | ok a => exact .inr ⟨a, rfl, h⟩

section
variable {xs : List α} {ys : List β}

theorem exists_of_mem_mapM (h : xs.mapM f = .ok ys) (hb : b ∈ ys) : ∃ a ∈ xs, f a = .ok b := by
  induction xs generalizing ys with
  | nil =>
    rw [List.mapM_nil] at h
    obtain rfl := Except.ok.inj h
    cases hb
  | cons a xs ih =>
    rw [List.mapM_cons] at h
    obtain ⟨c, ha, h⟩ := exists_of_bind_ok h
    obtain ⟨ys', hxs, h⟩ := exists_of_bind_ok h
    obtain rfl := Except.ok.inj h
    rcases List.mem_cons.1 hb with rfl | hb
    · exact ⟨a, List.mem_cons_self .., ha⟩
    · obtain ⟨a', ha', hf⟩ := ih hxs hb
      exact ⟨a', List.mem_cons_of_mem a ha', hf⟩

theorem exists_of_mapM_ok (h : xs.mapM f = .ok ys) (ha : a ∈ xs) : ∃ b, f a = .ok b := by
  induction xs generalizing ys with
  | nil => cases ha
  | cons c xs ih =>
    rw [List.mapM_cons] at h
    obtain ⟨b, hb, h⟩ := exists_of_bind_ok h
    obtain ⟨ys', hxs, -⟩ := exists_of_bind_ok h
    rcases List.mem_cons.1 ha with rfl | ha
    · exact ⟨b, hb⟩
    · exact ih hxs ha

theorem mapM_eq_ok_map {g : α → β} (h : ∀ a ∈ xs, f a = .ok (g a)) : xs.mapM f = .ok (xs.map g) := by
  induction xs with
  | nil => rfl
  | cons a xs ih =>
    rw [List.mapM_cons, h a (List.mem_cons_self ..), ih fun b hb => h b (List.mem_cons_of_mem a hb)]
    rfl

theorem exists_of_mapM_error (h : xs.mapM f = .error e) : ∃ a ∈ xs, f a = .error e := by
  induction xs with
  | nil => cases h
  | cons a xs ih =>
    rw [List.mapM_cons] at h
    rcases of_bind_error h with ha | ⟨c, -, h⟩
    · exact ⟨a, List.mem_cons_self .., ha⟩
    rcases of_bind_error h with hxs | ⟨ys, -, h⟩
    · obtain ⟨a', ha', hf⟩ := ih hxs
      exact ⟨a', List.mem_cons_of_mem a ha', hf⟩
    · cases h

end

end Blocklist
