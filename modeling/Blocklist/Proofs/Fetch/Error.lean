import Blocklist.Fetch.Basic
import Blocklist.Proofs.Number.Binary64
import Blocklist.Proofs.Text.Trim

/-!
# Which errors fetching ends with

Whatever the world answers, only two things make fetching fail in a way that is not expected: a location that no
file can have, and a URL that is requested so often that a pause cannot be reckoned (`Fetch.unexpected_iff`). With
floating-point numbers that takes more than 1024 repetitions: `FetchOptions.reckons_of_double`.
-/

namespace Blocklist

theorem Text.mem_join_of_mem {c : Char} {w : Text} {ws : List Text} (hc : c ∈ w) (hw : w ∈ ws) (sep : Text) :
    c ∈ join sep ws := by
  induction ws with
  | nil => cases hw
  | cons v ws ih =>
    cases ws with
    | nil => rwa [join, ← List.mem_singleton.1 hw]
    | cons u ws =>
      rw [join_cons (by simp)]
      rcases List.mem_cons.1 hw with rfl | hw
      · exact List.mem_append_left _ hc
      · exact List.mem_append_right _ (List.mem_append_right _ (ih hw))

namespace Path
variable {c : Char} {s : Text}

theorem mem_rootOf (h : c ∈ rootOf s) : c = '/' := by
  rw [rootOf] at h
  split at h
  · cases h
  · simpa using h
  · exact List.mem_singleton.1 h

/-- Only slashes and dots can get lost. -/
theorem mem_text_read_iff (hslash : c ≠ '/') (hdot : c ≠ '.') : c ∈ (read s).text ↔ c ∈ s := by
  have hnames : c ∈ Text.join ['/'] (read s).names ↔ c ∈ s := by
    constructor
    · intro h
      rcases Text.mem_join h with h | ⟨w, hw, hc⟩
      · exact absurd (List.mem_singleton.1 h) hslash
      · exact (Text.mem_of_mem_splitWhere (List.mem_filter.1 hw).1 c hc).2
    · intro h
      rw [← Text.join_splitOn '/' s] at h
      rcases Text.mem_join h with h | ⟨w, hw, hc⟩
      · exact absurd (List.mem_singleton.1 h) hslash
      · refine Text.mem_join_of_mem hc (List.mem_filter.2 ⟨hw, ?_⟩) _
        have hempty : w ≠ [] := List.ne_nil_of_mem hc
        have hsingle : w ≠ ['.'] := by rintro rfl; exact hdot (List.mem_singleton.1 hc)
        simp [hempty, hsingle]
  rw [text]
  split
  · rename_i h
    have hempty : (read s).names = [] := by simpa using (Bool.and_eq_true_iff.1 h).2
    rw [hempty] at hnames
    rw [← hnames]
    simp [Text.join, hdot]
  · rw [List.mem_append, hnames]
    exact or_iff_right fun h => hslash (mem_rootOf h)

end Path

namespace Files
variable {fs : Files} {p : Path}

theorem step_ne_badName (names : List Text) (name : Text) : fs.step names name ≠ .error .badName := by
  intro h
  rw [step, checkFolder] at h
  split at h
  · change child names name = .error .badName at h
    rw [child] at h
    split at h
    · cases h
    · split at h <;> cases h
  · cases h
  · cases h

theorem foldlM_step_ne_badName (names : List Text) (start : List Text) :
    names.foldlM fs.step start ≠ .error .badName := by
  induction names generalizing start with
  | nil => intro h; cases h
  | cons name rest ih =>
    rw [List.foldlM_cons]
    cases hs : fs.step start name with
    | error e =>
      intro h
      obtain rfl : e = .badName := Except.error.inj h
      exact step_ne_badName start name hs
    | ok names => exact ih names

theorem checkText_eq_badName_iff : checkText p = .error .badName ↔ '\x00' ∈ p.text := by
  rw [checkText]
  split
  · rename_i h
    exact iff_of_true rfl (List.elem_iff.1 h)
  · rename_i h
    refine iff_of_false ?_ fun hm => h (List.elem_iff.2 hm)
    split <;> intro h <;> cases h

theorem read_eq_badName_iff (fs : Files) : fs.read p = .error .badName ↔ '\x00' ∈ p.text := by
  rw [← checkText_eq_badName_iff]
  cases hc : checkText p with
  | error e =>
    have hr : fs.read p = .error e := by rw [read, locate, hc]; rfl
    rw [hr]
    exact ⟨fun h => congrArg Except.error (Except.error.inj h), fun h => congrArg Except.error (Except.error.inj h)⟩
  | ok u =>
    refine iff_of_false (fun h => ?_) (by simp)
    have hlocate : fs.locate p = p.names.foldlM fs.step (fs.startOf p) := by rw [locate, hc]; rfl
    rw [read, hlocate] at h
    cases hl : p.names.foldlM fs.step (fs.startOf p) with
    | error e =>
      rw [hl] at h
      obtain rfl : e = .badName := Except.error.inj h
      exact foldlM_step_ne_badName p.names (fs.startOf p) hl
    | ok names =>
      rw [hl] at h
      dsimp only [bind, Except.bind] at h
      split at h <;> cases h

end Files

namespace FetchOptions
variable {o : FetchOptions}

/-- The factor of each pause that there may be is a number. -/
def Reckons (o : FetchOptions) : Prop := ∀ i < o.retries.toNat, o.factor? i ≠ none

theorem factor?_of_double (h : o.rounding = Binary64.round) (i : Nat) :
    o.factor? i = if i < 1024 then some (.finite (2 ^ i)) else none := by
  rw [factor?, h, Binary64.round_two_pow]
  by_cases hi : i < 1024
  · rw [if_pos hi, if_pos hi]
  · rw [if_neg hi, if_neg hi]

theorem factor?_of_exact (h : o.rounding = .finite) (i : Nat) : o.factor? i = some (.finite (2 ^ i)) := by
  rw [factor?, h]

theorem reckons_of_double (h : o.rounding = Binary64.round) : o.Reckons ↔ o.retries ≤ 1024 := by
  have hhuge (i : Nat) : o.factor? i ≠ none ↔ i < 1024 := by
    rw [factor?_of_double h]
    split <;> simp_all
  simp only [Reckons, hhuge]
  constructor
  · intro hall
    by_contra hn
    exact Nat.lt_irrefl 1024 (hall 1024 (by omega))
  · intro hle i hi
    omega

end FetchOptions

namespace Fetch
variable {o : FetchOptions} {location : Text} {allowEmpty : Bool} {w : World} {e : FetchError}

theorem isExpected_of_request (h : (request o location allowEmpty w).1 = .error e) : e.isExpected := by
  rw [request] at h
  generalize w.web.get location = reply at h
  rcases reply with ⟨outcome, web⟩
  change textOf o location allowEmpty outcome = .error e at h
  cases outcome with
  | reply code body =>
    rw [textOf] at h
    split at h
    · obtain rfl := Except.error.inj h; rfl
    · split at h
      · obtain rfl := Except.error.inj h; rfl
      · cases h
  | _ => obtain rfl := Except.error.inj h; rfl

/-- An error of a URL is expected, or after one of its attempts the factor of the pause was too large. -/
theorem of_attempts_error {left attempt : Nat}
    (h : (attempts o location allowEmpty left attempt w).1 = .error e) :
    e.isExpected ∨ e = .exhausted location ∧ ∃ i < attempt + left, o.factor? i = none := by
  induction left generalizing attempt w with
  | zero => exact .inl (isExpected_of_request h)
  | succ left ih =>
    rw [attempts] at h
    split at h
    · cases h
    · rename_i e' w' hr
      split at h
      · split at h
        · rcases ih h with he | ⟨he, i, hi, hfactor⟩
          · exact .inl he
          · exact .inr ⟨he, i, by omega, hfactor⟩
        · rename_i hpause
          exact .inr ⟨(Except.error.inj h).symm, attempt, by omega, Option.map_eq_none_iff.1 hpause⟩
      · obtain rfl := Except.error.inj h
        exact .inl (isExpected_of_request (w := w) (congrArg Prod.fst hr))

theorem file_unexpected_iff (files : Files) :
    (∃ e, file files location allowEmpty = .error e ∧ e.isExpected = false) ↔ '\x00' ∈ location := by
  rw [← Path.mem_text_read_iff (by decide) (by decide), ← Files.read_eq_badName_iff files, file]
  cases hr : files.read (Path.read location) with
  | ok content =>
    refine iff_of_false ?_ (by simp)
    rintro ⟨e, he, hun⟩
    dsimp only at he
    split at he
    · obtain rfl := Except.error.inj he; cases hun
    · cases he
  | error fault =>
    cases fault with
    | badName => exact iff_of_true ⟨_, rfl, rfl⟩ rfl
    | _ =>
      refine iff_of_false ?_ (by simp)
      rintro ⟨e, he, hun⟩
      obtain rfl := Except.error.inj he
      cases hun

/-- Only a location that no file can have, and a URL after whose attempts a pause cannot be reckoned. -/
theorem unexpected_iff :
    (∃ e, (source o location allowEmpty w).1 = .error e ∧ e.isExpected = false) ↔
      (Location.isUrl location = false ∧ '\x00' ∈ location) ∨
        (source o location allowEmpty w).1 = .error (.exhausted location) := by
  constructor
  · rintro ⟨e, he, hun⟩
    cases hu : Location.isUrl location with
    | true =>
      have hattempts := he
      rw [source, if_pos hu] at hattempts
      rcases of_attempts_error hattempts with hexpected | ⟨rfl, -⟩
      · rw [hexpected] at hun; cases hun
      · exact .inr he
    | false =>
      rw [source, if_neg (by simp [hu])] at he
      exact .inl ⟨rfl, (file_unexpected_iff w.files).1 ⟨e, he, hun⟩⟩
  · rintro (⟨hu, hm⟩ | he)
    · rw [source, if_neg (by simp [hu])]
      exact (file_unexpected_iff w.files).2 hm
    · exact ⟨_, he, rfl⟩

theorem source_ne_exhausted (ho : o.Reckons) (url : Text) :
    (source o location allowEmpty w).1 ≠ .error (.exhausted url) := by
  intro h
  cases hu : Location.isUrl location with
  | true =>
    rw [source, if_pos hu] at h
    rcases of_attempts_error h with he | ⟨-, i, hi, hfactor⟩
    · cases he
    · exact ho i (by omega) hfactor
  | false =>
    rw [source, if_neg (by simp [hu])] at h
    dsimp only [file] at h
    split at h
    · split at h <;> cases h
    all_goals cases h

end Fetch
end Blocklist
