import Blocklist.Directive.Download
import Blocklist.Proofs.Directive.Attempt

/-!
# Steps of a download

What `Download.source` and `Download.inclusion` do, case by case: `run_source_visited`,
`run_source_zero`, `run_source_error` and `run_source_ok` for a source, `inclusion_nil`,
`inclusion_of_none` and `inclusion_of_some` for an included one.
-/

namespace Blocklist.Download
open Attempt

variable {σ : Type} {f : Fetcher σ} {o : DownloadOptions} {levels : Nat} {location : Text}
  {allowEmpty : Bool} {p : Progress σ}

theorem run_wasVisited (location : Text) (p : Progress σ) :
    (wasVisited location : Attempt DownloadError (Progress σ) Bool).run p =
      (.ok (location ∈ p.visited), p) := by
  rw [← List.elem_eq_mem]; rfl

theorem run_skip (f : Fetcher σ) (warning : Text) (p : Progress σ) :
    (skip f warning).run p = (.ok [], { p with state := (f.warn warning p.state).2 }) := rfl

/-! ### Sources -/

theorem run_source_visited (h : location ∈ p.visited) :
    (source f o levels location allowEmpty).run p =
      (skip f ("Circular include detected, skipping " ++ location)).run p := by
  rw [source.eq_def, run_bind, run_wasVisited, decide_eq_true h]
  rfl

theorem run_source_zero (h : location ∉ p.visited) :
    (source f o 0 location allowEmpty).run p =
      (skip f ("Maximum include depth (" ++ Text.ofInt o.maxDepth ++ ") exceeded, skipping " ++
        location)).run p := by
  rw [source.eq_def, run_bind, run_wasVisited, decide_eq_false h]
  rfl

theorem run_source_succ (h : location ∉ p.visited) :
    (source f o (levels + 1) location allowEmpty).run p =
      (do
        let s ← fetchText f location allowEmpty
        expand o.platform (inclusion f fun next => source f o levels next true)
          (SourceLine.split s location) : Attempt DownloadError (Progress σ) (List SourceLine)).run
        ⟨location :: p.visited, p.state⟩ := by
  rw [source.eq_def, run_bind, run_wasVisited, decide_eq_false h]
  rfl

theorem run_fetchText (f : Fetcher σ) (location : Text) (allowEmpty : Bool) (p : Progress σ) :
    (fetchText f location allowEmpty).run p =
      ((f.fetch location allowEmpty p.state).1.mapError .fetch,
        { p with state := (f.fetch location allowEmpty p.state).2 }) := by
  have hl : (lift (f.fetch location allowEmpty) : Attempt DownloadError (Progress σ) _).run p =
      (.ok (f.fetch location allowEmpty p.state).1,
        { p with state := (f.fetch location allowEmpty p.state).2 }) := rfl
  rw [fetchText, run_bind, hl]
  rcases (f.fetch location allowEmpty p.state).1 with e | s <;> rfl

theorem run_source_error {e : FetchError} {s' : σ} (h : location ∉ p.visited)
    (hf : f.fetch location allowEmpty p.state = (.error e, s')) :
    (source f o (levels + 1) location allowEmpty).run p =
      (.error (.fetch e), ⟨location :: p.visited, s'⟩) := by
  rw [run_source_succ h, run_bind, run_fetchText, hf]
  rfl

theorem run_source_ok {s : Text} {s' : σ} (h : location ∉ p.visited)
    (hf : f.fetch location allowEmpty p.state = (.ok s, s')) :
    (source f o (levels + 1) location allowEmpty).run p =
      (expand o.platform (inclusion f fun next => source f o levels next true)
        (SourceLine.split s location)).run ⟨location :: p.visited, s'⟩ := by
  rw [run_source_succ h, run_bind, run_fetchText, hf]
  rfl

/-! ### Inclusions -/

section
variable {download : Text → Attempt DownloadError (Progress σ) (List SourceLine)} {l : SourceLine}
  {path : Text}

theorem inclusion_nil :
    inclusion f download l [] =
      skip f (l.source ++ ":" ++ Text.ofNat l.number ++ ": empty " ++ Directive.inclusionMark ++
        " directive") := by
  rw [inclusion, if_pos rfl]

theorem inclusion_of_none (hp : path ≠ []) (h : Location.resolve? path l.source = none) :
    inclusion f download l path = throw (.fetch (.malformed path)) := by
  rw [inclusion, if_neg hp, h]

theorem inclusion_of_some (hp : path ≠ []) (h : Location.resolve? path l.source = some location) :
    inclusion f download l path =
      tryCatch (download location) fun e =>
        if e.isExpected then skip f ("Failed to include " ++ location ++ ": " ++ e.message)
        else throw e := by
  rw [inclusion, if_neg hp, h]

/-- An error that gets out of an inclusion is none that is passed over. -/
theorem wp_inclusion_unexpected (p : Progress σ) :
    wp (inclusion f download l path) (fun r _ => ∀ e, r = .error e → e.isExpected = false) p := by
  by_cases hpath : path = []
  · subst hpath
    rw [inclusion_nil]
    exact fun e he => nomatch he
  cases hr : Location.resolve? path l.source with
  | none =>
    rw [inclusion_of_none hpath hr]
    intro e he
    obtain rfl := Except.error.inj he
    rfl
  | some location =>
    rw [inclusion_of_some hpath hr]
    rcases hrun : (download location).run p with ⟨e' | ls, p'⟩
    · refine wp_tryCatch (wp_of_run hrun ?_)
      dsimp only
      split
      · exact fun e he => nomatch he
      · rename_i hexpected
        intro e he
        obtain rfl := Except.error.inj he
        simpa using hexpected
    · exact wp_tryCatch (wp_of_run hrun fun e he => nomatch he)

end

/-- A download starts with no source met. -/
theorem run_download (f : Fetcher σ) (o : DownloadOptions) (location : Text) (allowEmpty : Bool) (s : σ) :
    (download f o location allowEmpty).run s =
      (((source f o (o.maxDepth + 1).toNat location allowEmpty).run ⟨[], s⟩).1,
        ((source f o (o.maxDepth + 1).toNat location allowEmpty).run ⟨[], s⟩).2.state) := rfl

end Blocklist.Download
