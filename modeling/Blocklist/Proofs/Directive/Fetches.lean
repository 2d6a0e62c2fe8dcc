import Blocklist.Proofs.Directive.Download
import Blocklist.Proofs.Directive.Expansion

/-!
# What a download fetches

`Fetcher.recorded` keeps a list of what it is asked for and what came of it. `Sound top maxDepth` is
the invariant of a download of `top` with such a fetcher: the list holds the sources that were met,
each once, and each of them was named by inclusions in texts that stand before it in the list, at most
`maxDepth` of them one inside the other. It holds through every error, since an error leaves the state
as it is. `Download.nested` is a download that gives up when its calls are nested too deep;
`Download.nested_eq_source` says how deep they can get. `Download.log` is the list of a whole download.
-/

namespace Blocklist

/-- A source that was asked for, and what came of it. -/
structure Fetched where
  location : Text
  result : Except FetchError Text

/-- `f`, which also keeps a list of what it fetches, the latest last. -/
def Fetcher.recorded {σ : Type} (f : Fetcher σ) : Fetcher (σ × List Fetched) where
  fetch location allowEmpty := fun p =>
    let (r, s) := f.fetch location allowEmpty p.1
    (r, s, p.2 ++ [⟨location, r⟩])
  note severity text := fun p => ((), (f.note severity text p.1).2, p.2)

theorem Fetcher.recorded_fetch {σ : Type} {f : Fetcher σ} {location : Text} {allowEmpty : Bool}
    {p : σ × List Fetched} {r : Except FetchError Text} {s : σ} (h : f.fetch location allowEmpty p.1 = (r, s)) :
    f.recorded.fetch location allowEmpty p = (r, s, p.2 ++ [⟨location, r⟩]) := by
  simp only [Fetcher.recorded, h]

/-- Fetches from texts at hand, and takes no notes. -/
def Fetcher.ofTexts (content : Text → Except FetchError Text) : Fetcher Unit where
  fetch location _ := pure (content location)
  note _ _ := pure ()

/-- A world with some files in its working folder. -/
def World.ofFiles (files : List (Text × Text)) : World where
  files := { entries := files.map fun (name, s) => ([name], .file (Utf8.encode s)) }
  now := ⟨2024, 1, 2, 3, 4, 5, 0, 0⟩

/-- In the texts of `log`, `n` inclusions one inside the other lead from the source `top` to a
source. -/
inductive Leads (log : List Fetched) (top : Text) : Nat → Text → Prop
  | top : Leads log top 0 top
  | step {n : Nat} {location s path next : Text} {l : SourceLine} (h : Leads log top n location)
      (hs : ⟨location, .ok s⟩ ∈ log) (hl : l ∈ SourceLine.split s location)
      (hd : Directive.of? l.text = some (.inclusion path)) (hp : path ≠ [])
      (hr : Location.resolve? path location = some next) : Leads log top (n + 1) next

theorem Leads.mono {log log' : List Fetched} {top location : Text} {n : Nat} (h : Leads log top n location)
    (hsub : log ⊆ log') : Leads log' top n location := by
  induction h with
  | top => exact .top
  | step _ hs hl hd hp hr ih => exact .step ih (hsub hs) hl hd hp hr

theorem SourceLine.source_of_mem_numbered {source : Text} {first : Nat} {texts : List Text} {l : SourceLine}
    (h : l ∈ numbered source first texts) : l.source = source := by
  induction texts generalizing first with
  | nil => cases h
  | cons s rest ih =>
    rcases List.mem_cons.1 h with rfl | h
    · rfl
    · exact ih h

theorem SourceLine.source_of_mem_split {s source : Text} {l : SourceLine} (h : l ∈ split s source) :
    l.source = source :=
  source_of_mem_numbered h

/-- Every source that was met was fetched, once, and was named by what was fetched before. -/
structure Sound {σ : Type} (top : Text) (maxDepth : Int) (p : Progress (σ × List Fetched)) : Prop where
  met : p.state.2.map Fetched.location = p.visited.reverse
  nodup : p.visited.Nodup
  led : ∀ before fetch after, p.state.2 = before ++ fetch :: after →
    ∃ n : Nat, n ≤ maxDepth ∧ Leads before top n fetch.location

namespace Sound
variable {σ : Type} {top : Text} {maxDepth : Int} {p : Progress (σ × List Fetched)}

theorem init (s : σ) : Sound top maxDepth ⟨[], s, []⟩ where
  met := rfl
  nodup := List.nodup_nil
  led before fetch after h := by simp at h

theorem note (h : Sound top maxDepth p) (s : σ) : Sound top maxDepth { p with state := (s, p.state.2) } :=
  ⟨h.met, h.nodup, h.led⟩

theorem fetch {n : Nat} {location : Text} (h : Sound top maxDepth p) (hnew : location ∉ p.visited)
    (hled : Leads p.state.2 top n location) (hn : n ≤ maxDepth) (s : σ) (r : Except FetchError Text) :
    Sound top maxDepth ⟨location :: p.visited, s, p.state.2 ++ [⟨location, r⟩]⟩ where
  met := by simp [h.met]
  nodup := List.nodup_cons.2 ⟨hnew, h.nodup⟩
  led before fetch after heq := by
    rcases List.eq_nil_or_concat after with rfl | ⟨after, last, rfl⟩
    · obtain ⟨hb, hf⟩ := List.append_inj' heq rfl
      obtain rfl := (List.cons.inj hf).1
      exact ⟨n, hn, hb ▸ hled⟩
    · rw [List.concat_eq_append, ← List.cons_append, ← List.append_assoc] at heq
      exact h.led before fetch after (List.append_inj' heq rfl).1

theorem nodup_locations (h : Sound top maxDepth p) : (p.state.2.map Fetched.location).Nodup := by
  rw [h.met]
  exact (List.reverse_perm p.visited).nodup_iff.2 h.nodup

theorem mem_visited_iff (h : Sound top maxDepth p) {location : Text} :
    location ∈ p.visited ↔ ∃ r, ⟨location, r⟩ ∈ p.state.2 := by
  rw [← List.mem_reverse, ← h.met, List.mem_map]
  constructor
  · rintro ⟨⟨_, r⟩, hf, rfl⟩; exact ⟨r, hf⟩
  · rintro ⟨r, hf⟩; exact ⟨_, hf, rfl⟩

end Sound

namespace Download
open Attempt

variable {σ : Type} {f : Fetcher σ} {o : DownloadOptions}

/-- An included source keeps what its download and the notes keep. -/
theorem wp_inclusion {I : Progress σ → Prop} {l : SourceLine} {path : Text}
    {download : Text → Attempt DownloadError (Progress σ) (List SourceLine)}
    (note : ∀ p warning, I p → I { p with state := (f.warn warning p.state).2 })
    (h : ∀ location, path ≠ [] → Location.resolve? path l.source = some location →
      ∀ p, I p → wp (download location) (fun _ p' => I p') p)
    (p : Progress σ) (hp : I p) : wp (inclusion f download l path) (fun _ p' => I p') p := by
  by_cases hpath : path = []
  · subst hpath
    rw [inclusion_nil]
    exact note p _ hp
  cases hr : Location.resolve? path l.source with
  | none => rw [inclusion_of_none hpath hr]; exact hp
  | some location =>
    rw [inclusion_of_some hpath hr]
    refine wp_tryCatch (wp_mono (h location hpath hr p hp) fun r p' hp' => ?_)
    cases r with
    | ok ls => exact hp'
    | error e =>
      dsimp only
      split
      · exact note p' _ hp'
      · exact hp'

/-- A download started `n` inclusions deep keeps the list sound and only adds to it. -/
theorem wp_source_recorded {top : Text} (levels : Nat) {n : Nat} (location : Text) (allowEmpty : Bool)
    (hn : n + levels = (o.maxDepth + 1).toNat) (p : Progress (σ × List Fetched))
    (h : Sound top o.maxDepth p) (hled : Leads p.state.2 top n location) :
    wp (source f.recorded o levels location allowEmpty)
      (fun _ p' => Sound top o.maxDepth p' ∧ p.state.2 <+: p'.state.2) p := by
  induction levels generalizing n location allowEmpty p with
  | zero =>
    by_cases hv : location ∈ p.visited
    · exact wp_of_run (run_source_visited hv) ⟨h.note _, List.prefix_refl _⟩
    · exact wp_of_run (run_source_zero hv) ⟨h.note _, List.prefix_refl _⟩
  | succ levels ih =>
    by_cases hv : location ∈ p.visited
    · exact wp_of_run (run_source_visited hv) ⟨h.note _, List.prefix_refl _⟩
    have hdepth : (n : Int) ≤ o.maxDepth := by omega
    rcases hf : f.fetch location allowEmpty p.state.1 with ⟨r, s'⟩
    have hfetch := Fetcher.recorded_fetch hf
    have hsound := h.fetch hv hled hdepth s' r
    cases r with
    | error e => exact wp_of_run (run_source_error hv hfetch) ⟨hsound, List.prefix_append _ _⟩
    | ok s =>
      -- the list after this fetch; all later ones extend it
      let log := p.state.2 ++ [⟨location, .ok s⟩]
      refine wp_of_run_eq (run_source_ok hv hfetch) (wp_mono
        (wp_expand (I := fun p' => Sound top o.maxDepth p' ∧ log <+: p'.state.2)
          (fun l hl path hd => ?_) _ ⟨hsound, List.prefix_refl _⟩)
        fun _ p' hp' => ⟨hp'.1, (List.prefix_append _ _).trans hp'.2⟩)
      refine wp_inclusion (fun p' _ hp' => ⟨hp'.1.note _, hp'.2⟩) fun next hpath hr p' hp' => ?_
      rw [SourceLine.source_of_mem_split hl] at hr
      have hin : ⟨location, .ok s⟩ ∈ p'.state.2 := hp'.2.subset (by simp [log])
      have hled' : Leads p'.state.2 top n location :=
        hled.mono (((List.prefix_append _ _).trans hp'.2).subset)
      exact wp_mono (ih next true (by omega) p' hp'.1 (.step hled' hin hl hd hpath hr))
        fun _ p'' hp'' => ⟨hp''.1, hp'.2.trans hp''.2⟩

/-! ### The same download without the list -/

/-- What a fetcher without the list knows of the progress. -/
def withoutLog (p : Progress (σ × List Fetched)) : Progress σ := ⟨p.visited, p.state.1⟩

theorem skip_erases (warning : Text) : Erases withoutLog (skip f.recorded warning) (skip f warning) :=
  fun _ => rfl

theorem fetchText_erases (location : Text) (allowEmpty : Bool) :
    Erases withoutLog (fetchText f.recorded location allowEmpty) (fetchText f location allowEmpty) := by
  intro p
  rw [run_fetchText, run_fetchText]
  rfl

theorem inclusion_erases
    {download' : Text → Attempt DownloadError (Progress (σ × List Fetched)) (List SourceLine)}
    {download : Text → Attempt DownloadError (Progress σ) (List SourceLine)}
    (h : ∀ location, Erases withoutLog (download' location) (download location)) (l : SourceLine)
    (path : Text) :
    Erases withoutLog (inclusion f.recorded download' l path) (inclusion f download l path) := by
  by_cases hpath : path = []
  · subst hpath
    rw [inclusion_nil, inclusion_nil]
    exact skip_erases _
  cases hr : Location.resolve? path l.source with
  | none =>
    rw [inclusion_of_none hpath hr, inclusion_of_none hpath hr]
    exact .throw _
  | some location =>
    rw [inclusion_of_some hpath hr, inclusion_of_some hpath hr]
    refine (h location).tryCatch fun e => ?_
    split
    · exact skip_erases _
    · exact .throw _

theorem source_erases (levels : Nat) (location : Text) (allowEmpty : Bool) :
    Erases withoutLog (source f.recorded o levels location allowEmpty)
      (source f o levels location allowEmpty) := by
  induction levels generalizing location allowEmpty with
  | zero =>
    rw [source.eq_def, source.eq_def]
    refine .bind (fun _ => rfl) fun visited => ?_
    cases visited <;> exact skip_erases _
  | succ levels ih =>
    rw [source.eq_def, source.eq_def]
    refine .bind (fun _ => rfl) fun visited => ?_
    cases visited with
    | true => exact skip_erases _
    | false =>
      refine .bind (fun _ => rfl) fun _ => (fetchText_erases location allowEmpty).bind fun s => ?_
      exact expand_erases (inclusion_erases fun next => ih next true) _

/-- A download with the list and one without it go the same way. -/
theorem exists_run (f : Fetcher σ) (o : DownloadOptions) (top : Text) (allowEmpty : Bool) (s : σ) :
    ∃ r p, (source f.recorded o (o.maxDepth + 1).toNat top allowEmpty).run ⟨[], s, []⟩ = (r, p) ∧
      (download f.recorded o top allowEmpty).run (s, []) = (r, p.state) ∧
      (download f o top allowEmpty).run s = (r, p.state.1) ∧ Sound top o.maxDepth p := by
  have herase := source_erases (f := f) (o := o) (o.maxDepth + 1).toNat top allowEmpty ⟨[], s, []⟩
  have hsound := wp_source_recorded (f := f) (o := o) (o.maxDepth + 1).toNat top allowEmpty
    (Nat.zero_add _) ⟨[], s, []⟩ (.init s) .top
  refine ⟨_, _, rfl, run_download .., ?_, hsound.1⟩
  rw [run_download]
  exact congrArg (fun x => (x.1, x.2.state)) herase

/-- What a download fetches, in order. -/
def log (f : Fetcher σ) (o : DownloadOptions) (top : Text) (allowEmpty : Bool) (s : σ) : List Fetched :=
  ((download f.recorded o top allowEmpty).run (s, [])).2.2

/-- The sources that a download met are those that it fetched. -/
theorem mem_visited_iff_mem_log (f : Fetcher σ) (o : DownloadOptions) (top : Text) (allowEmpty : Bool) (s : σ)
    (location : Text) :
    location ∈ ((source f o (o.maxDepth + 1).toNat top allowEmpty).run ⟨[], s⟩).2.visited ↔
      ∃ x ∈ log f o top allowEmpty s, x.location = location := by
  obtain ⟨r, p, hrun, hrecorded, -, hsound⟩ := exists_run f o top allowEmpty s
  have herase := source_erases (f := f) (o := o) (o.maxDepth + 1).toNat top allowEmpty ⟨[], s, []⟩
  rw [hrun] at herase
  have hvisited : ((source f o (o.maxDepth + 1).toNat top allowEmpty).run ⟨[], s⟩).2.visited = p.visited :=
    congrArg (·.2.visited) herase
  rw [hvisited, log, hrecorded, hsound.mem_visited_iff]
  constructor
  · rintro ⟨r, hr⟩; exact ⟨_, hr, rfl⟩
  · rintro ⟨⟨_, r⟩, hr, rfl⟩; exact ⟨r, hr⟩

/-! ### How deep the calls are nested -/

/-- A download that counts its depth from `depth` on, where `beyond` stands for the calls that are nested
more than `calls` deep. -/
def nested (f : Fetcher σ) (o : DownloadOptions)
    (beyond : Nat → Text → Bool → Attempt DownloadError (Progress σ) (List SourceLine)) :
    (calls depth : Nat) → (location : Text) → (allowEmpty : Bool) →
      Attempt DownloadError (Progress σ) (List SourceLine)
  | 0, depth, location, allowEmpty => beyond depth location allowEmpty
  | calls + 1, depth, location, allowEmpty => do
    if ← wasVisited location then
      skip f ("Circular include detected, skipping " ++ location)
    else if o.maxDepth < depth then
      skip f ("Maximum include depth (" ++ Text.ofInt o.maxDepth ++ ") exceeded, skipping " ++ location)
    else do
      visit location
      let s ← fetchText f location allowEmpty
      expand o.platform (inclusion f fun next => nested f o beyond calls (depth + 1) next true)
        (SourceLine.split s location)

/-- With one call more than there are levels left, no call is beyond. -/
theorem nested_eq_source {beyond : Nat → Text → Bool → Attempt DownloadError (Progress σ) (List SourceLine)}
    {calls depth levels : Nat} (hl : levels = (o.maxDepth + 1 - depth).toNat) (hc : levels < calls)
    (location : Text) (allowEmpty : Bool) :
    nested f o beyond calls depth location allowEmpty = source f o levels location allowEmpty := by
  induction calls generalizing depth levels location allowEmpty with
  | zero => omega
  | succ calls ih =>
    rw [nested, source.eq_def]
    congr 1
    funext visited
    cases visited with
    | true => rfl
    | false =>
      cases levels with
      | zero =>
        have hd : o.maxDepth < depth := by omega
        rw [if_pos hd]
      | succ levels =>
        have hd : ¬ o.maxDepth < depth := by omega
        have hrec : (fun next => nested f o beyond calls (depth + 1) next true) =
            fun next => source f o levels next true :=
          funext fun next => ih (by omega) (by omega) next true
        rw [if_neg hd, hrec]

end Download

/-- A download ends: whatever the fetcher answers, no more than `maxDepth + 2` calls are ever open, one
inside the other, and each runs through lines that get fewer. It fetches no source twice, and each source
only after texts in which at most `maxDepth` inclusions, one inside the other, lead to it. All this holds
as well when it fails. -/
theorem download_fetches {σ : Type} (f : Fetcher σ) (o : DownloadOptions) (top : Text) (allowEmpty : Bool)
    (s : σ) :
    ∃ r s' log,
      (download f o top allowEmpty).run s = (r, s') ∧
      (download f.recorded o top allowEmpty).run (s, []) = (r, s', log) ∧
      (log.map Fetched.location).Nodup ∧
      (∀ before fetched after, log = before ++ fetched :: after →
        ∃ n : Nat, n ≤ o.maxDepth ∧ Leads before top n fetched.location) ∧
      ∀ beyond, ∃ visited,
        (Download.nested f o beyond ((o.maxDepth + 1).toNat + 1) 0 top allowEmpty).run ⟨[], s⟩ =
          (r, ⟨visited, s'⟩) := by
  have herase := Download.source_erases (f := f) (o := o) (o.maxDepth + 1).toNat top allowEmpty ⟨[], s, []⟩
  have hsound := Download.wp_source_recorded (f := f) (o := o) (o.maxDepth + 1).toNat top allowEmpty
    (Nat.zero_add _) ⟨[], s, []⟩ (.init s) .top
  rw [Attempt.wp] at hsound
  rcases hrun : (Download.source f.recorded o (o.maxDepth + 1).toNat top allowEmpty).run ⟨[], s, []⟩
    with ⟨r, visited, s', log⟩
  rw [hrun] at herase hsound
  have hrun' : (Download.source f o (o.maxDepth + 1).toNat top allowEmpty).run ⟨[], s⟩ =
      (r, ⟨visited, s'⟩) := herase
  have hmet : log.map Fetched.location = visited.reverse := hsound.1.met
  refine ⟨r, s', log, ?_, ?_, ?_, hsound.1.led, fun beyond => ⟨visited, ?_⟩⟩
  · rw [Download.run_download, hrun']
  · rw [Download.run_download, hrun]
  · rw [hmet]
    exact (List.reverse_perm visited).nodup_iff.2 hsound.1.nodup
  · rw [Download.nested_eq_source (by simp) (Nat.lt_succ_self _), hrun']

end Blocklist
