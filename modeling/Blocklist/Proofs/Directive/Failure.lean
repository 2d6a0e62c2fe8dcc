import Blocklist.Proofs.Directive.Balance
import Blocklist.Proofs.Directive.Fetches
import Blocklist.Proofs.Fetch.Error

/-!
# What makes a download fail

An inclusion passes over all errors that are expected, and so an error that gets out of one is none of
these: `DownloadError.Escapes`, `FailsIff`. `download_returns_iff`: a download of a source that can be had, with
blocks that are well nested, gives lines exactly if everything that it fetched is harmless. What is not are locations
that no file can have, inclusions that name no location when they are seen from their source, and URLs that were
requested so often that a pause could not be reckoned.
-/

namespace Blocklist

/-- A source of an inclusion that cannot be named. -/
def Item.IsFatal : Item → Prop
  | .content _ => False
  | .inclusion l path => path ≠ [] ∧ Location.resolve? path l.source = none

/-- A source that no inclusion passes over: it cannot be named, or the platform sees such an inclusion in
its text. -/
def Fetched.IsFatal (platform : Option Text) (x : Fetched) : Prop :=
  match x.result with
  | .error e => e.isExpected = false
  | .ok s => ∃ item ∈ (outline platform (SourceLine.split s x.location)).items, item.IsFatal

/-- An error that no inclusion passes over: a source cannot be named, or fetching it ended with that error. -/
inductive DownloadError.Escapes {σ : Type} (f : Fetcher σ) : DownloadError → Prop
  | malformed (location : Text) : Escapes f (.fetch (.malformed location))
  | fetch {location : Text} {allowEmpty : Bool} {s : σ} {e : FetchError}
      (h : (f.fetch location allowEmpty s).1 = .error e) (he : e.isExpected = false) : Escapes f (.fetch e)

theorem DownloadError.Escapes.isExpected {σ : Type} {f : Fetcher σ} {e : DownloadError} (h : e.Escapes f) :
    e.isExpected = false := by
  cases h with
  | malformed => rfl
  | fetch _ he => exact he

/-- The result is an error exactly if `P` holds, and then it is none that is passed over. -/
structure FailsIff {σ α : Type} (f : Fetcher σ) (r : Except DownloadError α) (P : Prop) : Prop where
  iff : (∃ e, r = .error e) ↔ P
  escapes : ∀ e, r = .error e → e.Escapes f

namespace FailsIff
variable {σ α β : Type} {f : Fetcher σ} {r : Except DownloadError α} {P P' : Prop}

theorem of_ok {a : α} (h : ¬ P) : FailsIff f (.ok a : Except DownloadError α) P where
  iff := ⟨fun ⟨_, he⟩ => (nomatch he), fun hP => absurd hP h⟩
  escapes _ he := nomatch he

theorem of_error {e : DownloadError} (h : e.Escapes f) (hP : P) :
    FailsIff f (.error e : Except DownloadError α) P where
  iff := ⟨fun _ => hP, fun _ => ⟨e, rfl⟩⟩
  escapes _ he := by obtain rfl := Except.error.inj he; exact h

theorem map (h : FailsIff f r P) (g : α → β) : FailsIff f (r.map g) P := by
  cases r with
  | ok a => exact .of_ok fun hP => by obtain ⟨e, he⟩ := h.iff.2 hP; cases he
  | error e => exact .of_error (h.escapes e rfl) (h.iff.1 ⟨e, rfl⟩)

theorem congr (h : FailsIff f r P) (hP : P ↔ P') : FailsIff f r P' := ⟨h.iff.trans hP, h.escapes⟩

end FailsIff

namespace Download
open Attempt

variable {σ : Type} {f : Fetcher σ} {o : DownloadOptions}

/-- From `p` to `p'`, the sources `new` were fetched. -/
structure Fetches (f : Fetcher σ) (new : List Fetched) (p p' : Progress (σ × List Fetched)) : Prop where
  log : p'.state.2 = p.state.2 ++ new
  answered : ∀ x ∈ new, ∃ allowEmpty s, (f.fetch x.location allowEmpty s).1 = x.result

namespace Fetches
variable {p p' p'' : Progress (σ × List Fetched)} {new new' : List Fetched}

theorem nil (p : Progress (σ × List Fetched)) : Fetches f [] p p := ⟨by simp, by simp⟩

theorem note (h : Fetches f new p p') (warning : Text) :
    Fetches f new p { p' with state := (f.recorded.warn warning p'.state).2 } :=
  ⟨h.log, h.answered⟩

theorem append (h : Fetches f new p p') (h' : Fetches f new' p' p'') : Fetches f (new ++ new') p p'' where
  log := by rw [h'.log, h.log, List.append_assoc]
  answered x hx := (List.mem_append.1 hx).elim (h.answered x) (h'.answered x)

end Fetches

/-- A download fails unexpectedly exactly if a fatal source was fetched, and then with an error that escapes. -/
def FailsByFatal (f : Fetcher σ) (platform : Option Text) (p : Progress (σ × List Fetched))
    (r : Except DownloadError (List SourceLine)) (p' : Progress (σ × List Fetched)) : Prop :=
  ∃ new, Fetches f new p p' ∧ (∀ e, r = .error e → e.isExpected = false → e.Escapes f) ∧
    ((∃ e, r = .error e ∧ e.isExpected = false) ↔ ∃ x ∈ new, x.IsFatal platform)

section
variable {download : Text → Attempt DownloadError (Progress (σ × List Fetched)) (List SourceLine)}
  (h : ∀ location p, wp (download location) (FailsByFatal f o.platform p) p)
include h

theorem wp_inclusion_failsIff (l : SourceLine) (path : Text) (p : Progress (σ × List Fetched)) :
    wp (inclusion f.recorded download l path) (fun r p' => ∃ new, Fetches f new p p' ∧
      FailsIff f r ((Item.inclusion l path).IsFatal ∨ ∃ x ∈ new, x.IsFatal o.platform)) p := by
  by_cases hpath : path = []
  · subst hpath
    rw [inclusion_nil]
    exact ⟨[], (Fetches.nil p).note _, .of_ok (by simp [Item.IsFatal])⟩
  cases hr : Location.resolve? path l.source with
  | none =>
    rw [inclusion_of_none hpath hr]
    exact ⟨[], .nil p, .of_error (.malformed _) (.inl ⟨hpath, hr⟩)⟩
  | some location =>
    rw [inclusion_of_some hpath hr]
    have hitem : ¬ (Item.inclusion l path).IsFatal := by simp [Item.IsFatal, hr]
    refine wp_tryCatch (wp_mono (h location p) fun r p' hf => ?_)
    obtain ⟨new, hnew, hescapes, hiff⟩ := hf
    cases r with
    | ok ls => exact ⟨new, hnew, .of_ok (not_or.2 ⟨hitem, fun hx => by simpa using hiff.2 hx⟩)⟩
    | error e =>
      dsimp only
      split
      · rename_i he
        refine ⟨new, hnew.note _, .of_ok (not_or.2 ⟨hitem, fun hx => ?_⟩)⟩
        obtain ⟨e', he', hun⟩ := hiff.2 hx
        obtain rfl := Except.error.inj he'
        simp [he] at hun
      · rename_i he
        have hun : e.isExpected = false := by simpa using he
        exact ⟨new, hnew, .of_error (hescapes e rfl hun) (.inr (hiff.1 ⟨e, rfl, hun⟩))⟩

theorem wp_interpret_failsIff (items : List Item) (p : Progress (σ × List Fetched)) :
    wp (Item.interpret (inclusion f.recorded download) items) (fun r p' => ∃ new, Fetches f new p p' ∧
      FailsIff f r ((∃ item ∈ items, item.IsFatal) ∨ ∃ x ∈ new, x.IsFatal o.platform)) p := by
  induction items generalizing p with
  | nil => exact ⟨[], .nil p, .of_ok (by simp)⟩
  | cons item rest ih =>
    have hfirst : wp (item.lines (inclusion f.recorded download)) (fun r p' => ∃ new, Fetches f new p p' ∧
        FailsIff f r (item.IsFatal ∨ ∃ x ∈ new, x.IsFatal o.platform)) p := by
      cases item with
      | content l => exact ⟨[], .nil p, .of_ok (by simp [Item.IsFatal])⟩
      | inclusion l path => exact wp_inclusion_failsIff h l path p
    refine Item.wp_interpret_cons (wp_mono hfirst fun r p₁ hr => ?_)
    obtain ⟨new₁, hnew₁, hfail₁⟩ := hr
    cases r with
    | error e =>
      -- the items behind are not reached, and what failed is among those in front
      refine ⟨new₁, hnew₁, .of_error (hfail₁.escapes e rfl) ?_⟩
      rcases hfail₁.iff.1 ⟨e, rfl⟩ with hi | hx
      · exact .inl ⟨item, List.mem_cons_self .., hi⟩
      · exact .inr hx
    | ok ls =>
      have hok : ¬ (item.IsFatal ∨ ∃ x ∈ new₁, x.IsFatal o.platform) := fun hP => by
        obtain ⟨e, he⟩ := hfail₁.iff.2 hP
        cases he
      obtain ⟨hitem, hx⟩ := not_or.1 hok
      refine wp_mono (ih p₁) fun r p₂ hr => ?_
      obtain ⟨new₂, hnew₂, hfail₂⟩ := hr
      refine ⟨new₁ ++ new₂, hnew₁.append hnew₂, (hfail₂.map _).congr ?_⟩
      simp only [List.mem_cons, List.mem_append, or_and_right, exists_or, exists_eq_left, hitem, hx, false_or]

end

theorem wp_source_failsByFatal (levels : Nat) (location : Text) (allowEmpty : Bool)
    (p : Progress (σ × List Fetched)) :
    wp (source f.recorded o levels location allowEmpty) (FailsByFatal f o.platform p) p := by
  have skipped (p : Progress (σ × List Fetched)) (warning : Text) :
      wp (skip f.recorded warning) (FailsByFatal f o.platform p) p :=
    wp_of_run (run_skip ..) ⟨[], (Fetches.nil p).note warning, nofun, by simp⟩
  induction levels generalizing location allowEmpty p with
  | zero =>
    by_cases hv : location ∈ p.visited
    · exact wp_of_run_eq (run_source_visited hv) (skipped p _)
    · exact wp_of_run_eq (run_source_zero hv) (skipped p _)
  | succ levels ih =>
    by_cases hv : location ∈ p.visited
    · exact wp_of_run_eq (run_source_visited hv) (skipped p _)
    rcases hf : f.fetch location allowEmpty p.state.1 with ⟨r, s'⟩
    have hfetch := Fetcher.recorded_fetch hf
    have hstart : Fetches f [⟨location, r⟩] p ⟨location :: p.visited, s', p.state.2 ++ [⟨location, r⟩]⟩ :=
      ⟨rfl, fun x hx => ⟨allowEmpty, p.state.1, by obtain rfl := List.mem_singleton.1 hx; rw [hf]⟩⟩
    cases r with
    | error e =>
      refine wp_of_run (run_source_error hv hfetch) ⟨_, hstart, fun e' he hun => ?_, ?_⟩
      · obtain rfl := Except.error.inj he
        exact .fetch (congrArg Prod.fst hf) hun
      · simp [Fetched.IsFatal, DownloadError.isExpected]
    | ok s =>
      refine wp_of_run_eq (run_source_ok hv hfetch) ?_
      rw [expand_eq_interpret_outline]
      refine Outline.wp_interpret (wp_mono (wp_interpret_failsIff (fun next p => ih next true p) _ _)
        fun r p' hr => ?_)
      obtain ⟨new, hnew, hfail⟩ := hr
      have hfatal : (∃ x ∈ [⟨location, .ok s⟩] ++ new, x.IsFatal o.platform) ↔
          (∃ item ∈ (outline o.platform (SourceLine.split s location)).items, item.IsFatal) ∨
            ∃ x ∈ new, x.IsFatal o.platform := by
        simp only [List.singleton_append, List.mem_cons, or_and_right, exists_or, exists_eq_left]
        rfl
      cases r with
      | error e =>
        refine ⟨_, hstart.append hnew, fun e' he _ => hfail.escapes e' he, ?_⟩
        rw [hfatal, ← hfail.iff]
        exact ⟨fun ⟨e', he, _⟩ => ⟨e', he⟩, fun ⟨e', he⟩ => ⟨e', he, (hfail.escapes e' he).isExpected⟩⟩
      | ok ls =>
        have hnone : ¬ ∃ x ∈ [⟨location, .ok s⟩] ++ new, x.IsFatal o.platform := fun hx => by
          obtain ⟨e, he⟩ := hfail.iff.2 (hfatal.1 hx)
          cases he
        refine ⟨fun e _ => ⟨_, hstart.append hnew, fun e' he hun => ?_, iff_of_false ?_ hnone⟩,
          fun _ => ⟨_, hstart.append hnew, nofun, iff_of_false ?_ hnone⟩⟩
        · obtain rfl := Except.error.inj he
          cases hun
        · rintro ⟨e', he, hun⟩
          obtain rfl := Except.error.inj he
          cases hun
        · rintro ⟨e', he, -⟩
          cases he

/-- The blocks of a source that are well nested add no error to those of its inclusions. -/
theorem wp_source_of_balanced (levels : Nat) {location : Text} {allowEmpty : Bool}
    {p : Progress (σ × List Fetched)} (hv : location ∉ p.visited) {s : Text} {s' : σ}
    (hf : f.fetch location allowEmpty p.state.1 = (.ok s, s')) (hb : Balanced (SourceLine.split s location)) :
    wp (source f.recorded o levels location allowEmpty) (fun r _ => ∀ e, r = .error e → e.Escapes f) p := by
  cases levels with
  | zero =>
    refine wp_of_run_eq (run_source_zero hv) (wp_of_run (run_skip ..) fun e he => ?_)
    cases he
  | succ levels =>
    refine wp_of_run_eq (run_source_ok hv (Fetcher.recorded_fetch hf)) ?_
    rw [expand_eq_interpret_outline]
    refine Outline.wp_interpret (wp_mono (wp_interpret_failsIff (o := o)
      (fun next p => wp_source_failsByFatal levels next true p) _ _) fun r p' hr => ?_)
    obtain ⟨new, -, hfail⟩ := hr
    cases r with
    | error e => exact hfail.escapes
    | ok ls =>
      refine ⟨fun e he => ?_, fun _ e he => ?_⟩
      · rw [hb.error?_outline] at he; cases he
      · cases he

end Download

/-- Where sources are fetched from a world, an error that escapes is one of two kinds. -/
theorem DownloadError.Escapes.fetcher_cases {fo : FetchOptions} {e : DownloadError}
    (h : e.Escapes (World.fetcher fo)) :
    (∃ location, e = .fetch (.malformed location)) ∨ ¬ fo.Reckons ∧ ∃ url, e = .fetch (.exhausted url) := by
  cases h with
  | malformed location => exact .inl ⟨location, rfl⟩
  | @fetch location allowEmpty w e h he =>
    cases e with
    | malformed location => exact .inl ⟨location, rfl⟩
    | exhausted url => exact .inr ⟨fun ho => Fetch.source_ne_exhausted ho url h, url, rfl⟩
    | _ => cases he

/-- What was fetched has a location that a file or a page can have, there was a pause before each request that was
to follow, and each inclusion that the platform sees in its text names a location, or nothing. -/
structure Fetched.IsHarmless (platform : Option Text) (x : Fetched) : Prop where
  location : Location.isUrl x.location ∨ '\x00' ∉ x.location
  reckoned : x.result ≠ .error (.exhausted x.location)
  inclusions : ∀ s, x.result = .ok s → ∀ l path,
    .inclusion l path ∈ (outline platform (SourceLine.split s x.location)).items →
      path = [] ∨ ∃ next, Location.resolve? path x.location = some next

theorem Fetched.not_isFatal_iff {platform : Option Text} {x : Fetched} {o : FetchOptions} {allowEmpty : Bool}
    {w : World} (h : (Fetch.source o x.location allowEmpty w).1 = x.result) :
    ¬ x.IsFatal platform ↔ x.IsHarmless platform := by
  have hfails : (∃ e, (Fetch.source o x.location allowEmpty w).1 = .error e ∧ e.isExpected = false) ↔
      (Location.isUrl x.location = false ∧ '\x00' ∈ x.location) ∨
        (Fetch.source o x.location allowEmpty w).1 = .error (.exhausted x.location) := Fetch.unexpected_iff
  rw [h] at hfails
  have hanswered : (¬ ∃ e, x.result = .error e ∧ e.isExpected = false) ↔
      (Location.isUrl x.location ∨ '\x00' ∉ x.location) ∧ x.result ≠ .error (.exhausted x.location) := by
    rw [hfails, not_or, not_and_or, Bool.not_eq_false]
  rcases x with ⟨location, e | s⟩
  · constructor
    · intro he
      obtain ⟨hlocation, hreckoned⟩ := hanswered.1 fun ⟨e', he', hun⟩ => by
        obtain rfl := Except.error.inj he'
        exact he hun
      exact ⟨hlocation, hreckoned, fun s hs => by cases hs⟩
    · exact fun hh he => hanswered.2 ⟨hh.location, hh.reckoned⟩ ⟨e, rfl, he⟩
  · obtain ⟨hlocation, hreckoned⟩ := hanswered.1 fun ⟨e, he, _⟩ => by cases he
    constructor
    · intro hx
      refine ⟨hlocation, hreckoned, fun s' hs l path hl => ?_⟩
      obtain rfl := Except.ok.inj hs
      by_contra hn
      obtain ⟨hpath, hr⟩ := not_or.1 hn
      have hsource : l.source = location := SourceLine.source_of_mem_split (line_mem_of_mem_outline hl)
      refine hx ⟨_, hl, hpath, ?_⟩
      rw [hsource]
      exact Option.eq_none_iff_forall_not_mem.2 fun next hnext => hr ⟨next, hnext⟩
    · rintro hh ⟨item, hi, hfatal⟩
      cases item with
      | content l => exact hfatal
      | inclusion l path =>
        have hsource : l.source = location := SourceLine.source_of_mem_split (line_mem_of_mem_outline hi)
        obtain ⟨hpath, hr⟩ := hfatal
        rw [hsource] at hr
        rcases hh.inclusions s rfl l path hi with hnil | ⟨next, hnext⟩
        · exact hpath hnil
        · rw [hr] at hnext; cases hnext

/-- A source that can be had, with blocks that are well nested, gives lines exactly if all that its download
fetches is harmless; if not, it ends with the malformed location, or with a URL of which a pause could not be reckoned.
The latter takes options that do not reckon all pauses. -/
theorem download_returns_iff (fo : FetchOptions) (o : DownloadOptions) (top : Text) (allowEmpty : Bool) (w : World)
    {s : Text} (hfetch : (Fetch.source fo top allowEmpty w).1 = .ok s)
    (hbalanced : Balanced (SourceLine.split s top)) :
    ∃ r w' log, (download (World.fetcher fo) o top allowEmpty).run w = (r, w') ∧
      (download (World.fetcher fo).recorded o top allowEmpty).run (w, []) = (r, w', log) ∧
      ((∃ ls, r = .ok ls) ↔ ∀ x ∈ log, x.IsHarmless o.platform) ∧
      (∀ e, r = .error e →
        (∃ location, e = .fetch (.malformed location)) ∨ ¬ fo.Reckons ∧ ∃ url, e = .fetch (.exhausted url)) ∧
      ∀ x ∈ log, x.result = .error (.exhausted x.location) → ¬ fo.Reckons := by
  obtain ⟨r, p, hrun, hrecorded, hplain, -⟩ := Download.exists_run (World.fetcher fo) o top allowEmpty w
  have hfails := Download.wp_source_failsByFatal (f := World.fetcher fo) (o := o) (o.maxDepth + 1).toNat top
    allowEmpty ⟨[], w, []⟩
  have hescapes := Download.wp_source_of_balanced (f := World.fetcher fo) (o := o) (p := ⟨[], w, []⟩)
    (o.maxDepth + 1).toNat List.not_mem_nil (Prod.ext hfetch rfl) hbalanced
  rw [Attempt.wp, hrun] at hfails hescapes
  obtain ⟨new, hnew, -, hiff⟩ := hfails
  have hlog : p.state.2 = new := hnew.log
  refine ⟨r, p.state.1, p.state.2, hplain, hrecorded, ?_, fun e he => (hescapes e he).fetcher_cases, ?_⟩
  · have hharmless : (∀ x ∈ p.state.2, x.IsHarmless o.platform) ↔ ¬ ∃ x ∈ new, x.IsFatal o.platform := by
      rw [hlog]
      push Not
      refine forall₂_congr fun x hx => ?_
      obtain ⟨allowEmpty', w', hx'⟩ := hnew.answered x hx
      exact (Fetched.not_isFatal_iff hx').symm
    rw [hharmless, ← hiff]
    cases r with
    | ok ls => simp
    | error e => simpa using (hescapes e rfl).isExpected
  · intro x hx hexhausted ho
    obtain ⟨allowEmpty', w', hx'⟩ := hnew.answered x (hlog ▸ hx)
    exact Fetch.source_ne_exhausted ho x.location (hx'.trans hexhausted)

/-- A source that is missing and one with a block that is not closed. -/
def brokenInclusions : World :=
  .ofFiles [("main".toList, "||a^\n!#include missing\n!#include open\n".toList),
    ("open".toList, "||b^\n!#if true\n".toList)]

theorem download_returns_iff_brokenInclusions :
    ∃ s, (Fetch.source {} "main".toList false brokenInclusions).1 = .ok s ∧
      Balanced (SourceLine.split s "main".toList) ∧
      ∃ r w' log, (download (World.fetcher {}) {} "main".toList false).run brokenInclusions = (r, w') ∧
        (download (World.fetcher {}).recorded {} "main".toList false).run (brokenInclusions, []) = (r, w', log) ∧
        ((∃ ls, r = .ok ls) ↔ ∀ x ∈ log, x.IsHarmless none) ∧
        (∀ e, r = .error e → (∃ location, e = .fetch (.malformed location)) ∨
          ¬ ({} : FetchOptions).Reckons ∧ ∃ url, e = .fetch (.exhausted url)) ∧
        ∀ x ∈ log, x.result = .error (.exhausted x.location) → ¬ ({} : FetchOptions).Reckons := by
  have hfetch : (Fetch.source {} "main".toList false brokenInclusions).1 =
      .ok "||a^\n!#include missing\n!#include open\n".toList := eq_ok_of_mem_toOption (by decide +kernel)
  have hbalanced : Balanced
      (SourceLine.split "||a^\n!#include missing\n!#include open\n".toList "main".toList) :=
    ⟨by decide +kernel, by decide +kernel⟩
  exact ⟨_, hfetch, hbalanced, download_returns_iff {} {} _ _ _ hfetch hbalanced⟩

/-- An inclusion of a name that no file can have fails the source around it. -/
theorem download_fails_at_null :
    ∃ s, (Fetch.source {} "main".toList false
        (.ofFiles [("main".toList, "||a^\n!#include b\x00\n".toList)])).1 = .ok s ∧
      Balanced (SourceLine.split s "main".toList) ∧
      ∃ e, ((download (World.fetcher {}) {} "main".toList false).run
        (.ofFiles [("main".toList, "||a^\n!#include b\x00\n".toList)])).1 = .error e := by
  refine ⟨"||a^\n!#include b\x00\n".toList, eq_ok_of_mem_toOption (by decide +kernel),
    ⟨by decide +kernel, by decide +kernel⟩, .fetch (.malformed "b\x00".toList), ?_⟩
  exact eq_error_of_mem_errorOf? (by decide +kernel)

end Blocklist
