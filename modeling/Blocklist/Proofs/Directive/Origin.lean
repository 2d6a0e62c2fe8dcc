import Blocklist.Proofs.Directive.Fetches
import Blocklist.Proofs.Directive.Outline

/-!
# Where the lines of a download come from

`download_origin`: every line of a download is the line of its number in the text that was fetched for its
source, and the lines of one source stand in their order. A download only ever adds to what it met
(`Progress.Grows`), and so the lines that an inclusion gives are `Fresh`: their source was met on the way.
The lines of the source around it have a source that was met before, which keeps the two apart.
-/

namespace Blocklist

/-! ### Numbered lines -/

namespace SourceLine
variable {source : Text} {texts : List Text}

theorem getElem?_numbered (source : Text) (texts : List Text) (first i : Nat) :
    (numbered source first texts)[i]? = texts[i]?.map fun s => ⟨s, source, first + i⟩ := by
  induction texts generalizing first i with
  | nil => simp [numbered]
  | cons s rest ih =>
    cases i with
    | zero => simp [numbered]
    | succ i =>
      rw [numbered, List.getElem?_cons_succ, ih, List.getElem?_cons_succ]
      simp [Nat.add_comm, Nat.add_left_comm]

theorem pairwise_numbered (first : Nat) :
    (numbered source first texts).Pairwise fun a b => a.number < b.number := by
  rw [List.pairwise_iff_getElem]
  intro i j hi hj hij
  have hi' := getElem?_numbered source texts first i
  have hj' := getElem?_numbered source texts first j
  rw [List.getElem?_eq_getElem hi] at hi'
  rw [List.getElem?_eq_getElem hj] at hj'
  obtain ⟨s, -, hs⟩ := Option.map_eq_some_iff.1 hi'.symm
  obtain ⟨t, -, ht⟩ := Option.map_eq_some_iff.1 hj'.symm
  rw [← hs, ← ht]
  show first + i < first + j
  omega

theorem getElem?_of_mem_split {s : Text} {l : SourceLine} (h : l ∈ split s source) :
    0 < l.number ∧ (split s source)[l.number - 1]? = some l := by
  obtain ⟨i, hi⟩ := List.mem_iff_getElem?.1 h
  have hn := getElem?_numbered source (SourceLine.texts s) 1 i
  rw [show numbered source 1 (SourceLine.texts s) = split s source from rfl, hi] at hn
  obtain ⟨t, -, ht⟩ := Option.map_eq_some_iff.1 hn.symm
  have hnumber : l.number = 1 + i := by rw [← ht]
  refine ⟨by omega, ?_⟩
  rw [hnumber, Nat.add_sub_cancel_left, hi]

/-- Of two lines of one source, the first has the smaller number. -/
def InOrder (a b : SourceLine) : Prop := a.source = b.source → a.number < b.number

end SourceLine

/-! ### Progress -/

namespace Progress
variable {σ : Type} {p p' p'' : Progress (σ × List Fetched)} {l : SourceLine}

/-- Nothing that was met or fetched is forgotten. -/
structure Grows (p p' : Progress (σ × List Fetched)) : Prop where
  visited : p.visited ⊆ p'.visited
  fetched : p.state.2 ⊆ p'.state.2

theorem Grows.refl (p : Progress (σ × List Fetched)) : Grows p p := ⟨List.Subset.refl _, List.Subset.refl _⟩

theorem Grows.note {f : Fetcher σ} (p : Progress (σ × List Fetched)) (warning : Text) :
    Grows p { p with state := (f.recorded.warn warning p.state).2 } := ⟨List.Subset.refl _, List.Subset.refl _⟩

theorem Grows.trans (h : Grows p p') (h' : Grows p' p'') : Grows p p'' :=
  ⟨List.Subset.trans h.visited h'.visited, List.Subset.trans h.fetched h'.fetched⟩

/-- A line of a text that was fetched between `p` and `p'`, of a source that was not met before. -/
structure Fresh (p p' : Progress (σ × List Fetched)) (l : SourceLine) : Prop where
  unmet : l.source ∉ p.visited
  met : l.source ∈ p'.visited
  fetched : ∃ s, ⟨l.source, .ok s⟩ ∈ p'.state.2 ∧ l ∈ SourceLine.split s l.source

theorem Fresh.of_later (h : Fresh p' p'' l) (hg : Grows p p') : Fresh p p'' l :=
  ⟨fun hv => h.unmet (hg.visited hv), h.met, h.fetched⟩

theorem Fresh.of_earlier (h : Fresh p p' l) (hg : Grows p' p'') : Fresh p p'' l := by
  obtain ⟨s, hs, hl⟩ := h.fetched
  exact ⟨h.unmet, hg.visited h.met, s, hg.fetched hs, hl⟩

end Progress

namespace Download
open Attempt Progress

variable {σ : Type} {f : Fetcher σ} {o : DownloadOptions}

/-- What a download that goes from `p` to `p'` gives: fresh lines, in order. -/
structure Yields (p : Progress (σ × List Fetched)) (r : Except DownloadError (List SourceLine))
    (p' : Progress (σ × List Fetched)) : Prop where
  grows : Grows p p'
  fresh : ∀ ls, r = .ok ls → ∀ l ∈ ls, Fresh p p' l
  inOrder : ∀ ls, r = .ok ls → ls.Pairwise SourceLine.InOrder

theorem Yields.of_nil {p p' : Progress (σ × List Fetched)} (h : Grows p p') : Yields p (.ok []) p' where
  grows := h
  fresh ls hls := by obtain rfl := Except.ok.inj hls; intro l hl; cases hl
  inOrder ls hls := by obtain rfl := Except.ok.inj hls; exact .nil

theorem Yields.of_error {p p' : Progress (σ × List Fetched)} (h : Grows p p') (e : DownloadError) :
    Yields p (.error e) p' where
  grows := h
  fresh ls hls := by cases hls
  inOrder ls hls := by cases hls

theorem wp_inclusion_yields {download : Text → Attempt DownloadError (Progress (σ × List Fetched)) (List SourceLine)}
    (h : ∀ location p, wp (download location) (Yields p) p) (l : SourceLine) (path : Text)
    (p : Progress (σ × List Fetched)) : wp (inclusion f.recorded download l path) (Yields p) p := by
  by_cases hpath : path = []
  · subst hpath
    rw [inclusion_nil]
    exact .of_nil (.note p _)
  cases hr : Location.resolve? path l.source with
  | none => rw [inclusion_of_none hpath hr]; exact .of_error (.refl p) _
  | some location =>
    rw [inclusion_of_some hpath hr]
    refine wp_tryCatch (wp_mono (h location p) fun r p' hy => ?_)
    cases r with
    | ok ls => exact hy
    | error e =>
      dsimp only
      split
      · exact .of_nil (hy.grows.trans (.note p' _))
      · exact .of_error hy.grows e

/-- The lines of the items of one source: its own, and between them those of its inclusions. -/
theorem wp_interpret_yields {download : Text → Attempt DownloadError (Progress (σ × List Fetched)) (List SourceLine)}
    (h : ∀ location p, wp (download location) (Yields p) p) {location : Text} {items : List Item}
    (hsource : ∀ item ∈ items, item.line.source = location)
    (hnumber : (items.map Item.line).Pairwise fun a b => a.number < b.number)
    (p : Progress (σ × List Fetched)) (hp : location ∈ p.visited) :
    wp (Item.interpret (inclusion f.recorded download) items)
      (fun r p' => Grows p p' ∧ ∀ ls, r = .ok ls →
        (∀ l ∈ ls, .content l ∈ items ∨ Fresh p p' l) ∧ ls.Pairwise SourceLine.InOrder) p := by
  induction items generalizing p with
  | nil =>
    refine ⟨.refl p, fun ls hls => ?_⟩
    obtain rfl : [] = ls := Except.ok.inj hls
    exact ⟨fun l hl => absurd hl List.not_mem_nil, .nil⟩
  | cons item rest ih =>
    rw [List.map_cons, List.pairwise_cons] at hnumber
    -- what the first item gives
    have hfirst : wp (item.lines (inclusion f.recorded download))
        (fun r p' => Grows p p' ∧ ∀ ls, r = .ok ls →
          (∀ l ∈ ls, .content l = item ∨ Fresh p p' l) ∧ ls.Pairwise SourceLine.InOrder) p := by
      cases item with
      | content l =>
        refine ⟨.refl p, fun ls hls => ?_⟩
        obtain rfl : [l] = ls := Except.ok.inj hls
        exact ⟨fun m hm => .inl (by rw [List.mem_singleton.1 hm]), List.pairwise_singleton _ _⟩
      | inclusion l path =>
        refine wp_mono (wp_inclusion_yields h l path p) fun r p' hy => ⟨hy.grows, fun ls hls => ?_⟩
        exact ⟨fun m hm => .inr (hy.fresh ls hls m hm), hy.inOrder ls hls⟩
    refine Item.wp_interpret_cons (wp_mono hfirst fun r p₁ hr => ?_)
    obtain ⟨hg₁, hr⟩ := hr
    cases r with
    | error e => exact ⟨hg₁, fun ls hls => by cases hls⟩
    | ok ls₁ =>
    obtain ⟨hof₁, hord₁⟩ := hr ls₁ rfl
    refine wp_mono (ih (fun m hm => hsource m (List.mem_cons_of_mem item hm)) hnumber.2 p₁ (hg₁.visited hp))
      fun r p₂ hr => ?_
    obtain ⟨hg₂, hr⟩ := hr
    refine ⟨hg₁.trans hg₂, fun ls hls => ?_⟩
    cases r with
    | error e => cases hls
    | ok ls₂ =>
    obtain rfl : ls₁ ++ ls₂ = ls := Except.ok.inj hls
    obtain ⟨hof₂, hord₂⟩ := hr ls₂ rfl
    refine ⟨fun l hl => ?_, List.pairwise_append.2 ⟨hord₁, hord₂, fun a ha b hb hab => ?_⟩⟩
    · rcases List.mem_append.1 hl with hl | hl
      · rcases hof₁ l hl with hc | hf
        · exact .inl (hc ▸ List.mem_cons_self ..)
        · exact .inr (hf.of_earlier hg₂)
      · rcases hof₂ l hl with hc | hf
        · exact .inl (List.mem_cons_of_mem _ hc)
        · exact .inr (hf.of_later hg₁)
    · -- the source around the inclusions was met before, all others are fresh
      have hown (l : SourceLine) (hl : .content l ∈ item :: rest) : l.source ∈ p.visited :=
        (hsource _ hl : l.source = location) ▸ hp
      rcases hof₁ a ha with rfl | hf
      · rcases hof₂ b hb with hc | hf
        · exact hnumber.1 b (List.mem_map_of_mem hc)
        · exact absurd (hab ▸ hg₁.visited (hown a (List.mem_cons_self ..))) hf.unmet
      · rcases hof₂ b hb with hc | hf'
        · exact absurd (hab ▸ hown b (List.mem_cons_of_mem _ hc)) hf.unmet
        · exact absurd (hab ▸ hf.met) hf'.unmet

theorem wp_source_yields (levels : Nat) (location : Text) (allowEmpty : Bool) (p : Progress (σ × List Fetched)) :
    wp (source f.recorded o levels location allowEmpty) (Yields p) p := by
  induction levels generalizing location allowEmpty p with
  | zero =>
    by_cases hv : location ∈ p.visited
    · exact wp_of_run (run_source_visited hv) (.of_nil (.note p _))
    · exact wp_of_run (run_source_zero hv) (.of_nil (.note p _))
  | succ levels ih =>
    by_cases hv : location ∈ p.visited
    · exact wp_of_run (run_source_visited hv) (.of_nil (.note p _))
    rcases hf : f.fetch location allowEmpty p.state.1 with ⟨r, s'⟩
    have hfetch := Fetcher.recorded_fetch hf
    have hstart : Grows p ⟨location :: p.visited, s', p.state.2 ++ [⟨location, r⟩]⟩ :=
      ⟨List.subset_cons_self _ _, List.subset_append_left _ _⟩
    cases r with
    | error e => exact wp_of_run (run_source_error hv hfetch) (.of_error hstart _)
    | ok s =>
      have hsource : ∀ item ∈ (outline o.platform (SourceLine.split s location)).items, item.line.source = location :=
        fun item hi => SourceLine.source_of_mem_split (line_mem_of_mem_outline hi)
      have hitems := wp_interpret_yields (f := f) (fun next p => ih next true p) hsource
        ((SourceLine.pairwise_numbered 1).sublist (sublist_outline _ _))
        ⟨location :: p.visited, s', p.state.2 ++ [⟨location, .ok s⟩]⟩ (List.mem_cons_self ..)
      refine wp_of_run_eq (run_source_ok hv hfetch) ?_
      rw [expand_eq_interpret_outline]
      refine Outline.wp_interpret (wp_mono hitems fun r p' hr => ?_)
      obtain ⟨hg, hr⟩ := hr
      have hgrows := hstart.trans hg
      cases r with
      | error e => exact .of_error hgrows e
      | ok ls =>
        obtain ⟨hof, hord⟩ := hr ls rfl
        refine ⟨fun e _ => .of_error hgrows _, fun _ => ⟨hgrows, fun ls' hls l hl => ?_, fun ls' hls => ?_⟩⟩
        · obtain rfl := Except.ok.inj hls
          rcases hof l hl with hc | hf
          · have hl : l ∈ SourceLine.split s location := line_mem_of_mem_outline hc
            obtain rfl := SourceLine.source_of_mem_split hl
            exact ⟨hv, hg.visited (List.mem_cons_self ..), s, hg.fetched (by simp), hl⟩
          · exact hf.of_later hstart
        · obtain rfl := Except.ok.inj hls
          exact hord

end Download

/-- A download that ends well gives lines of the texts that it fetched, each at most once: line number `n`
of a source is line `n` of the one text that was fetched for it, and the lines of a source stand in their
order, whatever stands between them. -/
theorem download_origin {σ : Type} (f : Fetcher σ) (o : DownloadOptions) (top : Text) (allowEmpty : Bool)
    (s : σ) {ls : List SourceLine} (h : ((download f o top allowEmpty).run s).1 = .ok ls) :
    ∃ s' log, (download f o top allowEmpty).run s = (.ok ls, s') ∧
      (download f.recorded o top allowEmpty).run (s, []) = (.ok ls, s', log) ∧
      (log.map Fetched.location).Nodup ∧
      (∀ l ∈ ls, ∃ text, ⟨l.source, .ok text⟩ ∈ log ∧ 0 < l.number ∧
        (SourceLine.split text l.source)[l.number - 1]? = some l) ∧
      (ls.map fun l => (l.source, l.number)).Nodup ∧
      ∀ source, (ls.filter (·.source = source)).Pairwise fun a b => a.number < b.number := by
  obtain ⟨r, p, hrun, hrecorded, hplain, hsound⟩ := Download.exists_run f o top allowEmpty s
  obtain rfl : r = .ok ls := by rw [hplain] at h; exact h
  have hyields := Download.wp_source_yields (f := f) (o := o) (o.maxDepth + 1).toNat top allowEmpty ⟨[], s, []⟩
  rw [Attempt.wp, hrun] at hyields
  have hord := hyields.inOrder ls rfl
  refine ⟨p.state.1, p.state.2, hplain, hrecorded, hsound.nodup_locations, fun l hl => ?_, ?_, fun source => ?_⟩
  · obtain ⟨text, htext, hmem⟩ := (hyields.fresh ls rfl l hl).fetched
    obtain ⟨hpos, hget⟩ := SourceLine.getElem?_of_mem_split hmem
    exact ⟨text, htext, hpos, hget⟩
  · rw [List.nodup_iff_pairwise_ne, List.pairwise_map]
    refine hord.imp fun {a b} hab heq => ?_
    obtain ⟨hsource, hnumber⟩ := Prod.mk.inj heq
    exact absurd (hab hsource) (by omega)
  · have hsame : ∀ l ∈ ls.filter (·.source = source), l.source = source := fun l hl => by
      simpa using (List.mem_filter.1 hl).2
    exact (hord.sublist List.filter_sublist).imp_of_mem fun ha hb hab => hab (by rw [hsame _ ha, hsame _ hb])

/-- Two sources that include each other. -/
def cyclicTexts (location : Text) : Except FetchError Text :=
  if location = "main".toList then .ok "||a^\n!#include extra\n||c^\n".toList
  else .ok "||b^\n!#include main\n".toList

theorem download_origin_cyclicTexts :
    ∃ ls, ((download (.ofTexts cyclicTexts) {} "main".toList false).run ()).1 = .ok ls ∧
      ls = [⟨"||a^".toList, "main".toList, 1⟩, ⟨"||b^".toList, "extra".toList, 1⟩,
        ⟨"||c^".toList, "main".toList, 3⟩] ∧
      ∃ s' log, (download (.ofTexts cyclicTexts) {} "main".toList false).run () = (.ok ls, s') ∧
        (download (Fetcher.ofTexts cyclicTexts).recorded {} "main".toList false).run ((), []) = (.ok ls, s', log) ∧
        (log.map Fetched.location).Nodup ∧
        (∀ l ∈ ls, ∃ text, ⟨l.source, .ok text⟩ ∈ log ∧ 0 < l.number ∧
          (SourceLine.split text l.source)[l.number - 1]? = some l) ∧
        (ls.map fun l => (l.source, l.number)).Nodup ∧
        ∀ source, (ls.filter (·.source = source)).Pairwise fun a b => a.number < b.number := by
  have hrun : ((download (.ofTexts cyclicTexts) {} "main".toList false).run ()).1 =
      .ok [⟨"||a^".toList, "main".toList, 1⟩, ⟨"||b^".toList, "extra".toList, 1⟩,
        ⟨"||c^".toList, "main".toList, 3⟩] := eq_ok_of_mem_toOption (by decide +kernel)
  exact ⟨_, hrun, rfl, download_origin _ _ _ _ _ hrun⟩

end Blocklist
