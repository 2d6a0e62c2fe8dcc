import Blocklist.Proofs.Directive.Agreement
import Blocklist.Proofs.Directive.Deletion

/-!
# Without an inclusion that fails

An inclusion that fails gives no lines, but the sources that it met on the way stay met. So
`download_without_failed`: without its line a download gives the same texts, if it then fetches no source
that the inclusion had the text of; its own target may be fetched, because that fails again
(`failsAgain_of_fails`). `download_without_failed_changes` shows that the condition is needed.
-/

namespace Blocklist

namespace Download
open Attempt

variable {content content' : Text → Except FetchError Text} {o : DownloadOptions} {levels : Nat}
  {p : Progress Unit}

/-- The inclusions among the items name sources, and sources of `left` if there are levels left to fetch them. -/
def NamesIn (levels : Nat) (left : List Text) (items : List Item) : Prop :=
  ∀ l path, .inclusion l path ∈ items → path ≠ [] →
    ∃ next, Location.resolve? path l.source = some next ∧ (0 < levels → next ∈ left)

namespace NamesIn
variable {left left' : List Text} {item : Item} {items : List Item}

theorem cons (h : NamesIn levels left [item]) (h' : NamesIn levels left items) :
    NamesIn levels left (item :: items) := fun l path hl =>
  (List.mem_cons.1 hl).elim (fun hl => h l path (List.mem_singleton.2 hl)) (h' l path)

theorem mono (h : NamesIn levels left items) (hsub : left ⊆ left') : NamesIn levels left' items :=
  fun l path hl hpath => (h l path hl hpath).imp fun _ hnext => ⟨hnext.1, fun hlevels => hsub (hnext.2 hlevels)⟩

theorem of_le {k : Nat} (h : NamesIn levels left items) (hk : k ≤ levels) : NamesIn k left items :=
  fun l path hl hpath => (h l path hl hpath).imp fun _ hnext =>
    ⟨hnext.1, fun hlevels => hnext.2 (Nat.lt_of_lt_of_le hlevels hk)⟩

end NamesIn

/-- What a run has gone through was met. -/
theorem wp_interpret_met (items : List Item) (p : Progress Unit) :
    wp (Item.interpret (included content o levels) items)
      (fun r q => ∀ ls, r = .ok ls → NamesIn levels q.visited items) p := by
  induction items generalizing p with
  | nil => exact fun _ _ l path hl => absurd hl List.not_mem_nil
  | cons item rest ih =>
    have hfirst : wp (item.lines (included content o levels))
        (fun r q => ∀ ls, r = .ok ls → NamesIn levels q.visited [item]) p := by
      intro ls hls l path hl hpath
      obtain rfl := List.mem_singleton.1 hl
      rw [Item.lines, included] at hls ⊢
      cases hr : Location.resolve? path l.source with
      | none =>
        rw [inclusion_of_none hpath hr] at hls
        cases hls
      | some next =>
        refine ⟨next, rfl, fun hlevels => ?_⟩
        obtain ⟨m, rfl⟩ := Nat.exists_eq_succ_of_ne_zero (Nat.pos_iff_ne_zero.1 hlevels)
        rw [run_inclusion hpath hr]
        exact wp_source_met m next true p
    refine Item.wp_interpret_cons (wp_mono hfirst fun r p₁ hr => ?_)
    cases r with
    | error e =>
      intro ls hls
      cases hls
    | ok ls₁ =>
      refine wp_mono (wp_and (ih p₁) (KeepsMet.interpret .included rest p₁)) fun r p₂ hr' => ?_
      obtain ⟨hrest, hkeep⟩ := hr'
      intro ls hls
      cases r with
      | error e => cases hls
      | ok ls₂ => exact ((hr ls₁ rfl).mono hkeep).cons (hrest ls₂ rfl)

variable (content o levels) in
/-- A source that fails as expected has a directive that fits to nothing, behind inclusions that the run has gone
through. -/
theorem wp_outline_fails (a : Outline) (p : Progress Unit) :
    wp (a.interpret (included content o levels))
      (fun r q => ∀ e, r = .error e → e.isExpected →
        (∃ d, a.error? = some d) ∧ NamesIn levels q.visited a.items) p := by
  have hunexpected := Item.wp_interpret_keeps (included content o levels) (I := fun _ => True)
    (E := fun e _ => e.isExpected = false) a.items
    (fun l path _ p _ => wp_mono (wp_inclusion_unexpected p) fun _ _ hr => ⟨trivial, hr⟩) p trivial
  refine Outline.wp_interpret (wp_mono (wp_and hunexpected (wp_interpret_met a.items p)) fun r q hr => ?_)
  obtain ⟨⟨-, herror⟩, hmet⟩ := hr
  cases r with
  | error e =>
    intro e' he' hexpected
    obtain rfl := Except.error.inj he'
    rw [herror e rfl] at hexpected
    cases hexpected
  | ok ls => exact ⟨fun d hd _ _ _ => ⟨⟨d, hd⟩, hmet ls rfl⟩, fun _ e he => nomatch he⟩

section
variable {left within : List Text}
  (hfails : ∀ next ∈ left, next ∈ within → next ∉ p.visited → ∃ e, content next = .error e ∧ e.isExpected)
include hfails

/-- An inclusion of a source of `left` gives nothing if those of them that are new and in `within` cannot be
had. -/
theorem wp_included_fails {l : SourceLine} {path : Text}
    (hnamed : path ≠ [] → ∃ next, Location.resolve? path l.source = some next ∧ (0 < levels → next ∈ left)) :
    wp (included content o levels l path)
      (fun r q => q.visited ⊆ within → (∃ ls, r = .ok ls) ∧ q.visited ⊆ p.visited ++ left) p := by
  have hsame : p.visited ⊆ p.visited ++ left := List.subset_append_left _ _
  by_cases hpath : path = []
  · subst hpath
    rw [included, inclusion_nil]
    exact fun _ => ⟨⟨[], rfl⟩, hsame⟩
  obtain ⟨next, hr, hleft⟩ := hnamed hpath
  refine wp_of_run (run_inclusion hpath hr p) ?_
  by_cases hskip : next ∈ p.visited ∨ levels = 0
  · rw [run_source_skipped hskip]
    exact fun _ => ⟨⟨[], rfl⟩, hsame⟩
  obtain ⟨hv, hlevels⟩ := not_or.1 hskip
  obtain ⟨m, rfl⟩ := Nat.exists_eq_succ_of_ne_zero hlevels
  intro hwithin
  have hnext := hleft (Nat.succ_pos m)
  obtain ⟨e, hc, he⟩ := hfails next hnext (hwithin (wp_source_met m next true p)) hv
  rw [run_source_texts_error hv hc]
  exact ⟨⟨[], if_pos he⟩, List.cons_subset.2 ⟨List.mem_append_right _ hnext, hsame⟩⟩

/-- So the directive that fits to nothing is reached. -/
theorem wp_outline_fails_again {a : Outline} {d : DirectiveError} (hd : a.error? = some d)
    (hnames : NamesIn levels left a.items) :
    wp (a.interpret (included content o levels))
      (fun r q => q.visited ⊆ within → passOver r = .ok [] ∧ q.visited ⊆ p.visited ++ left) p := by
  have hitems := Item.wp_interpret_keeps (included content o levels)
    (I := fun q => p.visited ⊆ q.visited ∧ (q.visited ⊆ within → q.visited ⊆ p.visited ++ left))
    (E := fun _ q => ¬ q.visited ⊆ within) a.items (fun l path hl q hq => ?_) p
    ⟨List.Subset.refl _, fun _ => List.subset_append_left _ _⟩
  · refine Outline.wp_interpret (wp_mono hitems fun r q hr => ?_)
    obtain ⟨⟨-, hmore⟩, herror⟩ := hr
    cases r with
    | error e => exact fun hwithin => absurd hwithin (herror e rfl)
    | ok ls => exact ⟨fun e _ hwithin => ⟨rfl, hmore hwithin⟩, fun hnone => by rw [hd] at hnone; cases hnone⟩
  · obtain ⟨hpq, hmore⟩ := hq
    have hkeep : KeepsMet (included content o levels l path) := .included l path
    have hfails' := wp_included_fails (o := o) (p := q)
      (fun next hleft hwithin hv => hfails next hleft hwithin fun h => hv (hpq h)) (hnames l path hl)
    refine wp_mono (wp_and hfails' (hkeep q)) fun r q' hr => ?_
    obtain ⟨hnothing, hqq'⟩ := hr
    refine ⟨⟨List.Subset.trans hpq hqq', fun hwithin => ?_⟩, fun e he hwithin => ?_⟩
    · refine List.Subset.trans (hnothing hwithin).2 (List.append_subset.2 ⟨?_, List.subset_append_right _ _⟩)
      exact hmore (List.Subset.trans hqq' hwithin)
    · obtain ⟨⟨ls, hls⟩, -⟩ := hnothing hwithin
      rw [hls] at he
      cases he

end

/-- What a failed inclusion of `target` has met, from `p` to `q`, fails again if no text comes of it but that of
`target`. -/
theorem failsAgain_of_fails {top target : Text} {n : Nat} {p q : Progress Unit} {e : DownloadError}
    {within : List Text} (hcontent : ∀ x, x ≠ top → content' x = content x)
    (hexpected : ∀ x e, content x = .error e → e.isExpected) (htop : top ∈ p.visited)
    (hfails : (source (.ofTexts content) o n target true).run p = (.error e, q)) (he : e.isExpected)
    (hgot : ∀ x ∈ within, x ∈ q.visited → x ∉ p.visited → x = target ∨ ∃ e, content x = .error e) :
    FailsAgain (.ofTexts content') o n p.visited q.visited within := by
  intro x hx k hk p' hv hmet hwithin
  have hcontent' {y : Text} (hy : y ∉ p'.visited) : content' y = content y :=
    hcontent y fun h => hy (hmet (h ▸ htop))
  have hnew : x ∉ p.visited := fun h => hv (hmet h)
  cases hc : content x with
  | error e' =>
    rw [run_source_texts_error hv ((hcontent' hv).trans hc)]
    refine ⟨if_pos (hexpected x e' hc), List.cons_subset.2 ⟨?_, List.subset_append_left _ _⟩⟩
    exact List.mem_append_right _ hx
  | ok s =>
    obtain rfl : x = target :=
      (hgot x (hwithin (wp_source_met k x true p')) hx hnew).resolve_right (by simp [hc])
    obtain ⟨m, rfl⟩ := Nat.exists_eq_succ_of_ne_zero (show n ≠ 0 by omega)
    -- the first time, the run has gone through all inclusions of the source
    rw [run_source_texts_ok hnew hc] at hfails
    have hfirst := wp_outline_fails content o m (outline o.platform (SourceLine.split s x)) ⟨x :: p.visited, ()⟩
    rw [wp, hfails] at hfirst
    obtain ⟨⟨d, hd⟩, hnames⟩ := hfirst e rfl he
    rw [run_source_texts_ok hv ((hcontent' hv).trans hc)] at hwithin ⊢
    have hlost : ∀ next ∈ q.visited, next ∈ within → next ∉ x :: p'.visited →
        ∃ e, content' next = .error e ∧ e.isExpected := fun next hleft hw hnext => by
      rw [List.mem_cons, not_or] at hnext
      obtain ⟨e', he'⟩ := (hgot next hw hleft fun h => hnext.2 (hmet h)).resolve_left hnext.1
      exact ⟨e', (hcontent' hnext.2).trans he', hexpected next e' he'⟩
    obtain ⟨hpass, hmore⟩ := wp_outline_fails_again (o := o) (p := ⟨x :: p'.visited, ()⟩) hlost hd
      (hnames.of_le (Nat.le_of_lt_succ hk)) hwithin
    refine ⟨hpass, List.Subset.trans hmore (List.append_subset.2 ⟨?_, List.subset_append_right _ _⟩)⟩
    exact List.cons_subset.2 ⟨List.mem_append_right _ hx, List.subset_append_left _ _⟩

end Download

/-! ### A download without a line -/

theorem Item.exists_filterMap {gone : SourceLine} {item : Item} (h : item.line ≠ gone) :
    ∃ item', item.filterMap gone.leaveOut = some item' ∧ Alike item item' := by
  cases item with
  | content l =>
    obtain ⟨l', hl', htext, -⟩ := SourceLine.exists_leaveOut (l := l) h
    exact ⟨.content l', congrArg (Option.map Item.content) hl', .content htext.symm⟩
  | inclusion l path =>
    obtain ⟨l', hl', -, hsource⟩ := SourceLine.exists_leaveOut (l := l) h
    exact ⟨.inclusion l' path, congrArg (Option.map (Item.inclusion · path)) hl', .inclusion hsource.symm⟩

theorem Item.forall₂_filterMap {gone : SourceLine} {items : List Item} (h : ∀ item ∈ items, item.line ≠ gone) :
    List.Forall₂ Item.Alike items (items.filterMap (Item.filterMap gone.leaveOut)) := by
  induction items with
  | nil => exact .nil
  | cons item rest ih =>
    obtain ⟨item', hitem, halike⟩ := exists_filterMap (h item (List.mem_cons_self ..))
    rw [List.filterMap_cons_some hitem]
    exact .cons halike (ih fun m hm => h m (List.mem_cons_of_mem item hm))

/-- An inclusion in the text `s` of `top` at which a download passes over an error. The items are those before it
and after it. -/
structure FailedInclusion (content : Text → Except FetchError Text) (o : DownloadOptions) (top s : Text) where
  before : List Item
  line : SourceLine
  path : Text
  after : List Item
  target : Text
  error : DownloadError
  text : content top = .ok s
  items : (outline o.platform (SourceLine.split s top)).items = before ++ .inclusion line path :: after
  named : path ≠ []
  resolved : Location.resolve? path top = some target
  expected : error.isExpected
  fails : ((Download.source (.ofTexts content) o o.maxDepth.toNat target true).run
    ((Item.interpret (Download.included content o o.maxDepth.toNat) before).run ⟨[top], ()⟩).2).1 = .error error

namespace FailedInclusion
open Attempt

variable {content : Text → Except FetchError Text} {o : DownloadOptions} {top s : Text}
  (i : FailedInclusion content o top s)

/-- The sources met when the inclusion is reached. -/
def start : Progress Unit :=
  ((Item.interpret (Download.included content o o.maxDepth.toNat) i.before).run ⟨[top], ()⟩).2

/-- The sources met when it has failed. -/
def finish : Progress Unit :=
  ((Download.source (.ofTexts content) o o.maxDepth.toNat i.target true).run i.start).2

/-- The inclusion had the text of a source other than its target. -/
def Got (x : Text) : Prop :=
  x ∈ i.finish.visited ∧ x ∉ i.start.visited ∧ x ≠ i.target ∧ ∃ t, content x = .ok t

theorem run_target :
    (Download.source (.ofTexts content) o o.maxDepth.toNat i.target true).run i.start = (.error i.error, i.finish) :=
  Prod.ext i.fails rfl

/-- It is not at the last level. -/
theorem levels_eq (i : FailedInclusion content o top s) : (o.maxDepth + 1).toNat = o.maxDepth.toNat + 1 := by
  have hlevels : o.maxDepth.toNat ≠ 0 := fun h => by
    have hrun := i.run_target
    rw [Download.run_source_skipped (.inr h)] at hrun
    cases hrun
  omega

theorem item_mem : .inclusion i.line i.path ∈ (outline o.platform (SourceLine.split s top)).items := by
  rw [i.items]
  exact List.mem_append_right _ (List.mem_cons_self ..)

theorem line_mem : i.line ∈ SourceLine.split s top := line_mem_of_mem_outline i.item_mem

theorem source_line : i.line.source = top := SourceLine.source_of_mem_split i.line_mem

theorem directive_line : Directive.of? i.line.text = some (.inclusion i.path) :=
  directive?_of_mem_outline i.item_mem

theorem line_ne {item : Item} (h : item ∈ i.before ++ i.after) : item.line ≠ i.line := by
  have hnumbers : ((outline o.platform (SourceLine.split s top)).items.map Item.line).Pairwise
      fun a b => a.number < b.number :=
    (SourceLine.pairwise_numbered 1).sublist (sublist_outline o.platform (SourceLine.split s top))
  rw [i.items, List.map_append, List.map_cons, List.pairwise_append, List.pairwise_cons] at hnumbers
  obtain ⟨-, ⟨hafter, -⟩, hbefore⟩ := hnumbers
  intro hline
  rcases List.mem_append.1 h with h | h
  · have := hbefore _ (List.mem_map_of_mem h) _ (List.mem_cons_self ..)
    rw [hline] at this
    exact Nat.lt_irrefl _ this
  · have := hafter _ (List.mem_map_of_mem h)
    rw [hline] at this
    exact Nat.lt_irrefl _ this

theorem outline_without {s' : Text}
    (h : SourceLine.texts s' = (SourceLine.texts s).eraseIdx (i.line.number - 1))
    (herror : (outline o.platform (SourceLine.split s top)).error? = none) :
    ∃ before after, outline o.platform (SourceLine.split s' top) = ⟨before ++ after, none⟩ ∧
      List.Forall₂ Item.Alike i.before before ∧ List.Forall₂ Item.Alike i.after after := by
  have hkeeps := SourceLine.keepsBlocks_leaveOut i.directive_line
  have hsplit := SourceLine.split_eraseIdx i.line_mem h
  have hgone : Item.filterMap i.line.leaveOut (.inclusion i.line i.path) = none :=
    congrArg (Option.map (Item.inclusion · i.path)) (SourceLine.leaveOut_self i.line)
  have hitems := (outline_filterMap o.platform hkeeps (SourceLine.split s top)).1
  have herror' := error?_outline_filterMap hkeeps herror
  rw [← hsplit, i.items, List.filterMap_append, List.filterMap_cons_none hgone] at hitems
  rw [← hsplit] at herror'
  refine ⟨_, _, ?_, Item.forall₂_filterMap fun item hm => i.line_ne (List.mem_append_left _ hm),
    Item.forall₂_filterMap fun item hm => i.line_ne (List.mem_append_right _ hm)⟩
  rw [← hitems, ← herror']

theorem run_line :
    (Download.included content o o.maxDepth.toNat i.line i.path).run i.start = (.ok [], i.finish) := by
  have hr : Location.resolve? i.path i.line.source = some i.target := by rw [i.source_line, i.resolved]
  rw [Download.included, Download.run_inclusion i.named hr, i.run_target]
  exact congrArg (·, i.finish) (if_pos i.expected)

/-- What a download that ends well has gone through. -/
theorem run_items {allowEmpty : Bool} {ls : List SourceLine}
    (h : ((download (.ofTexts content) o top allowEmpty).run ()).1 = .ok ls) :
    (outline o.platform (SourceLine.split s top)).error? = none ∧ ∃ a c,
      (Item.interpret (Download.included content o o.maxDepth.toNat) i.before).run ⟨[top], ()⟩ = (.ok a, i.start) ∧
      ((Item.interpret (Download.included content o o.maxDepth.toNat) i.after).run i.finish).1 = .ok c ∧
      ls = a ++ c := by
  rw [Download.run_download, i.levels_eq, Download.run_source_texts_ok List.not_mem_nil i.text] at h
  obtain ⟨ls', hitems, hrest⟩ := exists_of_run_bind h
  cases herror : (outline o.platform (SourceLine.split s top)).error? with
  | some e => rw [herror] at hrest; cases hrest
  | none =>
    rw [herror] at hrest
    obtain rfl : ls' = ls := Except.ok.inj hrest
    rw [i.items, Item.interpret_append] at hitems
    obtain ⟨a, ha, hitems⟩ := exists_of_run_bind hitems
    obtain ⟨d, hd, hls⟩ := exists_of_run_bind hitems
    obtain ⟨b, hb, hitems⟩ := exists_of_run_bind hd
    obtain ⟨c, hc, hd⟩ := exists_of_run_bind hitems
    change ((Download.included content o o.maxDepth.toNat i.line i.path).run i.start).1 = .ok b at hb
    change ((Item.interpret (Download.included content o o.maxDepth.toNat) i.after).run
      ((Download.included content o o.maxDepth.toNat i.line i.path).run i.start).2).1 = .ok c at hc
    rw [i.run_line] at hb hc
    obtain rfl : [] = b := Except.ok.inj hb
    obtain rfl : c = d := Except.ok.inj hd
    obtain rfl : a ++ c = ls' := Except.ok.inj hls
    exact ⟨rfl, a, c, Prod.ext ha rfl, hc, rfl⟩

open Download in
/-- Without the line, the items give the same texts. -/
theorem run_without {content' : Text → Except FetchError Text} (hcontent : ∀ x, x ≠ top → content' x = content x)
    (hexpected : ∀ x e, content x = .error e → e.isExpected) {before after : List Item}
    (hbefore : List.Forall₂ Item.Alike i.before before) (hafter : List.Forall₂ Item.Alike i.after after)
    {a c : List SourceLine}
    (ha : (Item.interpret (included content o o.maxDepth.toNat) i.before).run ⟨[top], ()⟩ = (.ok a, i.start))
    (hc : ((Item.interpret (included content o o.maxDepth.toNat) i.after).run i.finish).1 = .ok c)
    (hgot : wp (Item.interpret (included content' o o.maxDepth.toNat) (before ++ after))
      (fun _ q => ∀ x ∈ q.visited, ¬ i.Got x) ⟨[top], ()⟩) :
    wp (Item.interpret (included content' o o.maxDepth.toNat) (before ++ after))
      (fun r _ => ∃ ls, r = .ok ls ∧ ls.map SourceLine.text = (a ++ c).map SourceLine.text) ⟨[top], ()⟩ := by
  rw [wp, Item.run_interpret_append] at hgot ⊢
  rcases hbr : (Item.interpret (included content' o o.maxDepth.toNat) before).run ⟨[top], ()⟩ with ⟨r, p⟩
  rw [hbr] at hgot
  -- before the inclusion both runs have met the same
  have hfirst : Agree [top] [] p.visited (Item.interpret (included content o o.maxDepth.toNat) i.before)
      (Item.interpret (included content' o o.maxDepth.toNat) before) :=
    .interpret (.included hcontent (List.mem_singleton_self top) fun x hx => absurd hx List.not_mem_nil)
      .included hbefore
  have hfirst := hfirst ⟨[top], ()⟩ ⟨[top], ()⟩ (fun x => by simp) (List.Subset.refl _)
    (by rw [hbr]; exact List.Subset.refl _)
  rw [ha, hbr] at hfirst
  obtain ⟨htexts, hp⟩ := hfirst
  obtain ⟨a', rfl, ha'⟩ := exists_of_textsOf_eq_ok htexts.symm
  have hstart : i.start.visited ⊆ p.visited := fun x hx => ((hp x).1 hx).resolve_right List.not_mem_nil
  rcases hcr : (Item.interpret (included content' o o.maxDepth.toNat) after).run p with ⟨r, q⟩
  dsimp only at hgot ⊢
  rw [hcr] at hgot ⊢
  have hgot : ∀ x ∈ q.visited, ¬ i.Got x := by cases r <;> exact hgot
  -- behind it the first run has met what the inclusion has met
  have htop : top ∈ i.start.visited :=
    KeepsMet.interpret KeepsMet.included i.before ⟨[top], ()⟩ (List.mem_singleton_self top)
  have hlacks : Lacks i.finish.visited i.finish p := fun x => by
    have hkeep := KeepsMet.source (f := .ofTexts content) (o := o) o.maxDepth.toNat i.target true i.start
    exact ⟨.inr, fun hx => hx.elim (fun h => hkeep ((hp x).2 (.inl h))) id⟩
  have hagain : FailsAgain (.ofTexts content') o o.maxDepth.toNat i.start.visited i.finish.visited q.visited := by
    refine failsAgain_of_fails hcontent hexpected htop i.run_target i.expected fun x hx hleft hnew => ?_
    by_contra hn
    obtain ⟨hne, herror⟩ := not_or.1 hn
    cases hcx : content x with
    | error e => exact herror ⟨e, hcx⟩
    | ok t => exact hgot x hx ⟨hleft, hnew, hne, t, hcx⟩
  have hsecond : Agree i.start.visited i.finish.visited q.visited
      (Item.interpret (included content o o.maxDepth.toNat) i.after)
      (Item.interpret (included content' o o.maxDepth.toNat) after) :=
    .interpret (.included hcontent htop hagain) .included hafter
  have hsecond := hsecond i.finish p hlacks hstart (by rw [hcr]; exact List.Subset.refl _)
  rw [hc, hcr] at hsecond
  obtain ⟨c', rfl, hc'⟩ := exists_of_textsOf_eq_ok hsecond.1.symm
  exact ⟨a' ++ c', rfl, by rw [List.map_append, List.map_append, ha', hc']⟩

end FailedInclusion

open Download in
/-- A download that ends well gives the same texts without the line of an inclusion that fails, unless it then
fetches a source that the inclusion had the text of and that is not the target of the inclusion itself. -/
theorem download_without_failed {content : Text → Except FetchError Text} {o : DownloadOptions} {top s s' : Text}
    {allowEmpty : Bool} (hexpected : ∀ x e, content x = .error e → e.isExpected)
    (i : FailedInclusion content o top s)
    (hline : SourceLine.texts s' = (SourceLine.texts s).eraseIdx (i.line.number - 1)) {ls : List SourceLine}
    (h : ((download (.ofTexts content) o top allowEmpty).run ()).1 = .ok ls)
    (hgot : ∀ x ∈ Download.log (.ofTexts (Function.update content top (.ok s'))) o top allowEmpty (),
      ¬ i.Got x.location) :
    ∃ ls', ((download (.ofTexts (Function.update content top (.ok s'))) o top allowEmpty).run ()).1 = .ok ls' ∧
      ls'.map SourceLine.text = ls.map SourceLine.text := by
  obtain ⟨herror, a, c, ha, hc, rfl⟩ := i.run_items h
  obtain ⟨before, after, hout, hbefore, hafter⟩ := i.outline_without hline herror
  have hcontent : ∀ x, x ≠ top → Function.update content top (.ok s') x = content x :=
    fun x hx => Function.update_of_ne hx ..
  have htop : Function.update content top (.ok s') top = .ok s' := Function.update_self ..
  have hlog := fun x =>
    (mem_visited_iff_mem_log (.ofTexts (Function.update content top (.ok s'))) o top allowEmpty () x).1
  rw [i.levels_eq, run_source_texts_ok List.not_mem_nil htop, hout, Outline.interpret_none] at hlog
  rw [run_download, i.levels_eq, run_source_texts_ok List.not_mem_nil htop, hout, Outline.interpret_none]
  refine i.run_without hcontent hexpected hbefore hafter ha hc fun x hx => ?_
  obtain ⟨y, hy, rfl⟩ := hlog x hx
  exact hgot y hy

/-- A source with an inclusion that fails behind one of its own, and one of another source. -/
def openBlockTexts (location : Text) : Except FetchError Text :=
  if location = "main".toList then .ok "||a^\n!#include open\n!#include good\n".toList
  else if location = "open".toList then .ok "||b^\n!#include lost\n!#if x\n".toList
  else if location = "good".toList then .ok "||c^\n!#include open\n".toList
  else .error (.missing location)

theorem isExpected_of_openBlockTexts : ∀ x e, openBlockTexts x = .error e → e.isExpected := by
  intro x e h
  rw [openBlockTexts] at h
  split at h
  · cases h
  split at h
  · cases h
  split at h
  · cases h
  · obtain rfl := Except.error.inj h
    rfl

/-- The inclusion of a source whose block is not closed. -/
def openInclusion :
    FailedInclusion openBlockTexts {} "main".toList "||a^\n!#include open\n!#include good\n".toList where
  before := [.content ⟨"||a^".toList, "main".toList, 1⟩]
  line := ⟨"!#include open".toList, "main".toList, 2⟩
  path := "open".toList
  after := [.inclusion ⟨"!#include good".toList, "main".toList, 3⟩ "good".toList]
  target := "open".toList
  error := .directive (.unterminated ⟨"!#if x".toList, "open".toList, 3⟩)
  text := rfl
  items := by decide +kernel
  named := by decide
  resolved := by decide +kernel
  expected := rfl
  fails := eq_error_of_mem_errorOf? (by decide +kernel)

theorem download_without_failed_openBlock :
    ∃ ls, ((download (.ofTexts (Function.update openBlockTexts "main".toList (.ok "||a^\n!#include good\n".toList))) {}
        "main".toList false).run ()).1 = .ok ls ∧
      ls.map SourceLine.text = ["||a^".toList, "||c^".toList] := by
  have hrun : ((download (.ofTexts openBlockTexts) {} "main".toList false).run ()).1 =
      .ok [⟨"||a^".toList, "main".toList, 1⟩, ⟨"||c^".toList, "good".toList, 1⟩] :=
    eq_ok_of_mem_toOption (by decide +kernel)
  refine download_without_failed isExpected_of_openBlockTexts openInclusion (by decide +kernel) hrun fun x hx hgot => ?_
  have hlog : ∀ x ∈ Download.log
      (.ofTexts (Function.update openBlockTexts "main".toList (.ok "||a^\n!#include good\n".toList))) {}
      "main".toList false (), x.location ∈ openInclusion.start.visited ∨
        x.location ∉ openInclusion.finish.visited ∨ x.location = openInclusion.target ∨
        x.location = "lost".toList := by decide +kernel
  obtain ⟨hfinish, hstart, hne, t, ht⟩ := hgot
  rcases hlog x hx with h | h | h | h
  · exact hstart h
  · exact h hfinish
  · exact hne h
  · rw [h] at ht
    cases ht

/-- A source whose first inclusion fails when it has had the text of the second. -/
def sharedTexts (location : Text) : Except FetchError Text :=
  if location = "main".toList then .ok "!#include open\n!#include good\n".toList
  else if location = "open".toList then .ok "!#include good\n!#if x\n".toList
  else .ok "||g^\n".toList

/-- The inclusion of the source that fails. -/
def sharingInclusion : FailedInclusion sharedTexts {} "main".toList "!#include open\n!#include good\n".toList where
  before := []
  line := ⟨"!#include open".toList, "main".toList, 1⟩
  path := "open".toList
  after := [.inclusion ⟨"!#include good".toList, "main".toList, 2⟩ "good".toList]
  target := "open".toList
  error := .directive (.unterminated ⟨"!#if x".toList, "open".toList, 2⟩)
  text := rfl
  items := by decide +kernel
  named := by decide
  resolved := by decide +kernel
  expected := rfl
  fails := eq_error_of_mem_errorOf? (by decide +kernel)

/-- What a failed inclusion has met is not had again. -/
theorem download_without_failed_changes :
    (∀ x e, sharedTexts x = .error e → e.isExpected) ∧
    ∃ i : FailedInclusion sharedTexts {} "main".toList "!#include open\n!#include good\n".toList,
      SourceLine.texts "!#include good\n".toList =
        (SourceLine.texts "!#include open\n!#include good\n".toList).eraseIdx (i.line.number - 1) ∧
      ∃ ls ls', ((download (.ofTexts sharedTexts) {} "main".toList false).run ()).1 = .ok ls ∧
        ((download (.ofTexts (Function.update sharedTexts "main".toList (.ok "!#include good\n".toList))) {}
          "main".toList false).run ()).1 = .ok ls' ∧
        ls'.map SourceLine.text ≠ ls.map SourceLine.text := by
  refine ⟨fun x e h => ?_, sharingInclusion, by decide +kernel, [], [⟨"||g^".toList, "good".toList, 1⟩],
    eq_ok_of_mem_toOption (by decide +kernel), eq_ok_of_mem_toOption (by decide +kernel), by decide⟩
  rw [sharedTexts] at h
  split at h
  · cases h
  split at h <;> cases h

end Blocklist
