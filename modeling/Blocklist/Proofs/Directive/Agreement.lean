import Mathlib.Data.List.Forall2
import Blocklist.Proofs.Directive.Fetches
import Blocklist.Proofs.Directive.Outline

/-!
# Downloads that met more before

Two downloads from texts at hand, one of which met the sources of a list `left` before it starts, while the
other one did not: it `Lacks` them. What they have to say of the same inclusions has the same texts
(`Agree.included`), as long as the sources of `left` come to nothing wherever the second download finds them
(`FailsAgain`). What the second one meets is bounded by a list `within`, so that nothing has to be known of
sources that it does not meet.
-/

namespace Blocklist

/-- Items that differ in nothing but the numbers of their lines. -/
inductive Item.Alike : Item → Item → Prop
  | content {l l' : SourceLine} (h : l.text = l'.text) : Alike (.content l) (.content l')
  | inclusion {l l' : SourceLine} {path : Text} (h : l.source = l'.source) :
    Alike (.inclusion l path) (.inclusion l' path)

theorem Item.Alike.refl (item : Item) : Alike item item := by
  cases item with
  | content l => exact .content rfl
  | inclusion l path => exact .inclusion rfl

namespace Download
open Attempt

/-! ### What was met stays met -/

section
variable {σ : Type} {f : Fetcher σ} {o : DownloadOptions}

/-- The attempt forgets no source that was met. -/
def KeepsMet (x : Attempt DownloadError (Progress σ) (List SourceLine)) : Prop :=
  ∀ p, wp x (fun _ p' => p.visited ⊆ p'.visited) p

namespace KeepsMet

theorem inclusion {download : Text → Attempt DownloadError (Progress σ) (List SourceLine)}
    (h : ∀ location, KeepsMet (download location)) (l : SourceLine) (path : Text) :
    KeepsMet (inclusion f download l path) := fun p =>
  wp_inclusion (I := fun p' => p.visited ⊆ p'.visited) (fun _ _ hp => hp)
    (fun location _ _ p' hp' => wp_mono (h location p') fun _ _ hp'' => List.Subset.trans hp' hp'') p
    (List.Subset.refl _)

theorem interpret {inclusion : SourceLine → Text → Attempt DownloadError (Progress σ) (List SourceLine)}
    (h : ∀ l path, KeepsMet (inclusion l path)) (items : List Item) : KeepsMet (Item.interpret inclusion items) :=
  fun p => wp_mono (Item.wp_interpret_keeps inclusion (I := fun p' => p.visited ⊆ p'.visited)
    (E := fun _ _ => True) items (fun l path _ p' hp' => wp_mono (h l path p') fun _ _ hp'' =>
      ⟨List.Subset.trans hp' hp'', fun _ _ => trivial⟩) p (List.Subset.refl _)) fun _ _ hp' => hp'.1

theorem fetched {download : Text → Attempt DownloadError (Progress σ) (List SourceLine)}
    (h : ∀ location, KeepsMet (download location)) (platform : Option Text) (location : Text) (allowEmpty : Bool) :
    KeepsMet (do
      let s ← fetchText f location allowEmpty
      expand platform (Download.inclusion f download) (SourceLine.split s location)) := by
  intro p
  refine wp_bind (wp_of_run (run_fetchText ..) ?_)
  rcases (f.fetch location allowEmpty p.state).1 with e | s
  · exact List.Subset.refl _
  · refine wp_expand (I := fun p' : Progress σ => p.visited ⊆ p'.visited) (fun l _ path _ p' hp' => ?_) _
      (List.Subset.refl _)
    exact wp_mono (inclusion h l path p') fun _ _ hp'' => List.Subset.trans hp' hp''

theorem source (levels : Nat) (location : Text) (allowEmpty : Bool) :
    KeepsMet (source f o levels location allowEmpty) := by
  induction levels generalizing location allowEmpty with
  | zero =>
    intro p
    by_cases hv : location ∈ p.visited
    · exact wp_of_run (run_source_visited hv) (List.Subset.refl _)
    · exact wp_of_run (run_source_zero hv) (List.Subset.refl _)
  | succ levels ih =>
    intro p
    by_cases hv : location ∈ p.visited
    · exact wp_of_run (run_source_visited hv) (List.Subset.refl _)
    · refine wp_of_run_eq (run_source_succ hv) (wp_mono (fetched (fun next => ih next true) _ _ _ _) fun _ p' hp' => ?_)
      exact List.Subset.trans (List.subset_cons_self _ _) hp'

end KeepsMet

/-- A source that may be fetched is met. -/
theorem wp_source_met (levels : Nat) (location : Text) (allowEmpty : Bool) (p : Progress σ) :
    wp (source f o (levels + 1) location allowEmpty) (fun _ p' => location ∈ p'.visited) p := by
  by_cases hv : location ∈ p.visited
  · exact wp_mono (KeepsMet.source (levels + 1) location allowEmpty p) fun _ _ hp => hp hv
  · refine wp_of_run_eq (run_source_succ hv) ?_
    refine wp_mono (KeepsMet.fetched (fun next => KeepsMet.source levels next true) _ _ _ _) fun _ p' hp' => ?_
    exact hp' (List.mem_cons_self ..)

end

/-! ### Two runs -/

/-- The texts of the lines that an attempt ended with. -/
def textsOf (r : Except DownloadError (List SourceLine)) : Except DownloadError (List Text) :=
  r.map (List.map SourceLine.text)

theorem exists_of_textsOf_eq_ok {r : Except DownloadError (List SourceLine)} {ls : List SourceLine}
    (h : textsOf r = textsOf (.ok ls)) : ∃ ls', r = .ok ls' ∧ ls'.map SourceLine.text = ls.map SourceLine.text := by
  cases r with
  | error e => cases h
  | ok ls' => exact ⟨ls', rfl, Except.ok.inj h⟩

theorem eq_of_textsOf_eq_error {r : Except DownloadError (List SourceLine)} {e : DownloadError}
    (h : textsOf r = textsOf (.error e)) : r = .error e := by
  cases r with
  | error e' => exact congrArg Except.error (Except.error.inj h)
  | ok ls => cases h

/-- Of the sources met in `p`, those of `left` need not be met in `p'`. -/
def Lacks (left : List Text) (p p' : Progress Unit) : Prop := ∀ x, x ∈ p.visited ↔ x ∈ p'.visited ∨ x ∈ left

/-- Started where `left` was met and where it was not, the attempts give the same texts, if all that the second
one meets is in `within`. -/
def Agree (met left within : List Text) (x y : Attempt DownloadError (Progress Unit) (List SourceLine)) : Prop :=
  ∀ p p', Lacks left p p' → met ⊆ p'.visited → (y.run p').2.visited ⊆ within →
    textsOf (x.run p).1 = textsOf (y.run p').1 ∧ Lacks left (x.run p).2 (y.run p').2

namespace Agree
variable {met left within : List Text} {x x' y y' : Attempt DownloadError (Progress Unit) (List SourceLine)}

theorem append (hx : Agree met left within x x') (hy : Agree met left within y y') (hkeeps : KeepsMet x')
    (hkeeps' : KeepsMet y') :
    Agree met left within (do let ls ← x; return ls ++ (← y)) (do let ls ← x'; return ls ++ (← y')) := by
  intro p p' hp hmet hwithin
  rw [run_bind] at hwithin ⊢
  rw [run_bind]
  have hfirst := hx p p' hp hmet
  have hfirst' := hkeeps p'
  rw [wp] at hfirst'
  rcases hxr : x.run p with ⟨r, q⟩
  rcases hyr : x'.run p' with ⟨r', q'⟩
  rw [hyr] at hwithin hfirst'
  rw [hxr, hyr] at hfirst
  cases r' with
  | error e =>
    obtain ⟨htexts, hq⟩ := hfirst hwithin
    obtain rfl := eq_of_textsOf_eq_error htexts
    exact ⟨rfl, hq⟩
  | ok ls' =>
    dsimp only at hwithin hfirst' ⊢
    rw [run_bind] at hwithin ⊢
    have hsecond := hkeeps' q'
    rw [wp] at hsecond
    rcases hyr' : y'.run q' with ⟨s', t'⟩
    rw [hyr'] at hwithin hsecond
    have hwithin' : t'.visited ⊆ within := by cases s' <;> exact hwithin
    obtain ⟨htexts, hq⟩ := hfirst (List.Subset.trans hsecond hwithin')
    obtain ⟨ls, rfl, hls⟩ := exists_of_textsOf_eq_ok htexts
    dsimp only
    rw [run_bind]
    have hrest := hy q q' hq (List.Subset.trans hmet hfirst')
    rw [hyr'] at hrest
    rcases hxr' : y.run q with ⟨s, t⟩
    rw [hxr'] at hrest
    obtain ⟨htexts', ht⟩ := hrest hwithin'
    cases s' with
    | error e =>
      obtain rfl := eq_of_textsOf_eq_error htexts'
      exact ⟨rfl, ht⟩
    | ok more' =>
      obtain ⟨more, rfl, hmore⟩ := exists_of_textsOf_eq_ok htexts'
      refine ⟨congrArg Except.ok ?_, ht⟩
      rw [List.map_append, List.map_append, hls, hmore]

theorem interpret {inclusion inclusion' : SourceLine → Text → Attempt DownloadError (Progress Unit) (List SourceLine)}
    (h : ∀ l l' path, l.source = l'.source → Agree met left within (inclusion l path) (inclusion' l' path))
    (hkeeps : ∀ l path, KeepsMet (inclusion' l path)) {items items' : List Item}
    (hitems : List.Forall₂ Item.Alike items items') :
    Agree met left within (Item.interpret inclusion items) (Item.interpret inclusion' items') := by
  induction hitems with
  | nil => exact fun p p' hp _ _ => ⟨rfl, hp⟩
  | cons hitem _ ih =>
    cases hitem with
    | content htext =>
      refine append (fun p p' hp _ _ => ⟨?_, hp⟩) ih (fun p => List.Subset.refl _) (.interpret hkeeps _)
      exact congrArg (fun s => Except.ok [s]) htext
    | inclusion hsource => exact append (h _ _ _ hsource) ih (hkeeps _ _) (.interpret hkeeps _)

theorem outline {inclusion inclusion' : SourceLine → Text → Attempt DownloadError (Progress Unit) (List SourceLine)}
    (h : ∀ l l' path, l.source = l'.source → Agree met left within (inclusion l path) (inclusion' l' path))
    (hkeeps : ∀ l path, KeepsMet (inclusion' l path)) (a : Outline) :
    Agree met left within (a.interpret inclusion) (a.interpret inclusion') := by
  have hitems : Agree met left within (Item.interpret inclusion a.items) (Item.interpret inclusion' a.items) :=
    interpret h hkeeps (List.forall₂_same.2 fun item _ => .refl item)
  rcases a with ⟨items, _ | e⟩
  · simpa [Outline.interpret] using hitems
  · intro p p' hp hmet hwithin
    simp only [Outline.interpret] at hwithin ⊢
    rw [run_bind] at hwithin ⊢
    rw [run_bind]
    have hitems := hitems p p' hp hmet
    rcases hx : (Item.interpret inclusion items).run p with ⟨r, q⟩
    rcases hy : (Item.interpret inclusion' items).run p' with ⟨r', q'⟩
    rw [hy] at hwithin
    rw [hx, hy] at hitems
    cases r' with
    | error e' =>
      obtain ⟨htexts, hq⟩ := hitems hwithin
      obtain rfl := eq_of_textsOf_eq_error htexts
      exact ⟨rfl, hq⟩
    | ok ls' =>
      obtain ⟨htexts, hq⟩ := hitems hwithin
      obtain ⟨ls, rfl, -⟩ := exists_of_textsOf_eq_ok htexts
      exact ⟨rfl, hq⟩

end Agree

/-- What an inclusion makes of the result of a download. -/
def passOver : Except DownloadError (List SourceLine) → Except DownloadError (List SourceLine)
  | .ok ls => .ok ls
  | .error e => if e.isExpected then .ok [] else .error e

theorem run_inclusion {f : Fetcher Unit} {download : Text → Attempt DownloadError (Progress Unit) (List SourceLine)}
    {l : SourceLine} {path location : Text} (hpath : path ≠ []) (hr : Location.resolve? path l.source = some location)
    (p : Progress Unit) :
    (inclusion f download l path).run p = (passOver ((download location).run p).1, ((download location).run p).2) := by
  rw [inclusion_of_some hpath hr, run_tryCatch]
  rcases (download location).run p with ⟨e | ls, q⟩
  · dsimp only [passOver]
    split <;> rfl
  · rfl

theorem Agree.inclusion {met left within : List Text} {f f' : Fetcher Unit}
    {download download' : Text → Attempt DownloadError (Progress Unit) (List SourceLine)}
    (h : ∀ location p p', Lacks left p p' → met ⊆ p'.visited → ((download' location).run p').2.visited ⊆ within →
      textsOf (passOver ((download location).run p).1) = textsOf (passOver ((download' location).run p').1) ∧
        Lacks left ((download location).run p).2 ((download' location).run p').2)
    (l l' : SourceLine) (path : Text) (hsource : l.source = l'.source) :
    Agree met left within (Download.inclusion f download l path) (Download.inclusion f' download' l' path) := by
  intro p p' hp hmet hwithin
  by_cases hpath : path = []
  · subst hpath
    rw [inclusion_nil, inclusion_nil]
    exact ⟨rfl, hp⟩
  cases hr : Location.resolve? path l'.source with
  | none =>
    rw [inclusion_of_none hpath hr, inclusion_of_none hpath (hsource ▸ hr)]
    exact ⟨rfl, hp⟩
  | some location =>
    rw [run_inclusion hpath hr] at hwithin ⊢
    rw [run_inclusion hpath (hsource ▸ hr)]
    exact h location p p' hp hmet hwithin

theorem textsOf_passOver {r r' : Except DownloadError (List SourceLine)} (h : textsOf r = textsOf r') :
    textsOf (passOver r) = textsOf (passOver r') := by
  cases r' with
  | error e => rw [eq_of_textsOf_eq_error h]
  | ok ls' =>
    obtain ⟨ls, rfl, -⟩ := exists_of_textsOf_eq_ok h
    exact h

section
variable {content content' : Text → Except FetchError Text} {o : DownloadOptions} {levels : Nat}
  {location : Text} {allowEmpty : Bool} {p : Progress Unit}

/-- The inclusions of a download from texts at hand. -/
def included (content : Text → Except FetchError Text) (o : DownloadOptions) (levels : Nat) (l : SourceLine)
    (path : Text) : Attempt DownloadError (Progress Unit) (List SourceLine) :=
  inclusion (.ofTexts content) (fun next => source (.ofTexts content) o levels next true) l path

theorem KeepsMet.included (l : SourceLine) (path : Text) : KeepsMet (included content o levels l path) :=
  .inclusion (fun next => .source levels next true) l path

theorem run_source_skipped (h : location ∈ p.visited ∨ levels = 0) :
    (source (.ofTexts content) o levels location allowEmpty).run p = (.ok [], p) := by
  by_cases hv : location ∈ p.visited
  · rw [run_source_visited hv]; rfl
  · obtain rfl := h.resolve_left hv
    rw [run_source_zero hv]; rfl

theorem run_source_texts_error {e : FetchError} (hv : location ∉ p.visited) (h : content location = .error e) :
    (source (.ofTexts content) o (levels + 1) location allowEmpty).run p =
      (.error (.fetch e), ⟨location :: p.visited, ()⟩) :=
  run_source_error hv (congrArg (·, ()) h)

theorem run_source_texts_ok {s : Text} (hv : location ∉ p.visited) (h : content location = .ok s) :
    (source (.ofTexts content) o (levels + 1) location allowEmpty).run p =
      ((outline o.platform (SourceLine.split s location)).interpret (included content o levels)).run
        ⟨location :: p.visited, ()⟩ := by
  rw [← expand_eq_interpret_outline]
  exact run_source_ok hv (congrArg (·, ()) h)

/-- Met again where it was not met, a source of `left` comes to nothing again. -/
def FailsAgain (f : Fetcher Unit) (o : DownloadOptions) (n : Nat) (met left within : List Text) : Prop :=
  ∀ x ∈ left, ∀ k < n, ∀ p, x ∉ p.visited → met ⊆ p.visited →
    ((source f o (k + 1) x true).run p).2.visited ⊆ within →
      passOver ((source f o (k + 1) x true).run p).1 = .ok [] ∧
        ((source f o (k + 1) x true).run p).2.visited ⊆ p.visited ++ left

theorem agree_source {top : Text} {met left within : List Text} {n : Nat}
    (hcontent : ∀ x, x ≠ top → content' x = content x) (htop : top ∈ met)
    (hagain : FailsAgain (.ofTexts content') o n met left within) {k : Nat} (hk : k ≤ n) (location : Text)
    (p p' : Progress Unit) (hp : Lacks left p p') (hmet : met ⊆ p'.visited)
    (hwithin : ((source (.ofTexts content') o k location true).run p').2.visited ⊆ within) :
    textsOf (passOver ((source (.ofTexts content) o k location true).run p).1) =
        textsOf (passOver ((source (.ofTexts content') o k location true).run p').1) ∧
      Lacks left ((source (.ofTexts content) o k location true).run p).2
        ((source (.ofTexts content') o k location true).run p').2 := by
  induction k generalizing location p p' with
  | zero =>
    rw [run_source_skipped (.inr rfl), run_source_skipped (.inr rfl)]
    exact ⟨rfl, hp⟩
  | succ k ih =>
    by_cases hv' : location ∈ p'.visited
    · rw [run_source_skipped (.inl ((hp location).2 (.inl hv'))), run_source_skipped (.inl hv')]
      exact ⟨rfl, hp⟩
    by_cases hleft : location ∈ left
    · -- the first run passes over the source, and the second one finds that it fails
      obtain ⟨hpass, hmore⟩ := hagain location hleft k hk p' hv' hmet hwithin
      have hkeep := KeepsMet.source (f := .ofTexts content') (o := o) (k + 1) location true p'
      rw [run_source_skipped (.inl ((hp location).2 (.inr hleft))), hpass]
      refine ⟨rfl, fun x => (hp x).trans ⟨?_, ?_⟩⟩
      · exact fun hx => hx.imp_left fun h => hkeep h
      · exact fun hx => hx.elim (fun h => List.mem_append.1 (hmore h)) .inr
    have hv : location ∉ p.visited := fun h => ((hp location).1 h).elim hv' hleft
    have hc' : content' location = content location := hcontent location fun h => hv' (hmet (h ▸ htop))
    have hlacks : Lacks left ⟨location :: p.visited, ()⟩ ⟨location :: p'.visited, ()⟩ := fun x => by
      simp only [List.mem_cons, hp x, or_assoc]
    cases hc : content location with
    | error e =>
      rw [run_source_texts_error hv hc, run_source_texts_error hv' (hc'.trans hc)]
      exact ⟨rfl, hlacks⟩
    | ok s =>
      rw [run_source_texts_ok hv' (hc'.trans hc)] at hwithin ⊢
      rw [run_source_texts_ok hv hc]
      obtain ⟨htexts, hq⟩ := Agree.outline
        (.inclusion fun next p p' hp hmet hwithin => ih (by omega) next p p' hp hmet hwithin)
        .included (outline o.platform (SourceLine.split s location))
        ⟨location :: p.visited, ()⟩ ⟨location :: p'.visited, ()⟩ hlacks
        (List.Subset.trans hmet (List.subset_cons_self _ _)) hwithin
      exact ⟨textsOf_passOver htexts, hq⟩

theorem Agree.included {top : Text} {met left within : List Text} {n : Nat}
    (hcontent : ∀ x, x ≠ top → content' x = content x) (htop : top ∈ met)
    (hagain : FailsAgain (.ofTexts content') o n met left within) (l l' : SourceLine) (path : Text)
    (hsource : l.source = l'.source) :
    Agree met left within (included content o n l path) (included content' o n l' path) :=
  .inclusion (fun location p p' hp hmet hwithin =>
    agree_source hcontent htop hagain (Nat.le_refl n) location p p' hp hmet hwithin) l l' path hsource

end

end Download
end Blocklist
