import Blocklist.Proofs.Filter.Expression

/-!
# What globs match

`Divides glob p rest`: the pieces of a glob between its maximal runs of stars are `p` and then `rest`. A glob has
exactly one such list of pieces, and matches the lines that are, when case is ignored, these pieces with any texts
in the gaps between them (`read_glob_iff`). A line feed at the end of a line is not looked at (`Fits`).
-/

namespace Blocklist.Glob

/-- Equal when case is ignored. -/
def Alike (s t : Text) : Prop := s.map Case.fold = t.map Case.fold

/-- `s` is alike to `t`, but for a line feed that may stand at its end. -/
def Fits (s t : Text) : Prop := ∃ l, (s = l ∨ s = l ++ ['\n']) ∧ Alike l t

/-- Each piece behind the text in the gap in front of it. -/
def thread (gaps rest : List Text) : Text := (List.zipWith (· ++ ·) gaps rest).flatten

/-- `p`, and then each piece of `rest` behind the text in the gap in front of it. -/
def weave (p : Text) (gaps rest : List Text) : Text := p ++ thread gaps rest

/-- The pieces of a glob: there are no stars in them, and between any two of them are some stars and nothing else. Only
the first and the last may be empty, for all stars of a run are together. -/
structure Divides (glob p : Text) (rest : List Text) : Prop where
  plain : ∀ q ∈ p :: rest, '*' ∉ q
  inner : ∀ q ∈ rest.dropLast, q ≠ []
  woven : ∃ runs : List Text, runs.length = rest.length ∧ (∀ r ∈ runs, r ≠ [] ∧ ∀ c ∈ r, c = '*') ∧
    glob = weave p runs rest

variable {c : Char} {p q s t r : Text} {rest : List Text}

namespace Alike

theorem refl (s : Text) : Alike s s := rfl

theorem append {s' t' : Text} (h : Alike s t) (h' : Alike s' t') : Alike (s ++ s') (t ++ t') := by
  rw [Alike, List.map_append, List.map_append, h, h']

theorem eq_nil (h : Alike s []) : s = [] := List.map_eq_nil_iff.1 h

/-- What is alike to two texts in a row is two texts in a row. -/
theorem of_append (h : Alike s (t ++ r)) : ∃ a b, s = a ++ b ∧ Alike a t ∧ Alike b r := by
  rw [Alike, List.map_append] at h
  obtain ⟨a, b, rfl, ha, hb⟩ := List.map_eq_append_iff.1 h
  exact ⟨a, b, rfl, ha, hb⟩

theorem cons_iff {d : Char} : Alike (c :: s) (d :: t) ↔ Case.fold c = Case.fold d ∧ Alike s t := by
  rw [Alike, List.map_cons, List.map_cons, List.cons.injEq, Alike]

end Alike

theorem fits_nil_iff : Fits s [] ↔ s = [] ∨ s = ['\n'] := by
  constructor
  · rintro ⟨l, hs, hl⟩
    rwa [hl.eq_nil] at hs
  · exact fun hs => ⟨[], hs, .refl []⟩

theorem fits_append_iff : Fits s (t ++ r) ↔ ∃ a u, s = a ++ u ∧ Alike a t ∧ Fits u r := by
  constructor
  · rintro ⟨l, hs, hl⟩
    obtain ⟨a, l, rfl, ha, hl⟩ := hl.of_append
    rcases hs with rfl | rfl
    · exact ⟨a, l, rfl, ha, l, .inl rfl, hl⟩
    · exact ⟨a, l ++ ['\n'], List.append_assoc .., ha, l, .inr rfl, hl⟩
  · rintro ⟨a, u, rfl, ha, l, rfl | rfl, hl⟩
    · exact ⟨a ++ u, .inl rfl, ha.append hl⟩
    · exact ⟨a ++ l, .inr (List.append_assoc ..).symm, ha.append hl⟩

theorem fits_iff_of_no_feed (h : '\n' ∉ s) : Fits s t ↔ Alike s t := by
  constructor
  · rintro ⟨l, rfl | rfl, hl⟩
    · exact hl
    · exact absurd (by simp) h
  · exact fun hs => ⟨s, .inl rfl, hs⟩

theorem thread_nil (gaps : List Text) : thread gaps [] = [] := by
  rw [thread, List.zipWith_nil_right, List.flatten_nil]

theorem thread_cons (w q : Text) (gaps rest : List Text) :
    thread (w :: gaps) (q :: rest) = w ++ (q ++ thread gaps rest) := by
  rw [thread, List.zipWith_cons_cons, List.flatten_cons, List.append_assoc, thread]

/-! ### Matching -/

theorem dropFolded?_eq_some_iff : dropFolded? p s = some r ↔ ∃ a, s = a ++ r ∧ Alike a p := by
  induction p generalizing s with
  | nil =>
    rw [dropFolded?, Option.some.injEq]
    constructor
    · rintro rfl
      exact ⟨[], rfl, .refl []⟩
    · rintro ⟨a, rfl, ha⟩
      rw [ha.eq_nil, List.nil_append]
  | cons c p ih =>
    cases s with
    | nil =>
      refine iff_of_false (by simp [dropFolded?]) ?_
      rintro ⟨a, ha, halike⟩
      rw [(List.append_eq_nil_iff.1 ha.symm).1] at halike
      cases halike
    | cons d s =>
      rw [dropFolded?]
      constructor
      · intro h
        split at h
        · rename_i hc
          obtain ⟨a, rfl, ha⟩ := ih.1 h
          exact ⟨d :: a, rfl, Alike.cons_iff.2 ⟨hc.symm, ha⟩⟩
        · cases h
      · rintro ⟨a, ha, halike⟩
        cases a with
        | nil => cases halike
        | cons e a =>
          obtain ⟨rfl, rfl⟩ := List.cons.inj ha
          obtain ⟨hc, halike⟩ := Alike.cons_iff.1 halike
          rw [if_pos hc.symm]
          exact ih.2 ⟨a, rfl, halike⟩

/-- Behind the first piece, the others are matched. -/
theorem matchPieces_cons_iff : matchPieces (p :: rest) s ↔ ∃ a u, s = a ++ u ∧ Alike a p ∧ matchRest rest u := by
  rw [matchPieces]
  constructor
  · intro h
    split at h
    · rename_i u hdrop
      obtain ⟨a, hs, ha⟩ := dropFolded?_eq_some_iff.1 hdrop
      exact ⟨a, u, hs, ha, h⟩
    · cases h
  · rintro ⟨a, u, hs, ha, h⟩
    rw [dropFolded?_eq_some_iff.2 ⟨a, hs, ha⟩]
    exact h

theorem matchRest_cons_iff : matchRest (q :: rest) s ↔ ∃ w t, s = w ++ t ∧ matchPieces (q :: rest) t := by
  rw [matchRest, List.any_eq_true]
  constructor
  · rintro ⟨t, ht, h⟩
    obtain ⟨w, rfl⟩ := mem_ends_iff.1 ht
    exact ⟨w, t, rfl, h⟩
  · rintro ⟨w, t, rfl, h⟩
    exact ⟨t, mem_ends_iff.2 (List.suffix_append w t), h⟩

/-- Pieces match what is alike to them with any texts in the gaps. -/
theorem matchRest_iff :
    matchRest rest s ↔ ∃ gaps : List Text, gaps.length = rest.length ∧ Fits s (thread gaps rest) := by
  induction rest generalizing s with
  | nil =>
    rw [matchRest, Bool.or_eq_true, decide_eq_true_eq, decide_eq_true_eq, ← fits_nil_iff]
    constructor
    · exact fun h => ⟨[], rfl, h⟩
    · rintro ⟨gaps, -, h⟩
      rwa [thread_nil] at h
  | cons q rest ih =>
    simp only [matchRest_cons_iff, matchPieces_cons_iff, ih]
    constructor
    · rintro ⟨w, t, rfl, a, u, rfl, ha, gaps, hlength, hu⟩
      refine ⟨w :: gaps, congrArg (· + 1) hlength, ?_⟩
      rw [thread_cons]
      exact fits_append_iff.2 ⟨w, a ++ u, rfl, .refl w, fits_append_iff.2 ⟨a, u, rfl, ha, hu⟩⟩
    · rintro ⟨gaps, hlength, h⟩
      obtain ⟨w, gaps, rfl⟩ := List.exists_cons_of_length_eq_add_one hlength
      rw [thread_cons] at h
      -- the text of the first gap is what stands in the line in its place
      obtain ⟨w', t, rfl, -, h⟩ := fits_append_iff.1 h
      obtain ⟨a, u, rfl, ha, hu⟩ := fits_append_iff.1 h
      exact ⟨w', a ++ u, rfl, a, u, rfl, ha, gaps, Nat.succ.inj hlength, hu⟩

theorem matchPieces_iff :
    matchPieces (p :: rest) s ↔ ∃ gaps : List Text, gaps.length = rest.length ∧ Fits s (weave p gaps rest) := by
  simp only [matchPieces_cons_iff, matchRest_iff, weave, fits_append_iff]
  constructor
  · rintro ⟨a, u, hs, ha, gaps, hlength, hu⟩
    exact ⟨gaps, hlength, a, u, hs, ha, hu⟩
  · rintro ⟨gaps, hlength, a, u, hs, ha, hu⟩
    exact ⟨a, u, hs, ha, gaps, hlength, hu⟩

/-! ### Pieces -/

theorem collapseStars_append (h : '*' ∉ p) (s : Text) : collapseStars (p ++ s) = p ++ collapseStars s := by
  induction p with
  | nil => rfl
  | cons c p ih =>
    rw [List.mem_cons, not_or] at h
    rw [List.cons_append, collapseStars, ih h.2, List.cons_append]
    intro u hc
    exact absurd hc.symm h.1

theorem collapseStars_stars (hne : r ≠ []) (hr : ∀ c ∈ r, c = '*') (ht : t.head? ≠ some '*') :
    collapseStars (r ++ t) = '*' :: collapseStars t := by
  induction r with
  | nil => exact absurd rfl hne
  | cons c r ih =>
    obtain rfl := hr c (List.mem_cons_self ..)
    cases r with
    | nil =>
      rw [List.singleton_append, collapseStars]
      rintro u - rfl
      exact ht rfl
    | cons d r =>
      obtain rfl := hr d (by simp)
      rw [List.cons_append, List.cons_append, collapseStars]
      exact ih (by simp) fun e he => hr e (List.mem_cons_of_mem _ he)

theorem pieces_of_plain (h : '*' ∉ p) : pieces p = [p] := by
  have hcollapse := collapseStars_append h []
  rw [List.append_nil, collapseStars, List.append_nil] at hcollapse
  rw [pieces, hcollapse]
  refine Text.splitWhere_word fun c hc => ?_
  exact decide_eq_false (by rintro rfl; exact h hc)

theorem pieces_append (h : '*' ∉ p) (hne : r ≠ []) (hr : ∀ c ∈ r, c = '*')
    (ht : t.head? ≠ some '*') : pieces (p ++ (r ++ t)) = p :: pieces t := by
  rw [pieces, collapseStars_append h, collapseStars_stars hne hr ht]
  refine Text.splitWhere_word_append (fun c hc => ?_) rfl _
  exact decide_eq_false (by rintro rfl; exact h hc)

namespace Divides

theorem head?_ne (h : Divides s p rest) (hp : p = [] → rest = []) : s.head? ≠ some '*' := by
  obtain ⟨runs, -, -, rfl⟩ := h.woven
  cases p with
  | nil =>
    rw [hp rfl, weave, thread_nil]
    exact nofun
  | cons c p =>
    intro hc
    obtain rfl : c = '*' := Option.some.inj hc
    exact h.plain _ (List.mem_cons_self ..) (List.mem_cons_self ..)

theorem of_cons (h : Divides s p (q :: rest)) :
    ∃ r t, s = p ++ (r ++ t) ∧ r ≠ [] ∧ (∀ c ∈ r, c = '*') ∧ t.head? ≠ some '*' ∧ Divides t q rest := by
  obtain ⟨runs, hlength, hruns, rfl⟩ := h.woven
  obtain ⟨r, runs, rfl⟩ := List.exists_cons_of_length_eq_add_one hlength
  have hrest : Divides (weave q runs rest) q rest := by
    refine ⟨fun u hu => h.plain u (List.mem_cons_of_mem _ hu), fun u hu => h.inner u ?_, runs,
      Nat.succ.inj hlength, fun u hu => hruns u (List.mem_cons_of_mem _ hu), rfl⟩
    cases rest with
    | nil => cases hu
    | cons v rest => exact List.mem_cons_of_mem q hu
  refine ⟨r, weave q runs rest, by rw [weave, thread_cons, weave], (hruns r (by simp)).1, (hruns r (by simp)).2,
    hrest.head?_ne fun hq => ?_, hrest⟩
  -- an empty piece is not followed by another
  cases rest with
  | nil => rfl
  | cons u rest => exact absurd hq (h.inner q (by simp))

/-- A glob has no other pieces than those that it is cut into. -/
theorem pieces_eq (h : Divides s p rest) : pieces s = p :: rest := by
  induction rest generalizing s p with
  | nil =>
    obtain ⟨runs, -, -, rfl⟩ := h.woven
    rw [weave, thread_nil, List.append_nil]
    exact pieces_of_plain (h.plain p (List.mem_cons_self ..))
  | cons q rest ih =>
    obtain ⟨r, t, rfl, hne, hr, ht, hrest⟩ := h.of_cons
    rw [pieces_append (h.plain p (List.mem_cons_self ..)) hne hr ht, ih hrest]

theorem cons_plain (h : Divides s p rest) (hc : c ≠ '*') : Divides (c :: s) (c :: p) rest := by
  obtain ⟨runs, hlength, hruns, rfl⟩ := h.woven
  refine ⟨fun u hu => ?_, h.inner, runs, hlength, hruns, rfl⟩
  rcases List.mem_cons.1 hu with rfl | hu
  · rw [List.mem_cons, not_or]
    exact ⟨Ne.symm hc, h.plain p (List.mem_cons_self ..)⟩
  · exact h.plain u (List.mem_cons_of_mem _ hu)

/-- A star in front of a run belongs to the run. -/
theorem cons_star_of_nil (h : Divides s [] (q :: rest)) : Divides ('*' :: s) [] (q :: rest) := by
  obtain ⟨runs, hlength, hruns, rfl⟩ := h.woven
  obtain ⟨r, runs, rfl⟩ := List.exists_cons_of_length_eq_add_one hlength
  refine ⟨h.plain, h.inner, ('*' :: r) :: runs, hlength, fun u hu => ?_, by
    rw [weave, weave, thread_cons, thread_cons]; rfl⟩
  rcases List.mem_cons.1 hu with rfl | hu
  · exact ⟨List.cons_ne_nil _ _, fun c hc => (List.mem_cons.1 hc).elim id ((hruns r (by simp)).2 c)⟩
  · exact hruns u (List.mem_cons_of_mem _ hu)

theorem cons_star (h : Divides s p rest) (hp : p = [] → rest = []) : Divides ('*' :: s) [] (p :: rest) := by
  obtain ⟨runs, hlength, hruns, rfl⟩ := h.woven
  refine ⟨fun u hu => ?_, fun u hu => ?_, ['*'] :: runs, congrArg (· + 1) hlength, fun u hu => ?_, by
    rw [weave, weave, thread_cons]; rfl⟩
  · rcases List.mem_cons.1 hu with rfl | hu
    · exact List.not_mem_nil
    · exact h.plain u hu
  · cases rest with
    | nil => cases hu
    | cons v rest =>
      rcases List.mem_cons.1 hu with rfl | hu
      · exact fun hnil => absurd (hp hnil) (List.cons_ne_nil _ _)
      · exact h.inner u hu
  · rcases List.mem_cons.1 hu with rfl | hu
    · exact ⟨List.cons_ne_nil _ _, fun c hc => List.mem_singleton.1 hc⟩
    · exact hruns u hu

end Divides

theorem exists_divides (s : Text) : ∃ p rest, Divides s p rest := by
  induction s with
  | nil => exact ⟨[], [], ⟨by simp, by simp, [], rfl, by simp, rfl⟩⟩
  | cons c s ih =>
    obtain ⟨p, rest, h⟩ := ih
    by_cases hc : c = '*'
    · subst hc
      by_cases hp : p = [] → rest = []
      · exact ⟨[], p :: rest, h.cons_star hp⟩
      · rw [Classical.not_imp] at hp
        obtain ⟨q, rest, rfl⟩ := List.exists_cons_of_ne_nil hp.2
        rw [hp.1] at h
        exact ⟨[], q :: rest, h.cons_star_of_nil⟩
    · exact ⟨c :: p, rest, h.cons_plain hc⟩

theorem divides_iff : Divides s p rest ↔ pieces s = p :: rest := by
  constructor
  · exact Divides.pieces_eq
  · intro h
    obtain ⟨q, more, hq⟩ := exists_divides s
    obtain ⟨rfl, rfl⟩ := List.cons.inj (hq.pieces_eq.symm.trans h)
    exact hq

theorem isMatch_iff (h : Divides s p rest) {line : Text} (hline : '\n' ∉ line) :
    isMatch s line ↔ ∃ gaps : List Text, gaps.length = rest.length ∧ Alike line (weave p gaps rest) := by
  simp only [isMatch, h.pieces_eq, matchPieces_iff, fits_iff_of_no_feed hline]

/-- A text with a star in it that is not written between slashes is read as a glob. -/
theorem read_eq_glob (names : Regex.CharNames) (hstar : '*' ∈ s)
    (hregex : ∀ body, body ≠ [] → s ≠ '/' :: (body ++ ['/'])) :
    Filter.read names s = .ok (.glob s) := by
  have hbody : Filter.regexBody? s = none := by
    rw [Filter.regexBody?, if_neg]
    simp only [Bool.and_eq_true, decide_eq_true_eq, not_and]
    rintro ⟨hlength, hhead⟩ hlast
    obtain ⟨t, rfl⟩ := List.head?_eq_some_iff.1 hhead
    rcases List.eq_nil_or_concat t with rfl | ⟨body, d, rfl⟩
    · simp at hlength
    · rw [List.concat_eq_append, ← List.cons_append, List.getLast?_concat, Option.some.injEq] at hlast
      subst hlast
      exact hregex body (by rintro rfl; simp at hlength) (by rw [List.concat_eq_append])
  rw [Filter.read, if_neg (List.ne_nil_of_mem hstar), hbody]
  simp [hstar]

/-- A text with a star in it that is not written between slashes is a filter, and picks the lines in which its
regular expression is found. Its pieces between the maximal runs of stars are determined, and it picks exactly the
lines that are, when case is ignored, these pieces with any texts in the gaps between them. -/
theorem read_glob_iff (names : Regex.CharNames) (hstar : '*' ∈ s)
    (hregex : ∀ body, body ≠ [] → s ≠ '/' :: (body ++ ['/'])) :
    ∃ f, Filter.read names s = .ok f ∧
      (∃ r, Regex.read names mode (expression s) = .ok r ∧ ∀ line, f.picks line = r.occursIn line) ∧
      ∃ p rest, (∀ q more, Divides s q more ↔ q = p ∧ more = rest) ∧
        ∀ line, '\n' ∉ line →
          (f.picks line ↔ ∃ gaps : List Text, gaps.length = rest.length ∧ Alike line (weave p gaps rest)) := by
  obtain ⟨p, rest, h⟩ := exists_divides s
  obtain ⟨r, hr, hoccurs⟩ := occursIn_expression names s
  refine ⟨.glob s, read_eq_glob names hstar hregex, ⟨r, hr, fun line => (hoccurs line).symm⟩, p, rest, fun q more => ?_,
    fun line hline => isMatch_iff h hline⟩
  rw [divides_iff, h.pieces_eq, List.cons.injEq, eq_comm, eq_comm (a := rest)]

/-- The dot and the parenthesis stand for themselves, the two stars for one. -/
theorem read_glob_iff_metacharacters :
    ∃ f, Filter.read (fun _ => none) "*a.**B(".toList = .ok f ∧ f.picks "xxA.yb(".toList := by
  obtain ⟨f, hread, -, p, rest, hunique, hpicks⟩ := read_glob_iff (fun _ => none) (s := "*a.**B(".toList) (by decide)
    fun _ _ h => absurd (List.cons.inj h).1 (by decide)
  obtain ⟨rfl, rfl⟩ := (hunique [] ["a.".toList, "B(".toList]).1 (divides_iff.2 rfl)
  exact ⟨f, hread, (hpicks _ (by decide)).2 ⟨["xx".toList, "y".toList], rfl, rfl⟩⟩

end Blocklist.Glob
