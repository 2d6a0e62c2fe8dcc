import Blocklist.Compile.Stages
import Blocklist.Proofs.Hostname.Idna
import Blocklist.Proofs.Optimize.Basic
import Blocklist.Proofs.Transform.Duplicates
import Blocklist.Proofs.Validity.Verdict

/-!
# Remarks

A remark is a comment with a space after its exclamation mark, as those with metadata are. No transformation and no
part of the optimizer makes a remark of another line (`Transformation.noNewRemarks`, `Optimize.noNewRemarks`): what
they write starts with a mark, an address or a name (`PlainStart`), and a name in ASCII has no space after its first
character.
-/

namespace Blocklist

variable {c d : Char} {b h k l s t u w : Text} {lines out : List Text} {r : AdblockRule}

/-- A line that starts with an exclamation mark and a space, up to blanks in front of them. -/
def Remark (l : Text) : Prop := ['!', ' '] <+: l.trim

/-- The remarks of `out` are those of `lines`, up to blanks around them. -/
def NoNewRemarks (out lines : List Text) : Prop := ∀ l ∈ out, Remark l → ∃ k ∈ lines, k.trim = l.trim

namespace NoNewRemarks

theorem of_subset (h : ∀ l ∈ out, l ∈ lines) : NoNewRemarks out lines := fun l hl _ => ⟨l, h l hl, rfl⟩

theorem trans {mid : List Text} (h : NoNewRemarks out mid) (h' : NoNewRemarks mid lines) : NoNewRemarks out lines := by
  intro l hl hremark
  obtain ⟨m, hm, hml⟩ := h l hl hremark
  have hremark' : Remark m := by
    rw [Remark, hml]
    exact hremark
  obtain ⟨k, hk, hkm⟩ := h' m hm hremark'
  exact ⟨k, hk, hkm.trans hml⟩

theorem map {f : Text → Text} (h : ∀ l ∈ lines, (f l).trim = l.trim ∨ ¬ Remark (f l)) :
    NoNewRemarks (lines.map f) lines := by
  intro l hl hremark
  obtain ⟨k, hk, rfl⟩ := List.mem_map.1 hl
  exact ⟨k, hk, ((h k hk).resolve_right (not_not_intro hremark)).symm⟩

end NoNewRemarks

/-! ### The start of a line -/

/-- Starts with something else than a blank, and not as a remark does. -/
def PlainStart (s : Text) : Prop :=
  ∃ c t, s = c :: t ∧ isBlank c = false ∧ (c = '!' → ∃ d ∈ t.head?, d ≠ ' ')

/-- A character that is neither blank nor an exclamation mark. -/
theorem plainStart_cons (hc : isBlank c = false) (hmark : c ≠ '!') (t : Text) : PlainStart (c :: t) :=
  ⟨c, t, rfl, hc, fun h => absurd h hmark⟩

namespace PlainStart

theorem append (h : PlainStart s) (t : Text) : PlainStart (s ++ t) := by
  obtain ⟨c, s, rfl, hc, hmark⟩ := h
  refine ⟨c, s ++ t, rfl, hc, fun h => ?_⟩
  obtain ⟨d, hd, hspace⟩ := hmark h
  exact ⟨d, by rw [List.head?_append, Option.mem_def.1 hd]; rfl, hspace⟩

theorem not_remark (h : PlainStart s) (hb : ∀ c ∈ b, isBlank c) : ¬ Remark (b ++ s) := by
  obtain ⟨c, t, rfl, hc, hmark⟩ := h
  have htrim : (b ++ c :: t).trim = c :: Text.dropEndWhile isBlank t := by
    rw [← Text.trim_cons_of_not_blank hc, Text.trim, Text.trim, Text.trimBy, Text.trimBy,
      List.dropWhile_append_of_pos hb]
  rw [Remark, htrim, List.cons_prefix_cons]
  rintro ⟨rfl, hspace⟩
  obtain ⟨d, hd, hne⟩ := hmark rfl
  have hhead : (Text.dropEndWhile isBlank t).head? = some ' ' := by
    obtain ⟨u, hu⟩ := hspace
    rw [← hu]
    rfl
  have hfirst := Text.head?_dropEndWhile isBlank t ' ' hhead
  exact hne (Option.some.inj ((Option.mem_def.1 hd).symm.trans hfirst))

theorem not_remark_self (h : PlainStart s) : ¬ Remark s := h.not_remark (b := []) (by simp)

end PlainStart

/-- The first character of a line that is no comment. -/
theorem exists_head_of_not_comment (h : isCommentOrBlank l = false) :
    ∃ c s, l.trim = c :: s ∧ isBlank c = false ∧ c ≠ '!' := by
  rw [isCommentOrBlank, Bool.or_eq_false_iff] at h
  obtain ⟨hblank, hcomment⟩ := h
  have hne : l.trim ≠ [] := by
    rw [ne_eq, Text.trim_eq_nil_iff, hblank]
    exact Bool.false_ne_true
  obtain ⟨c, s, hs⟩ := List.exists_cons_of_ne_nil hne
  refine ⟨c, s, hs, (Text.trimmed_trim l).1 c (by rw [hs]; rfl), ?_⟩
  rintro rfl
  rw [isComment, hs] at hcomment
  cases hcomment

/-- The first character of the pattern of a blocking rule. -/
theorem exists_head_of_blocking (hl : isCommentOrBlank l = false) (hr : AdblockRule.read l = .ok r)
    (hexc : r.exception = false) : ∃ c s, r.pattern = c :: s ∧ isBlank c = false ∧ c ≠ '!' := by
  obtain ⟨c, s, hs, hc, hmark⟩ := exists_head_of_not_comment hl
  obtain ⟨hne, body, htrim, -, hbody⟩ := AdblockRule.read_eq_ok_iff.1 hr
  obtain ⟨u, hu⟩ := AdblockRule.prefix_of_readBody hbody
  obtain ⟨d, p, hp⟩ := List.exists_cons_of_ne_nil hne
  rw [hexc, AdblockRule.mark_false, List.nil_append, hs, ← hu, hp] at htrim
  exact ⟨d, p, hp, (List.cons.inj htrim).1 ▸ hc, (List.cons.inj htrim).1 ▸ hmark⟩

theorem plainStart_of_read (hl : isCommentOrBlank l = false) (hr : AdblockRule.read l = .ok r) :
    r.exception ∨ PlainStart r.pattern := by
  cases hexc : r.exception with
  | true => exact .inl rfl
  | false =>
    obtain ⟨c, s, hp, hc, hmark⟩ := exists_head_of_blocking hl hr hexc
    exact .inr (hp ▸ plainStart_cons hc hmark s)

/-- The written form of a rule is no remark. -/
theorem not_remark_text (h : r.exception ∨ PlainStart r.pattern) : ¬ Remark r.text := by
  refine PlainStart.not_remark_self ?_
  rw [AdblockRule.text_eq]
  rcases h with hexc | hstart
  · rw [hexc, AdblockRule.mark_true]
    exact plainStart_cons (by decide) (by decide) _
  · cases hexc : r.exception with
    | true => exact plainStart_cons (by decide) (by decide) _
    | false =>
      obtain ⟨u, hu⟩ := AdblockRule.pattern_prefix_body r
      rw [AdblockRule.mark_false, List.nil_append, ← hu]
      exact hstart.append u

/-! ### Names in ASCII -/

namespace Idna

theorem plainStart_toAscii (hw : ∀ c ∈ w, isBlank c = false) (hstart : PlainStart w) (hdot : hasInnerDot w) :
    PlainStart (toAscii w) := by
  rw [toAscii]
  split
  · exact hstart
  cases hx : toAscii? w with
  | none => exact hstart
  | some x =>
    obtain ⟨l, p, t, hl, hp, rfl⟩ := of_toAscii? hx hdot
    have hblank : ∀ c ∈ l, isBlank c = false := fun c hc => hw c (Text.mem_of_mem_splitWhere hl c hc).2
    rcases of_labelToAscii? hp hblank with ⟨u, rfl⟩ | ⟨hne, hp⟩
    · exact plainStart_cons (by decide) (by decide) _
    · obtain ⟨c, p, rfl⟩ := List.exists_cons_of_ne_nil hne
      refine ⟨c, p ++ '.' :: t, rfl, hp c (List.mem_cons_self ..), fun _ => ?_⟩
      -- What follows is in the label, or the dot after it.
      cases p with
      | nil => exact ⟨'.', rfl, by decide⟩
      | cons d p =>
        refine ⟨d, rfl, ?_⟩
        rintro rfl
        exact absurd (hp ' ' (List.mem_cons_of_mem _ (List.mem_cons_self ..))) (by decide)

theorem isBlank_of_isNamePart (h : isNamePart c) : isBlank c = false := by
  rw [isNamePart, Bool.not_eq_true', Bool.or_eq_false_iff] at h
  exact h.1

theorem plainStart_runToAscii (hw : ∀ c ∈ w, isNamePart c) (hstart : PlainStart w) : PlainStart (runToAscii w) := by
  have hblank : ∀ c ∈ w, isBlank c = false := fun c hc => isBlank_of_isNamePart (hw c hc)
  have hwhole : PlainStart (if hasInnerDot w then toAscii w else w) := by
    split
    · rename_i hdot
      exact plainStart_toAscii hblank hstart hdot
    · exact hstart
  rw [runToAscii]
  split
  · split
    · exact plainStart_cons (by decide) (by decide) _
    · exact hwhole
  · exact hwhole

/-- The run so far and the name characters after it are written together. -/
theorem exists_namesToAsciiAfter (run s : Text) :
    ∃ t, namesToAsciiAfter run s = runToAscii (run ++ s.takeWhile isNamePart) ++ t := by
  induction s generalizing run with
  | nil => exact ⟨[], by simp [namesToAsciiAfter]⟩
  | cons c s ih =>
    rw [namesToAsciiAfter]
    split
    · rename_i hc
      obtain ⟨t, ht⟩ := ih (run ++ [c])
      refine ⟨t, ?_⟩
      rw [ht, List.takeWhile_cons_of_pos hc, List.append_assoc]
      rfl
    · rename_i hc
      refine ⟨c :: namesToAsciiAfter [] s, ?_⟩
      rw [List.takeWhile_cons_of_neg hc, List.append_nil]

theorem runToAscii_nil : runToAscii [] = [] := rfl

theorem plainStart_namesToAsciiAfter (hc : isBlank c = false) (hmark : c ≠ '!') (t : Text) :
    PlainStart (namesToAsciiAfter [] (c :: t)) := by
  by_cases hpart : isNamePart c
  · obtain ⟨u, hu⟩ := exists_namesToAsciiAfter [] (c :: t)
    rw [hu, List.nil_append, List.takeWhile_cons_of_pos hpart]
    refine (plainStart_runToAscii ?_ (plainStart_cons hc hmark _)).append u
    exact List.forall_mem_cons.2 ⟨hpart, fun d hd => List.mem_takeWhile_imp hd⟩
  · rw [namesToAsciiAfter, if_neg hpart, runToAscii_nil]
    exact plainStart_cons hc hmark _

/-- Blanks in front stay, and what follows them has a plain start as before. -/
theorem exists_namesToAscii (hb : ∀ c ∈ b, isBlank c) (hc : isBlank c = false) (hmark : c ≠ '!') (t : Text) :
    ∃ w, namesToAscii (b ++ c :: t) = b ++ w ∧ PlainStart w := by
  rw [namesToAscii]
  split
  · exact ⟨c :: t, rfl, plainStart_cons hc hmark t⟩
  refine ⟨_, ?_, plainStart_namesToAsciiAfter hc hmark t⟩
  clear * - hb
  induction b with
  | nil => rfl
  | cons d b ih =>
    rw [List.forall_mem_cons] at hb
    have hd : ¬ isNamePart d := fun hpart => by
      rw [isBlank_of_isNamePart hpart] at hb
      exact absurd hb.1 (by decide)
    rw [List.cons_append, namesToAsciiAfter, if_neg hd, runToAscii_nil, ih hb.2]
    rfl

end Idna

/-! ### Transformations -/

namespace Transform

/-- A hosts line starts with its address. -/
theorem plainStart_hosts {r r' : HostsRule} (hr : HostsRule.read l = .ok r) (hip : r'.ip = r.ip) :
    PlainStart r'.text := by
  obtain ⟨a, z, haddress, hne, ha, -⟩ := (HostsRule.proper_of_read hr).ip
  obtain ⟨c, a, rfl⟩ := List.exists_cons_of_ne_nil hne
  obtain ⟨t, ht⟩ : ∃ t, r'.text = c :: t := by
    rw [HostsRule.text, hip, haddress]
    cases r'.hostnames <;> exact ⟨_, rfl⟩
  have hc : isAddressChar c := ha c (List.mem_cons_self ..)
  rw [ht]
  refine plainStart_cons (isBlank_of_isAddressChar hc) ?_ t
  rintro rfl
  exact absurd hc (by decide)

/-- The pattern of a blocking rule has a plain start in ASCII as well. -/
theorem plainStart_asciiPattern (hl : isCommentOrBlank l = false) (hr : AdblockRule.read l = .ok r) :
    r.exception ∨ PlainStart (if r.isRegex then r.pattern else Idna.namesToAscii r.pattern) := by
  cases hexc : r.exception with
  | true => exact .inl rfl
  | false =>
    obtain ⟨c, p, hp, hc, hmark⟩ := exists_head_of_blocking hl hr hexc
    rw [hp]
    split
    · exact .inr (plainStart_cons hc hmark p)
    · obtain ⟨w, hw, hstart⟩ := Idna.exists_namesToAscii (b := []) (by simp) hc hmark p
      exact .inr (hw ▸ hstart)

/-- The names of a line can be written in ASCII without making a remark of it. -/
theorem asciiLine_trim_or (l : Text) : (asciiLine l).trim = l.trim ∨ ¬ Remark (asciiLine l) := by
  rw [asciiLine]
  split
  · exact .inl rfl
  rename_i hcomment
  obtain ⟨hcomment, -⟩ := Bool.or_eq_false_iff.1 (Bool.eq_false_iff.2 hcomment)
  right
  split
  · rename_i r hr
    refine PlainStart.not_remark_self ?_
    exact plainStart_hosts hr rfl
  split
  · rename_i r hr
    have hstart := plainStart_asciiPattern hcomment (AdblockRule.read?_eq_some_iff.1 hr)
    exact not_remark_text hstart
  · obtain ⟨c, s, htrim, hc, hmark⟩ := exists_head_of_not_comment hcomment
    obtain ⟨b, e, hl, hb, -⟩ := Text.eq_append_trim l
    rw [htrim, List.append_assoc, List.cons_append] at hl
    obtain ⟨w, hw, hstart⟩ := Idna.exists_namesToAscii hb hc hmark (s ++ e)
    rw [← hl] at hw
    rw [hw]
    exact hstart.not_remark hb

/-- An entry of a line is the line, or a rule for a hostname. -/
theorem text_of_mem_entries {e : Entry} (he : e ∈ entries l) : e.text = l ∨ ∃ t, e.text = '|' :: t := by
  have hhost (h : Text) : ∃ t, (Entry.ofHost h).text = '|' :: t := ⟨_, rfl⟩
  rw [entries] at he
  split at he
  · obtain ⟨h, -, rfl⟩ := List.mem_map.1 he
    exact .inr (hhost _)
  split at he
  · exact .inr (List.mem_singleton.1 he ▸ hhost _)
  split at he
  · exact .inl (List.mem_singleton.1 he ▸ rfl)
  split at he
  · exact .inl (List.mem_singleton.1 he ▸ rfl)
  · exact .inl (List.mem_singleton.1 he ▸ rfl)

theorem noNewRemarks_compress (lines : List Text) : NoNewRemarks (compress lines) lines := by
  intro l hl hremark
  obtain ⟨k, hk, e, he, rfl⟩ := exists_entry_of_mem_compress hl
  rcases text_of_mem_entries he with htext | ⟨t, ht⟩
  · exact ⟨k, hk, congrArg Text.trim htext.symm⟩
  · rw [ht] at hremark
    exact absurd hremark (plainStart_cons (by decide) (by decide) t).not_remark_self

theorem stripLine_trim_or (l : Text) : (stripLine l).trim = l.trim ∨ ¬ Remark (stripLine l) := by
  rw [stripLine]
  split
  · exact .inl rfl
  rename_i hcomment
  obtain ⟨hcomment, -⟩ := Bool.or_eq_false_iff.1 (Bool.eq_false_iff.2 hcomment)
  split
  · exact .inl rfl
  rename_i r hr
  split
  · have hstart := plainStart_of_read hcomment (AdblockRule.read?_eq_some_iff.1 hr)
    exact .inr (not_remark_text hstart)
  · exact .inl rfl

theorem invertLine_trim_or (l : Text) : (invertLine l).trim = l.trim ∨ ¬ Remark (invertLine l) := by
  rw [invertLine]
  split
  · exact .inl rfl
  · exact .inr (plainStart_cons (by decide) (by decide) _).not_remark_self

theorem noNewRemarks_insertFinalNewLine (lines : List Text) : NoNewRemarks (insertFinalNewLine lines) lines := by
  intro l hl hremark
  rw [insertFinalNewLine] at hl
  split at hl
  · split at hl
    · exact ⟨l, hl, rfl⟩
    · rcases List.mem_append.1 hl with hl | hl
      · exact ⟨l, hl, rfl⟩
      · rw [List.mem_singleton.1 hl] at hremark
        exact absurd (List.prefix_nil.1 hremark) (by decide)
  · exact ⟨l, hl, rfl⟩

end Transform

namespace Transformation

/-- No transformation makes a remark of another line. -/
theorem noNewRemarks (psl : SuffixList) (t : Transformation) (lines : List Text) :
    NoNewRemarks (t.run psl lines) lines := by
  cases t with
  | removeComments => exact .of_subset fun l hl => List.mem_of_mem_filter hl
  | compress => exact Transform.noNewRemarks_compress lines
  | removeModifiers => exact .map fun l _ => Transform.stripLine_trim_or l
  | validate => exact .of_subset fun l hl => (Validity.mem_validLines hl).1
  | validateAllowIp => exact .of_subset fun l hl => (Validity.mem_validLines hl).1
  | deduplicate => exact .of_subset fun l hl => Transform.mem_of_mem_deduplicate hl
  | invertAllow => exact .map fun l _ => Transform.invertLine_trim_or l
  | removeEmptyLines => exact .of_subset fun l hl => List.mem_of_mem_filter hl
  | trimLines => exact .map fun l _ => .inl (Text.trim_trim l)
  | insertFinalNewLine => exact Transform.noNewRemarks_insertFinalNewLine lines
  | convertToAscii => exact .map fun l _ => Transform.asciiLine_trim_or l

theorem noNewRemarks_runEnabled (psl : SuffixList) (order enabled : List Transformation) (lines : List Text) :
    NoNewRemarks (runEnabled psl order enabled lines) lines := by
  rw [runEnabled]
  induction order.filter (· ∈ enabled) generalizing lines with
  | nil => exact .of_subset fun l hl => hl
  | cons t order ih => exact (ih (t.run psl lines)).trans (noNewRemarks psl t lines)

end Transformation

/-! ### The optimizer -/

namespace Optimize

theorem plainStart_of_ruleOf? (hr : ruleOf? l = some r) : r.exception ∨ PlainStart r.pattern := by
  obtain ⟨hcomment, -, hread⟩ := ruleOf?_eq_some_iff.1 hr
  exact plainStart_of_read hcomment hread

theorem plainStart_simplifyPattern {p : Text} (h : PlainStart p) : PlainStart (simplifyPattern p).1 := by
  refine of_simplifyPattern (P := fun p _ => PlainStart p) ?_ ?_ ?_ h
  · intro p q n _ hq
    obtain ⟨s, m, -, rfl, -⟩ := of_slashStep? hq
    exact plainStart_cons (by decide) (by decide) _
  · intro p q n _ hq
    obtain ⟨s, -, rfl⟩ := Option.map_eq_some_iff.1 hq
    exact plainStart_cons (by decide) (by decide) _
  · intro p q n h hq
    obtain ⟨s, hs, rfl⟩ := Option.map_eq_some_iff.1 hq
    rw [Text.dropSuffix?_eq_some_iff.1 hs] at h
    obtain ⟨c, t, hct, hc, hmark⟩ := h
    cases s with
    | nil => exact plainStart_cons (by decide) (by decide) []
    | cons e s =>
      obtain ⟨rfl, rfl⟩ := List.cons.inj hct
      refine ⟨e, s ++ [separator], rfl, hc, fun he => ?_⟩
      cases s with
      | nil => exact ⟨separator, rfl, by decide⟩
      | cons d s => exact hmark he

theorem simplifyLine_trim_or (l : Text) : (simplifyLine l).1.trim = l.trim ∨ ¬ Remark (simplifyLine l).1 := by
  cases hr : ruleOf? l with
  | none => exact .inl (congrArg Text.trim (simplifyLine_of_none hr))
  | some r =>
    rw [simplifyLine_of_some hr]
    split
    · exact .inl rfl
    · exact .inr (not_remark_text ((plainStart_of_ruleOf? hr).imp_right plainStart_simplifyPattern))

theorem dropRepeatedModifiers_trim_or (l : Text) :
    (dropRepeatedModifiers l).1.trim = l.trim ∨ ¬ Remark (dropRepeatedModifiers l).1 := by
  cases hr : ruleOf? l with
  | none => exact .inl (congrArg Text.trim (dropRepeatedModifiers_of_none hr))
  | some r =>
    rw [dropRepeatedModifiers_of_some hr]
    split
    · exact .inl rfl
    · have hstart := plainStart_of_ruleOf? hr
      exact .inr (not_remark_text hstart)

theorem noNewRemarks_rewritten (settings : Settings) (lines : List Text) :
    NoNewRemarks (lines.map (rewritten settings)) lines := by
  have hsplit : lines.map (rewritten settings) =
      (lines.map fun l => if settings.optimizePatterns then (simplifyLine l).1 else l).map
        fun l => if settings.simplifyModifiers then (dropRepeatedModifiers l).1 else l := by
    rw [List.map_map]
    rfl
  rw [hsplit]
  refine NoNewRemarks.trans (.map fun l _ => ?_) (.map fun l _ => ?_)
  · split
    · exact dropRepeatedModifiers_trim_or l
    · exact .inl rfl
  · split
    · exact simplifyLine_trim_or l
    · exact .inl rfl

theorem noNewRemarks_mergeLines {threshold : Int} {all : List Text} {seen : List MergeKey} {n : Nat}
    (h : mergeLines threshold all seen lines = .ok (out, n)) : NoNewRemarks out lines := by
  intro k hk hremark
  rcases of_mem_mergeLines h hk with hk | ⟨l, -, key, r, domains, hkey, rfl⟩
  · exact ⟨k, hk, rfl⟩
  · have hstart := plainStart_of_ruleOf? (mergeable?_eq_some_iff.1 hkey).1
    exact absurd hremark (not_remark_text hstart)

/-- The optimizer makes no remark of another line. -/
theorem noNewRemarks {psl : SuffixList} {settings : Settings} {stats : Stats}
    (h : optimize psl settings lines = .ok (out, stats)) : NoNewRemarks out lines := by
  have hrewritten : NoNewRemarks ((irredundant psl settings lines).map (rewritten settings)) lines :=
    (noNewRemarks_rewritten settings _).trans (.of_subset fun l hl => mem_of_mem_irredundant hl)
  have hstages := of_optimize h
  split at hstages
  · obtain ⟨n, hmerge⟩ := hstages
    exact (noNewRemarks_mergeLines hmerge).trans hrewritten
  · rwa [hstages]

end Optimize

end Blocklist
