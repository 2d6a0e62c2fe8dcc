import Blocklist.Proofs.Rule.Kind
import Blocklist.Transform.Lines

/-!
# Blocking rules as exceptions

`read_invertLine_iff`: a blocking rule becomes the exception of the same pattern and modifiers exactly if its line has
no blanks in front. The mark goes in front of those blanks, and so they are a part of the pattern from then on; a
regular expression is then none any more, and its dollar signs set off modifiers.
-/

namespace Blocklist

variable {b l p s : Text} {ms : List Modifier} {r : AdblockRule}

/-! ### Blanks in front -/

theorem Text.not_mem_of_blank {c : Char} (hb : ∀ d ∈ b, isBlank d) (hc : isBlank c = false) : c ∉ b := by
  intro h
  rw [hb c h] at hc
  cases hc

/-- Without the blanks at its end, a text is the blanks in front of it and then what it is when trimmed. -/
theorem Text.dropEndWhile_isBlank (h : s.isBlankText = false) :
    dropEndWhile isBlank s = s.takeWhile isBlank ++ s.trim := by
  cases hs : s.dropWhile isBlank with
  | nil =>
    have hall : s.isBlankText := List.all_eq_true.2 (List.dropWhile_eq_nil_iff.1 hs)
    rw [h] at hall
    cases hall
  | cons c t =>
    have hc : isBlank c = false := head?_dropWhile isBlank s c (by rw [hs]; rfl)
    have hsplit : s.takeWhile isBlank ++ c :: t = s := by rw [← hs, List.takeWhile_append_dropWhile]
    have htrim : s.trim = c :: dropEndWhile isBlank t := by
      rw [trim, trimBy, hs, ← List.nil_append (c :: t), dropEndWhile_append_cons hc]
      rfl
    rw [htrim, ← dropEndWhile_append_cons hc, hsplit]

namespace AdblockRule

/-- Blanks in front of a body that is not written between slashes come to stand in front of the pattern. -/
theorem readBody_blanks_append (hb : ∀ c ∈ b, isBlank c) (hs : isRegexPattern s = false)
    (h : readBody s = (p, ms)) : readBody (b ++ s) = (b ++ p, ms) := by
  have hregex : isRegexPattern (b ++ s) = false := by
    cases b with
    | nil => exact hs
    | cons c b =>
      refine isRegexPattern_eq_false fun hc => ?_
      obtain rfl : c = '/' := Option.some.inj hc
      exact absurd (hb _ (List.mem_cons_self ..)) (by decide)
  have hescape : Text.escapes false b = false := Text.escapes_of_not_mem (Text.not_mem_of_blank hb (by decide))
  obtain ⟨hplain, rfl, rfl⟩ | ⟨-, o, rfl, hp, ho, rfl⟩ := of_readBody h
  · refine readBody_of_protected (Text.cutLastUnescapedAfter?_append_eq_none_iff.2 ⟨?_, ?_⟩)
    · exact Text.protected_of_not_mem (Text.not_mem_of_blank hb (by decide))
    · rw [hescape]
      exact hplain.resolve_left (by simp [hs])
  · rw [← List.append_assoc] at hregex ⊢
    refine readBody_of_cut (by rw [hregex]; exact Bool.false_ne_true) ?_ ho
    rw [Text.escapes_append, hescape, hp]

/-- Whatever is read of a body, the blanks in front of it are in front of the pattern. -/
theorem blanks_prefix_of_readBody (hb : ∀ c ∈ b, isBlank c) (h : readBody (b ++ s) = (p, ms)) : b <+: p := by
  obtain ⟨-, rfl, -⟩ | ⟨-, o, hcut, -⟩ := of_readBody h
  · exact List.prefix_append b s
  rcases List.append_eq_append_iff.1 hcut with ⟨t, rfl, -⟩ | ⟨t, rfl, hrest⟩
  · exact List.prefix_append b t
  · cases t with
    | nil => exact ⟨[], by simp⟩
    | cons c t =>
      obtain rfl := (List.cons.inj hrest).1
      exact absurd (hb '$' (by simp)) (by decide)

end AdblockRule

/-! ### The mark in front of a line -/

namespace Transform

theorem trim_mark_append (h : l.isBlankText = false) :
    (exceptionMark ++ l).trim = exceptionMark ++ (l.takeWhile isBlank ++ l.trim) := by
  rw [← Text.dropEndWhile_isBlank h]
  exact Text.trim_append_cons (s := ['@']) (fun d hd => by obtain rfl := Option.some.inj hd; decide) (by decide) l

theorem invertLine_of_blocking (hcomment : isCommentOrBlank l = false) (hhosts : isHostsLine l = false)
    (hmark : isExceptionLine l = false) : invertLine l = exceptionMark ++ l := by
  rw [invertLine, hcomment, hhosts, hmark]
  rfl

/-- A marked line is neither a comment nor a hosts line. -/
theorem read_line_mark_append (h : l.isBlankText = false) (hr : AdblockRule.read (exceptionMark ++ l) = .ok r) :
    Line.read (exceptionMark ++ l) = .ok (.adblock r) := by
  have htrim := trim_mark_append h
  exact Line.read_eq_adblock (isCommentOrBlank_eq_false htrim (by decide) (by decide))
    (isHostsLine_eq_false (p := []) htrim (by simp) (by decide) (by decide) (by decide) (by decide)) hr

/-- The body of a line that is no exception is the trimmed line. -/
theorem of_read_blocking (hmark : isExceptionLine l = false) (h : AdblockRule.read l = .ok r) :
    r.exception = false ∧ r.pattern ≠ [] ∧ AdblockRule.readBody l.trim = (r.pattern, r.modifiers) := by
  obtain ⟨hne, body, htrim, -, hbody⟩ := AdblockRule.read_eq_ok_iff.1 h
  cases hexc : r.exception with
  | true =>
    rw [hexc, AdblockRule.mark_true] at htrim
    exact absurd ⟨body, htrim.symm⟩ (Text.startsWith_eq_false_iff.1 hmark)
  | false =>
    rw [hexc, AdblockRule.mark_false, List.nil_append] at htrim
    exact ⟨rfl, hne, htrim ▸ hbody⟩

/-- The body of a marked line is the trimmed line, behind the blanks that were in front of it. -/
theorem read_mark_append (h : l.isBlankText = false) (hne : p ≠ [])
    (hbody : AdblockRule.readBody (l.takeWhile isBlank ++ l.trim) = (p, ms)) :
    AdblockRule.read (exceptionMark ++ l) = .ok ⟨true, p, ms⟩ :=
  AdblockRule.read_eq_ok_iff.2 ⟨hne, _, trim_mark_append h, nofun, hbody⟩

/-- The pattern of a blocking rule does not start with a blank. -/
theorem eq_nil_of_blank_prefix (hr : AdblockRule.read l = .ok r) (hexc : r.exception = false) (hb : ∀ c ∈ b, isBlank c)
    (h : b <+: r.pattern) : b = [] := by
  have hhead := (AdblockRule.proper_of_read hr).head_not_blank
  rw [hexc, AdblockRule.mark_false, List.nil_append] at hhead
  cases b with
  | nil => rfl
  | cons c b =>
    obtain ⟨u, hu⟩ := h
    have hc := hhead c (by rw [← hu]; rfl)
    rw [hb c (List.mem_cons_self ..)] at hc
    cases hc

/-- A blocking rule turns into an exception of the same pattern and modifiers, for the adblock grammar and for lines of
any kind, exactly if there are no blanks in front of its line. An exception it is in any case; the blanks are in front
of its pattern, and unless the rule was written between slashes, all else is as it was. -/
theorem read_invertLine_iff (hcomment : isCommentOrBlank l = false) (hhosts : isHostsLine l = false)
    (hmark : isExceptionLine l = false) (hr : AdblockRule.read l = .ok r) :
    (AdblockRule.read (invertLine l) = .ok { r with exception := true } ↔ l.takeWhile isBlank = []) ∧
    (Line.read (invertLine l) = .ok (.adblock { r with exception := true }) ↔ l.takeWhile isBlank = []) ∧
    ∃ r', AdblockRule.read (invertLine l) = .ok r' ∧ Line.read (invertLine l) = .ok (.adblock r') ∧
      r'.exception = true ∧ l.takeWhile isBlank <+: r'.pattern ∧
      (AdblockRule.isRegexPattern l.trim = false →
        r' = ⟨true, l.takeWhile isBlank ++ r.pattern, r.modifiers⟩) := by
  have hblank : l.isBlankText = false := (Bool.or_eq_false_iff.1 hcomment).1
  have hb : ∀ c ∈ l.takeWhile isBlank, isBlank c := List.all_eq_true.1 List.all_takeWhile
  obtain ⟨hexc, hne, hbody⟩ := of_read_blocking hmark hr
  obtain ⟨p, ms, hbody'⟩ : ∃ p ms, AdblockRule.readBody (l.takeWhile isBlank ++ l.trim) = (p, ms) := ⟨_, _, rfl⟩
  have hprefix := AdblockRule.blanks_prefix_of_readBody hb hbody'
  have hsame : l.takeWhile isBlank = [] → p = r.pattern ∧ ms = r.modifiers := by
    intro hnil
    rw [hnil, List.nil_append, hbody] at hbody'
    exact ⟨(Prod.mk.inj hbody').1.symm, (Prod.mk.inj hbody').2.symm⟩
  have hp : p ≠ [] := by
    rintro rfl
    exact hne (hsame (List.prefix_nil.1 hprefix)).1.symm
  have hread := read_mark_append hblank hp hbody'
  have hline := read_line_mark_append hblank hread
  -- the pattern that was read starts with no blank, the new one does if there is any
  have hiff : (⟨true, p, ms⟩ : AdblockRule) = { r with exception := true } ↔ l.takeWhile isBlank = [] := by
    constructor
    · intro heq
      obtain rfl : p = r.pattern := congrArg AdblockRule.pattern heq
      exact eq_nil_of_blank_prefix hr hexc hb hprefix
    · intro hnil
      obtain ⟨rfl, rfl⟩ := hsame hnil
      rfl
  rw [invertLine_of_blocking hcomment hhosts hmark]
  refine ⟨?_, ?_, _, hread, hline, rfl, hprefix, fun hregex => ?_⟩
  · rw [hread, Except.ok.injEq, hiff]
  · rw [hline, Except.ok.injEq, Line.adblock.injEq, hiff]
  · rw [AdblockRule.readBody_blanks_append hb hregex hbody] at hbody'
    obtain ⟨rfl, rfl⟩ := Prod.mk.inj hbody'
    rfl

/-- A regular expression is marked as it stands, with blanks only after it. -/
theorem read_invertLine_iff_regex :
    Line.read (invertLine "/ad$b/ ".toList) = .ok (.adblock ⟨true, "/ad$b/".toList, []⟩) :=
  (read_invertLine_iff (l := "/ad$b/ ".toList) (r := ⟨false, "/ad$b/".toList, []⟩) rfl rfl rfl rfl).2.1.2 rfl

/-- Blanks in front of a line get into the pattern, and a regular expression behind them is none any more: its dollar
sign sets off a modifier. -/
theorem read_invertLine_of_blank :
    Line.read " ||a.com^".toList = .ok (.adblock ⟨false, "||a.com^".toList, []⟩) ∧
      Line.read (invertLine " ||a.com^".toList) = .ok (.adblock ⟨true, " ||a.com^".toList, []⟩) ∧
      Line.read " /a$b/".toList = .ok (.adblock ⟨false, "/a$b/".toList, []⟩) ∧
      Line.read (invertLine " /a$b/".toList) = .ok (.adblock ⟨true, " /a".toList, [⟨"b/".toList, none⟩]⟩) :=
  ⟨rfl, rfl, rfl, rfl⟩

end Transform
end Blocklist
