import Blocklist.Proofs.Rule.Hosts
import Blocklist.Proofs.Rule.Modifiers

/-!
# Lines, written and read

`AdblockRule.Proper`: what reading makes of a line (`proper_of_read`). `Proper.read_text_iff`: when such
a rule is read back from its written form. `Line.read_text_iff_restorable` says it of lines of any kind,
where the written form may also be taken for a line of another kind.
-/

namespace Blocklist

namespace AdblockRule

/-- The mark of an exception, where the rule is one. -/
def mark (exception : Bool) : Text := if exception then exceptionMark else []

/-- The written form after the mark. -/
def body (r : AdblockRule) : Text :=
  if r.modifiers = [] then r.pattern else r.pattern ++ '$' :: Modifier.joined r.modifiers

/-- What is known of a rule that was read. -/
structure Proper (r : AdblockRule) : Prop where
  pattern_ne_nil : r.pattern ≠ []
  head_not_blank : ∀ c ∈ (mark r.exception ++ r.pattern).head?, isBlank c = false
  no_mark : r.exception = false → ¬ exceptionMark <+: r.pattern
  tidy : ∀ m ∈ r.modifiers, m.Tidy
  protected_joined : Text.Protected '$' (Modifier.joined r.modifiers)
  escapes_pattern : r.modifiers ≠ [] → Text.escapes false r.pattern = false

/-- A rule that its written form shows. Without modifiers, no blank is trimmed off the end, and there is
no dollar sign to look like theirs. With modifiers, the unescaped commas are those between them, and the
whole is no regular expression. -/
def Legible (r : AdblockRule) : Prop :=
  if r.modifiers = [] then
    (∀ c ∈ r.pattern.getLast?, isBlank c = false) ∧
      (isRegexPattern r.pattern ∨ Text.Protected '$' r.pattern)
  else
    (∀ m ∈ r.modifiers, ',' ∉ m.name) ∧ (∀ m ∈ r.modifiers.dropLast, m.text.getLast? ≠ some '\\') ∧
      ¬ isRegexPattern (r.pattern ++ '$' :: Modifier.joined r.modifiers)

instance : DecidablePred Legible := fun r =>
  inferInstanceAs (Decidable (if r.modifiers = [] then _ else _))

variable {r : AdblockRule} {line body p : Text} {ms : List Modifier}

theorem mark_true : mark true = exceptionMark := rfl

theorem mark_false : mark false = [] := rfl

theorem body_of_modifiers_nil (h : r.modifiers = []) : r.body = r.pattern := by
  rw [body, if_pos h]

theorem body_of_modifiers_ne_nil (h : r.modifiers ≠ []) :
    r.body = r.pattern ++ '$' :: Modifier.joined r.modifiers := by
  rw [body, if_neg h]

theorem pattern_prefix_body (r : AdblockRule) : r.pattern <+: r.body := by
  rw [body]
  split
  · exact List.prefix_rfl
  · exact List.prefix_append _ _

theorem text_eq (r : AdblockRule) : r.text = mark r.exception ++ r.body := by
  rw [text, body, mark]
  by_cases h : r.modifiers = []
  · rw [if_pos h, if_pos h, List.append_nil]
  · rw [if_neg h, if_neg h, List.append_assoc]
    rfl

theorem text_of_blocking (h : r.exception = false) : r.text = r.body := by
  rw [text_eq, h, mark_false, List.nil_append]

/-! ### Reading -/

theorem readBody_of_isRegexPattern (h : isRegexPattern body) : readBody body = (body, []) := by
  rw [readBody, if_pos h]

theorem readBody_of_cut {o : Text} (h : ¬ isRegexPattern (p ++ '$' :: o)) (hp : Text.escapes false p = false)
    (ho : Text.Protected '$' o) : readBody (p ++ '$' :: o) = (p, Modifier.readAll o) := by
  rw [readBody, if_neg h, (Text.cutLastUnescaped?_eq_some_iff (by decide)).2 ⟨rfl, hp, ho⟩]

theorem readBody_of_protected (h : Text.Protected '$' body) : readBody body = (body, []) := by
  rw [readBody]
  split
  · rfl
  · rw [show Text.cutLastUnescaped? '$' body = none from h]

/-- All ways to read a body. -/
theorem of_readBody (h : readBody body = (p, ms)) :
    ((isRegexPattern body ∨ Text.Protected '$' body) ∧ p = body ∧ ms = []) ∨
      ¬ isRegexPattern body ∧ ∃ o, body = p ++ '$' :: o ∧ Text.escapes false p = false ∧
        Text.Protected '$' o ∧ ms = Modifier.readAll o := by
  by_cases hregex : isRegexPattern body
  · rw [readBody_of_isRegexPattern hregex] at h
    obtain ⟨rfl, rfl⟩ := Prod.mk.inj h
    exact .inl ⟨.inl hregex, rfl, rfl⟩
  · cases hcut : Text.cutLastUnescaped? '$' body with
    | none =>
      rw [readBody_of_protected hcut] at h
      obtain ⟨rfl, rfl⟩ := Prod.mk.inj h
      exact .inl ⟨.inr hcut, rfl, rfl⟩
    | some cut =>
      obtain ⟨a, o⟩ := cut
      obtain ⟨rfl, ha, ho⟩ := (Text.cutLastUnescaped?_eq_some_iff (by decide)).1 hcut
      rw [readBody_of_cut hregex ha ho] at h
      obtain ⟨rfl, rfl⟩ := Prod.mk.inj h
      exact .inr ⟨hregex, o, rfl, ha, ho, rfl⟩

theorem prefix_of_readBody (h : readBody body = (p, ms)) : p <+: body := by
  obtain ⟨-, rfl, -⟩ | ⟨-, o, rfl, -⟩ := of_readBody h
  · exact List.prefix_rfl
  · exact List.prefix_append _ _

theorem exists_mark (s : Text) :
    ∃ e body, s = mark e ++ body ∧ (e = false → ¬ exceptionMark <+: body) := by
  by_cases h : exceptionMark <+: s
  · obtain ⟨body, hs⟩ := h
    exact ⟨true, body, hs.symm, fun he => by cases he⟩
  · exact ⟨false, s, rfl, fun _ => h⟩

theorem read_eq {e : Bool} (hs : line.trim = mark e ++ body)
    (he : e = false → ¬ exceptionMark <+: body) :
    read line = if body = [] then .error (.tooShort line)
      else if (readBody body).1 = [] then .error (.noPattern line)
      else .ok ⟨e, (readBody body).1, (readBody body).2⟩ := by
  have hstarts : Text.startsWith exceptionMark line.trim = e := by
    cases e with
    | true => exact Text.startsWith_iff.2 ⟨body, hs.symm⟩
    | false => exact Text.startsWith_eq_false_iff.2 (hs ▸ he rfl)
  have hremove : Text.removePrefix exceptionMark line.trim = body := by
    cases e with
    | true =>
      rw [hs, mark_true, Text.removePrefix, Text.dropPrefix?_append]
      rfl
    | false =>
      rw [hs, mark_false, List.nil_append, Text.removePrefix, Text.dropPrefix?_eq_none_iff.2 (he rfl)]
      rfl
  simp only [read, hstarts, hremove]

theorem read_eq_ok_iff :
    read line = .ok r ↔ r.pattern ≠ [] ∧ ∃ body, line.trim = mark r.exception ++ body ∧
      (r.exception = false → ¬ exceptionMark <+: body) ∧ readBody body = (r.pattern, r.modifiers) := by
  constructor
  · intro h
    obtain ⟨e, body, hs, he⟩ := exists_mark line.trim
    rw [read_eq hs he] at h
    split at h
    · cases h
    split at h
    · cases h
    · rename_i hne
      obtain rfl := Except.ok.inj h
      exact ⟨hne, body, hs, he, rfl⟩
  · rintro ⟨hne, body, hs, he, hbody⟩
    have hbody_ne : body ≠ [] := by
      rintro rfl
      exact hne (List.prefix_nil.1 (prefix_of_readBody hbody))
    rw [read_eq hs he, if_neg hbody_ne, hbody, if_neg hne]

theorem proper_of_read (h : read line = .ok r) : r.Proper := by
  obtain ⟨hne, body, hs, he, hbody⟩ := read_eq_ok_iff.1 h
  obtain ⟨u, hu⟩ := prefix_of_readBody hbody
  have hhead : ∀ c ∈ (mark r.exception ++ r.pattern).head?, isBlank c = false := by
    intro c hc
    refine (Text.trimmed_trim line).1 c ?_
    rw [hs, ← hu, ← List.append_assoc, List.head?_append, Option.mem_def.1 hc]
    rfl
  have hmark : r.exception = false → ¬ exceptionMark <+: r.pattern := fun hexc h =>
    he hexc (h.trans (prefix_of_readBody hbody))
  obtain ⟨-, -, hms⟩ | ⟨-, o, -, hp, ho, hms⟩ := of_readBody hbody
  · refine ⟨hne, hhead, hmark, ?_, ?_, fun h => absurd hms h⟩
    · rw [hms]
      exact fun m hm => by cases hm
    · rw [hms]
      exact Text.protected_nil '$'
  · refine ⟨hne, hhead, hmark, ?_, ?_, fun _ => hp⟩
    · rw [hms]
      exact fun m hm => Modifier.tidy_of_mem_readAll hm
    · rw [hms]
      exact Modifier.protected_joined_readAll ho

/-! ### Reading what was written -/

theorem not_mark_prefix_body_of_pattern (hne : r.pattern ≠ []) (hmark : ¬ exceptionMark <+: r.pattern) :
    ¬ exceptionMark <+: r.body := by
  by_cases hms : r.modifiers = []
  · rwa [body_of_modifiers_nil hms]
  rw [body_of_modifiers_ne_nil hms]
  intro hstart
  match hp : r.pattern with
  | [] => exact hne hp
  | [c] =>
    -- The mark would go on with the dollar sign.
    obtain ⟨u, hu⟩ := hstart
    rw [hp] at hu
    simp [exceptionMark] at hu
  | c :: d :: p =>
    refine hmark (List.prefix_of_prefix_length_le hstart (List.prefix_append _ _) ?_)
    rw [hp]
    exact Nat.le_add_left 2 p.length

namespace Proper

/-- A rule that was read is as good with fewer modifiers. -/
theorem of_subset (h : r.Proper) (hms : ms ⊆ r.modifiers) : ({ r with modifiers := ms } : AdblockRule).Proper := by
  refine ⟨h.pattern_ne_nil, h.head_not_blank, h.no_mark, fun m hm => h.tidy m (hms hm), ?_, ?_⟩
  · exact Modifier.protected_joined_iff.2 fun m hm => Modifier.protected_joined_iff.1 h.protected_joined m (hms hm)
  · intro hne
    refine h.escapes_pattern fun hnil => hne (List.subset_nil.1 ?_)
    rwa [hnil] at hms

theorem not_mark_prefix_body (h : r.Proper) (hexc : r.exception = false) : ¬ exceptionMark <+: r.body :=
  not_mark_prefix_body_of_pattern h.pattern_ne_nil (h.no_mark hexc)

theorem not_isBlankText_text (h : r.Proper) : ¬ r.text.isBlankText := by
  obtain ⟨c, s, hs⟩ := List.exists_cons_of_ne_nil
    (List.append_ne_nil_of_right_ne_nil (mark r.exception) h.pattern_ne_nil)
  obtain ⟨u, hu⟩ := pattern_prefix_body r
  have hc : isBlank c = false := h.head_not_blank c (by rw [hs]; rfl)
  rw [text_eq, ← hu, ← List.append_assoc, hs, Text.isBlankText, List.cons_append, List.all_cons, hc]
  exact Bool.false_ne_true

theorem text_trimmed (h : r.Proper)
    (hlast : r.modifiers = [] → ∀ c ∈ r.pattern.getLast?, isBlank c = false) : r.text.Trimmed := by
  rw [text_eq]
  by_cases hms : r.modifiers = []
  · rw [body_of_modifiers_nil hms]
    refine ⟨h.head_not_blank, ?_⟩
    rw [List.getLast?_append_of_ne_nil _ h.pattern_ne_nil]
    exact hlast hms
  · rw [body_of_modifiers_ne_nil hms, ← List.append_assoc]
    exact .append_cons h.head_not_blank (by decide) (Modifier.joined_trimmed h.tidy).2

theorem legible_of_read_text (h : r.Proper) (hread : read r.text = .ok r) : r.Legible := by
  obtain ⟨-, body, hs, -, hbody⟩ := read_eq_ok_iff.1 hread
  rw [Legible]
  split
  · rename_i hms
    have htext : r.text = mark r.exception ++ r.pattern := by rw [text_eq, body_of_modifiers_nil hms]
    have htrim : r.text.trim = r.text := by
      -- A blank that is trimmed off would be missing from the pattern.
      refine Text.trim_eq_self_of_length_le ?_
      rw [hs, htext, List.length_append, List.length_append]
      exact Nat.add_le_add_left (prefix_of_readBody hbody).length_le _
    obtain rfl : r.pattern = body := List.append_cancel_left (htext.symm.trans (htrim.symm.trans hs))
    constructor
    · have hlast := (Text.trim_eq_self_iff.1 htrim).2
      rwa [htext, List.getLast?_append_of_ne_nil _ h.pattern_ne_nil] at hlast
    · obtain ⟨hplain, -⟩ | ⟨-, o, ho, -⟩ := of_readBody hbody
      · exact hplain
      · have := congrArg List.length ho
        rw [List.length_append, List.length_cons] at this
        omega
  · rename_i hms
    have htrim : r.text.trim = r.text := Text.trim_eq_self_iff.2 (h.text_trimmed fun hnil => absurd hnil hms)
    obtain rfl : r.body = body := List.append_cancel_left ((text_eq r).symm.trans (htrim.symm.trans hs))
    rw [body_of_modifiers_ne_nil hms] at hbody
    obtain ⟨-, -, hnil⟩ | ⟨hregex, o, ho, -, -, hread⟩ := of_readBody hbody
    · exact absurd hnil hms
    · obtain rfl : Modifier.joined r.modifiers = o := (List.cons.inj (List.append_cancel_left ho)).2
      obtain ⟨hcomma, hlast⟩ := (Modifier.readAll_joined_iff h.tidy).1 hread.symm
      exact ⟨hcomma, hlast, hregex⟩

theorem read_text_of_legible (h : r.Proper) (hl : r.Legible) : read r.text = .ok r := by
  rw [Legible] at hl
  refine read_eq_ok_iff.2 ⟨h.pattern_ne_nil, r.body, ?_, h.not_mark_prefix_body, ?_⟩
  · rw [← text_eq]
    refine Text.trim_eq_self_iff.2 (h.text_trimmed fun hms => ?_)
    rw [if_pos hms] at hl
    exact hl.1
  · by_cases hms : r.modifiers = []
    · rw [if_pos hms] at hl
      rw [body_of_modifiers_nil hms, hms]
      rcases hl.2 with hregex | hprotected
      · exact readBody_of_isRegexPattern hregex
      · exact readBody_of_protected hprotected
    · rw [if_neg hms] at hl
      obtain ⟨hcomma, hlast, hregex⟩ := hl
      rw [body_of_modifiers_ne_nil hms, readBody_of_cut hregex (h.escapes_pattern hms) h.protected_joined,
        (Modifier.readAll_joined_iff h.tidy).2 ⟨hcomma, hlast⟩]

/-- Where a rule with modifiers is written and read, the pattern is the same, unless the whole is a regular
expression. -/
theorem of_read_text {r' : AdblockRule} (h : r.Proper) (hms : r.modifiers ≠ []) (hread : read r.text = .ok r') :
    r'.exception = r.exception ∧
      (isRegexPattern r.body ∧ r'.pattern = r.body ∧ r'.modifiers = [] ∨
        ¬ isRegexPattern r.body ∧ r'.pattern = r.pattern ∧
          r'.modifiers = Modifier.readAll (Modifier.joined r.modifiers)) := by
  have htrim : r.text.trim = mark r.exception ++ r.body := by
    rw [← text_eq, Text.trim_eq_self_iff.2 (h.text_trimmed fun hnil => absurd hnil hms)]
  rw [read_eq htrim h.not_mark_prefix_body] at hread
  split at hread
  · cases hread
  split at hread
  · cases hread
  obtain rfl := Except.ok.inj hread
  refine ⟨rfl, ?_⟩
  by_cases hwhole : isRegexPattern r.body
  · rw [readBody_of_isRegexPattern hwhole]
    exact .inl ⟨hwhole, rfl, rfl⟩
  · have hbody := body_of_modifiers_ne_nil hms
    rw [hbody] at hwhole ⊢
    rw [readBody_of_cut hwhole (h.escapes_pattern hms) h.protected_joined]
    exact .inr ⟨hwhole, rfl, rfl⟩

/-- A rule that was read is read back from its written form if and only if that is legible. -/
theorem read_text_iff (h : r.Proper) : read r.text = .ok r ↔ r.Legible :=
  ⟨h.legible_of_read_text, h.read_text_of_legible⟩

end Proper

end AdblockRule

/-! ### Lines of any kind -/

/-- A line that is read back from its written form: a hosts line with a hostname, or an adblock rule that
is legible and is taken neither for a comment nor for a hosts line. -/
def Line.Restorable : Line → Prop
  | .empty | .comment _ => True
  | .hosts r => r.hostnames ≠ []
  | .adblock r => r.Legible ∧ ¬ isComment r.text ∧ ¬ isHostsLine r.text

instance : DecidablePred Line.Restorable
  | .empty | .comment _ => .isTrue trivial
  | .hosts r => inferInstanceAs (Decidable (r.hostnames ≠ []))
  | .adblock r => inferInstanceAs (Decidable (r.Legible ∧ ¬ isComment r.text ∧ ¬ isHostsLine r.text))

namespace Line
variable {line : Text} {l : Line}

theorem read_eq_comment_iff {s : Text} :
    read line = .ok (.comment s) ↔ ¬ line.isBlankText ∧ isComment line ∧ line.trim = s := by
  rw [read]
  cases line.isBlankText
  · cases isComment line
    · cases isHostsLine line
      · cases AdblockRule.read line <;> simp [Except.map]
      · cases HostsRule.read line <;> simp [Except.map]
    · simp
  · simp

theorem read_eq_hosts_iff {r : HostsRule} :
    read line = .ok (.hosts r) ↔ ¬ line.isBlankText ∧ ¬ isComment line ∧ HostsRule.read line = .ok r := by
  rw [read]
  cases line.isBlankText
  · cases isComment line
    · cases hhosts : isHostsLine line
      · have hread : HostsRule.read line ≠ .ok r := fun h => by
          rw [HostsRule.isHostsLine_of_read h] at hhosts
          cases hhosts
        cases AdblockRule.read line <;> simp [Except.map, hread]
      · cases HostsRule.read line <;> simp [Except.map]
    · simp
  · simp

theorem read_eq_adblock_iff {r : AdblockRule} :
    read line = .ok (.adblock r) ↔
      ¬ line.isBlankText ∧ ¬ isComment line ∧ ¬ isHostsLine line ∧ AdblockRule.read line = .ok r := by
  rw [read]
  cases line.isBlankText
  · cases isComment line
    · cases isHostsLine line
      · cases AdblockRule.read line <;> simp [Except.map]
      · cases HostsRule.read line <;> simp [Except.map]
    · simp
  · simp

theorem read_text_adblock_iff {r : AdblockRule} (hr : r.Proper) :
    read r.text = .ok (.adblock r) ↔ (Line.adblock r).Restorable := by
  rw [read_eq_adblock_iff, Restorable, hr.read_text_iff]
  constructor
  · rintro ⟨-, hcomment, hhosts, hlegible⟩
    exact ⟨hlegible, hcomment, hhosts⟩
  · rintro ⟨hlegible, hcomment, hhosts⟩
    exact ⟨hr.not_isBlankText_text, hcomment, hhosts, hlegible⟩

/-- A line that was read is read back from its written form if and only if it is restorable. -/
theorem read_text_iff_restorable (h : read line = .ok l) : read l.text = .ok l ↔ l.Restorable := by
  cases l with
  | empty => exact iff_of_true rfl trivial
  | comment s =>
    obtain ⟨hblank, hcomment, rfl⟩ := read_eq_comment_iff.1 h
    have htrim : line.trim.trim = line.trim := Text.trim_eq_self_iff.2 (Text.trimmed_trim line)
    refine iff_of_true (read_eq_comment_iff.2 ⟨?_, ?_, htrim⟩) trivial
    · rw [text, ← Text.trim_eq_nil_iff, htrim, Text.trim_eq_nil_iff]
      exact hblank
    · rw [text, isComment, htrim]
      exact hcomment
  | hosts r =>
    have hr := HostsRule.proper_of_read (read_eq_hosts_iff.1 h).2.2
    rw [read_eq_hosts_iff, text, Restorable]
    constructor
    · rintro ⟨-, -, hread⟩
      exact hr.isHostsLine_text_iff.1 (HostsRule.isHostsLine_of_read hread)
    · intro hnames
      refine ⟨?_, hr.not_isComment_text, hr.read_text hnames⟩
      rw [hr.text_trimmed.isBlankText_eq_false hr.text_ne_nil]
      exact Bool.false_ne_true
  | adblock r =>
    exact read_text_adblock_iff (AdblockRule.proper_of_read (read_eq_adblock_iff.1 h).2.2.2)

/-- A comma in a value is escaped, and so the value stays whole. -/
theorem read_text_iff_restorable_escaped :
    read (text (.adblock ⟨true, "||a.b^".toList, [⟨"c".toList, some "x,y".toList⟩]⟩)) =
      .ok (.adblock ⟨true, "||a.b^".toList, [⟨"c".toList, some "x,y".toList⟩]⟩) := by
  have hread : read "@@||a.b^$c = x\\,y, ".toList =
      .ok (.adblock ⟨true, "||a.b^".toList, [⟨"c".toList, some "x,y".toList⟩]⟩) := rfl
  exact (read_text_iff_restorable hread).2 (by decide)

/-- Not every line is read back: without the dollar sign, the blank that is the pattern is trimmed off. -/
theorem read_text_of_blank_pattern :
    read "@@ $".toList = .ok (.adblock ⟨true, [' '], []⟩) ∧
      read (text (.adblock ⟨true, [' '], []⟩)) = .error (.tooShort "@@ ".toList) :=
  ⟨rfl, rfl⟩

end Line

end Blocklist
