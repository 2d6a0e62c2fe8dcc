import Blocklist.Hostname.SuffixRules
import Blocklist.Proofs.Validity.Verdict

/-!
# Validated lists

Which lines of a list a validator keeps, each judged by itself: the valid rules, and the comments and blank lines
with no invalid rule next below them (`validLines_picks`). Whatever is valid without addresses is valid with them, and
so a validator that allows them adds nothing to one that does not, before it or after it (`validLines_twice`).
-/

namespace Blocklist.Validity
open Transform (Picks)

variable {psl : SuffixList} {allowIp limited : Bool} {line p s : Text} {lines : List Text} {r : AdblockRule} {i : Nat}

/-! ### Marks -/

theorem mark_eq_removed_iff : mark psl allowIp line = .removed ↔ isValid psl allowIp line = false := by
  rw [mark]
  cases isValid psl allowIp line <;> cases isCommentOrBlank line <;> simp

theorem mark_eq_kept_iff :
    mark psl allowIp line = .kept ↔ isCommentOrBlank line = false ∧ isValid psl allowIp line := by
  rw [mark]
  cases isValid psl allowIp line <;> cases isCommentOrBlank line <;> simp

theorem mark_eq_attached_iff : mark psl allowIp line = .attached ↔ isCommentOrBlank line := by
  rw [mark]
  cases hcomment : isCommentOrBlank line with
  | true => simp [isValid_of_comment hcomment]
  | false => cases isValid psl allowIp line <;> simp

theorem rulesOf_validLines (psl : SuffixList) (allowIp : Bool) (lines : List Text) :
    rulesOf (validLines psl allowIp lines) = (rulesOf lines).filter (isValid psl allowIp) := by
  have hkept : rulesOf (validLines psl allowIp lines) =
      (validLines psl allowIp lines).filter (mark psl allowIp · = .kept) := by
    refine List.filter_congr fun l hl => ?_
    simp [mark_eq_kept_iff, (mem_validLines hl).2]
  rw [hkept, rulesOf, List.filter_filter]
  refine (Cascade.filter_kept ..).trans (List.filter_congr fun l _ => ?_)
  simp [mark_eq_kept_iff, Bool.and_comm]

/-! ### The lines that stay -/

/-- The line at this place stays: it is a valid rule, or it is a comment or blank and the next rule below it, if there
is one, is valid. -/
inductive Stays (psl : SuffixList) (allowIp : Bool) (lines : List Text) (i : Nat) : Prop
  | rule {line : Text} (get : lines[i]? = some line) (rule : isCommentOrBlank line = false)
      (valid : isValid psl allowIp line)
  | remark {line : Text} (get : lines[i]? = some line) (remark : isCommentOrBlank line)
      (next : ∀ r ∈ (rulesOf (lines.drop (i + 1))).head?, isValid psl allowIp r)

/-- Comments and blank lines are attached to the next rule. -/
theorem anchor?_mark (psl : SuffixList) (allowIp : Bool) (lines : List Text) :
    Cascade.anchor? (mark psl allowIp) lines = (rulesOf lines).head? := by
  rw [Cascade.anchor?, rulesOf, List.head?_filter]
  congr 1
  funext line
  simp [mark_eq_attached_iff]

theorem stays_mark_iff : Cascade.Stays (mark psl allowIp) lines i ↔ Stays psl allowIp lines i := by
  have hvalid (r : Text) : mark psl allowIp r ≠ .removed ↔ isValid psl allowIp r := by
    rw [Ne, mark_eq_removed_iff, Bool.not_eq_false]
  constructor
  · rintro (⟨get, kept⟩ | ⟨get, attached, next⟩)
    · obtain ⟨hrule, hok⟩ := mark_eq_kept_iff.1 kept
      exact .rule get hrule hok
    · rw [anchor?_mark] at next
      exact .remark get (mark_eq_attached_iff.1 attached) fun r hr => (hvalid r).1 (next r hr)
  · rintro (⟨get, rule, valid⟩ | ⟨get, remark, next⟩)
    · exact .kept get (mark_eq_kept_iff.2 ⟨rule, valid⟩)
    · refine .attached get (mark_eq_attached_iff.2 remark) fun r hr => (hvalid r).2 (next r ?_)
      rwa [anchor?_mark] at hr

theorem validLines_eq_self (h : ∀ line ∈ lines, isValid psl allowIp line) : validLines psl allowIp lines = lines :=
  Cascade.kept_eq_self fun line hline hremoved => by
    rw [mark_eq_removed_iff, h line hline] at hremoved
    cases hremoved

/-- A validator keeps, in their order, the valid rules and those comments and blank lines whose next rule below is
valid or that have none below them. It leaves its own result as it is. -/
theorem validLines_picks (psl : SuffixList) (allowIp : Bool) (lines : List Text) :
    Picks (Stays psl allowIp lines) lines (validLines psl allowIp lines) ∧
      validLines psl allowIp (validLines psl allowIp lines) = validLines psl allowIp lines :=
  ⟨(Cascade.picks_kept _ _).congr fun _ => stays_mark_iff, validLines_eq_self fun _ h => (mem_validLines h).2⟩

example :
    validLines .sample false
      ["! a".toList, "||bad/pattern".toList, "! b".toList, "||good.com^".toList, "! c".toList] =
    ["! b".toList, "||good.com^".toList, "! c".toList] := by decide

/-! ### With addresses and without -/

theorem hostnameOk_of_strict (h : hostnameOk psl false limited s) : hostnameOk psl true limited s := by
  rw [hostnameOk] at h ⊢
  split at h
  · cases h
  · rfl
  · exact h

/-- A flaw that is there although addresses are allowed is there without them. -/
theorem Flaw.of_tolerant (h : Flaw psl true limited p) : Flaw psl false limited p := by
  have hbad {s : Text} (h : hostnameOk psl true limited s = false) : hostnameOk psl false limited s = false :=
    Bool.eq_false_iff.2 fun hok => Bool.eq_false_iff.1 h (hostnameOk_of_strict hok)
  rcases h with ⟨a, b, eq, first, before, after⟩ | ⟨D, b, eq, first, plain, ne, bad⟩ |
    ⟨D, c, b, eq, first, plain, ne⟩ | ⟨bare, b, eq, first, whole, bad⟩
  · exact .order a b eq first before after
  · exact .host D b eq first plain ne (hbad bad)
  · exact .rest D c b eq first plain ne
  · exact .suffix bare b eq first whole (hbad bad)

theorem ruleVerdict_ok_of_strict (h : (ruleVerdict psl false r).ok) : (ruleVerdict psl true r).ok := by
  obtain ⟨hsupported, hlength, hpattern⟩ := ruleVerdict_ok_iff.1 h
  exact ruleVerdict_ok_iff.2 ⟨hsupported, hlength, hpattern.imp_right (And.imp_right (mt Flaw.of_tolerant))⟩

theorem isValid_of_strict (h : isValid psl false line) : isValid psl true line := by
  cases hcomment : isCommentOrBlank line with
  | true => exact isValid_of_comment hcomment
  | false =>
  cases hhosts : isHostsLine line with
  | true =>
    obtain ⟨r, hr⟩ := HostsRule.isHostsLine_iff_exists_read.1 hhosts
    obtain ⟨hne, hnames⟩ := (isValid_of_hosts hr).1 h
    exact (isValid_of_hosts hr).2 ⟨hne, fun w hw => hostnameOk_of_strict (hnames w hw)⟩
  | false =>
    obtain ⟨r, hr⟩ := exists_read_of_isValid hcomment hhosts h
    rw [isValid_of_rule hcomment hhosts hr] at h ⊢
    exact ruleVerdict_ok_of_strict h

/-- A line that is valid without addresses is valid with them. A validator that allows addresses makes no difference
to one that does not, whether it runs before it or after it. -/
theorem validLines_twice (psl : SuffixList) :
    (∀ line, isValid psl false line → isValid psl true line) ∧
      ∀ lines, validLines psl false (validLines psl true lines) = validLines psl false lines ∧
        validLines psl true (validLines psl false lines) = validLines psl false lines := by
  refine ⟨fun _ => isValid_of_strict, fun lines => ⟨?_, ?_⟩⟩
  · refine Cascade.kept_sweep_kept (fun line => ?_) (fun line hremoved => ?_) lines
    · rw [mark_eq_attached_iff, mark_eq_attached_iff]
    · rw [mark_eq_removed_iff, ← Bool.not_eq_true] at hremoved ⊢
      exact mt isValid_of_strict hremoved
  · exact validLines_eq_self fun line hline => isValid_of_strict (mem_validLines hline).2

/-- An address and the comment above it go in either order of the two validators. -/
theorem validLines_twice_address :
    isValid .sample false "||a.com^".toList ∧ isValid .sample true "||a.com^".toList ∧
      let lines := ["! a".toList, "||1.2.3.4^".toList, [], "||a.com^".toList, "! b".toList]
      validLines .sample false (validLines .sample true lines) = [[], "||a.com^".toList, "! b".toList] ∧
        validLines .sample true (validLines .sample false lines) = [[], "||a.com^".toList, "! b".toList] :=
  ⟨by decide, (validLines_twice _).1 _ (by decide), ((validLines_twice _).2 _).1.trans (by decide),
    ((validLines_twice _).2 _).2.trans (by decide)⟩

end Blocklist.Validity
