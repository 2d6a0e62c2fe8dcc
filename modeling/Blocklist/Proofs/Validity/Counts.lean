import Blocklist.Proofs.Validity.Lists

/-!
# The counts of a validator

Each verdict on a rule is counted once, a valid rule under its kind and another one under its fault
(`Counts.kinds_addAll`, `Counts.faults_addAll`). So the counts balance with the lines that came in and those that
were kept (`Balanced`): one more list keeps the balance (`Balanced.sweep`), and so do any number of lists that are
counted together (`balanced_sweepAll`).
-/

namespace Blocklist.Validity

variable {psl : SuffixList} {allowIp limited : Bool} {line p D b : Text} {given kept : List Text} {c : Counts}
  {r : AdblockRule}

/-! ### Every rule gets a verdict -/

theorem anchoredVerdict_ne_notRule : anchoredVerdict psl allowIp limited D b ≠ .notRule := by
  rw [anchoredVerdict]
  repeat' split
  all_goals simp

theorem patternVerdict_ne_notRule : patternVerdict psl allowIp limited p ≠ .notRule := by
  rw [patternVerdict]
  split
  · simp
  split
  · simp
  split
  · simp
  split
  · simp
  · exact anchoredVerdict_ne_notRule

theorem ruleVerdict_ne_notRule : ruleVerdict psl allowIp r ≠ .notRule := by
  rw [ruleVerdict]
  split
  · simp
  split
  · simp
  split
  · simp
  · exact patternVerdict_ne_notRule

theorem verdict_eq_notRule_iff : verdict psl allowIp line = .notRule ↔ isCommentOrBlank line := by
  rw [verdict]
  split
  · rename_i hcomment
    exact iff_of_true rfl hcomment
  rename_i hcomment
  refine iff_of_false ?_ hcomment
  split
  · rw [hostsVerdict]
    repeat' split
    all_goals simp
  · rw [adblockVerdict]
    split
    · simp
    · exact ruleVerdict_ne_notRule

/-! ### Verdicts that are counted -/

namespace Counts

/-- How many rules were kept, of all kinds. -/
def kinds (c : Counts) : Nat := c.regex + c.hosts + c.domain + c.other

/-- How many faults were found, of all kinds. -/
def faults (c : Counts) : Nat := c.malformed + c.modifier + c.hostname

/-- The counts with the verdicts on some lines. -/
def addAll (psl : SuffixList) (allowIp : Bool) (lines : List Text) (c : Counts) : Counts :=
  lines.foldr (fun l c => c.add (verdict psl allowIp l)) c

theorem faults_add (c : Counts) (v : Verdict) : (c.add v).faults = c.faults + if v.ok then 0 else 1 := by
  rcases v with _ | (_ | _ | _ | _) | (_ | _ | _) <;> simp [add, faults, Verdict.ok] <;> omega

theorem kinds_add (c : Counts) (v : Verdict) :
    (c.add v).kinds = c.kinds + if v ≠ .notRule ∧ v.ok then 1 else 0 := by
  rcases v with _ | (_ | _ | _ | _) | (_ | _ | _) <;> simp [add, kinds, Verdict.ok] <;> omega

/-- One fault is counted for each line that is not valid. -/
theorem faults_addAll (psl : SuffixList) (allowIp : Bool) (c : Counts) (lines : List Text) :
    (addAll psl allowIp lines c).faults = c.faults + lines.countP fun l => !isValid psl allowIp l := by
  induction lines with
  | nil => rfl
  | cons l lines ih =>
    have hstep : (addAll psl allowIp (l :: lines) c).faults =
        (addAll psl allowIp lines c).faults + if isValid psl allowIp l then 0 else 1 := faults_add ..
    rw [hstep, ih, List.countP_cons]
    cases isValid psl allowIp l <;> simp [Nat.add_assoc]

/-- One kind is counted for each valid rule. -/
theorem kinds_addAll (psl : SuffixList) (allowIp : Bool) (c : Counts) (lines : List Text) :
    (addAll psl allowIp lines c).kinds = c.kinds + (rulesOf (validLines psl allowIp lines)).length := by
  rw [rulesOf_validLines]
  induction lines with
  | nil => rfl
  | cons l lines ih =>
    have hstep : (addAll psl allowIp (l :: lines) c).kinds =
        (addAll psl allowIp lines c).kinds +
          if verdict psl allowIp l ≠ .notRule ∧ isValid psl allowIp l then 1 else 0 :=
      kinds_add ..
    simp only [hstep, ih, ne_eq, verdict_eq_notRule_iff]
    cases hcomment : isCommentOrBlank l with
    | true => simp [rulesOf_cons_of_comment hcomment]
    | false =>
      rw [rulesOf_cons_of_rule hcomment]
      cases hvalid : isValid psl allowIp l with
      | true => simp [hvalid, Nat.add_assoc]
      | false => simp [hvalid]

/-- Verdicts are counted apart from lines. -/
theorem addAll_frame (psl : SuffixList) (allowIp : Bool) (c : Counts) (lines : List Text) :
    (addAll psl allowIp lines c).linesIn = c.linesIn ∧ (addAll psl allowIp lines c).linesOut = c.linesOut ∧
      (addAll psl allowIp lines c).invalid = c.invalid ∧ (addAll psl allowIp lines c).comments = c.comments := by
  have hadd (c : Counts) (v : Verdict) : (c.add v).linesIn = c.linesIn ∧ (c.add v).linesOut = c.linesOut ∧
      (c.add v).invalid = c.invalid ∧ (c.add v).comments = c.comments := by
    rcases v with _ | (_ | _ | _ | _) | (_ | _ | _) <;> exact ⟨rfl, rfl, rfl, rfl⟩
  induction lines with
  | nil => exact ⟨rfl, rfl, rfl, rfl⟩
  | cons l lines ih =>
    obtain ⟨hin, hout, hinvalid, hcomments⟩ := hadd (addAll psl allowIp lines c) (verdict psl allowIp l)
    exact ⟨hin.trans ih.1, hout.trans ih.2.1, hinvalid.trans ih.2.2.1, hcomments.trans ih.2.2.2⟩

end Counts

/-! ### Lists that are counted together -/

/-- The counts after the lines `given`, of which `kept` were kept: each line is kept, invalid or lost as a comment,
each invalid line has one fault, and each rule that was kept is of one kind. -/
structure Balanced (given kept : List Text) (c : Counts) : Prop where
  linesIn : c.linesIn = given.length
  linesOut : c.linesOut = kept.length
  total : c.linesIn = c.linesOut + c.invalid + c.comments
  faults : c.invalid = c.malformed + c.modifier + c.hostname
  kinds : c.regex + c.hosts + c.domain + c.other = (rulesOf kept).length

theorem balanced_nil : Balanced [] [] {} := ⟨rfl, rfl, rfl, rfl, rfl⟩

theorem Balanced.sweep (h : Balanced given kept c) (psl : SuffixList) (allowIp : Bool) (lines : List Text) :
    Balanced (given ++ lines) (kept ++ (sweep psl allowIp lines c).1) (sweep psl allowIp lines c).2 := by
  obtain ⟨hin, hout, hinvalid, hcomments⟩ := Counts.addAll_frame psl allowIp c lines
  have hfaults : (Counts.addAll psl allowIp lines c).faults =
      c.faults + (Cascade.sweep (mark psl allowIp) lines).removed := by
    rw [Counts.faults_addAll, Cascade.removed_sweep]
    simp only [mark_eq_removed_iff, Bool.decide_eq_false]
  have hlines := Cascade.length_sweep (mark psl allowIp) lines
  refine ⟨?linesIn, ?linesOut, ?total, ?faults, ?kinds⟩
  case linesIn =>
    show (Counts.addAll psl allowIp lines c).linesIn + lines.length = _
    rw [hin, h.linesIn, List.length_append]
  case linesOut =>
    show (Counts.addAll psl allowIp lines c).linesOut + (Cascade.sweep (mark psl allowIp) lines).kept.length =
      (kept ++ (Cascade.sweep (mark psl allowIp) lines).kept).length
    rw [hout, h.linesOut, List.length_append]
  case total =>
    show (Counts.addAll psl allowIp lines c).linesIn + lines.length =
      (Counts.addAll psl allowIp lines c).linesOut + (Cascade.sweep (mark psl allowIp) lines).kept.length +
        ((Counts.addAll psl allowIp lines c).invalid + (Cascade.sweep (mark psl allowIp) lines).removed) +
        ((Counts.addAll psl allowIp lines c).comments + (Cascade.sweep (mark psl allowIp) lines).lost)
    have htotal := h.total
    omega
  case faults =>
    show (Counts.addAll psl allowIp lines c).invalid + (Cascade.sweep (mark psl allowIp) lines).removed =
      (Counts.addAll psl allowIp lines c).faults
    rw [hfaults, hinvalid, h.faults, Counts.faults]
  case kinds =>
    show (Counts.addAll psl allowIp lines c).kinds = (rulesOf (kept ++ validLines psl allowIp lines)).length
    rw [Counts.kinds_addAll, rulesOf_append, List.length_append, ← h.kinds, Counts.kinds]

/-- Sweeps lists one after the other with common counts. The result has the lines that are kept of all of them, and
the counts after the last one. -/
def sweepAll (psl : SuffixList) (allowIp : Bool) : List (List Text) → Counts → List Text × Counts
  | [], c => ([], c)
  | lines :: lists, c =>
    let first := sweep psl allowIp lines c
    let rest := sweepAll psl allowIp lists first.2
    (first.1 ++ rest.1, rest.2)

theorem Balanced.sweepAll (h : Balanced given kept c) (psl : SuffixList) (allowIp : Bool)
    (lists : List (List Text)) :
    Balanced (given ++ lists.flatten) (kept ++ (sweepAll psl allowIp lists c).1) (sweepAll psl allowIp lists c).2 := by
  induction lists generalizing given kept c with
  | nil => simpa [Validity.sweepAll] using h
  | cons lines lists ih =>
    have hrest := ih (h.sweep psl allowIp lines)
    rwa [List.append_assoc, List.append_assoc] at hrest

/-- The counts balance after each of any number of lists that are counted together from zero: every line is kept,
invalid or lost, every invalid line has one fault, and every rule that was kept is of one kind. -/
theorem balanced_sweepAll (psl : SuffixList) (allowIp : Bool) (lists : List (List Text)) :
    Balanced lists.flatten (sweepAll psl allowIp lists {}).1 (sweepAll psl allowIp lists {}).2 :=
  balanced_nil.sweepAll psl allowIp lists

end Blocklist.Validity
