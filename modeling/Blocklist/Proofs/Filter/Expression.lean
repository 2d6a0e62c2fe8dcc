import Blocklist.Filter.Basic
import Blocklist.Proofs.Regex.Language
import Blocklist.Proofs.Text.Trim

/-!
# Globs as regular expressions

A glob can be written as a regular expression: its pieces between `^` and `$`, with a backslash in front of
what means something there, and `[\s\S]*` for each run of stars. `Reads names m s before after` says that `s` is
read in the mode `m` and takes the parts `before` to the parts `after`. Each kind of part has a lemma for how it
is read and one for what it takes, and `occursIn_expression` puts them together: the expression is read for every
glob, and is found where the glob matches.
-/

namespace Blocklist

variable {c : Char} {s t : Text}

/-! ### Reading -/

namespace Regex
variable {names : CharNames} {m : Mode} {token : Token} {before middle after : List Part}

/-- The reader of a pattern outside of all groups, where these parts have been read, the last one first. -/
def Reader.outermost (m : Mode) (started : Bool) (parts : List Part) : Reader :=
  { Reader.initial m with stack := [⟨.plain [] [], 0, none, 0, m, [], parts⟩], started }

/-- The token takes the parts `before` to the parts `after`, wherever it stands, and has nothing to do with the
spaces between tokens. -/
def Steps (m : Mode) (token : Token) (before after : List Part) : Prop :=
  token.spacing false [] = [false] ∧
    ∀ started start rest, ∃ started', (Reader.outermost m started before).step ⟨token, start, rest⟩ =
      .ok (Reader.outermost m started' after)

/-- The text takes the parts `before` to the parts `after`. -/
def Reads (names : CharNames) (m : Mode) (s : Text) (before after : List Part) : Prop :=
  ∀ fuel, s.length ≤ fuel → ∃ ps, piecesWithin names fuel [false] s = (ps, none) ∧ ∀ started, ∃ started',
    ps.foldlM Reader.step (Reader.outermost m started before) = .ok (Reader.outermost m started' after)

namespace Steps

theorem char (c : Char) : Steps m (.char c) before (.atom (.char m.folding c) :: before) :=
  ⟨rfl, fun _ _ _ => ⟨true, rfl⟩⟩

theorem set (negated : Bool) (items : List SetItem) :
    Steps m (.set negated items) before
      (.atom (.set m.folding negated (items.map (withAscii m.ascii))) :: before) :=
  ⟨rfl, fun _ _ _ => ⟨true, rfl⟩⟩

theorem repetition (x : Regex) (least : Nat) (most : Option Nat) (p : Preference) :
    Steps m (.repeat least most p) (.atom x :: before) (.repeated (.repeat x least most p) :: before) :=
  ⟨rfl, fun started _ _ => ⟨started, rfl⟩⟩

theorem lineStart : Steps m .lineStart before
    (.anchor (.anchor (if m.multiline then .lineStart else .textStart)) :: before) :=
  ⟨rfl, fun _ _ _ => ⟨true, rfl⟩⟩

theorem lineEnd : Steps m .lineEnd before
    (.anchor (.anchor (if m.multiline then .lineEnd else .lastLineEnd)) :: before) :=
  ⟨rfl, fun _ _ _ => ⟨true, rfl⟩⟩

end Steps

theorem Reads.nil : Reads names m [] before before := by
  intro fuel _
  refine ⟨[], ?_, fun started => ⟨started, rfl⟩⟩
  cases fuel <;> rfl

theorem Reads.cons (htoken : takeToken names (c :: s) = .ok (token, t)) (hlength : t.length ≤ s.length)
    (hstep : Steps m token before middle) (h : Reads names m t middle after) :
    Reads names m (c :: s) before after := by
  intro fuel hfuel
  cases fuel with
  | zero => cases hfuel
  | succ fuel =>
    obtain ⟨ps, hps, hfold⟩ := h fuel (hlength.trans (Nat.le_of_succ_le_succ hfuel))
    refine ⟨⟨token, s.length + 1, t.length⟩ :: ps, ?_, fun started => ?_⟩
    · rw [piecesWithin, List.headD_cons, if_neg Bool.false_ne_true, htoken]
      dsimp only
      rw [List.tail_cons, hstep.1, hps]
    · obtain ⟨middleStarted, hs⟩ := hstep.2 started (s.length + 1) t.length
      obtain ⟨started', hfold⟩ := hfold middleStarted
      refine ⟨started', ?_⟩
      rw [List.foldlM_cons, hs]
      exact hfold

theorem lateFault?_sequence {widths : List (Nat × Span)} {template : Bool} {parts : List Part}
    (h : ∀ part ∈ parts, lateFault? widths template part.regex = none) :
    lateFault? widths template (sequence parts) = none := by
  induction parts with
  | nil => rfl
  | cons part parts ih =>
    obtain ⟨hpart, hparts⟩ := List.forall_mem_cons.1 h
    cases parts with
    | nil => exact hpart
    | cons next parts =>
      rw [sequence, lateFault?, hpart, ih hparts]
      · rfl
      · exact List.cons_ne_nil next parts

/-- A pattern whose parts are all outside of groups and have no fault is the sequence of its parts. -/
theorem read_of_reads (h : Reads names m s [] after) (hlone : endsWithBackslash s = false)
    (hlate : ∀ part ∈ after, lateFault? [] false part.regex = none) :
    read names m s = .ok (sequence after.reverse) := by
  obtain ⟨ps, hps, hfold⟩ := h s.length le_rfl
  obtain ⟨started, hfold⟩ := hfold false
  have hrun : (Reader.initial m).run names s = .ok (Reader.outermost m started after) := by
    have hfold : ps.foldlM Reader.step (Reader.initial m) = .ok (Reader.outermost m started after) := hfold
    rw [Reader.run, Regex.pieces, hps]
    dsimp only
    rw [hfold]
    rfl
  have hlate : lateFault? [] false (sequence after.reverse) = none :=
    lateFault?_sequence fun part hpart => hlate part (List.mem_reverse.1 hpart)
  rw [read, hlone]
  simp only [Bool.false_eq_true, if_false, hrun]
  have hwhole : lateFault? (Reader.outermost m started after).widths
      ((Reader.outermost m started after).globals.elem globalFlag)
      (alternatives (((Reader.outermost m started after).stack.head?.map Open.branches).getD [])) = none := hlate
  rw [hwhole]
  rfl

/-! ### Letters -/

theorem Token.ofCode_toNat (c : Char) : Token.ofCode c.toNat = .char c := by
  have hvalid : c.toNat.isValidChar := c.valid
  rw [Token.ofCode, if_pos hvalid, Char.ofNat_toNat]

theorem takeEscape_of_not_alphanum (h : c.isAlphanum = false) : takeEscape names (c :: s) = .ok (.char c, s) := by
  have hne : ∀ d : Char, d.isAlphanum = true → c ≠ d := by
    rintro d hd rfl
    rw [h] at hd
    cases hd
  have hhead : ∀ {d : Char} {u : Text}, c :: s = d :: u → d.isAlphanum ≠ true := fun heq hd =>
    hne _ hd (List.cons.inj heq).1
  have hclass : classEscape? c = none := by
    rw [classEscape?.eq_def]
    split <;> first | rfl | exact absurd h (by decide)
  have hcontrol : controlEscape? c = none := by
    rw [controlEscape?.eq_def]
    split <;> first | rfl | exact absurd h (by decide)
  have hdigit : c.isDigit = false := by
    rw [Char.isAlphanum, Bool.or_eq_false_iff] at h
    exact h.2
  have hshared : sharedEscape names c (c :: s) = .ok (c.toNat, s) := by
    rw [sharedEscape, hcontrol, h]
    simp [hne]
  rw [takeEscape.eq_def]
  split
  -- the other escapes have a letter or a digit
  any_goals exact absurd rfl (hhead ‹_›)
  · rename_i heq; cases heq
  · rename_i heq
    obtain ⟨rfl, rfl⟩ := List.cons.inj heq
    rw [hclass, hdigit, hshared]
    exact congrArg (fun token => Except.ok (token, _)) (Token.ofCode_toNat _)

/-- The characters that a backslash stands in front of where they are meant as they are. -/
def specials : List Char := "()[]\x7b\x7d?*+-|^$\\.&~# \t\n\r\x0b\x0c".toList

/-- The text with a backslash in front of each special character. -/
def escaped (s : Text) : Text := s.flatMap fun c => if c ∈ specials then ['\\', c] else [c]

theorem takeToken_of_not_special (h : c ∉ specials) : takeToken names (c :: s) = .ok (.char c, s) := by
  have hne : ∀ d ∈ specials, c ≠ d := fun d hd hc => h (hc ▸ hd)
  rw [takeToken.eq_def]
  split
  · rename_i heq; cases heq
  -- the other tokens start with a special character
  all_goals try exact absurd (List.cons.inj ‹_›).1 (hne _ (by decide))
  rename_i heq
  obtain ⟨rfl, rfl⟩ := List.cons.inj heq
  rfl

theorem isAlphanum_of_special (h : c ∈ specials) : c.isAlphanum = false := by
  have hall : specials.all (!·.isAlphanum) = true := by decide
  simpa using List.all_eq_true.1 hall c h

theorem takeToken_of_special (h : c ∈ specials) : takeToken names ('\\' :: c :: s) = .ok (.char c, s) :=
  takeEscape_of_not_alphanum (isAlphanum_of_special h)

/-- The part that an escaped character is. -/
def charPart (m : Mode) (c : Char) : Part := .atom (.char m.folding c)

theorem Reads.escaped (h : Reads names m t ((s.map (charPart m)).reverse ++ before) after) :
    Reads names m (escaped s ++ t) before after := by
  induction s generalizing before with
  | nil => exact h
  | cons c s ih =>
    rw [List.map_cons, List.reverse_cons, List.append_assoc] at h
    rw [Regex.escaped, List.flatMap_cons, List.append_assoc]
    split
    · rename_i hc
      exact .cons (takeToken_of_special hc) (by simp) (.char c) (ih h)
    · rename_i hc
      exact .cons (takeToken_of_not_special hc) le_rfl (.char c) (ih h)

end Regex

namespace Glob
open Regex

/-- The mode of the expressions of globs: case is ignored. -/
def mode : Mode := ⟨true, false, false, false⟩

/-- What a run of stars is written as. -/
def gapText : Text := "[\\s\\S]*"

/-- The set of all characters. -/
def anyChar : Regex := .set .full false [.class false (.space false), .class true (.space false)]

/-- The part that a run of stars is. -/
def gapPart : Part := .repeated (.repeat anyChar 0 none .greedy)

theorem reads_gap {before after : List Part} (ht : t.head? ≠ some '?') (ht' : t.head? ≠ some '+')
    (h : Reads names mode t (gapPart :: before) after) : Reads names mode (gapText ++ t) before after := by
  have hset : takeToken names (gapText ++ t) =
      .ok (.set false [.class false (.space false), .class true (.space false)], '*' :: t) := rfl
  have hstar : takeToken names ('*' :: t) = .ok (.repeat 0 none .greedy, t) := by
    change Except.ok (withPreference 0 none t) = _
    rw [withPreference.eq_def]
    split
    · exact absurd rfl ht
    · exact absurd rfl ht'
    · rfl
  exact .cons hset (by simp) (.set false _) (.cons hstar le_rfl (.repetition anyChar 0 none .greedy) h)

/-- The glob as a regular expression. -/
def expression (glob : Text) : Text := '^' :: (Text.join gapText ((pieces glob).map escaped) ++ ['$'])

/-- The parts behind the first piece of a glob. -/
def endParts (rest : List Text) : List Part :=
  rest.flatMap (fun q => gapPart :: q.map (charPart mode)) ++ [.anchor (.anchor .lastLineEnd)]

/-- An escaped text does not go on with a mark. -/
theorem head?_escaped_append {d : Char} (hd : d ∈ specials) (hne : d ≠ '\\') (ht : t.head? ≠ some d) :
    (escaped s ++ t).head? ≠ some d := by
  cases s with
  | nil => exact ht
  | cons c s =>
    intro h
    rw [escaped, List.flatMap_cons] at h
    split at h
    · exact hne (Option.some.inj h).symm
    · rename_i hc
      obtain rfl : c = d := Option.some.inj h
      exact hc hd

theorem reads_join (p : Text) (rest : List Text) (before : List Part) :
    Reads names mode (Text.join gapText ((p :: rest).map escaped) ++ ['$']) before
      ((p.map (charPart mode) ++ endParts rest).reverse ++ before) := by
  induction rest generalizing p before with
  | nil =>
    rw [endParts, List.reverse_append, List.append_assoc]
    exact .escaped (.cons rfl le_rfl .lineEnd .nil)
  | cons q rest ih =>
    have hhead : ∀ d ∈ specials, d ≠ '\\' → d ≠ '$' → d ≠ '[' →
        (Text.join gapText ((q :: rest).map escaped) ++ ['$']).head? ≠ some d := by
      intro d hd hbackslash hdollar hbracket
      cases rest with
      | nil => exact head?_escaped_append hd hbackslash (by simpa using hdollar.symm)
      | cons r rest =>
        rw [List.map_cons, Text.join_cons (by simp), List.append_assoc]
        exact head?_escaped_append hd hbackslash fun h => hbracket (Option.some.inj h).symm
    rw [List.map_cons, Text.join_cons (by simp), List.append_assoc, List.append_assoc]
    refine .escaped (reads_gap (hhead _ (by decide) (by decide) (by decide) (by decide))
      (hhead _ (by decide) (by decide) (by decide) (by decide)) ?_)
    have h := ih q (gapPart :: ((p.map (charPart mode)).reverse ++ before))
    rw [endParts] at h ⊢
    simpa using h

theorem lateFault?_of_mem_map_charPart {part : Part} (h : part ∈ s.map (charPart mode)) :
    lateFault? [] false part.regex = none := by
  obtain ⟨c, -, rfl⟩ := List.mem_map.1 h
  rfl

theorem lateFault?_of_mem_endParts {part : Part} {rest : List Text} (h : part ∈ endParts rest) :
    lateFault? [] false part.regex = none := by
  rcases List.mem_append.1 h with h | h
  · obtain ⟨q, -, h⟩ := List.mem_flatMap.1 h
    rcases List.mem_cons.1 h with rfl | h
    · rfl
    · exact lateFault?_of_mem_map_charPart h
  · rw [List.mem_singleton.1 h]
    rfl

/-- Every glob is a regular expression. -/
theorem read_expression {glob p : Text} {rest : List Text} (h : pieces glob = p :: rest) :
    Regex.read names mode (expression glob) =
      .ok (Regex.sequence (.anchor (.anchor .textStart) :: (p.map (charPart mode) ++ endParts rest))) := by
  have hreads : Reads names mode (expression glob) []
      ((p.map (charPart mode) ++ endParts rest).reverse ++ [.anchor (.anchor .textStart)]) := by
    rw [expression, h]
    exact .cons rfl le_rfl .lineStart (reads_join p rest _)
  rw [read_of_reads hreads (by simp [endsWithBackslash, expression]) ?_]
  · rw [List.reverse_append, List.reverse_reverse]
    rfl
  · intro part hpart
    rw [List.mem_append, List.mem_reverse, List.mem_append, List.mem_singleton] at hpart
    rcases hpart with (hpart | hpart) | rfl
    · exact lateFault?_of_mem_map_charPart hpart
    · exact lateFault?_of_mem_endParts hpart
    · rfl

/-! ### Matching -/

variable {parts : List Part} {f : Text → Prop}

theorem mem_ends_iff : t ∈ ends s ↔ t <:+ s := by
  induction s with
  | nil => rw [ends, List.mem_singleton, List.suffix_nil]
  | cons c s ih => rw [ends, List.mem_cons, ih, List.suffix_cons_iff]

/-- Characters are found where a glob drops them from what is to come. -/
theorem finds_chars (h : ∀ p, Finds parts p ↔ f p.after) (piece : Text) (p : Place) :
    Finds (piece.map (charPart mode) ++ parts) p ↔ ∃ t, dropFolded? piece p.after = some t ∧ f t := by
  induction piece generalizing p with
  | nil => simp [dropFolded?, h]
  | cons c piece ih =>
    have hchar : Takes (run (charPart mode c).regex) _ := .char mode.folding c
    rw [List.map_cons, List.cons_append,
      finds_of_takes (F := fun s => ∃ t, dropFolded? piece s = some t ∧ f t) hchar ih]
    simp only [mem_chars_iff, decide_eq_true_eq]
    cases p.after with
    | nil => simp [dropFolded?]
    | cons d s =>
      have hfold : ∀ x, mode.folding.fold x = Case.fold x := fun _ => rfl
      by_cases hc : Case.fold c = Case.fold d <;> simp [dropFolded?, hfold, hc]

theorem takes_gap : Takes (run gapPart.regex) (repetitions (chars fun _ => true) 0 none) := by
  have hall : (fun d => false != [SetItem.class false (.space false), .class true (.space false)].any (·.has .full d)) =
      fun _ => true := by
    funext d
    simp [SetItem.has]
  have h : Takes (run anyChar) (chars fun _ => true) := hall ▸ Takes.set .full false _
  exact h.repetition nil_not_mem_chars nofun

theorem finds_gap (h : ∀ p, Finds parts p ↔ f p.after) (p : Place) :
    Finds (gapPart :: parts) p ↔ ∃ t ∈ ends p.after, f t := by
  rw [finds_of_takes takes_gap h]
  simp only [mem_ends_iff]
  constructor
  · rintro ⟨w, -, t, hp, hf⟩
    exact ⟨t, ⟨w, hp.symm⟩, hf⟩
  · rintro ⟨t, ⟨w, hp⟩, hf⟩
    exact ⟨w, mem_repetitions_chars_iff.2 ⟨Nat.zero_le _, nofun, fun _ _ => rfl⟩, t, hp.symm, hf⟩

theorem finds_endParts (rest : List Text) (p : Place) : Finds (endParts rest) p ↔ matchRest rest p.after := by
  induction rest generalizing p with
  | nil => rw [matchRest, endParts, List.flatMap_nil, List.nil_append, finds_lastLineEnd, Bool.or_eq_true,
      decide_eq_true_eq, decide_eq_true_eq]
  | cons q rest ih =>
    rw [endParts, List.flatMap_cons, List.cons_append, List.cons_append, List.append_assoc, ← endParts,
      finds_gap (f := fun t => ∃ u, dropFolded? q t = some u ∧ matchRest rest u) (finds_chars ih q), matchRest,
      List.any_eq_true]
    refine exists_congr fun t => and_congr_right fun _ => ?_
    cases dropFolded? q t <;> simp

/-- The expression of a glob is found exactly in the lines that the glob matches. -/
theorem occursIn_expression (names : CharNames) (glob : Text) : ∃ r, Regex.read names mode (expression glob) = .ok r ∧
    ∀ line, r.occursIn line = isMatch glob line := by
  obtain ⟨p, rest, hpieces⟩ : ∃ p rest, pieces glob = p :: rest :=
    List.exists_cons_of_ne_nil (Text.splitWhere_ne_nil _ _)
  refine ⟨_, read_expression hpieces, fun line => ?_⟩
  rw [Bool.eq_iff_iff, occursIn_textStart_iff, finds_chars (f := (matchRest rest ·)) (finds_endParts rest), isMatch,
    hpieces, matchPieces]
  cases dropFolded? p line <;> simp

end Glob
end Blocklist
