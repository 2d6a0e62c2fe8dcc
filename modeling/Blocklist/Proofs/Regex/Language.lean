import Blocklist.Proofs.Text.Basic
import Blocklist.Regex.Reading
import Mathlib.Computability.Language

/-!
# The languages of regular expressions

`Takes step L`: wherever they start, the matches of a step take the texts of the language `L` and no others.
Sequences, alternatives and repetitions of steps take products, sums and powers of languages, in whatever order the
matcher tries their rounds. `Finds parts p` says that a match of the parts can start at the place `p`; up to the end of
a text, the parts are found where their language has the whole rest of it (`finds_spans`). A match of what is anchored
at the start of a text starts there (`occursIn_textStart_iff`).
-/

namespace Blocklist.Regex

variable {s t w : Text} {f : Char → Bool} {n least : Nat} {most : Option Nat}
variable {step step' : Place → List Place} {L M : Language Char} {p q : Place}

/-! ### Languages -/

/-- The texts of one character that satisfies `f`. -/
def chars (f : Char → Bool) : Language Char := {w | ∃ c, f c ∧ w = [c]}

/-- The texts that are at least `least` and at most `most` texts of `L` in a row. -/
def repetitions (L : Language Char) (least : Nat) (most : Option Nat) : Language Char :=
  {w | ∃ k, least ≤ k ∧ (∀ m ∈ most, k ≤ m) ∧ w ∈ L ^ k}

theorem mem_chars_iff : w ∈ chars f ↔ ∃ c, f c ∧ w = [c] := Iff.rfl

theorem mem_repetitions_iff : w ∈ repetitions L least most ↔ ∃ k, least ≤ k ∧ (∀ m ∈ most, k ≤ m) ∧ w ∈ L ^ k :=
  Iff.rfl

theorem nil_not_mem_chars : [] ∉ chars f := by
  rintro ⟨c, -, h⟩
  cases h

theorem mem_chars_mul_iff : w ∈ chars f * L ↔ ∃ c v, f c ∧ v ∈ L ∧ w = c :: v := by
  rw [Language.mem_mul]
  constructor
  · rintro ⟨_, ⟨c, hc, rfl⟩, v, hv, rfl⟩
    exact ⟨c, v, hc, hv, rfl⟩
  · rintro ⟨c, v, hc, hv, rfl⟩
    exact ⟨[c], ⟨c, hc, rfl⟩, v, hv, rfl⟩

theorem mem_mul_chars_iff : w ∈ L * chars f ↔ ∃ u d, u ∈ L ∧ f d ∧ w = u ++ [d] := by
  rw [Language.mem_mul]
  constructor
  · rintro ⟨u, hu, _, ⟨d, hd, rfl⟩, rfl⟩
    exact ⟨u, d, hu, hd, rfl⟩
  · rintro ⟨u, d, hu, hd, rfl⟩
    exact ⟨u, hu, [d], ⟨d, hd, rfl⟩, rfl⟩

theorem nil_not_mem_mul (h : [] ∉ L ∨ [] ∉ M) : [] ∉ L * M := by
  rw [Language.mem_mul]
  rintro ⟨u, hu, v, hv, hnil⟩
  obtain ⟨rfl, rfl⟩ := List.append_eq_nil_iff.1 hnil
  exact h.elim (· hu) (· hv)

theorem chars_add (f g : Char → Bool) : chars f + chars g = chars fun c => f c || g c := by
  ext w
  simp only [Language.mem_add, mem_chars_iff, Bool.or_eq_true, or_and_right, exists_or]

theorem mem_chars_pow_iff : w ∈ chars f ^ n ↔ w.length = n ∧ ∀ c ∈ w, f c := by
  induction n generalizing w with
  | zero =>
    rw [pow_zero, Language.mem_one, List.length_eq_zero_iff, iff_self_and]
    rintro rfl
    exact List.forall_mem_nil _
  | succ n ih =>
    simp only [pow_succ', mem_chars_mul_iff, ih]
    constructor
    · rintro ⟨c, v, hc, ⟨rfl, hv⟩, rfl⟩
      exact ⟨rfl, List.forall_mem_cons.2 ⟨hc, hv⟩⟩
    · rintro ⟨hlength, hw⟩
      obtain ⟨c, v, rfl⟩ := List.exists_cons_of_length_eq_add_one hlength
      obtain ⟨hc, hv⟩ := List.forall_mem_cons.1 hw
      exact ⟨c, v, hc, ⟨Nat.succ.inj hlength, hv⟩, rfl⟩

theorem mem_repetitions_chars_iff :
    w ∈ repetitions (chars f) least most ↔ least ≤ w.length ∧ (∀ m ∈ most, w.length ≤ m) ∧ ∀ c ∈ w, f c := by
  simp only [mem_repetitions_iff, mem_chars_pow_iff]
  constructor
  · rintro ⟨_, hleast, hmost, rfl, hw⟩
    exact ⟨hleast, hmost, hw⟩
  · rintro ⟨hleast, hmost, hw⟩
    exact ⟨_, hleast, hmost, rfl, hw⟩

/-- A round may be left out or made once. -/
theorem mem_optional_iff : w ∈ repetitions L 0 (some 1) ↔ w = [] ∨ w ∈ L := by
  rw [mem_repetitions_iff]
  constructor
  · rintro ⟨k, -, hk, hw⟩
    obtain rfl | rfl : k = 0 ∨ k = 1 := by have := hk 1 rfl; omega
    · exact .inl ((Language.mem_one w).1 (pow_zero L ▸ hw))
    · exact .inr (pow_one L ▸ hw)
  · rintro (rfl | hw)
    · exact ⟨0, le_rfl, by simp, by rw [pow_zero]; exact Language.nil_mem_one⟩
    · exact ⟨1, Nat.zero_le 1, by simp, by rwa [pow_one]⟩

/-- Any number of rounds. -/
theorem mem_star_iff : w ∈ repetitions L 0 none ↔ ∃ ws : List Text, w = ws.flatten ∧ ∀ v ∈ ws, v ∈ L := by
  simp only [mem_repetitions_iff, Language.mem_pow]
  constructor
  · rintro ⟨_, -, -, ws, hw, -, hws⟩
    exact ⟨ws, hw, hws⟩
  · rintro ⟨ws, hw, hws⟩
    exact ⟨_, Nat.zero_le _, by simp, ws, hw, rfl, hws⟩

/-- With one more round, there is none or a first one. -/
theorem repetitions_succ : repetitions L 0 (some (n + 1)) = L * repetitions L 0 (some n) + 1 := by
  ext w
  simp only [mem_repetitions_iff, Language.mem_add, Language.mem_mul, Option.mem_some_iff, forall_eq']
  constructor
  · rintro ⟨k, -, hk, hw⟩
    cases k with
    | zero => exact .inr (pow_zero L ▸ hw)
    | succ k =>
      rw [pow_succ', Language.mem_mul] at hw
      obtain ⟨u, hu, v, hv, rfl⟩ := hw
      exact .inl ⟨u, hu, v, ⟨k, Nat.zero_le k, Nat.le_of_succ_le_succ hk, hv⟩, rfl⟩
  · rintro (⟨u, hu, v, ⟨k, -, hk, hv⟩, rfl⟩ | hw)
    · refine ⟨k + 1, Nat.zero_le _, Nat.succ_le_succ hk, ?_⟩
      rw [pow_succ', Language.mem_mul]
      exact ⟨u, hu, v, hv, rfl⟩
    · exact ⟨0, le_rfl, Nat.zero_le _, by rwa [pow_zero]⟩

theorem repetitions_zero : repetitions L 0 (some 0) = 1 := by
  ext w
  simp [mem_repetitions_iff]

/-- The first rounds are those that there have to be. -/
theorem pow_mul_repetitions (h : ∀ m ∈ most, least ≤ m) :
    L ^ least * repetitions L 0 (most.map (· - least)) = repetitions L least most := by
  ext w
  simp only [mem_repetitions_iff, Language.mem_mul]
  constructor
  · rintro ⟨u, hu, v, ⟨k, -, hk, hv⟩, rfl⟩
    refine ⟨least + k, Nat.le_add_right .., fun m hm => ?_, ?_⟩
    · have hk := hk (m - least) (Option.mem_map_of_mem _ hm)
      have := h m hm
      omega
    · rw [pow_add, Language.mem_mul]
      exact ⟨u, hu, v, hv, rfl⟩
  · rintro ⟨k, hleast, hmost, hw⟩
    obtain ⟨k, rfl⟩ := Nat.exists_eq_add_of_le hleast
    rw [pow_add, Language.mem_mul] at hw
    obtain ⟨u, hu, v, hv, rfl⟩ := hw
    refine ⟨u, hu, v, ⟨k, Nat.zero_le k, fun m hm => ?_, hv⟩, rfl⟩
    obtain ⟨b, hb, rfl⟩ := Option.mem_map.1 hm
    have := hmost b hb
    omega

/-- Where each round takes something, there are no more of them than characters. -/
theorem le_length_of_mem_pow (hL : [] ∉ L) (h : w ∈ L ^ n) : n ≤ w.length := by
  induction n generalizing w with
  | zero => exact Nat.zero_le _
  | succ n ih =>
    rw [pow_succ', Language.mem_mul] at h
    obtain ⟨u, hu, v, hv, rfl⟩ := h
    have hpos : 0 < u.length := List.length_pos_iff.2 fun hnil => hL (hnil ▸ hu)
    have := ih hv
    rw [List.length_append]
    omega

/-! ### Steps -/

/-- The matches of a step take the texts of `L` and no others. -/
def Takes (step : Place → List Place) (L : Language Char) : Prop :=
  ∀ p t, (∃ q ∈ step p, q.after = t) ↔ ∃ w ∈ L, p.after = w ++ t

namespace Takes

theorem stay : Takes (fun p => [p]) 1 := by
  intro p t
  simp [Language.mem_one]

theorem next (f : Char → Bool) : Takes (fun p => (p.next? f).toList) (chars f) := by
  rintro ⟨before, s, groups⟩ t
  simp only [mem_chars_iff]
  cases s with
  | nil => simp [Place.next?]
  | cons c s =>
    by_cases hc : f c
    · simp only [Place.next?, hc, if_true, Option.toList_some, List.mem_singleton, exists_eq_left]
      constructor
      · rintro rfl
        exact ⟨[c], ⟨c, hc, rfl⟩, rfl⟩
      · rintro ⟨_, ⟨d, -, rfl⟩, hs⟩
        exact (List.cons.inj hs).2
    · refine iff_of_false (by simp [Place.next?, hc]) ?_
      rintro ⟨_, ⟨d, hd, rfl⟩, hs⟩
      exact hc ((List.cons.inj hs).1 ▸ hd)

theorem bind (h : Takes step L) (h' : Takes step' M) : Takes (fun p => (step p).flatMap step') (L * M) := by
  intro p t
  simp only [List.mem_flatMap, Language.mem_mul]
  constructor
  · rintro ⟨r, ⟨q, hq, hr⟩, hrt⟩
    obtain ⟨u, hu, hp⟩ := (h p q.after).1 ⟨q, hq, rfl⟩
    obtain ⟨v, hv, hq⟩ := (h' q t).1 ⟨r, hr, hrt⟩
    exact ⟨u ++ v, ⟨u, hu, v, hv, rfl⟩, by rw [hp, hq, List.append_assoc]⟩
  · rintro ⟨_, ⟨u, hu, v, hv, rfl⟩, hp⟩
    rw [List.append_assoc] at hp
    obtain ⟨q, hq, hqv⟩ := (h p (v ++ t)).2 ⟨u, hu, hp⟩
    obtain ⟨r, hr, hrt⟩ := (h' q t).2 ⟨v, hv, hqv⟩
    exact ⟨r, ⟨q, hq, hr⟩, hrt⟩

/-- What a step takes depends on the places that it leads to, and not on their order. -/
theorem congr (h : Takes step L) (hstep : ∀ p q, q ∈ step' p ↔ q ∈ step p) : Takes step' L := by
  intro p t
  simp only [hstep]
  exact h p t

theorem append (h : Takes step L) (h' : Takes step' M) : Takes (fun p => step p ++ step' p) (L + M) := by
  intro p t
  simp only [List.mem_append, Language.mem_add, or_and_right, exists_or, h p t, h' p t]

theorem length_lt (h : Takes step L) (hL : [] ∉ L) (hq : q ∈ step p) : q.after.length < p.after.length := by
  obtain ⟨w, hw, hp⟩ := (h p q.after).1 ⟨q, hq, rfl⟩
  have hpos : 0 < w.length := List.length_pos_iff.2 fun hnil => hL (hnil ▸ hw)
  rw [hp, List.length_append]
  omega

theorem rounds (h : Takes step L) (n : Nat) : Takes (rounds step n) (L ^ n) := by
  induction n with
  | zero => exact pow_zero L ▸ stay
  | succ n ih =>
    rw [pow_succ']
    exact (h.bind ih).congr fun p q => by rw [Regex.rounds, List.mem_eraseDups]

theorem moreRounds (h : Takes step L) (hL : [] ∉ L) (many : Bool) (n : Nat) :
    Takes (moreRounds step many n) (repetitions L 0 (some n)) := by
  induction n with
  | zero => exact repetitions_zero ▸ stay
  | succ n ih =>
    rw [repetitions_succ]
    refine ((h.bind ih).append stay).congr fun p q => ?_
    -- every round takes a character, and so none of them is the last one for having taken none
    have hmore : ((step p).flatMap fun r =>
        if r.after.length < p.after.length then Regex.moreRounds step many n r else [r]) =
          (step p).flatMap (Regex.moreRounds step many n) :=
      List.flatMap_congr fun r hr => if_pos (h.length_lt hL hr)
    rw [Regex.moreRounds, hmore]
    cases many <;> simp [or_comm]

/-- A repetition tries no more rounds than there are characters, which is all that there can be. -/
theorem roundsBetween (h : Takes step L) (hL : [] ∉ L) (hmost : ∀ m ∈ most, least ≤ m) (many : Bool) :
    Takes (roundsBetween step least most many) (repetitions L least most) := by
  rw [← pow_mul_repetitions hmost]
  refine (h.rounds least).bind fun p t => ?_
  rw [h.moreRounds hL many _ p t]
  refine exists_congr fun w => and_congr_left fun hp => ?_
  simp only [mem_repetitions_iff]
  refine exists_congr fun k => and_congr_right fun _ => and_congr_left fun hw => ?_
  have hk : k ≤ p.after.length := by
    rw [hp, List.length_append]
    exact (le_length_of_mem_pow hL hw).trans (Nat.le_add_right ..)
  cases most with
  | none => simpa using hk.trans (Nat.le_succ _)
  | some m => simpa using fun _ => hk.trans (Nat.le_succ _)

/-! ### Expressions -/

theorem char (f : Folding) (c : Char) : Takes (run (.char f c)) (chars fun d => f.fold c = f.fold d) :=
  next _

theorem any (lineFeed : Bool) : Takes (run (.any lineFeed)) (chars fun d => lineFeed || d ≠ '\n') :=
  next _

theorem set (f : Folding) (negated : Bool) (items : List SetItem) :
    Takes (run (.set f negated items)) (chars fun d => negated != items.any (·.has f d)) :=
  next _

variable {a b r : Regex}

theorem seq (ha : Takes (run a) L) (hb : Takes (run b) M) : Takes (run (.seq a b)) (L * M) :=
  ha.bind hb

theorem alt (ha : Takes (run a) L) (hb : Takes (run b) M) : Takes (run (.alt a b)) (L + M) :=
  ha.append hb

theorem group (h : Takes (run r) L) : Takes (run (.group none r)) L := h

theorem repetition (h : Takes (run r) L) (hL : [] ∉ L) (hmost : ∀ m ∈ most, least ≤ m) :
    Takes (run (.repeat r least most .greedy)) (repetitions L least most) :=
  (h.roundsBetween hL hmost true).congr fun p q => by rw [run, repeated, List.mem_eraseDups]

end Takes

/-! ### Parts -/

variable {r : Regex} {a : Part} {parts : List Part} {F : Text → Prop}

/-- A match of the parts can start at the place. -/
def Finds (parts : List Part) (p : Place) : Prop := run (sequence parts) p ≠ []

theorem finds_cons : Finds (a :: parts) p ↔ ∃ q ∈ run a.regex p, Finds parts q := by
  cases parts with
  | nil =>
    have hempty : ∀ q, Finds [] q := fun q => List.cons_ne_nil q []
    constructor
    · intro h
      obtain ⟨q, hq⟩ := List.exists_mem_of_ne_nil _ h
      exact ⟨q, hq, hempty q⟩
    · rintro ⟨q, hq, -⟩
      exact List.ne_nil_of_mem hq
  | cons b parts => simp [Finds, sequence, run, List.flatMap_eq_nil_iff]

theorem finds_textStart :
    Finds (.anchor (.anchor .textStart) :: parts) p ↔ p.before = [] ∧ Finds parts p := by
  by_cases h : p.before = [] <;> simp [finds_cons, Part.regex, run, holdsAt, h]

theorem finds_lastLineEnd : Finds [.anchor (.anchor .lastLineEnd)] p ↔ p.after = [] ∨ p.after = ['\n'] := by
  rw [Finds, sequence, Part.regex, run, holdsAt]
  by_cases h : p.after = [] ∨ p.after = ['\n'] <;> simp_all

/-- What comes after a part is looked for behind each text that it takes. -/
theorem finds_of_takes (h : Takes (run a.regex) L) (hparts : ∀ p, Finds parts p ↔ F p.after) :
    Finds (a :: parts) p ↔ ∃ w ∈ L, ∃ t, p.after = w ++ t ∧ F t := by
  simp only [finds_cons, hparts]
  constructor
  · rintro ⟨q, hq, hF⟩
    obtain ⟨w, hw, hp⟩ := (h p q.after).1 ⟨q, hq, rfl⟩
    exact ⟨w, hw, q.after, hp, hF⟩
  · rintro ⟨w, hw, t, hp, hF⟩
    obtain ⟨q, hq, rfl⟩ := (h p t).2 ⟨w, hw, hp⟩
    exact ⟨q, hq, hF⟩

/-- A text of `L` is all of `s`, but for a line feed that may stand at its end. -/
def Spans (L : Language Char) (s : Text) : Prop := ∃ w ∈ L, s = w ∨ s = w ++ ['\n']

theorem spans_iff_of_no_feed (h : ∀ w ∈ L, '\n' ∉ w) : Spans L s ↔ s.dropLineFeed ∈ L := by
  constructor
  · rintro ⟨w, hw, rfl | rfl⟩
    · rwa [Text.dropLineFeed, Text.removeSuffix_eq_self fun hfeed => h s hw (hfeed.subset (List.mem_singleton_self _))]
    · rwa [Text.dropLineFeed, Text.removeSuffix_append]
  · intro hs
    obtain ⟨m, rfl | rfl, hm⟩ := Text.eq_removeSuffix_append ['\n'] s
    · exact ⟨_, hs, .inl (hm.trans (List.append_nil _))⟩
    · exact ⟨_, hs, .inr hm⟩

theorem finds_lastLineEnd_spans : Finds [.anchor (.anchor .lastLineEnd)] p ↔ Spans 1 p.after := by
  simp [finds_lastLineEnd, Spans, Language.mem_one]

/-- Parts up to the end of the text take the rest of it. -/
theorem finds_spans (h : Takes (run a.regex) L) (hparts : ∀ p, Finds parts p ↔ Spans M p.after) :
    Finds (a :: parts) p ↔ Spans (L * M) p.after := by
  rw [finds_of_takes h hparts]
  simp only [Spans, Language.mem_mul]
  constructor
  · rintro ⟨u, hu, t, hp, v, hv, ht⟩
    refine ⟨u ++ v, ⟨u, hu, v, hv, rfl⟩, ?_⟩
    rw [hp, List.append_assoc, List.append_right_inj, List.append_right_inj]
    exact ht
  · rintro ⟨_, ⟨u, hu, v, hv, rfl⟩, hp | hp⟩
    · exact ⟨u, hu, v, hp, v, hv, .inl rfl⟩
    · exact ⟨u, hu, v ++ ['\n'], hp.trans (List.append_assoc ..), v, hv, .inr rfl⟩

/-- A condition on what comes next leaves the place where it is. -/
theorem finds_ahead (hparts : ∀ p, Finds parts p ↔ F p.after) :
    Finds (.atom (.ahead false r) :: parts) p ↔ run r p ≠ [] ∧ F p.after := by
  rw [finds_cons, Part.regex, run]
  cases run r p with
  | nil => simp
  | cons q qs => simp [hparts]

theorem occursAfter_iff {before : Text} :
    occursAfter r before s ↔ ∃ t u, s = t ++ u ∧ run r ⟨t.reverse ++ before, u, []⟩ ≠ [] := by
  induction s generalizing before with
  | nil =>
    rw [occursAfter, Bool.not_eq_true', List.isEmpty_eq_false_iff]
    constructor
    · exact fun h => ⟨[], [], rfl, h⟩
    · rintro ⟨t, u, hs, h⟩
      obtain ⟨rfl, rfl⟩ := List.append_eq_nil_iff.1 hs.symm
      exact h
  | cons c s ih =>
    rw [occursAfter, Bool.or_eq_true, Bool.not_eq_true', List.isEmpty_eq_false_iff, ih]
    constructor
    · rintro (h | ⟨t, u, rfl, h⟩)
      · exact ⟨[], c :: s, rfl, h⟩
      · exact ⟨c :: t, u, rfl, by simpa using h⟩
    · rintro ⟨t, u, hs, h⟩
      cases t with
      | nil => exact .inl (by rw [hs]; exact h)
      | cons d t =>
        obtain ⟨rfl, rfl⟩ := List.cons.inj hs
        exact .inr ⟨t, u, rfl, by simpa using h⟩

/-- With an anchor at the start of the text there is no match that starts later. -/
theorem occursIn_textStart_iff :
    occursIn (sequence (.anchor (.anchor .textStart) :: parts)) s ↔ Finds parts ⟨[], s, []⟩ := by
  rw [occursIn, occursAfter_iff]
  constructor
  · rintro ⟨t, u, rfl, h⟩
    obtain ⟨hbefore, h⟩ := finds_textStart.1 h
    obtain rfl : t = [] := by simpa using hbefore
    exact h
  · intro h
    exact ⟨[], s, rfl, finds_textStart.2 ⟨rfl, h⟩⟩

end Blocklist.Regex
