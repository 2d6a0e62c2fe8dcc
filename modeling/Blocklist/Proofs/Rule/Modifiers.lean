import Blocklist.Proofs.Text.Escaped
import Blocklist.Rule.Reading
import Mathlib.Tactic.MkIffOfInductiveProp

/-!
# Modifiers, written and read

`Modifier.Tidy`: what reading makes of a token (`tidy_of_ofToken?`). A tidy modifier whose token is left
alone is read back (`ofToken?_plain`), but only the commas of its value are escaped where it is written.
`readAll_joined_iff`: modifiers are read back if and only if no name has a comma and no backslash stands
before a comma that separates. Where they are not, it shows in the number of characters if a name has a
comma (`name_no_comma`), and else in the number of modifiers (`length_tokens_joined_le`). So modifiers that
are `Delimited` are read back in any order and number, whatever their values (`readAll_join_text`).
-/

namespace Blocklist.Modifier

/-- What the modifier is read from, with no escapes. -/
def plain (m : Modifier) : Text :=
  match m.value with
  | none => m.name
  | some v => m.name ++ '=' :: v

/-- The text that modifiers are read from. -/
def joined (ms : List Modifier) : Text := Text.join [','] (ms.map text)

/-- No blanks around the name and the value, an equals sign in front of the value only, and not both
of them missing. -/
structure Tidy (m : Modifier) : Prop where
  name_trimmed : m.name.Trimmed
  name_no_equals : '=' ∉ m.name
  value_trimmed : ∀ v ∈ m.value, v.Trimmed
  plain_ne_nil : m.plain ≠ []

section
variable {m : Modifier} {ms : List Modifier} {s t v : Text}

theorem text_none (h : m.value = none) : m.text = m.name := by
  rw [text, h]

theorem text_some (h : m.value = some v) :
    m.text = m.name ++ '=' :: Text.replaceChar ',' ['\\', ','] v := by
  rw [text, h]

theorem plain_none (h : m.value = none) : m.plain = m.name := by
  rw [plain, h]

theorem plain_some (h : m.value = some v) : m.plain = m.name ++ '=' :: v := by
  rw [plain, h]

theorem joined_singleton (m : Modifier) : joined [m] = m.text := rfl

theorem joined_cons_cons (m m' : Modifier) (ms : List Modifier) :
    joined (m :: m' :: ms) = m.text ++ ',' :: joined (m' :: ms) := by
  rw [joined, List.map_cons, List.map_cons, Text.join, List.append_assoc]
  · rfl
  · exact List.cons_ne_nil _ _

/-! ### What reading makes -/

theorem Tidy.plain_trimmed (h : m.Tidy) : m.plain.Trimmed := by
  cases hv : m.value with
  | none =>
    rw [plain_none hv]
    exact h.name_trimmed
  | some v =>
    rw [plain_some hv]
    exact .append_cons h.name_trimmed.1 (by decide) (h.value_trimmed v hv).2

theorem of_ofToken?_eq_some (h : ofToken? t = some m) :
    t.trim ≠ [] ∧ ((∃ a b : Text, t.trim = a ++ '=' :: b ∧ '=' ∉ a ∧ m = ⟨a.trim, some b.trim⟩) ∨
      ('=' ∉ t.trim ∧ m = ⟨t.trim, none⟩)) := by
  simp only [ofToken?] at h
  split at h
  · cases h
  rename_i hne
  refine ⟨hne, ?_⟩
  split at h
  · rename_i a b hcut
    obtain ⟨ht, ha⟩ := Text.cut?_singleton_eq_some_iff.1 hcut
    exact .inl ⟨a, b, ht, ha, (Option.some.inj h).symm⟩
  · rename_i hcut
    exact .inr ⟨Text.cut?_singleton_eq_none_iff.1 hcut, (Option.some.inj h).symm⟩

theorem tidy_of_ofToken? (h : ofToken? t = some m) : m.Tidy := by
  obtain ⟨hne, ⟨a, b, -, ha, rfl⟩ | ⟨hs, rfl⟩⟩ := of_ofToken?_eq_some h
  · refine ⟨Text.trimmed_trim a, fun hmem => ha (Text.mem_of_mem_trim hmem), ?_, by simp [plain]⟩
    intro v hv
    obtain rfl := Option.some.inj hv
    exact Text.trimmed_trim b
  · exact ⟨Text.trimmed_trim t, hs, (fun v hv => by cases hv), hne⟩

theorem tidy_of_mem_readAll (h : m ∈ readAll s) : m.Tidy := by
  obtain ⟨t, -, ht⟩ := List.mem_filterMap.1 h
  exact tidy_of_ofToken? ht

/-- Something is read if the text ends with neither a blank nor a comma. -/
theorem readAll_concat_ne_nil {c : Char} (hblank : isBlank c = false) (hc : c ≠ ',') : readAll (s ++ [c]) ≠ [] := by
  obtain ⟨t, ht⟩ := Text.exists_concat_mem_splitEscaped (by decide : ',' ≠ '\\') hc s
  have hne : Text.trim (t ++ [c]) ≠ [] := by
    rw [ne_eq, Text.trim_eq_nil_iff, Text.isBlankText]
    simp [hblank]
  have hsome : ∃ m, ofToken? (t ++ [c]) = some m := by
    simp only [ofToken?, hne, if_false]
    split
    · exact ⟨_, rfl⟩
    · exact ⟨_, rfl⟩
  obtain ⟨m, hm⟩ := hsome
  exact List.ne_nil_of_mem (List.mem_filterMap.2 ⟨_, ht, hm⟩)

theorem ofToken?_plain (h : m.Tidy) : ofToken? m.plain = some m := by
  unfold ofToken?
  rw [Text.trim_eq_self_iff.2 h.plain_trimmed, if_neg h.plain_ne_nil]
  obtain ⟨name, value⟩ := m
  cases value with
  | none =>
    have hcut : Text.cut? ['='] name = none := Text.cut?_singleton_eq_none_iff.2 h.name_no_equals
    simp only [plain, hcut]
  | some v =>
    have hcut : Text.cut? ['='] (name ++ '=' :: v) = some (name, v) :=
      Text.cut?_singleton_eq_some_iff.2 ⟨rfl, h.name_no_equals⟩
    simp only [plain, hcut]
    rw [Text.trim_eq_self_iff.2 h.name_trimmed, Text.trim_eq_self_iff.2 (h.value_trimmed v rfl)]

/-- Blanks are lost, but nothing is added. -/
theorem length_plain_le (h : ofToken? t = some m) : m.plain.length ≤ t.length := by
  have htrim := Text.length_trim_le t
  obtain ⟨-, ⟨a, b, hs, -, rfl⟩ | ⟨-, rfl⟩⟩ := of_ofToken?_eq_some h
  · have ha := Text.length_trim_le a
    have hb := Text.length_trim_le b
    rw [hs, List.length_append, List.length_cons] at htrim
    show (a.trim ++ '=' :: b.trim).length ≤ t.length
    rw [List.length_append, List.length_cons]
    omega
  · exact htrim

theorem length_flatMap_plain_le (s : Text) :
    ((readAll s).flatMap plain).length + s.count ',' ≤ s.length := by
  rw [← Text.length_flatten_splitEscaped (by decide : ',' ≠ '\\') s, readAll]
  refine Nat.add_le_add_right ?_ _
  generalize Text.splitEscaped ',' '\\' false s = tokens
  induction tokens with
  | nil => exact Nat.le_refl _
  | cons t tokens ih =>
    rw [List.flatten_cons, List.length_append]
    cases ht : ofToken? t with
    | none =>
      rw [List.filterMap_cons_none ht]
      exact Nat.le_trans ih (Nat.le_add_left ..)
    | some m =>
      rw [List.filterMap_cons_some ht, List.flatMap_cons, List.length_append]
      exact Nat.add_le_add (length_plain_le ht) ih

/-! ### Reading what was written -/

theorem length_text (m : Modifier) :
    m.text.length + m.name.count ',' = m.plain.length + m.text.count ',' := by
  have hreplace (v : Text) : (Text.replaceChar ',' ['\\', ','] v).length =
      v.length + (Text.replaceChar ',' ['\\', ','] v).count ',' := by
    induction v with
    | nil => rfl
    | cons c v ih =>
      have hcons : Text.replaceChar ',' ['\\', ','] (c :: v) =
        (if c = ',' then ['\\', ','] else [c]) ++ Text.replaceChar ',' ['\\', ','] v := List.flatMap_cons
      rw [hcons, List.length_append, List.count_append, ih, List.length_cons]
      split
      · rw [show List.count ',' ['\\', ','] = 1 by decide]
        simp only [List.length_cons, List.length_nil]
        omega
      · rename_i hc
        rw [List.count_singleton, beq_false_of_ne hc]
        simp only [List.length_singleton, Bool.false_eq_true, if_false]
        omega
  cases hv : m.value with
  | none => rw [text_none hv, plain_none hv]
  | some v =>
    rw [text_some hv, plain_some hv, List.length_append, List.length_append, List.count_append,
      List.length_cons, List.length_cons, List.count_cons_of_ne (by decide)]
    have := hreplace v
    omega

theorem length_joined (ms : List Modifier) :
    (joined ms).length + (ms.flatMap name).count ',' =
      (ms.flatMap plain).length + (joined ms).count ',' := by
  match ms with
  | [] => rfl
  | [m] => simpa [joined_singleton] using length_text m
  | m :: m' :: ms =>
    have hm := length_text m
    have ih := length_joined (m' :: ms)
    have hcons (f : Modifier → Text) : (m :: m' :: ms).flatMap f = f m ++ (m' :: ms).flatMap f :=
      List.flatMap_cons
    rw [joined_cons_cons, hcons, hcons, List.length_append, List.length_append, List.length_cons,
      List.count_append, List.count_append, List.count_cons_self]
    omega

/-- A comma in a name is lost. -/
theorem name_no_comma (h : readAll (joined ms) = ms) : ∀ m ∈ ms, ',' ∉ m.name := by
  have hle := length_flatMap_plain_le (joined ms)
  have hlength := length_joined ms
  rw [h] at hle
  have hzero : (ms.flatMap name).count ',' = 0 := by omega
  intro m hm hmem
  exact List.count_eq_zero.1 hzero (List.mem_flatMap.2 ⟨m, hm, hmem⟩)

theorem getLastD_append_equals (n w : Text) (last : Char) : (n ++ '=' :: w).getLastD last = w.getLastD '=' := by
  rw [List.getLastD_eq_getLast?, List.getLast?_append_of_ne_nil _ (List.cons_ne_nil _ _),
    ← List.getLastD_eq_getLast?, List.getLastD_cons]

/-- Scanning a modifier whose name has no comma adds its plain text to the token. -/
theorem splitEscapedAfter_text_append (h : ',' ∉ m.name) (last : Char) (token s : Text) :
    Text.splitEscapedAfter ',' '\\' false (some last) token (m.text ++ s) =
      Text.splitEscapedAfter ',' '\\' false (some (m.text.getLastD last)) (token ++ m.plain) s := by
  cases hv : m.value with
  | none =>
    rw [text_none hv, plain_none hv]
    exact Text.splitEscapedAfter_word_append h last token s
  | some v =>
    rw [text_some hv, plain_some hv, getLastD_append_equals, List.append_assoc, List.cons_append,
      Text.splitEscapedAfter_word_append h, Text.splitEscapedAfter_cons_of_ne (by decide),
      Text.splitEscapedAfter_replaceChar_append (by decide)]
    simp only [List.append_assoc, List.cons_append, List.nil_append]

theorem getLastD_ne_of_getLast? {last : Char} (h : s.getLast? ≠ some '\\') (hlast : last ≠ '\\') :
    s.getLastD last ≠ '\\' := by
  rw [List.getLastD_eq_getLast?]
  cases hs : s.getLast? with
  | none => exact hlast
  | some c => exact fun hc => h (hs.trans (congrArg some hc))

theorem splitEscapedAfter_joined {ms : List Modifier} (hplain : ∀ m ∈ ms, m.plain ≠ [])
    (hcomma : ∀ m ∈ ms, ',' ∉ m.name)
    (hlast : ∀ m ∈ ms.dropLast, m.text.getLast? ≠ some '\\') :
    Text.splitEscapedAfter ',' '\\' false (some ',') [] (joined ms) = ms.map plain := by
  match ms with
  | [] => rfl
  | [m] =>
    rw [joined_singleton, ← List.append_nil m.text, splitEscapedAfter_text_append (by simpa using hcomma),
      Text.splitEscapedAfter_nil, List.nil_append, List.filter_cons_of_pos (by simpa using hplain)]
    rfl
  | m :: m' :: ms =>
    rw [List.forall_mem_cons] at hplain hcomma
    rw [List.dropLast_cons_cons, List.forall_mem_cons] at hlast
    rw [joined_cons_cons, splitEscapedAfter_text_append hcomma.1,
      Text.splitEscapedAfter_delimiter (getLastD_ne_of_getLast? hlast.1 (by decide)),
      splitEscapedAfter_joined hplain.2 hcomma.2 hlast.2, List.nil_append,
      List.filter_cons_of_pos (by simpa using hplain.1)]
    rfl

/-- There are no more tokens than modifiers, and there are fewer if a separator is escaped. -/
theorem length_tokens_joined_le {ms : List Modifier} (hne : ms ≠ []) (hcomma : ∀ m ∈ ms, ',' ∉ m.name)
    (last : Char) (token : Text) :
    (Text.splitEscapedAfter ',' '\\' false (some last) token (joined ms)).length ≤ ms.length ∧
      ((Text.splitEscapedAfter ',' '\\' false (some last) token (joined ms)).length = ms.length →
        ∀ m ∈ ms.dropLast, m.text.getLast? ≠ some '\\') := by
  match ms with
  | [] => exact absurd rfl hne
  | [m] =>
    refine ⟨?_, fun _ m hm => by cases hm⟩
    rw [joined_singleton, ← List.append_nil m.text, splitEscapedAfter_text_append (by simpa using hcomma),
      Text.splitEscapedAfter_nil]
    exact List.length_filter_le _ _
  | m :: m' :: ms =>
    rw [List.forall_mem_cons] at hcomma
    rw [joined_cons_cons, splitEscapedAfter_text_append hcomma.1, List.dropLast_cons_cons]
    have ih (token : Text) := length_tokens_joined_le (List.cons_ne_nil m' ms) hcomma.2 ',' token
    by_cases hlast : m.text.getLastD last = '\\'
    · -- The comma joins this token with the next, and so there is one less.
      rw [hlast, Text.splitEscapedAfter_escaped, List.length_cons]
      have := (ih ((token ++ m.plain).dropLast ++ [','])).1
      exact ⟨by omega, fun heq => by omega⟩
    · rw [Text.splitEscapedAfter_delimiter hlast, List.length_append, List.length_cons]
      generalize hkept : [token ++ m.plain].filter _ = kept
      have hkept : kept.length ≤ 1 := hkept ▸ List.length_filter_le ..
      obtain ⟨hle, hrest⟩ := ih []
      refine ⟨by omega, fun heq => List.forall_mem_cons.2 ⟨?_, hrest (by omega)⟩⟩
      intro h
      rw [List.getLastD_eq_getLast?, h] at hlast
      exact hlast rfl

/-- Tidy modifiers are read back if and only if no name has a comma and no backslash comes before a
comma between two of them. -/
theorem readAll_joined_iff (htidy : ∀ m ∈ ms, m.Tidy) :
    readAll (joined ms) = ms ↔
      (∀ m ∈ ms, ',' ∉ m.name) ∧ ∀ m ∈ ms.dropLast, m.text.getLast? ≠ some '\\' := by
  have htokens : readAll (joined ms) =
      (Text.splitEscapedAfter ',' '\\' false (some ',') [] (joined ms)).filterMap ofToken? := by
    rw [readAll, Text.splitEscaped_eq (by decide)]
  constructor
  · intro h
    have hcomma := name_no_comma h
    refine ⟨hcomma, ?_⟩
    by_cases hne : ms = []
    · rw [hne]
      exact fun m hm => by cases hm
    · -- No token is lost among the modifiers read, and so there are as many tokens as modifiers.
      obtain ⟨hle, hlast⟩ := length_tokens_joined_le hne hcomma ',' []
      refine hlast (Nat.le_antisymm hle ?_)
      calc ms.length = (readAll (joined ms)).length := by rw [h]
        _ ≤ _ := by rw [htokens]; exact List.length_filterMap_le _ _
  · rintro ⟨hcomma, hlast⟩
    rw [htokens, splitEscapedAfter_joined (fun m hm => (htidy m hm).plain_ne_nil) hcomma hlast,
      List.filterMap_map]
    clear htokens hcomma hlast
    induction ms with
    | nil => rfl
    | cons m ms ih =>
      rw [List.forall_mem_cons] at htidy
      rw [List.filterMap_cons_some (f := ofToken? ∘ plain) (ofToken?_plain htidy.1), ih htidy.2]

/-! ### Names -/

/-- The name of a modifier of `ms`, alone or with an equals sign and more after it. -/
def Heads (ms : List Modifier) (t : Text) : Prop := ∃ m ∈ ms, t = m.name ∨ ∃ u, t = m.name ++ '=' :: u

/-- The name of a modifier of `ms`, with an equals sign and maybe more after it. -/
def HeadsValue (ms : List Modifier) (t : Text) : Prop := ∃ m ∈ ms, ∃ u, t = m.name ++ '=' :: u

theorem heads_append (hm : m ∈ ms) (ht : t = [] ∨ HeadsValue ms t) : Heads ms (t ++ m.plain) := by
  rcases ht with rfl | ⟨m', hm', u, rfl⟩
  · refine ⟨m, hm, ?_⟩
    cases hv : m.value with
    | none => exact .inl (plain_none hv)
    | some v => exact .inr ⟨v, plain_some hv⟩
  · exact ⟨m', hm', .inr ⟨u ++ m.plain, List.append_assoc ..⟩⟩

/-- A backslash at the end of a modifier is one of its value, and so its name is still there without it. -/
theorem headsValue_escaped {last : Char} (hm : m ∈ ms) (hplain : m.plain ≠ []) (hname : m.name.getLast? ≠ some '\\')
    (hlast : m.text.getLastD last = '\\') (ht : t = [] ∨ HeadsValue ms t) :
    HeadsValue ms ((t ++ m.plain).dropLast ++ [',']) := by
  have hcut (n u : Text) (hu : u ≠ []) : (n ++ '=' :: u).dropLast ++ [','] = n ++ '=' :: (u.dropLast ++ [',']) := by
    rw [List.dropLast_append_of_ne_nil (List.cons_ne_nil _ _), List.dropLast_cons_of_ne_nil hu, List.append_assoc,
      List.cons_append]
  rcases ht with rfl | ⟨m', hm', u, rfl⟩
  · cases hv : m.value with
    | none =>
      rw [plain_none hv] at hplain
      rw [text_none hv, List.getLastD_eq_getLast?, List.getLast?_eq_some_getLast hplain] at hlast
      rw [List.getLast?_eq_some_getLast hplain] at hname
      exact absurd (congrArg some hlast) hname
    | some v =>
      have hne : v ≠ [] := by
        rintro rfl
        rw [text_some hv, getLastD_append_equals] at hlast
        exact absurd hlast (by decide)
      rw [plain_some hv, List.nil_append, hcut _ _ hne]
      exact ⟨m, hm, _, rfl⟩
  · have hne : u ++ m.plain ≠ [] := List.append_ne_nil_of_right_ne_nil u hplain
    rw [List.append_assoc, List.cons_append, hcut _ _ hne]
    exact ⟨m', hm', _, rfl⟩

/-- However the separators are escaped, each token starts with a name. -/
theorem heads_of_mem_tokens {all ms : List Modifier} (hsub : ms ⊆ all) (hplain : ∀ m ∈ ms, m.plain ≠ [])
    (hname : ∀ m ∈ ms, ',' ∉ m.name ∧ m.name.getLast? ≠ some '\\') (last : Char) {token : Text}
    (htoken : token = [] ∨ HeadsValue all token)
    (ht : t ∈ Text.splitEscapedAfter ',' '\\' false (some last) token (joined ms)) : Heads all t := by
  match ms with
  | [] =>
    rw [show joined [] = [] from rfl, Text.splitEscapedAfter_nil] at ht
    obtain ⟨hmem, hne⟩ := List.mem_filter.1 ht
    obtain rfl := List.mem_singleton.1 hmem
    obtain ⟨m, hm, u, hu⟩ := htoken.resolve_left (by simpa using hne)
    exact ⟨m, hm, .inr ⟨u, hu⟩⟩
  | [m] =>
    have hm : m ∈ all := hsub (List.mem_singleton_self m)
    have hcomma := (hname m (List.mem_singleton_self m)).1
    rw [joined_singleton, ← List.append_nil m.text, splitEscapedAfter_text_append hcomma,
      Text.splitEscapedAfter_nil] at ht
    obtain rfl := List.mem_singleton.1 (List.mem_filter.1 ht).1
    exact heads_append hm htoken
  | m :: m' :: ms =>
    rw [List.forall_mem_cons] at hplain hname
    have hm : m ∈ all := hsub (List.mem_cons_self ..)
    have hsub : m' :: ms ⊆ all := fun x hx => hsub (List.mem_cons_of_mem m hx)
    rw [joined_cons_cons, splitEscapedAfter_text_append hname.1.1] at ht
    by_cases hlast : m.text.getLastD last = '\\'
    · rw [hlast, Text.splitEscapedAfter_escaped] at ht
      have htoken := headsValue_escaped hm hplain.1 hname.1.2 hlast htoken
      exact heads_of_mem_tokens hsub hplain.2 hname.2 ',' (.inr htoken) ht
    · rw [Text.splitEscapedAfter_delimiter hlast] at ht
      rcases List.mem_append.1 ht with ht | ht
      · obtain rfl := List.mem_singleton.1 (List.mem_filter.1 ht).1
        exact heads_append hm htoken
      · exact heads_of_mem_tokens hsub hplain.2 hname.2 ',' (.inl rfl) ht

theorem name_of_ofToken? {m' : Modifier} (hm : m.Tidy) (hhead : t = m.name ∨ ∃ u, t = m.name ++ '=' :: u)
    (h : ofToken? t = some m') : m'.name = m.name := by
  have hname : m.name.trim = m.name := Text.trim_eq_self_iff.2 hm.name_trimmed
  obtain ⟨-, ⟨a, b, htrim, ha, rfl⟩ | ⟨hequals, rfl⟩⟩ := of_ofToken?_eq_some h
  · rcases hhead with rfl | ⟨u, rfl⟩
    · refine absurd ?_ hm.name_no_equals
      rw [hname] at htrim
      exact htrim ▸ List.mem_append_right a (List.mem_cons_self ..)
    · rw [Text.trim_append_cons hm.name_trimmed.1 (by decide)] at htrim
      have hcut := Text.cut?_singleton_eq_some_iff.2 ⟨htrim, ha⟩
      rw [Text.cut?_singleton_eq_some_iff.2 ⟨rfl, hm.name_no_equals⟩] at hcut
      obtain ⟨rfl, -⟩ := Prod.mk.inj (Option.some.inj hcut)
      exact hname
  · rcases hhead with rfl | ⟨u, rfl⟩
    · exact hname
    · rw [Text.trim_append_cons hm.name_trimmed.1 (by decide)] at hequals
      exact absurd (List.mem_append_right _ (List.mem_cons_self ..)) hequals

/-- Reading written modifiers gives no other names, even where it does not give the modifiers back. -/
theorem exists_name_of_mem_readAll_joined {m' : Modifier} (htidy : ∀ m ∈ ms, m.Tidy)
    (hname : ∀ m ∈ ms, ',' ∉ m.name ∧ m.name.getLast? ≠ some '\\') (h : m' ∈ readAll (joined ms)) :
    ∃ m ∈ ms, m'.name = m.name := by
  obtain ⟨t, ht, hm'⟩ := List.mem_filterMap.1 h
  rw [Text.splitEscaped_eq (by decide)] at ht
  obtain ⟨m, hm, hhead⟩ := heads_of_mem_tokens (List.Subset.refl ms) (fun m hm => (htidy m hm).plain_ne_nil) hname ','
    (.inl rfl) ht
  exact ⟨m, hm, name_of_ofToken? (htidy m hm) hhead hm'⟩

/-! ### Ends -/

theorem getLast?_replaceChar (v : Text) :
    (Text.replaceChar ',' ['\\', ','] v).getLast? = v.getLast? := by
  rcases List.eq_nil_or_concat v with rfl | ⟨v, c, rfl⟩
  · rfl
  · rw [List.concat_eq_append, Text.replaceChar, List.flatMap_append, List.flatMap_singleton,
      List.getLast?_concat]
    split
    · rename_i hc
      rw [List.getLast?_append_of_ne_nil _ (List.cons_ne_nil _ _), hc]
      rfl
    · exact List.getLast?_concat

theorem Tidy.text_trimmed (h : m.Tidy) : m.text.Trimmed := by
  cases hv : m.value with
  | none =>
    rw [text_none hv]
    exact h.name_trimmed
  | some v =>
    rw [text_some hv]
    refine .append_cons h.name_trimmed.1 (by decide) ?_
    rw [getLast?_replaceChar]
    exact (h.value_trimmed v hv).2

theorem joined_trimmed {ms : List Modifier} (h : ∀ m ∈ ms, m.Tidy) : (joined ms).Trimmed := by
  match ms with
  | [] => exact .nil
  | [m] => exact (h m (List.mem_singleton_self m)).text_trimmed
  | m :: m' :: ms =>
    rw [List.forall_mem_cons] at h
    rw [joined_cons_cons]
    exact .append_cons h.1.text_trimmed.1 (by decide) (joined_trimmed h.2).2

/-! ### Modifiers of any content -/

/-- A modifier whose written form shows where it ends: neither comma nor equals sign in the name, no blanks around
name and value, and no backslash at the end. The value may have commas, equals signs and backslashes in it. -/
@[mk_iff]
structure Delimited (m : Modifier) : Prop where
  name_ne_nil : m.name ≠ []
  name_trimmed : m.name.Trimmed
  name_no_comma : ',' ∉ m.name
  name_no_equals : '=' ∉ m.name
  value_trimmed : ∀ v ∈ m.value, v.Trimmed
  no_backslash : (m.value.getD m.name).getLast? ≠ some '\\'

instance : DecidablePred Delimited := fun m => decidable_of_iff _ (delimited_iff m).symm

namespace Delimited

theorem tidy (h : m.Delimited) : m.Tidy := by
  refine ⟨h.name_trimmed, h.name_no_equals, h.value_trimmed, ?_⟩
  cases hv : m.value with
  | none =>
    rw [plain_none hv]
    exact h.name_ne_nil
  | some v =>
    rw [plain_some hv]
    exact List.append_ne_nil_of_right_ne_nil _ (List.cons_ne_nil _ _)

/-- The comma that separates a modifier from the next is not escaped. -/
theorem getLast?_text (h : m.Delimited) : m.text.getLast? ≠ some '\\' := by
  have hlast := h.no_backslash
  cases hv : m.value with
  | none =>
    rw [hv] at hlast
    rwa [text_none hv]
  | some v =>
    rw [hv, Option.getD_some] at hlast
    rw [text_some hv, List.getLast?_append_of_ne_nil _ (List.cons_ne_nil _ _), List.getLast?_cons,
      getLast?_replaceChar]
    cases hlast' : v.getLast? with
    | none => decide
    | some c =>
      rw [hlast'] at hlast
      exact hlast

end Delimited

/-- Modifiers whose ends show are read back, whatever their values. -/
theorem readAll_join_text (h : ∀ m ∈ ms, m.Delimited) : readAll (Text.join [','] (ms.map text)) = ms :=
  (readAll_joined_iff fun m hm => (h m hm).tidy).2
    ⟨fun m hm => (h m hm).name_no_comma, fun m hm => (h m (List.dropLast_subset _ hm)).getLast?_text⟩

/-- A comma after a backslash and one at the end of the value, a backslash in front of a name, and a value that is
empty after a name with a backslash at its end. -/
theorem readAll_join_text_backslashes :
    readAll "client=\\,a==\\\\,b\\,,\\x,y\\=".toList =
      [⟨"client".toList, some ",a==\\,b,".toList⟩, ⟨"\\x".toList, none⟩, ⟨"y\\".toList, some []⟩] := by
  have h : ∀ m ∈ [⟨"client".toList, some ",a==\\,b,".toList⟩, ⟨"\\x".toList, none⟩, ⟨"y\\".toList, some []⟩],
      Delimited m := by decide
  exact readAll_join_text h

/-! ### Dollar signs -/

theorem protected_text (h : ofToken? t = some m) (ht : Text.Protected '$' t) :
    Text.Protected '$' m.text := by
  have htrim := ht.trim
  obtain ⟨-, ⟨a, b, hs, -, rfl⟩ | ⟨-, rfl⟩⟩ := of_ofToken?_eq_some h
  · rw [hs, Text.protected_append_cons (by decide) (by decide)] at htrim
    rw [text_some rfl, Text.protected_append_cons (by decide) (by decide)]
    exact ⟨htrim.1.trim, (Text.protected_replaceChar_iff (by decide) (by decide) (by decide)).2 htrim.2.trim⟩
  · exact htrim

theorem protected_joined_iff : Text.Protected '$' (joined ms) ↔ ∀ m ∈ ms, Text.Protected '$' m.text := by
  rw [joined, Text.protected_join_iff (by decide) (by decide), List.forall_mem_map]

/-- The dollar signs of a value are protected if those of the modifier are. -/
theorem protected_value (h : Text.Protected '$' m.text) : ∀ v ∈ m.value, Text.Protected '$' v := by
  intro v hv
  rw [text_some hv, Text.protected_append_cons (by decide) (by decide)] at h
  exact (Text.protected_replaceChar_iff (by decide) (by decide) (by decide)).1 h.2

/-- Reading and writing modifiers takes no dollar sign out of its backslashes. -/
theorem protected_joined_readAll (h : Text.Protected '$' s) : Text.Protected '$' (joined (readAll s)) := by
  refine protected_joined_iff.2 fun m hm => ?_
  obtain ⟨t, ht, hm⟩ := List.mem_filterMap.1 hm
  exact protected_text hm (Text.protected_of_mem_splitEscaped (by decide) (by decide) h ht)

end

end Blocklist.Modifier
