import Blocklist.Proofs.Picks
import Blocklist.Proofs.Transform.Compress

/-!
# Compressed lists are minimal covers

Which lines a list is compressed to. An entry stays exactly if no earlier one has its hostname and no entry at all
has an ancestor of it (`Stays`). What stays covers every hostname that a line names, without a hostname
that covers another one, and every line that names none stays as often as it was there (`compress_minimal`).
-/

namespace Blocklist.Transform
open Hostname

variable {h l p w : Text} {lines seen : List Text} {e : Entry} {es : List Entry}

/-! ### The hostnames of a line -/

/-- The hostnames of a line by which a list is compressed: those of a hosts line, a bare domain, or the hostname that
the whole of a blocking rule without modifiers is about. -/
inductive NamesHost (l : Text) : Text → Prop
  | hosts {r : HostsRule} {w : Text} (hr : HostsRule.read l = .ok r) (hw : w ∈ r.hostnames) : NamesHost l w.lower
  | bare (hhosts : isHostsLine l = false) (hbare : isBareDomain l) :
      NamesHost l (Text.dropEndWhile (· = '.') l.trim).lower
  | rule {r : AdblockRule} {h : Text} (hhosts : isHostsLine l = false) (hbare : isBareDomain l = false)
      (hcomment : isCommentOrBlank l = false) (hr : AdblockRule.read l = .ok r) (hexc : r.exception = false)
      (hmodifiers : r.modifiers = []) (hname : r.hostname? = some h) : NamesHost l h

/-- A line that is no hosts line and names no hostname otherwise. -/
def PassesThrough (l : Text) : Prop := isHostsLine l = false ∧ ∀ h, ¬ NamesHost l h

theorem plainHost?_eq_some_iff {r : AdblockRule} :
    plainHost? r = some h ↔ r.exception = false ∧ r.modifiers = [] ∧ r.hostname? = some h := by
  rw [plainHost?]
  cases r.exception <;> by_cases hm : r.modifiers = [] <;> simp [hm]

/-- An entry is the line, which passes through, or it is for a hostname of the line. -/
theorem of_mem_entries (he : e ∈ entries l) :
    e = .other l ∧ PassesThrough l ∨ ∃ h, NamesHost l h ∧ (e = .ofHost h ∨ e = .rule l h) := by
  cases hhosts : isHostsLine l with
  | true =>
    obtain ⟨r, hr⟩ := HostsRule.isHostsLine_iff_exists_read.1 hhosts
    rw [entries_of_hosts hr] at he
    obtain ⟨w, hw, rfl⟩ := List.mem_map.1 he
    exact .inr ⟨_, .hosts hr hw, .inl rfl⟩
  | false =>
  cases hbare : isBareDomain l with
  | true =>
    rw [entries_of_bare hhosts hbare, List.mem_singleton] at he
    exact .inr ⟨_, .bare hhosts hbare, .inl he⟩
  | false =>
  cases hcomment : isCommentOrBlank l with
  | true =>
    rw [entries_of_comment hhosts hbare hcomment, List.mem_singleton] at he
    refine .inl ⟨he, hhosts, ?_⟩
    rintro _ (⟨hr, -⟩ | ⟨-, hbare'⟩ | ⟨-, -, hcomment', -⟩)
    · exact absurd (HostsRule.isHostsLine_of_read hr) (by rw [hhosts]; decide)
    · exact absurd hbare' (by rw [hbare]; decide)
    · exact absurd hcomment (by rw [hcomment']; decide)
  | false =>
    rw [entries_of_rule hhosts hbare hcomment] at he
    split at he
    · rename_i w hw
      obtain ⟨r, hr, hplain⟩ := Option.bind_eq_some_iff.1 hw
      obtain ⟨hexc, hmodifiers, hname⟩ := plainHost?_eq_some_iff.1 hplain
      have hr := AdblockRule.read?_eq_some_iff.1 hr
      exact .inr ⟨w, .rule hhosts hbare hcomment hr hexc hmodifiers hname, .inr (List.mem_singleton.1 he)⟩
    · rename_i hnone
      rw [Option.bind_eq_none_iff] at hnone
      refine .inl ⟨List.mem_singleton.1 he, hhosts, ?_⟩
      rintro h (⟨hr, -⟩ | ⟨-, hbare'⟩ | ⟨-, -, -, hr, hexc, hmodifiers, hname⟩)
      · exact absurd (HostsRule.isHostsLine_of_read hr) (by rw [hhosts]; decide)
      · exact absurd hbare' (by rw [hbare]; decide)
      · have hplain := plainHost?_eq_some_iff.2 ⟨hexc, hmodifiers, hname⟩
        rw [hnone _ (AdblockRule.read?_eq_some_iff.2 hr)] at hplain
        cases hplain

theorem exists_entry_of_namesHost (h : NamesHost l w) : ∃ e ∈ entries l, e.host? = some w := by
  rcases h with ⟨hr, hw⟩ | ⟨hhosts, hbare⟩ | ⟨hhosts, hbare, hcomment, hr, hexc, hmodifiers, hname⟩
  · rw [entries_of_hosts hr]
    exact ⟨_, List.mem_map_of_mem hw, rfl⟩
  · rw [entries_of_bare hhosts hbare]
    exact ⟨_, List.mem_singleton_self _, rfl⟩
  · rw [entries_of_rule hhosts hbare hcomment, AdblockRule.read?_eq_some_iff.2 hr, Option.bind_some,
      plainHost?_eq_some_iff.2 ⟨hexc, hmodifiers, hname⟩]
    exact ⟨_, List.mem_singleton_self _, rfl⟩

theorem entries_of_passesThrough (h : PassesThrough l) : entries l = [.other l] := by
  have hentry {e : Entry} (he : e ∈ entries l) : e = .other l := by
    rcases of_mem_entries he with ⟨rfl, -⟩ | ⟨w, hw, -⟩
    · rfl
    · exact absurd hw (h.2 w)
  cases hbare : isBareDomain l with
  | true => exact absurd (.bare h.1 hbare) (h.2 _)
  | false =>
  cases hcomment : isCommentOrBlank l with
  | true => exact entries_of_comment h.1 hbare hcomment
  | false =>
    have hrule := entries_of_rule h.1 hbare hcomment
    split at hrule
    · have he : Entry.rule l _ = .other l := hentry (hrule ▸ List.mem_singleton_self _)
      cases he
    · exact hrule

/-- A line that passes through is an entry as often as it is there, and no other line has it as one. -/
theorem count_flatMap_entries (h : PassesThrough l) (lines : List Text) :
    (lines.flatMap entries).count (.other l) = lines.count l := by
  induction lines with
  | nil => rfl
  | cons k lines ih =>
    rw [List.flatMap_cons, List.count_append, List.count_cons, ih, Nat.add_comm]
    congr 1
    by_cases hk : k = l
    · rw [hk, entries_of_passesThrough h]
      simp
    · rw [if_neg (by simpa using hk), List.count_eq_zero]
      intro hmem
      rcases of_mem_entries hmem with ⟨heq, -⟩ | ⟨w, -, heq | heq⟩
      · exact hk (Entry.other.inj heq).symm
      · cases heq
      · cases heq

/-! ### The entries that stay -/

/-- The entry at this place stays: if it is for a hostname, no entry before it is for the same, and none at all for
an ancestor. -/
def Stays (es : List Entry) (i : Nat) : Prop :=
  ∃ e, es[i]? = some e ∧ ∀ h ∈ e.host?, h ∉ (es.take i).filterMap Entry.host? ∧
    ∀ p ∈ es.filterMap Entry.host?, ¬ '.' :: p <:+ h

/-- The entry at this place is for no hostname, or the first for its hostname, which is none of those seen before. -/
def IsFirst (seen : List Text) (es : List Entry) (i : Nat) : Prop :=
  ∃ e, es[i]? = some e ∧ ∀ h ∈ e.host?, h ∉ seen ∧ h ∉ (es.take i).filterMap Entry.host?

theorem isFirst_congr {seen' : List Text} {i : Nat} (h : ∀ w, w ∈ seen ↔ w ∈ seen') :
    IsFirst seen es i ↔ IsFirst seen' es i := by
  simp only [IsFirst, h]

theorem isFirst_zero_iff : IsFirst seen (e :: es) 0 ↔ ∀ h ∈ e.host?, h ∉ seen := by
  simp [IsFirst]

theorem isFirst_succ_iff {i : Nat} : IsFirst seen (e :: es) (i + 1) ↔ IsFirst (e.host?.toList ++ seen) es i := by
  cases hhost : e.host? with
  | none => simp [IsFirst, hhost]
  | some w => simp [IsFirst, hhost, and_assoc, and_left_comm]

/-- To see a hostname once more adds nothing. -/
theorem mem_iff_mem_toList_append (hw : w ∈ seen) (v : Text) : v ∈ seen ↔ v ∈ (some w).toList ++ seen := by
  simp only [Option.toList_some, List.singleton_append, List.mem_cons]
  exact ⟨.inr, fun hv => hv.elim (fun heq => heq ▸ hw) id⟩

theorem picks_firstPerHost (seen : List Text) (es : List Entry) :
    Picks (IsFirst seen es) es (firstPerHost seen es) := by
  induction es generalizing seen with
  | nil => exact .nil fun i => by simp [IsFirst]
  | cons e es ih =>
    have hlater := (ih (e.host?.toList ++ seen)).congr fun i => isFirst_succ_iff.symm
    rw [firstPerHost_cons]
    cases hhost : e.host? with
    | none =>
      rw [hhost] at hlater
      exact hlater.cons_of_pos (isFirst_zero_iff.2 (by simp [hhost]))
    | some w =>
      rw [hhost] at hlater
      by_cases hw : w ∈ seen
      · simp only [hw, if_true]
        refine .cons_of_neg (fun h => (isFirst_zero_iff.1 h) w hhost hw) ((ih seen).congr fun i => ?_)
        rw [isFirst_succ_iff, hhost]
        exact isFirst_congr (mem_iff_mem_toList_append hw)
      · simp only [hw, if_false]
        exact hlater.cons_of_pos (isFirst_zero_iff.2 (by simp [hhost, hw]))

/-- The entries that are left of `es`. -/
def staying (es : List Entry) : List Entry :=
  (firstPerHost [] es).filter (!·.isCovered ((firstPerHost [] es).filterMap Entry.host?))

theorem compress_eq (lines : List Text) : compress lines = (staying (lines.flatMap entries)).map Entry.text := rfl

theorem mem_filterMap_firstPerHost :
    w ∈ (firstPerHost [] es).filterMap Entry.host? ↔ w ∈ es.filterMap Entry.host? := by
  constructor
  · intro hw
    obtain ⟨e, he, hhost⟩ := List.mem_filterMap.1 hw
    exact List.mem_filterMap.2 ⟨e, mem_of_mem_firstPerHost he, hhost⟩
  · intro hw
    obtain ⟨e, he, hhost⟩ := List.mem_filterMap.1 hw
    exact List.mem_filterMap.2 (exists_mem_firstPerHost he hhost List.not_mem_nil)

/-- That the hostnames of the first entries are looked at, and not those of all, makes no difference. -/
theorem not_isCovered_iff :
    (!e.isCovered ((firstPerHost [] es).filterMap Entry.host?)) ↔
      ∀ h ∈ e.host?, ∀ p ∈ es.filterMap Entry.host?, ¬ '.' :: p <:+ h := by
  cases hhost : e.host? with
  | none => simp [Entry.isCovered, hhost]
  | some w =>
    rw [Bool.not_eq_true', ← Bool.not_eq_true, isCovered_iff hhost]
    simp only [mem_filterMap_firstPerHost, Option.mem_some, forall_eq', not_exists, not_and]

theorem picks_staying (es : List Entry) : Picks (Stays es) es (staying es) := by
  refine ((picks_firstPerHost [] es).filter _).congr fun i => ?_
  simp only [not_isCovered_iff, IsFirst, Stays]
  constructor
  · rintro ⟨⟨e, he, hfirst⟩, e', he', hcovered⟩
    obtain rfl := Option.some.inj (he.symm.trans he')
    exact ⟨e, he, fun h hh => ⟨(hfirst h hh).2, hcovered h hh⟩⟩
  · rintro ⟨e, he, hstays⟩
    exact ⟨⟨e, he, fun h hh => ⟨List.not_mem_nil, (hstays h hh).1⟩⟩, e, he, fun h hh => (hstays h hh).2⟩

/-- The hostname of an entry is covered by one whose entry stays, namely by its uppermost ancestor in the list. -/
theorem exists_mem_staying (hh : h ∈ es.filterMap Entry.host?) :
    ∃ p ∈ (staying es).filterMap Entry.host?, Covers p h := by
  induction hn : h.length using Nat.strong_induction_on generalizing h with
  | _ n ih =>
    by_cases hancestor : ∃ p ∈ es.filterMap Entry.host?, '.' :: p <:+ h
    · obtain ⟨p, hp, hancestor⟩ := hancestor
      have hlength := length_lt_of_ancestor hancestor
      obtain ⟨q, hq, hcovers⟩ := ih p.length (by omega) hp rfl
      exact ⟨q, hq, hcovers.trans (.inr hancestor)⟩
    · obtain ⟨e, he, hhost⟩ := List.mem_filterMap.1 (mem_filterMap_firstPerHost.2 hh)
      refine ⟨h, List.mem_filterMap.2 ⟨e, List.mem_filter.2 ⟨he, not_isCovered_iff.2 ?_⟩, hhost⟩, .refl h⟩
      intro w hw p hp habove
      obtain rfl := Option.some.inj (hhost.symm.trans hw)
      exact hancestor ⟨p, hp, habove⟩

theorem pairwise_staying (es : List Entry) :
    ((staying es).filterMap Entry.host?).Pairwise fun p q => ¬ Covers p q ∧ ¬ Covers q p := by
  refine List.pairwise_filterMap.2 ((picks_staying es).pairwise ?_)
  rintro i j e e' hij ⟨k, hk, hi⟩ ⟨k', hk', hj⟩ he he' p hp q hq
  obtain rfl := Option.some.inj (hk.symm.trans he)
  obtain rfl := Option.some.inj (hk'.symm.trans he')
  have hmem {i : Nat} {e : Entry} (he : es[i]? = some e) {p : Text} (hp : e.host? = some p) :
      p ∈ es.filterMap Entry.host? := List.mem_filterMap.2 ⟨e, List.mem_of_getElem? he, hp⟩
  have hne : p ≠ q := by
    rintro rfl
    refine (hj p hq).1 (List.mem_filterMap.2 ⟨k, ?_, hp⟩)
    exact List.mem_of_getElem? ((List.getElem?_take_of_lt hij).trans he)
  exact ⟨fun h => h.elim hne ((hj q hq).2 p (hmem he hp)), fun h => h.elim hne.symm ((hi p hp).2 q (hmem he' hq))⟩

theorem count_firstPerHost (hhost : e.host? = none) (seen : List Text) (es : List Entry) :
    (firstPerHost seen es).count e = es.count e := by
  induction es generalizing seen with
  | nil => rfl
  | cons k es ih =>
    rw [firstPerHost_cons]
    cases hk : k.host? with
    | none => simp only [List.count_cons, ih]
    | some w =>
      have hne : k ≠ e := by
        rintro rfl
        rw [hhost] at hk
        cases hk
      by_cases hw : w ∈ seen
      · simp only [hw, if_true]
        rw [ih, List.count_cons_of_ne hne]
      · simp only [hw, if_false]
        rw [List.count_cons_of_ne hne, ih, List.count_cons_of_ne hne]

theorem count_staying (hhost : e.host? = none) (es : List Entry) : (staying es).count e = es.count e := by
  rw [staying, List.count_filter, count_firstPerHost hhost]
  exact not_isCovered_iff.2 (by simp [hhost])

/-- Compressing a list keeps, in their order, the entries that are first for their hostnames and have no ancestor in
the list. Each is a line that passes through or is for a hostname of a line. They cover every hostname of the list,
none of their hostnames covers another one, and the lines that pass through stay as often as they are there. -/
theorem compress_minimal (lines : List Text) :
    ∃ kept : List Entry, Picks (Stays (lines.flatMap entries)) (lines.flatMap entries) kept ∧
      compress lines = kept.map Entry.text ∧
      (∀ e ∈ kept, ∃ l ∈ lines, e = .other l ∧ PassesThrough l ∨
        ∃ h, NamesHost l h ∧ (e = .ofHost h ∨ e = .rule l h)) ∧
      (∀ l ∈ lines, ∀ h, NamesHost l h → ∃ p ∈ kept.filterMap Entry.host?, Covers p h) ∧
      (kept.filterMap Entry.host?).Pairwise (fun p q => ¬ Covers p q ∧ ¬ Covers q p) ∧
      ∀ l, PassesThrough l → kept.count (.other l) = lines.count l := by
  refine ⟨staying (lines.flatMap entries), picks_staying _, compress_eq lines, ?_, ?_, pairwise_staying _, ?_⟩
  · intro e he
    obtain ⟨l, hl, he⟩ := List.mem_flatMap.1 (mem_of_mem_firstPerHost (List.mem_filter.1 he).1)
    exact ⟨l, hl, of_mem_entries he⟩
  · intro l hl h hnames
    obtain ⟨e, he, hhost⟩ := exists_entry_of_namesHost hnames
    exact exists_mem_staying (List.mem_filterMap.2 ⟨e, List.mem_flatMap.2 ⟨l, hl, he⟩, hhost⟩)
  · intro l hl
    rw [count_staying rfl, count_flatMap_entries hl]

example : compress ["0.0.0.0 b.a.com c.org".toList, "! note".toList, "A.com.".toList, "||c.org^".toList] =
    ["||c.org^".toList, "! note".toList, "||a.com^".toList] := by decide

end Blocklist.Transform
