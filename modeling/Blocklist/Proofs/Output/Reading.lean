import Blocklist.Output.Format
import Blocklist.Proofs.Hostname.Address
import Blocklist.Proofs.Output.Hostnames

/-!
# Documents read as lists

A document of hostnames is a list again, which blocks the hostnames that it was written for and no others
(`canonical_document`). Its header is read as comments, and each of its other lines names its hostname
(`mention_hostLine`).
-/

namespace Blocklist

theorem eraseDups_of_nodup {α : Type} [BEq α] [LawfulBEq α] {xs : List α} (h : xs.Nodup) : xs.eraseDups = xs := by
  induction xs with
  | nil => rfl
  | cons x xs ih =>
    obtain ⟨hx, hxs⟩ := List.nodup_cons.1 h
    have hall : xs.filter (fun y => !y == x) = xs := by
      refine List.filter_eq_self.2 fun y hy => ?_
      rw [Bool.not_eq_true', beq_eq_false_iff_ne]
      rintro rfl
      exact hx hy
    rw [List.eraseDups_cons, hall, ih hxs]

/-! ### No line feeds in what is written -/

namespace Text

theorem feed_not_mem_ofNat (n : Nat) : '\n' ∉ ofNat n := by
  intro h
  have := Nat.isDigit_of_mem_toDigits (by decide) (by decide) h
  cases this

theorem feed_not_mem_padded (width n : Nat) : '\n' ∉ Timestamp.padded width n := by
  rw [Timestamp.padded, padLeft, fill, List.mem_append, not_or]
  refine ⟨fun h => ?_, feed_not_mem_ofNat n⟩
  exact absurd (List.eq_of_mem_replicate h) (by decide)

end Text

theorem Timestamp.feed_not_mem_text (t : Timestamp) : '\n' ∉ t.text := by
  have hpadded := Text.feed_not_mem_padded
  have hsign : '\n' ≠ if t.offset < 0 then '-' else '+' := by split <;> decide
  have hmicro : '\n' ∉ if t.micro = 0 then [] else '.' :: padded 6 t.micro := by
    split <;> simp [hpadded]
  simp [Timestamp.text, secondsText, offsetText, hpadded, hsign, hmicro]

/-! ### Hostnames -/

/-- A hostname in lower case with a dot in it: labels with dots between them, and nothing after the last one. -/
structure IsDomainName (h : Text) : Prop where
  length : h.length ≤ 253
  labels : ∀ l ∈ h.splitOn '.', Hostname.isLabel l
  dot : '.' ∈ h
  lower : h.lower = h

instance (h : Text) : Decidable (IsDomainName h) :=
  decidable_of_iff (h.length ≤ 253 ∧ (∀ l ∈ h.splitOn '.', Hostname.isLabel l) ∧ '.' ∈ h ∧ h.lower = h)
    ⟨fun ⟨hlength, hlabels, hdot, hlower⟩ => ⟨hlength, hlabels, hdot, hlower⟩,
      fun h => ⟨h.length, h.labels, h.dot, h.lower⟩⟩

namespace IsDomainName
open Hostname

variable {c : Char} {h : Text} (hname : IsDomainName h)
include hname

theorem feed_not_mem : '\n' ∉ h := by
  intro hmem
  obtain ⟨l, hl, hcl⟩ := Text.mem_splitOn (d := '.') hmem (by decide)
  have hchar := (isLabel_iff.1 (hname.labels l hl)).2.2.1 '\n' hcl
  exact absurd hchar (by decide)

theorem isValid : isValid h := by
  have hpos : 1 ≤ h.length := List.length_pos_of_mem hname.dot
  exact (isValid_iff_of_no_feed hname.feed_not_mem).2 ⟨hpos, hname.length, hname.labels⟩

theorem isBlank_of_mem (hc : c ∈ h) : isBlank c = false :=
  Hostname.isBlank_of_mem hname.isValid hname.feed_not_mem hc

theorem trim_eq : h.trim = h := trim_of_isValid hname.isValid hname.feed_not_mem

theorem plainForm_eq : Output.plainForm h = h := by
  rw [Output.plainForm, hname.lower, dropEndWhile_dot_of_isValid hname.isValid]

end IsDomainName

namespace Output
open Hostname

variable {c : Char} {f : Format} {h host line s : Text} {hs lines : List Text} {o : Options}

/-! ### Lines for hostnames -/

theorem isHostsLine_of_no_blank (hblank : ∀ c ∈ line, isBlank c = false) : isHostsLine line = false := by
  rw [Bool.eq_false_iff]
  intro hhosts
  obtain ⟨w, b, t, htrim, hb, -⟩ := exists_blank_of_isHostsLine hhosts
  have hmem : b ∈ line := Text.mem_of_mem_trim (htrim ▸ List.mem_append_right w (List.mem_cons_self ..))
  rw [hblank b hmem] at hb
  cases hb

/-- A line without blanks that blocks a hostname says nothing else. -/
theorem Blocks.mention_eq (h : Blocks line host) (hblank : ∀ c ∈ line, isBlank c = false) :
    mention line = .blocked [host] := by
  rcases h with ⟨r, w, hr, -, -⟩ | ⟨hcomment, hhosts, hbare, rfl⟩ | ⟨r, hcomment, hhosts, hbare, hr, hregex, hexc, hp⟩
  · have hhosts := HostsRule.isHostsLine_of_read hr
    rw [isHostsLine_of_no_blank hblank] at hhosts
    cases hhosts
  · exact mention_of_bare hcomment hhosts hbare
  · rw [mention_of_rule hcomment hhosts hbare hr, hregex, hp, hexc]
    rfl

section
variable (hname : IsDomainName h)
include hname

theorem mention_adblock : mention (domainMark ++ (h ++ [separator])) = .blocked [h] := by
  have hlower : (Text.removeSuffix ['.'] h).lower = h := by
    rw [removeSuffix_dot_of_isValid hname.isValid, hname.lower]
  have hp := patternHost?_domainMark hlower hname.isValid hname.dot (.inr rfl)
  have hfeed : '\n' ∉ domainMark ++ (h ++ [separator]) := by
    simp only [List.mem_append, not_or]
    exact ⟨by decide, hname.feed_not_mem, by decide⟩
  refine (names_domainMark hp hfeed).blocks.mention_eq fun c hc => ?_
  exact isBlank_of_mem_pattern hp hfeed hc

theorem mention_bare : mention h = .blocked [h] := by
  have hblank : ∀ c ∈ h, isBlank c = false := fun c hc => hname.isBlank_of_mem hc
  obtain ⟨c, s, rfl⟩ := List.exists_cons_of_ne_nil (ne_nil_of_isValid hname.isValid hname.feed_not_mem)
  have hrange := toNat_of_mem hname.isValid hname.feed_not_mem (List.mem_cons_self (a := c))
  have hcomment : isCommentOrBlank (c :: s) = false := by
    refine isCommentOrBlank_eq_false hname.trim_eq ?_ ?_
    · rintro rfl
      exact absurd hrange (by decide)
    · rintro rfl
      exact absurd hrange (by decide)
  have hbare : isBareDomain (c :: s) := by
    rw [isBareDomain, hname.trim_eq, dropEndWhile_dot_of_isValid hname.isValid, Bool.and_eq_true]
    exact ⟨List.elem_iff.2 hname.dot, hname.isValid⟩
  rw [mention_of_bare hcomment (isHostsLine_of_no_blank hblank) hbare, hname.trim_eq, hname.plainForm_eq]

theorem mention_hosts {ip : Text} (hip : (Address.parse? ip).isSome) : mention (ip ++ ' ' :: h) = .blocked [h] := by
  obtain ⟨a, ha⟩ := Option.isSome_iff_exists.1 hip
  have hchars := Address.isAddressChar_of_parse? ha
  have hproper : HostsRule.Proper ⟨ip, [h]⟩ := by
    refine ⟨⟨ip, [], (List.append_nil ip).symm, Address.ne_nil_of_parse? ha, hchars, .inl rfl, ?_⟩, ?_⟩
    · rw [Address.canonical?_of_parse? ha]
      rfl
    · intro w hw
      rcases List.mem_cons.1 hw with rfl | hw
      · refine ⟨Address.ne_nil_of_parse? ha, fun c hc => ⟨isBlank_of_isAddressChar (hchars c hc), ?_⟩⟩
        rintro rfl
        exact absurd (hchars '#' hc) (by decide)
      · obtain rfl := List.mem_singleton.1 hw
        refine ⟨ne_nil_of_isValid hname.isValid hname.feed_not_mem, fun c hc => ⟨hname.isBlank_of_mem hc, ?_⟩⟩
        rintro rfl
        exact absurd (toNat_of_mem hname.isValid hname.feed_not_mem hc) (by decide)
  have hread : HostsRule.read (ip ++ ' ' :: h) = .ok ⟨ip, [h]⟩ := by
    have htext : HostsRule.text ⟨ip, [h]⟩ = ip ++ ' ' :: h := by simp [HostsRule.text, Text.join]
    rw [← htext]
    exact hproper.read_text (List.cons_ne_nil _ _)
  rw [mention_of_hosts hread]
  exact congrArg (fun h => Mention.blocked [h]) hname.plainForm_eq

end

/-! ### Documents -/

theorem isHidingRule_eq_false (hhead : ∀ c ∈ s.head?, c = ' ') : isHidingRule ('#' :: s) = false := by
  cases s with
  | nil => decide
  | cons c s =>
    obtain rfl := hhead c rfl
    simp [isHidingRule, hidingMarks, Text.dropPrefix?]

theorem isComment_commentMark (f : Format) (hhead : ∀ c ∈ s.head?, c = ' ') : isComment (commentMark f ++ s) := by
  have hmark : commentMark f = ['!'] ∨ commentMark f = ['#'] := by cases f <;> simp [commentMark]
  rcases hmark with hmark | hmark
  · rw [hmark, List.singleton_append, isComment, Text.trim_cons_of_not_blank (by decide)]
    rfl
  · rw [hmark, List.singleton_append, isComment, Text.trim_cons_of_not_blank (by decide)]
    have hhead' : ∀ c ∈ (Text.dropEndWhile isBlank s).head?, c = ' ' := fun c hc =>
      hhead c (Text.head?_dropEndWhile isBlank s c hc)
    simp [isHidingRule_eq_false hhead']

theorem of_mem_headerLines {l : Text} {n : Nat} (hl : l ∈ headerLines f o n) (htitle : '\n' ∉ o.title) :
    isCommentOrBlank l ∧ '\n' ∉ l := by
  have hmark : '\n' ∉ commentMark f := by cases f <;> decide
  have hline {s : Text} (hhead : ∀ c ∈ s.head?, c = ' ') (hs : '\n' ∉ s) :
      isCommentOrBlank (commentMark f ++ s) ∧ '\n' ∉ commentMark f ++ s := by
    rw [isCommentOrBlank, isComment_commentMark f hhead, Bool.or_true, List.mem_append, not_or]
    exact ⟨rfl, hmark, hs⟩
  have hspace {t u : Text} : ∀ c ∈ (' ' :: t ++ u).head?, c = ' ' := fun c hc => (Option.some.inj hc).symm
  have hword {t u : Text} (ht : '\n' ∉ t) (hu : '\n' ∉ u) : '\n' ∉ t ++ u := by
    rw [List.mem_append, not_or]
    exact ⟨ht, hu⟩
  rw [headerLines] at hl
  split at hl
  · simp only [List.mem_cons, List.not_mem_nil, or_false, List.append_assoc] at hl
    rcases hl with rfl | rfl | rfl | rfl | rfl
    · exact hline hspace (hword (by decide) htitle)
    · exact hline hspace (hword (by decide) o.generated.feed_not_mem_text)
    · exact hline hspace (hword (by decide) (by decide))
    · exact hline hspace (hword (by decide) (Text.feed_not_mem_ofNat n))
    · rw [← List.append_nil (commentMark f)]
      exact hline (by simp) List.not_mem_nil
  · cases hl

theorem textOfLines_eq_join (lines : List Text) : textOfLines lines = Text.join ['\n'] (lines ++ [[]]) := by
  induction lines with
  | nil => rfl
  | cons l lines ih =>
    rw [List.cons_append, Text.join_cons (List.concat_ne_nil [] lines), ← ih]
    exact List.append_assoc ..

theorem splitOn_textOfLines (h : ∀ l ∈ lines, '\n' ∉ l) : (textOfLines lines).splitOn '\n' = lines ++ [[]] := by
  rw [textOfLines_eq_join]
  refine Text.splitOn_join (List.concat_ne_nil [] lines) fun p hp => ?_
  rcases List.mem_append.1 hp with hp | hp
  · exact h p hp
  · rw [List.mem_singleton.1 hp]
    exact List.not_mem_nil

/-- Comments with lines behind them that block one hostname each. -/
theorem canonical_append_map {line : Text → Text} (hcomment : ∀ l ∈ lines, isCommentOrBlank l)
    (hline : ∀ h ∈ hs, mention (line h) = .blocked [h]) (hnodup : hs.Nodup) :
    canonical (lines ++ hs.map line ++ [[]]) = hs := by
  have hnone {l : Text} (hl : isCommentOrBlank l) : mention l = .blocked [] := by
    rw [mention, hl]
    rfl
  have hall : ∀ l ∈ lines ++ hs.map line ++ [[]], mention l = .blocked [] ∨ ∃ h ∈ hs, mention l = .blocked [h] := by
    intro l hl
    simp only [List.mem_append, List.mem_map, List.mem_singleton] at hl
    rcases hl with (hl | ⟨h, hh, rfl⟩) | rfl
    · exact .inl (hnone (hcomment l hl))
    · exact .inr ⟨h, hh, hline h hh⟩
    · exact .inl (by decide)
  have hallowed : allowed (lines ++ hs.map line ++ [[]]) = [] := by
    have hfilter : (lines ++ hs.map line ++ [[]]).filterMap (fun l => (mention l).allowedHost?) = [] := by
      refine List.filterMap_eq_nil_iff.2 fun l hl => ?_
      rcases hall l hl with hl | ⟨h, -, hl⟩
      · rw [hl]
        rfl
      · rw [hl]
        rfl
    rw [allowed, hfilter]
    rfl
  have hblocked : blocked (lines ++ hs.map line ++ [[]]) = hs := by
    have hheader : lines.flatMap (fun l => (mention l).blockedHosts) = [] := by
      refine List.flatMap_eq_nil_iff.2 fun l hl => ?_
      rw [hnone (hcomment l hl)]
      rfl
    have hnames : (hs.map line).flatMap (fun l => (mention l).blockedHosts) = hs := by
      rw [List.flatMap_map]
      refine (List.flatMap_congr fun h hh => ?_).trans (List.flatMap_singleton' hs)
      rw [hline h hh]
      rfl
    have hlast : [([] : Text)].flatMap (fun l => (mention l).blockedHosts) = [] := by decide
    rw [blocked, List.flatMap_append, List.flatMap_append, hheader, hnames, hlast, List.nil_append, List.append_nil,
      eraseDups_of_nodup hnodup]
  rw [canonical, hblocked, hallowed]
  exact List.filter_eq_self.2 fun h _ => by simp

theorem mention_hostLine (hf : f = .adblock ∨ f = .pihole ∨ f = .hosts)
    (hip : f = .hosts → (Address.parse? o.ip).isSome) (hname : IsDomainName h) :
    mention (hostLine f o h) = .blocked [h] ∧ '\n' ∉ hostLine f o h := by
  have hfeed := hname.feed_not_mem
  rcases hf with rfl | rfl | rfl
  · have hline : hostLine .adblock o h = domainMark ++ (h ++ [separator]) := List.append_assoc ..
    rw [hline, mention_adblock hname]
    refine ⟨rfl, ?_⟩
    simp only [List.mem_append, not_or]
    exact ⟨by decide, hfeed, by decide⟩
  · have hline : hostLine .pihole o h = h := rfl
    rw [hline, mention_bare hname]
    exact ⟨rfl, hfeed⟩
  · have hline : hostLine .hosts o h = o.ip ++ ' ' :: h := rfl
    obtain ⟨a, ha⟩ := Option.isSome_iff_exists.1 (hip rfl)
    have hip' : '\n' ∉ o.ip := fun hmem => absurd (Address.isAddressChar_of_parse? ha '\n' hmem) (by decide)
    rw [hline, mention_hosts hname (hip rfl)]
    refine ⟨rfl, ?_⟩
    simp only [List.mem_append, List.mem_cons, not_or]
    exact ⟨hip', by decide, hfeed⟩

/-- A document for hostnames in one of three formats, read as a list again, has just these hostnames. -/
theorem canonical_document (hf : f = .adblock ∨ f = .pihole ∨ f = .hosts)
    (hip : f = .hosts → (Address.parse? o.ip).isSome) (htitle : '\n' ∉ o.title) (hnodup : hs.Nodup)
    (hnames : ∀ h ∈ hs, IsDomainName h) : canonical ((document f o hs).splitOn '\n') = hs := by
  have hdocument : document f o hs = textOfLines (headerLines f o hs.length ++ hs.map (hostLine f o)) := by
    rcases hf with rfl | rfl | rfl <;> simp [document]
  have hlines : ∀ l ∈ headerLines f o hs.length ++ hs.map (hostLine f o), '\n' ∉ l := by
    intro l hl
    rcases List.mem_append.1 hl with hl | hl
    · exact (of_mem_headerLines hl htitle).2
    · obtain ⟨h, hh, rfl⟩ := List.mem_map.1 hl
      exact (mention_hostLine hf hip (hnames h hh)).2
  rw [hdocument, splitOn_textOfLines hlines]
  refine canonical_append_map (fun l hl => (of_mem_headerLines hl htitle).1) (fun h hh => ?_) hnodup
  exact (mention_hostLine hf hip (hnames h hh)).1

/-- Hostnames with hyphens, with digits only, and with the look of an address. -/
theorem canonical_document_hosts :
    canonical ((document .hosts { header := true, ip := "::1".toList, generated := ⟨2024, 1, 2, 3, 4, 5, 0, 60⟩ }
      ["a-b.com".toList, "1.2".toList, "1.2.3.4".toList]).splitOn '\n') =
      ["a-b.com".toList, "1.2".toList, "1.2.3.4".toList] :=
  canonical_document (.inr (.inr rfl)) (fun _ => by decide) (by decide) (by decide) (by decide)

end Output

end Blocklist
