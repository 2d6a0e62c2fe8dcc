import Blocklist.Output.Format
import Blocklist.Proofs.Output.Hostnames

/-!
# What becomes of the hostnames of a list

Which hostnames an exception takes away, and which texts that are no hostnames get through. An exception for a
whole hostname takes it away, wherever it stands in the list, if the hostname is valid and has a dot in it, and
leaves it where it is otherwise (`mem_canonical_of_exception`). Patterns and bare domains give valid hostnames
only, and so whatever else is written comes from the words of hosts lines (`mem_canonical_of_invalid`).
-/

namespace Blocklist.Output
open Hostname

variable {c : Char} {g host line s : Text} {lines : List Text} {r : AdblockRule}

theorem isValid_plainForm (h : isValid (Text.dropEndWhile (· = '.') s)) : isValid (plainForm s) := by
  rw [plainForm, ← Text.lower_dropEndWhile_dot]
  exact isValid_lower h

/-- A line that blocks a text as something else than a hosts line blocks a valid hostname. -/
theorem Blocks.isValid_or_hosts (h : Blocks line host) :
    isValid host ∨ ∃ r, HostsRule.read line = .ok r ∧ ∃ w ∈ r.hostnames, plainForm w = host := by
  rcases h with ⟨r, w, hr, hw, hform⟩ | ⟨-, -, hbare, rfl⟩ | ⟨r, -, -, -, -, -, -, hp⟩
  · exact .inr ⟨r, hr, w, hw, hform⟩
  · rw [isBareDomain, Bool.and_eq_true] at hbare
    exact .inl (isValid_plainForm hbare.2)
  · exact .inl (isValid_host hp)

/-- What lines block is in lower case. -/
theorem Blocks.lower_eq (h : Blocks line host) : host.lower = host := by
  have hform (s : Text) : (plainForm s).lower = plainForm s := by
    rw [plainForm, ← Text.lower_dropEndWhile_dot, Text.lower_lower]
  rcases h with ⟨-, w, -, -, rfl⟩ | ⟨-, -, -, rfl⟩ | ⟨r, -, -, -, -, -, -, hp⟩
  · exact hform w
  · exact hform line.trim
  · exact lower_host hp

/-! ### Exceptions -/

theorem exists_trim_of_exception (hr : AdblockRule.read line = .ok r) (hexc : r.exception) :
    ∃ body, line.trim = '@' :: '@' :: body := by
  obtain ⟨-, body, htrim, -⟩ := AdblockRule.read_eq_ok_iff.1 hr
  rw [hexc, AdblockRule.mark_true] at htrim
  exact ⟨body, htrim⟩

/-- An exception allows the hostname of its pattern. -/
theorem allows_of_exception (hr : Line.read line = .ok (.adblock r)) (hexc : r.exception)
    (hregex : r.isRegex = false) (hp : patternHost? r.pattern = some host) : Allows line host r := by
  obtain ⟨hblank, hcomment, hhosts, hread⟩ := Line.read_eq_adblock_iff.1 hr
  obtain ⟨body, htrim⟩ := exists_trim_of_exception hread hexc
  refine ⟨?_, Bool.eq_false_iff.2 hhosts, ?_, hread, hregex, hexc, hp⟩
  · rw [isCommentOrBlank, Bool.eq_false_iff.2 hblank, Bool.eq_false_iff.2 hcomment]
    rfl
  · refine isBareDomain_eq_false (c := '@') ?_ (by decide) (by decide) (by decide)
    rw [htrim]
    exact List.mem_cons_self ..

/-- The hostname of the pattern for a whole hostname, in whatever case it is written. -/
theorem patternHost?_of_lower_eq (hg : g.lower = host.lower) (hlower : host.lower = host) (hvalid : isValid host)
    (hdot : '.' ∈ host) : patternHost? (domainMark ++ (g ++ [separator])) = some host := by
  refine patternHost?_domainMark ?_ hvalid hdot (.inr rfl)
  rw [Text.lower_removeSuffix_dot, hg, hlower, removeSuffix_dot_of_isValid hvalid]

/-- Beside an exception for the whole of it, whatever its case, a hostname that a line blocks is left exactly if
it is not valid or has no dot. -/
theorem mem_canonical_of_exception (hline : line ∈ lines) (hr : Line.read line = .ok (.adblock r))
    (hexc : r.exception) (hp : r.pattern = domainMark ++ (g ++ [separator])) (hg : g.lower = host.lower) :
    host ∈ canonical lines ↔ (∃ l ∈ lines, Blocks l host) ∧ ¬ (isValid host ∧ '.' ∈ host) := by
  rw [mem_canonical]
  refine and_congr_right fun hblocked => ?_
  obtain ⟨l, -, hblocks⟩ := hblocked
  constructor
  · rintro hallowed ⟨hvalid, hdot⟩
    have hhost := patternHost?_of_lower_eq hg hblocks.lower_eq hvalid hdot
    rw [← hp] at hhost
    have hregex : r.isRegex = false := by
      refine AdblockRule.isRegexPattern_eq_false ?_
      rw [hp]
      exact fun h => absurd (Option.some.inj h) (by decide)
    exact hallowed line hline (allowedHost?_eq_some_iff.2 ⟨r, allows_of_exception hr hexc hregex hhost⟩)
  · intro hnot k hk hallows
    obtain ⟨r', hallows⟩ := allowedHost?_eq_some_iff.1 hallows
    obtain ⟨-, hvalid, hdot, -⟩ := patternHost?_eq_some_iff.1 hallows.pattern
    exact hnot ⟨hvalid, hdot⟩

/-- The exception may stand after the line, and in another case. -/
theorem mem_canonical_of_exception_dotted :
    "ads.com".toList ∉ canonical ["0.0.0.0 Ads.com.".toList, "@@||ADS.com^$image".toList] := by
  intro hmem
  have hread : Line.read "@@||ADS.com^$image".toList =
      .ok (.adblock ⟨true, "||ADS.com^".toList, [⟨"image".toList, none⟩]⟩) := rfl
  have hpattern : "||ADS.com^".toList = domainMark ++ ("ADS.com".toList ++ [separator]) := rfl
  have hlower : Text.lower "ADS.com".toList = Text.lower "ads.com".toList := by decide
  exact ((mem_canonical_of_exception (by decide) hread rfl hpattern hlower).1 hmem).2 (by decide)

/-- Hosts lines block names that no exception is read for: names without a dot, and names that are not valid. -/
theorem canonical_keeps_excepted :
    Line.read "@@||localhost^".toList = .ok (.adblock ⟨true, "||localhost^".toList, []⟩) ∧
      canonical ["0.0.0.0 localhost".toList, "@@||localhost^".toList] = ["localhost".toList] ∧
      Line.read "@@||a_b.com^".toList = .ok (.adblock ⟨true, "||a_b.com^".toList, []⟩) ∧
      canonical ["0.0.0.0 a_b.com".toList, "@@||a_b.com^".toList] = ["a_b.com".toList] :=
  ⟨rfl, by decide, rfl, by decide⟩

/-! ### Texts that are no hostnames -/

/-- No hosts line is read beyond a blank or a `#`. -/
theorem Blocks.not_mem (h : Blocks line host) (hc : c = ' ' ∨ c = '#') : c ∉ host := by
  have hself : ∀ c ∈ [' ', '#'], isLabelChar c = false ∧ c ≠ '.' ∧ c ≠ '\n' ∧ c.toNat < 0x80 ∧ c.isLower = false :=
    forall_mem_of_all (by decide)
  obtain ⟨hlabel, hdot, hfeed, hascii, hlower⟩ := hself c (by simpa using hc)
  intro hmem
  rcases h.isValid_or_hosts with hvalid | ⟨r, hr, w, hw, rfl⟩
  · exact not_mem_of_isValid hvalid hlabel hdot hfeed hmem
  · obtain ⟨b, hb, -⟩ := Text.eq_dropEndWhile_append (· = '.') w.lower
    have hword : c ∈ w := by
      refine Text.mem_of_mem_lower ?_ hascii hlower
      rw [hb]
      exact List.mem_append_left b hmem
    obtain ⟨hblank, hhash⟩ := ((HostsRule.proper_of_read hr).words w (List.mem_cons_of_mem _ hw)).2 c hword
    rcases hc with rfl | rfl
    · exact absurd hblank (by decide)
    · exact hhash rfl

/-- What is written for a list has neither spaces nor `#` in it. What is no valid hostname is written exactly if
it is a word of a hosts line, in lower case and without dots at its end; exceptions do not matter. -/
theorem mem_canonical_of_invalid (lines : List Text) :
    (∀ host ∈ canonical lines, ' ' ∉ host ∧ '#' ∉ host) ∧
      ∀ host, isValid host = false →
        (host ∈ canonical lines ↔
          ∃ l ∈ lines, ∃ r, HostsRule.read l = .ok r ∧ ∃ w ∈ r.hostnames, plainForm w = host) := by
  constructor
  · intro host hmem
    obtain ⟨⟨l, -, hblocks⟩, -⟩ := mem_canonical.1 hmem
    exact ⟨hblocks.not_mem (.inl rfl), hblocks.not_mem (.inr rfl)⟩
  intro host hinvalid
  rw [mem_canonical]
  constructor
  · rintro ⟨⟨l, hl, hblocks⟩, -⟩
    refine ⟨l, hl, hblocks.isValid_or_hosts.resolve_left ?_⟩
    rw [hinvalid]
    exact Bool.false_ne_true
  · rintro ⟨l, hl, r, hr, w, hw, hform⟩
    refine ⟨⟨l, hl, .hosts r w hr hw hform⟩, fun k _ hk => ?_⟩
    obtain ⟨r', hallows⟩ := allowedHost?_eq_some_iff.1 hk
    exact absurd (hinvalid.symm.trans (isValid_host hallows.pattern)) Bool.false_ne_true

/-- A quoting mark, a slash and nothing at all are written as they are. -/
theorem mem_canonical_of_invalid_word :
    "a\"b/c".toList ∈ canonical ["0.0.0.0 a\"b/c # d".toList] ∧ [] ∈ canonical ["0.0.0.0 .".toList] := by
  refine ⟨((mem_canonical_of_invalid _).2 _ (by decide)).2 ?_, ((mem_canonical_of_invalid _).2 _ (by decide)).2 ?_⟩
  · exact ⟨_, List.mem_singleton_self _, _, rfl, _, List.mem_singleton_self _, by decide⟩
  · exact ⟨_, List.mem_singleton_self _, _, rfl, _, List.mem_singleton_self _, by decide⟩

/-- Such texts stand in the lines of a document. -/
theorem render_of_invalid :
    let lines := ["0.0.0.0 .".toList, "0.0.0.0 a\"b/c".toList]
    let options : Options := { generated := ⟨2024, 1, 2, 3, 4, 5, 0, 0⟩ }
    canonical lines = [[], "a\"b/c".toList] ∧ isValid [] = false ∧ isValid "a\"b/c".toList = false ∧
      render .dnsmasq options lines = "address=//\naddress=/a\"b/c/\n".toList ∧
      render .unbound options lines =
        "server:\n    local-zone: \"\" always_nxdomain\n    local-zone: \"a\"b/c\" always_nxdomain\n".toList := by
  decide

end Blocklist.Output
