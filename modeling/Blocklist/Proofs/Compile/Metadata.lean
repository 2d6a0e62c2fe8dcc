import Blocklist.Compile.Basic
import Blocklist.Proofs.Compile.Header
import Blocklist.Proofs.Compile.Schedule
import Blocklist.Proofs.Compile.Stages
import Blocklist.Proofs.Text.Trim
import Blocklist.Proofs.Transform.Remarks

/-!
# The metadata of a compiled list

Metadata is stripped from each source once, before its stages. Metadata lines are remarks, and no stage makes a remark
of another line (`Staged.noNewRemarks_run`), so the only metadata of a compiled list is that of its header and its
checksum (`Compiled.metadata_of_compile`).
-/

namespace Blocklist

variable {k l p : Text} {lines out : List Text}

theorem Text.not_prefix_append (h : ¬ k <+: p) (h' : ¬ p <+: k) (t : Text) : ¬ k <+: p ++ t := fun hk =>
  (List.prefix_or_prefix_of_prefix hk (List.prefix_append p t)).elim h h'

namespace Header

theorem isMetadata_eq_false_iff : isMetadata l = false ↔ ∀ label ∈ labels, ¬ label <+: l.trim := by
  simp only [isMetadata, List.any_eq_false, Text.startsWith_iff]

theorem remark_of_isMetadata (h : isMetadata l) : Remark l := by
  obtain ⟨label, hlabel, hl⟩ := List.any_eq_true.1 h
  have hremark : ∀ label ∈ labels, ['!', ' '] <+: label := by decide
  exact (hremark label hlabel).trans (Text.startsWith_iff.1 hl)

theorem isMetadata_of_noNewRemarks (h : NoNewRemarks out lines) (hlines : ∀ l ∈ lines, isMetadata l = false) :
    ∀ l ∈ out, isMetadata l = false := by
  intro l hl
  by_contra hmeta
  rw [Bool.not_eq_false] at hmeta
  obtain ⟨k, hk, htrim⟩ := h l hl (remark_of_isMetadata hmeta)
  have hkl : isMetadata k = isMetadata l := by rw [isMetadata, isMetadata, htrim]
  rw [hlines k hk, hmeta] at hkl
  cases hkl

theorem collapseBare_sublist (lines : List Text) : (collapseBare lines).Sublist lines := by
  fun_induction collapseBare lines with
  | case1 a b rest _ ih => exact ih.cons a
  | case2 => exact .refl _
  | case3 => exact .refl _

theorem isMetadata_of_mem_strip (hl : l ∈ strip lines) : isMetadata l = false := by
  have hfilter := (List.mem_filter.1 ((collapseBare_sublist _).subset hl)).2
  rwa [Bool.not_eq_true'] at hfilter

theorem of_mem_entry {value : Option Text} (hl : l ∈ entry p value) : ∃ t, l = p ++ ' ' :: t := by
  rcases value with _ | _ | ⟨c, s⟩
  · cases hl
  · cases hl
  · exact ⟨c :: s, List.mem_singleton.1 hl⟩

theorem trim_append_colon (hmark : p.head? = some '!') (t : Text) :
    (p ++ ':' :: t).trim = p ++ ':' :: Text.dropEndWhile isBlank t := by
  refine Text.trim_append_cons (fun d hd => ?_) (by decide) t
  obtain rfl := Option.some.inj (hmark.symm.trans hd)
  decide

theorem isMetadata_append (hmark : p.head? = some '!')
    (hp : ∀ label ∈ labels, ¬ label <+: p ++ [':'] ∧ ¬ p ++ [':'] <+: label) (t : Text) :
    isMetadata (p ++ ':' :: t) = false := by
  rw [isMetadata_eq_false_iff, trim_append_colon hmark, List.append_cons]
  exact fun label hlabel => Text.not_prefix_append (hp label hlabel).1 (hp label hlabel).2 _

/-- What a source is called is no metadata. -/
theorem isMetadata_of_mem_ofSource {s : Source} (hl : l ∈ ofSource s) : isMetadata l = false := by
  simp only [ofSource, List.mem_append, List.mem_cons, List.not_mem_nil, or_false] at hl
  rcases hl with (rfl | hl) | rfl | rfl
  · decide
  · obtain ⟨t, rfl⟩ := of_mem_entry hl
    exact isMetadata_append (p := "! Source name") rfl (by decide) _
  · exact isMetadata_append (p := "! Source") rfl (by decide) _
  · decide

theorem not_startsWith_checksumLabel (h : isMetadata l = false) : Text.startsWith checksumLabel l = false := by
  rw [Text.startsWith_eq_false_iff]
  rintro ⟨t, rfl⟩
  refine isMetadata_eq_false_iff.1 h checksumLabel (by decide) ?_
  exact ⟨_, (trim_append_colon (p := "! Checksum") rfl t).symm⟩

/-- The header of a list has no checksum of its own. -/
theorem not_checksum_of_mem_ofList {c : Configuration} {t : Timestamp} (hl : l ∈ ofList c t) :
    Text.startsWith checksumLabel l = false := by
  have happend {p : Text} (hp : ¬ checksumLabel <+: p ∧ ¬ p <+: checksumLabel) (s : Text) :
      Text.startsWith checksumLabel (p ++ s) = false :=
    Text.startsWith_eq_false_iff.2 (Text.not_prefix_append hp.1 hp.2 s)
  have hentry {p : Text} {value : Option Text} (hl : l ∈ entry p value)
      (hp : ¬ checksumLabel <+: p ∧ ¬ p <+: checksumLabel) : Text.startsWith checksumLabel l = false := by
    obtain ⟨s, rfl⟩ := of_mem_entry hl
    exact happend hp _
  simp only [ofList, List.mem_append, List.mem_cons, List.not_mem_nil, or_false] at hl
  rcases hl with ((((((rfl | rfl) | hl) | hl) | hl) | hl) | rfl | rfl | rfl | rfl)
  · decide
  · exact happend (by decide) _
  · exact hentry hl (by decide)
  · exact hentry hl (by decide)
  · exact hentry hl (by decide)
  · exact hentry hl (by decide)
  · exact happend (by decide) _
  · decide
  · decide
  · decide

theorem exists_compiledBy_ofList (c : Configuration) (t : Timestamp) :
    ∃ l ∈ ofList c t, Text.contains compiledBy l :=
  ⟨compiledBy ++ ' ' :: Program.signature, by simp [ofList], by decide⟩

end Header

/-! ### The stages -/

namespace Staged

variable {σ : Type} {psl : SuffixList} {tables : Tables} {f : Fetcher σ} {w : σ} {settings : ListSettings}
  {optimization : Option Optimize.Settings} {enabled : List Transformation} {s s' : Staged}

theorem noNewRemarks_optimize (h : optimize psl optimization s = .ok s') : NoNewRemarks s'.lines s.lines := by
  cases optimization with
  | none =>
    obtain rfl := Except.ok.inj h
    exact .of_subset fun l hl => hl
  | some o =>
    rw [optimize] at h
    split at h
    · rename_i hout
      obtain rfl := Except.ok.inj h
      exact Optimize.noNewRemarks hout
    · cases h

theorem noNewRemarks_finish (h : finish psl enabled optimization s = .ok s') : NoNewRemarks s'.lines s.lines := by
  obtain ⟨out, hout, h⟩ := exists_of_bind_ok h
  obtain rfl := Except.ok.inj h
  have hafter := Transformation.noNewRemarks_runEnabled psl Transformation.afterOptimizer enabled out.lines
  have hbefore := Transformation.noNewRemarks_runEnabled psl Transformation.beforeOptimizer enabled s.lines
  exact hafter.trans ((noNewRemarks_optimize hout).trans hbefore)

/-- All stages together make no remark of another line. -/
theorem noNewRemarks_run (h : ((run tables f settings optimization lines).run w).1 = .ok s) :
    NoNewRemarks s.lines lines := by
  obtain ⟨s₀, hgiven, hfinish⟩ := of_run h
  exact (noNewRemarks_finish hfinish).trans (.of_subset fun l hl => hgiven.subset hl)

end Staged

/-! ### The compiled list -/

namespace Compiled
open Header

variable {σ : Type} {tables : Tables} {f : Fetcher σ} {w : σ} {o : DownloadOptions} {schedule : Schedule}
  {now : Timestamp} {c : Configuration} {list : Compiled}

theorem isMetadata_of_sourceLines {s : Source} (h : ((sourceLines tables f o s).run w).1 = .ok lines) :
    ∀ l ∈ lines, isMetadata l = false := by
  obtain ⟨downloaded, -, h⟩ := Attempt.exists_of_run_bind h
  obtain ⟨staged, hstaged, h⟩ := Attempt.exists_of_run_bind h
  rw [Attempt.run_pure] at h
  obtain rfl := Except.ok.inj h
  have hremarks := Staged.noNewRemarks_run hstaged
  exact isMetadata_of_noNewRemarks hremarks fun l hl => isMetadata_of_mem_strip hl

/-- A compiled list is its header and lines without metadata, with the checksum put in. -/
theorem of_compile (h : ((compile tables f o schedule now c).run w).1 = .ok list) :
    ∃ rules, list.lines = addChecksum (ofList c now ++ rules) ∧ ∀ l ∈ rules, isMetadata l = false := by
  obtain ⟨parts, hparts, h⟩ := Attempt.exists_of_run_bind h
  obtain ⟨staged, hstaged, h⟩ := Attempt.exists_of_run_bind h
  rw [Attempt.run_pure] at h
  obtain rfl := Except.ok.inj h
  have hremarks := Staged.noNewRemarks_run hstaged
  refine ⟨staged.lines, rfl, isMetadata_of_noNewRemarks hremarks fun l hl => ?_⟩
  obtain ⟨⟨source, part⟩, hpart, hmem⟩ := List.mem_flatMap.1 hl
  rcases List.mem_append.1 hmem with hsource | hline
  · exact isMetadata_of_mem_ofSource hsource
  · obtain ⟨w', hrun⟩ := exists_run_of_mem_gatherLines hparts hpart
    exact isMetadata_of_sourceLines hrun l hline

/-- The only metadata of a compiled list is that of its header and the checksum, which stands in the header and is
that of the whole list. -/
theorem metadata_of_compile (h : ((compile tables f o schedule now c).run w).1 = .ok list) :
    ∃ before after rules, ofList c now = before ++ after ∧
      list.lines = before ++ (checksumLabel ++ ' ' :: checksum list.lines) :: (after ++ rules) ∧
      (∀ l ∈ rules, ∀ label ∈ labels, ¬ label <+: l.trim) ∧
      list.lines.filter (Text.startsWith checksumLabel ·) = [checksumLabel ++ ' ' :: checksum list.lines] := by
  obtain ⟨rules, hlines, hrules⟩ := of_compile h
  obtain ⟨before, after, hheader, hinsert⟩ :=
    insert_append (exists_compiledBy_ofList c now) (checksumLine (ofList c now ++ rules)) rules
  have hchecksum : checksumLine (ofList c now ++ rules) = checksumLabel ++ ' ' :: checksum list.lines := by
    rw [hlines, checksum_addChecksum]
    rfl
  have hlist : list.lines = before ++ (checksumLabel ++ ' ' :: checksum list.lines) :: (after ++ rules) := by
    rw [← hchecksum, ← hinsert]
    exact hlines
  refine ⟨before, after, rules, hheader, hlist, fun l hl => isMetadata_eq_false_iff.1 (hrules l hl), ?_⟩
  have hofList : ∀ l ∈ before ++ after, Text.startsWith checksumLabel l = false := fun l hl =>
    not_checksum_of_mem_ofList (hheader ▸ hl)
  have hbefore : before.filter (Text.startsWith checksumLabel ·) = [] :=
    List.filter_eq_nil_iff.2 fun l hl => Bool.eq_false_iff.1 (hofList l (List.mem_append_left after hl))
  have hafter : (after ++ rules).filter (Text.startsWith checksumLabel ·) = [] := by
    refine List.filter_eq_nil_iff.2 fun l hl => Bool.eq_false_iff.1 ?_
    rcases List.mem_append.1 hl with hl | hl
    · exact hofList l (List.mem_append_right before hl)
    · exact not_startsWith_checksumLabel (hrules l hl)
  have hline : Text.startsWith checksumLabel (checksumLabel ++ ' ' :: checksum list.lines) :=
    Text.startsWith_iff.2 (List.prefix_append ..)
  nth_rewrite 1 [hlist]
  rw [List.filter_append, hbefore, List.filter_cons_of_pos hline, hafter]
  rfl

/-- A fetcher to which all sources hold the same text. -/
def sameSources (s : Text) : Fetcher Unit := ⟨fun _ _ => pure (.ok s), fun _ _ => pure ()⟩

/-- A list of one source. -/
def compressedList : Configuration where
  name := "A"
  sources := [⟨"a.txt", .adblock, none, {}⟩]
  description := none
  homepage := none
  license := none
  version := none
  optimization := some {}
  settings := { transformations := [.compress, .validate] }

theorem metadata_of_compile_compressedList :
    ∃ list, ((compile .sample (sameSources "! Title: B\n ! Checksum: C\n0.0.0.0 b.com".toList) {} ⟨10, fun _ => 0⟩
        ⟨2024, 1, 2, 3, 4, 5, 0, 0⟩ compressedList).run ()).1 = .ok list ∧ "||b.com^".toList ∈ list.lines ∧
      ∃ before after rules, ofList compressedList ⟨2024, 1, 2, 3, 4, 5, 0, 0⟩ = before ++ after ∧
        list.lines = before ++ (checksumLabel ++ ' ' :: checksum list.lines) :: (after ++ rules) ∧
        (∀ l ∈ rules, ∀ label ∈ labels, ¬ label <+: l.trim) ∧
        list.lines.filter (Text.startsWith checksumLabel ·) = [checksumLabel ++ ' ' :: checksum list.lines] := by
  obtain ⟨list, hlist, hrule⟩ : ∃ list ∈ (((compile .sample
      (sameSources "! Title: B\n ! Checksum: C\n0.0.0.0 b.com".toList) {} ⟨10, fun _ => 0⟩
      ⟨2024, 1, 2, 3, 4, 5, 0, 0⟩ compressedList).run ()).1).toOption, "||b.com^".toList ∈ list.lines := by
    decide +kernel
  have hrun := eq_ok_of_mem_toOption hlist
  exact ⟨list, hrun, hrule, metadata_of_compile hrun⟩

end Compiled

end Blocklist
