import Blocklist.Proofs.Directive.Origin
import Blocklist.Proofs.Files.Path

/-!
# Files under one name

A download knows a source by its location, and a file has many. `download_emits_once`: two lines of a
download that are one line of one file come from two locations of it, and there are no such lines if all
names are regular, because then no file has two. That names stay regular on the way down the inclusions is
`Location.isRegular_of_resolve?`.
-/

namespace Blocklist

/-! ### Inclusions of a text -/

theorem Directive.trim_of_inclusion {line path : Text} (h : of? line = some (.inclusion path)) : path.trim = path := by
  rcases of_of? h with ⟨r, -, hd⟩ | ⟨-, hd⟩ | ⟨-, hd⟩ | ⟨r, -, hd⟩ | ⟨r, -, hd⟩
  · cases hd
  · cases hd
  · cases hd
  · obtain rfl := Directive.inclusion.inj hd
    exact Text.trim_eq_self_iff.2 (Text.trimmed_trim r)
  · cases hd

namespace SourceLine

theorem text_mem_of_mem_split {s source : Text} {l : SourceLine} (h : l ∈ split s source) : l.text ∈ texts s := by
  obtain ⟨i, hi⟩ := List.mem_iff_getElem?.1 h
  rw [split, getElem?_numbered] at hi
  obtain ⟨t, ht, rfl⟩ := Option.map_eq_some_iff.1 hi
  exact List.mem_of_getElem? ht

/-- The paths that the lines of a text include. -/
def inclusionPaths (s : Text) : List Text :=
  (texts s).filterMap fun line =>
    match Directive.of? line with
    | some (.inclusion path) => some path
    | _ => none

theorem mem_inclusionPaths {s source path : Text} {l : SourceLine} (hl : l ∈ split s source)
    (hd : Directive.of? l.text = some (.inclusion path)) : path ∈ inclusionPaths s :=
  List.mem_filterMap.2 ⟨l.text, text_mem_of_mem_split hl, by rw [hd]⟩

end SourceLine

/-- The paths that the fetched text includes. -/
def Fetched.inclusionPaths (x : Fetched) : List Text :=
  match x.result with
  | .ok s => SourceLine.inclusionPaths s
  | .error _ => []

/-! ### Plain names -/

namespace Path
variable {s t : Text}

/-- A name with a backslash is none of those that a plain path must not have. -/
theorem proper_of_mem {name : Text} (h : '\\' ∈ name) : name ≠ [] ∧ name ≠ ['.'] ∧ name ≠ ['.', '.'] := by
  refine ⟨List.ne_nil_of_mem h, ?_, ?_⟩ <;> rintro rfl <;> simp at h

/-- What follows the last separator of a plain path can be replaced. -/
theorem IsPlain.replaceLast {a b c : Text} (h : IsPlain (a ++ b)) (hc : IsPlain c) {front : Text} {d : Char}
    (ha : a = front ++ [d]) (hd : d = '/' ∨ d = '\\') : IsPlain (a ++ c) := by
  obtain ⟨pieces, last, first, back, hsplit, hlast, hb, hab⟩ :=
    Text.exists_splitWhere_append (· = '/') a b
  obtain ⟨pieces', last', first', back', hsplit', -, hcs, hac⟩ :=
    Text.exists_splitWhere_append (· = '/') a c
  obtain ⟨rfl, hl⟩ := List.append_inj' (hsplit.symm.trans hsplit') rfl
  obtain rfl : last = last' := List.singleton_inj.1 hl
  -- the name before the cut is empty or ends with a backslash
  have hbefore : last = [] ∨ '\\' ∈ last := by
    rcases List.eq_nil_or_concat last with hnil | ⟨init, e, he⟩
    · exact .inl hnil
    · refine .inr ?_
      rw [List.concat_eq_append] at he
      obtain ⟨rest, hrest⟩ := hlast
      rw [ha, he, ← List.append_assoc] at hrest
      obtain rfl : e = d := List.singleton_inj.1 (List.append_inj' hrest rfl).2
      have hslash : decide (e = '/') = false :=
        (Text.mem_of_mem_splitWhere (f := (· = '/')) (s := a)
          (hsplit ▸ List.mem_append_right _ (List.mem_singleton_self _)) e
          (he ▸ List.mem_append_right _ (List.mem_singleton_self _))).1
      rw [he, hd.resolve_left (of_decide_eq_false hslash)]
      exact List.mem_append_right _ (List.mem_singleton_self _)
  intro name hname
  rw [Text.splitOn, hac] at hname
  rcases List.mem_append.1 hname with hname | hname
  · exact h name (by rw [Text.splitOn, hab]; exact List.mem_append_left _ hname)
  · rcases List.mem_cons.1 hname with rfl | hname
    · rcases hbefore with rfl | hmem
      · exact hc _ (by rw [Text.splitOn, hcs]; exact List.mem_cons_self ..)
      · exact proper_of_mem (List.mem_append_left _ hmem)
    · exact hc name (by rw [Text.splitOn, hcs]; exact List.mem_cons_of_mem _ hname)

end Path

namespace Location
variable {folder base path next : Text}

/-- A plain path behind the path of a folder. -/
def IsBelow (folder location : Text) : Prop := ∃ s, Path.IsPlain s ∧ location = folder ++ s

instance (folder location : Text) : Decidable (IsBelow folder location) :=
  decidable_of_iff (∃ s ∈ Text.dropPrefix? folder location, Path.IsPlain s)
    (by simp only [IsBelow, Option.mem_def, Text.dropPrefix?_eq_some_iff, and_comm])

/-- A URL, or a plain path behind the path of the folder. -/
def IsRegular (folder location : Text) : Prop := isUrl location ∨ IsBelow folder location

instance (folder location : Text) : Decidable (IsRegular folder location) :=
  inferInstanceAs (Decidable (_ ∨ _))

/-- The path that an inclusion names is plain, or what it stands for is regular anyway. -/
def KeepsRegular (folder base path : Text) : Prop :=
  (isUrl base = false ∧ isAbsolute path = false ∧ Path.IsPlain path) ∨
    ∀ next ∈ resolve? path base, IsRegular folder next

instance (folder base path : Text) : Decidable (KeepsRegular folder base path) :=
  inferInstanceAs (Decidable (_ ∨ ∀ next ∈ _, _))

theorem isBelow_of_resolve? (hf : Path.IsFolder folder) (hbase : IsBelow folder base) (hlocal : isUrl base = false)
    (hrelative : isAbsolute path = false) (hpath : Path.IsPlain path) (htrim : path.trim = path)
    (h : resolve? path base = some next) : IsBelow folder next := by
  rw [resolve?, htrim] at h
  simp only [hrelative, hlocal, Bool.false_eq_true, if_false] at h
  obtain ⟨s, hs, rfl⟩ := hbase
  have hnext : IsBelow folder (folder ++ path) := ⟨path, hpath, rfl⟩
  cases hcut : Text.cutAfterLast? (fun c => c = '/' || c = '\\') s with
  | some ab =>
    -- the cut is in the part below the folder
    obtain ⟨a, b⟩ := ab
    rw [Text.cutAfterLast?_append hcut] at h
    obtain rfl := Option.some.inj h
    obtain ⟨rfl, front, d, ha, hd⟩ := Text.eq_of_cutAfterLast? hcut
    exact ⟨a ++ path, hs.replaceLast hpath ha (by simpa using hd), List.append_assoc ..⟩
  | none =>
    rcases hf with rfl | ⟨front, rfl⟩
    · rw [List.nil_append, hcut] at h
      obtain rfl := Option.some.inj h
      exact hnext
    · rw [Text.cutAfterLast?_concat_append (by simp) hcut] at h
      obtain rfl := Option.some.inj h
      exact hnext

theorem isRegular_of_resolve? (hf : Path.IsFolder folder) (hbase : IsRegular folder base)
    (hpath : KeepsRegular folder base path) (htrim : path.trim = path) (h : resolve? path base = some next) :
    IsRegular folder next := by
  rcases hpath with ⟨hlocal, hrelative, hplain⟩ | hnext
  · rcases hbase with hurl | hbelow
    · rw [hlocal] at hurl
      cases hurl
    · exact .inr (isBelow_of_resolve? hf hbelow hlocal hrelative hplain htrim h)
  · exact hnext next h

end Location

/-- Two locations of one file. -/
structure Files.SameFile (fs : Files) (s t : Text) : Prop where
  left : Location.isUrl s = false
  right : Location.isUrl t = false
  place : fs.SamePlace s t

/-- The names of sources, that of `top` and those in the fetched texts, are regular. -/
structure RegularNames (folder top : Text) (log : List Fetched) : Prop where
  isFolder : Path.IsFolder folder
  top : Location.IsRegular folder top
  inclusions : ∀ x ∈ log, ∀ path ∈ x.inclusionPaths, path ≠ [] → Location.KeepsRegular folder x.location path

namespace RegularNames
variable {folder top : Text} {log : List Fetched}

theorem isRegular_of_leads (h : RegularNames folder top log) {n : Nat} {location : Text}
    (hl : Leads log top n location) : Location.IsRegular folder location := by
  induction hl with
  | top => exact h.top
  | step _ hs hl hd hp hr ih =>
    refine Location.isRegular_of_resolve? h.isFolder ih ?_ (Directive.trim_of_inclusion hd) hr
    exact h.inclusions _ hs _ (SourceLine.mem_inclusionPaths hl hd) hp

theorem location_eq (h : RegularNames folder top log) {σ : Type} {maxDepth : Int} {p : Progress (σ × List Fetched)}
    (hp : Sound top maxDepth p) (hlog : p.state.2 = log) {fs : Files} {x y : Fetched} (hx : x ∈ log) (hy : y ∈ log)
    (hfile : fs.SameFile x.location y.location) : x.location = y.location := by
  have below (z : Fetched) (hz : z ∈ log) (hlocal : Location.isUrl z.location = false) :
      Location.IsBelow folder z.location := by
    obtain ⟨before, after, hsplit⟩ := List.append_of_mem hz
    obtain ⟨n, -, hled⟩ := hp.led before z after (hlog.trans hsplit)
    have hregular := h.isRegular_of_leads (hled.mono (hsplit ▸ List.subset_append_left before _))
    exact hregular.resolve_left (by simp [hlocal])
  obtain ⟨s, hs, hxs⟩ := below x hx hfile.left
  obtain ⟨t, ht, hyt⟩ := below y hy hfile.right
  have hplace := hfile.place
  rw [hxs, hyt] at hplace ⊢
  rw [hplace.eq h.isFolder hs ht]

end RegularNames

/-- Two lines of a download that are one line of one file come from two locations of the file. If all names
are regular, no file is read twice, and so no line of a file is given twice, however the inclusions lead
back to it. -/
theorem download_emits_once (fo : FetchOptions) (o : DownloadOptions) (top : Text) (allowEmpty : Bool) (w : World)
    {ls : List SourceLine} (h : ((download (World.fetcher fo) o top allowEmpty).run w).1 = .ok ls) :
    (ls.Pairwise fun a b => w.files.SameFile a.source b.source → a.number = b.number → a.source ≠ b.source) ∧
      ∀ folder, RegularNames folder top (Download.log (World.fetcher fo) o top allowEmpty w) →
        ((Download.log (World.fetcher fo) o top allowEmpty w).Pairwise fun x y =>
          ¬ w.files.SameFile x.location y.location) ∧
        ls.Pairwise fun a b => w.files.SameFile a.source b.source → a.number ≠ b.number := by
  obtain ⟨r, p, hrun, hrecorded, hplain, hsound⟩ := Download.exists_run (World.fetcher fo) o top allowEmpty w
  obtain rfl : r = .ok ls := by rw [hplain] at h; exact h
  have hlog : p.state.2 = Download.log (World.fetcher fo) o top allowEmpty w := by rw [Download.log, hrecorded]
  have hyields := Download.wp_source_yields (f := World.fetcher fo) (o := o) (o.maxDepth + 1).toNat top
    allowEmpty ⟨[], w, []⟩
  rw [Attempt.wp, hrun] at hyields
  have hord := hyields.inOrder ls rfl
  refine ⟨hord.imp fun hab _ hnumber hsource => ?_, fun folder hnames => ⟨?_, ?_⟩⟩
  · have := hab hsource
    omega
  · have hnodup := hsound.nodup_locations
    rw [hlog, List.nodup_iff_pairwise_ne, List.pairwise_map] at hnodup
    exact hnodup.imp_of_mem fun hx hy hne hfile => hne (hnames.location_eq hsound hlog hx hy hfile)
  · refine hord.imp_of_mem fun {a b} ha hb hab hfile hnumber => ?_
    obtain ⟨s, hs, -⟩ := (hyields.fresh ls rfl a ha).fetched
    obtain ⟨t, ht, -⟩ := (hyields.fresh ls rfl b hb).fetched
    have hsource : a.source = b.source := hnames.location_eq hsound hlog (hlog ▸ hs) (hlog ▸ ht) hfile
    have := hab hsource
    omega

/-- Two files that include each other. -/
def cyclicFiles : World :=
  .ofFiles [("a".toList, "||a^\n!#include b\n".toList), ("b".toList, "||b^\n!#include a\n".toList)]

theorem download_emits_once_cyclicFiles :
    ∃ ls, ((download (World.fetcher {}) {} "./a".toList false).run cyclicFiles).1 = .ok ls ∧
      ls = [⟨"||a^".toList, "./a".toList, 1⟩, ⟨"||b^".toList, "./b".toList, 1⟩] ∧
      RegularNames "./".toList "./a".toList (Download.log (World.fetcher {}) {} "./a".toList false cyclicFiles) ∧
      ls.Pairwise fun a b => cyclicFiles.files.SameFile a.source b.source → a.number ≠ b.number := by
  have hrun : ((download (World.fetcher {}) {} "./a".toList false).run cyclicFiles).1 =
      .ok [⟨"||a^".toList, "./a".toList, 1⟩, ⟨"||b^".toList, "./b".toList, 1⟩] :=
    eq_ok_of_mem_toOption (by decide +kernel)
  have hnames : RegularNames "./".toList "./a".toList
      (Download.log (World.fetcher {}) {} "./a".toList false cyclicFiles) :=
    ⟨.inr ⟨['.'], rfl⟩, by decide +kernel, by decide +kernel⟩
  exact ⟨_, hrun, rfl, hnames, ((download_emits_once {} {} _ _ _ hrun).2 _ hnames).2⟩

/-- A file that includes itself. -/
def selfFile : World := .ofFiles [("a".toList, "||a^\n!#include ./a\n".toList)]

/-- Under another name, a file is read again. -/
theorem download_emits_twice_selfFile :
    ∃ ls, ((download (World.fetcher {}) { maxDepth := 1 } "a".toList false).run selfFile).1 = .ok ls ∧
      ¬ ls.Pairwise fun a b => selfFile.files.SameFile a.source b.source → a.number ≠ b.number := by
  have hrun : ((download (World.fetcher {}) { maxDepth := 1 } "a".toList false).run selfFile).1 =
      .ok [⟨"||a^".toList, "a".toList, 1⟩, ⟨"||a^".toList, "./a".toList, 1⟩] :=
    eq_ok_of_mem_toOption (by decide +kernel)
  have hfile : selfFile.files.SameFile "a".toList "./a".toList :=
    ⟨by decide +kernel, by decide +kernel, ["a".toList], eq_ok_of_mem_toOption (by decide +kernel),
      eq_ok_of_mem_toOption (by decide +kernel)⟩
  refine ⟨_, hrun, fun h => ?_⟩
  exact (List.pairwise_cons.1 h).1 _ (List.mem_singleton_self _) hfile rfl

end Blocklist
