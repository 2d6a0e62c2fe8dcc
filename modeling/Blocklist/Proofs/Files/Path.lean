import Blocklist.Files.Basic
import Blocklist.Proofs.Text.Trim

/-!
# Where plain paths lead

A path is plain if it has no empty names and no dots that stand for a folder. `SamePlace.eq`: below one
folder, different plain paths lead to different places, whatever the folder's own path looks like.
-/

namespace Blocklist.Path

/-- Between its slashes stand proper names only. -/
def IsPlain (s : Text) : Prop := ∀ name ∈ s.splitOn '/', name ≠ [] ∧ name ≠ ['.'] ∧ name ≠ ['.', '.']

instance (s : Text) : Decidable (IsPlain s) := inferInstanceAs (Decidable (∀ name ∈ _, _))

/-- Nothing, or what ends with a slash. -/
def IsFolder (s : Text) : Prop := s = [] ∨ ∃ front, s = front ++ ['/']

theorem IsPlain.head?_ne {s : Text} (h : IsPlain s) : s.head? ≠ some '/' := by
  intro hs
  obtain ⟨t, rfl⟩ := List.head?_eq_some_iff.1 hs
  exact (h [] (by simp [Text.splitOn, Text.splitWhere])).1 rfl

variable {folder s : Text}

theorem names_read_append (hf : IsFolder folder) (hs : IsPlain s) :
    (read (folder ++ s)).names = (read folder).names ++ s.splitOn '/' := by
  have hkeep : (s.splitOn '/').filter (fun name => name ≠ [] && name ≠ ['.']) = s.splitOn '/' :=
    List.filter_eq_self.2 fun name hn => by simp [hs name hn]
  rcases hf with rfl | ⟨front, rfl⟩
  · exact hkeep
  · have hslash : decide ('/' = '/') = true := decide_eq_true rfl
    rw [read, read]
    simp only [Text.splitOn, List.append_assoc, List.singleton_append] at hkeep ⊢
    rw [Text.splitWhere_append_cons hslash, Text.splitWhere_append_cons hslash, List.filter_append,
      List.filter_append, hkeep]
    simp [Text.splitWhere]

theorem root_read_append (hs : IsPlain s) : (read (folder ++ s)).root = (read folder).root := by
  have htake : (folder ++ s).takeWhile (· = '/') = folder.takeWhile (· = '/') := by
    have hnone : s.takeWhile (· = '/') = [] := by
      cases s with
      | nil => rfl
      | cons c s => exact List.takeWhile_cons_of_neg (by simpa using hs.head?_ne)
    rw [List.takeWhile_append, hnone, List.append_nil]
    split
    · rename_i h
      exact ((List.takeWhile_prefix _).eq_of_length h).symm
    · rfl
  rw [read, read, rootOf, htake]
  rfl

end Blocklist.Path

namespace Blocklist.Files
open Blocklist.Path
variable {fs : Files} {folder s t : Text}

/-- Two paths lead to one place. -/
def SamePlace (fs : Files) (s t : Text) : Prop :=
  ∃ names, fs.locate (Path.read s) = .ok names ∧ fs.locate (Path.read t) = .ok names

theorem eq_of_foldlM_step {names : List Text} (h : ∀ name ∈ names, name ≠ ['.', '.']) {start found : List Text}
    (hf : names.foldlM fs.step start = .ok found) : found = start ++ names := by
  induction names generalizing start with
  | nil => rw [List.append_nil]; exact (Except.ok.inj hf).symm
  | cons name rest ih =>
    rw [List.foldlM_cons] at hf
    cases hstep : fs.step start name with
    | error e => rw [hstep] at hf; cases hf
    | ok next =>
      rw [hstep] at hf
      have hnext : next = start ++ [name] := by
        rw [step] at hstep
        cases hc : fs.checkFolder start with
        | error e => rw [hc] at hstep; cases hstep
        | ok u =>
          rw [hc] at hstep
          change child start name = .ok next at hstep
          rw [child, if_neg (h name (List.mem_cons_self ..))] at hstep
          split at hstep
          · cases hstep
          · exact (Except.ok.inj hstep).symm
      rw [ih (fun m hm => h m (List.mem_cons_of_mem name hm)) hf, hnext, List.append_assoc]
      rfl

theorem exists_of_locate {p : Path} {names : List Text} (h : fs.locate p = .ok names) :
    p.names.foldlM fs.step (fs.startOf p) = .ok names := by
  rw [locate] at h
  cases hc : checkText p with
  | error e => rw [hc] at h; cases h
  | ok u => rw [hc] at h; exact h

theorem locate_append (hf : IsFolder folder) (hs : IsPlain s) {names : List Text}
    (h : fs.locate (Path.read (folder ++ s)) = .ok names) :
    ∃ above, (Path.read folder).names.foldlM fs.step (fs.startOf (Path.read folder)) = .ok above ∧
      names = above ++ s.splitOn '/' := by
  have hfold := exists_of_locate h
  rw [startOf, root_read_append hs, names_read_append hf hs, List.foldlM_append] at hfold
  rw [startOf]
  cases habove : (Path.read folder).names.foldlM fs.step
      (if (Path.read folder).root = [] then fs.working else []) with
  | error e => rw [habove] at hfold; cases hfold
  | ok above =>
    rw [habove] at hfold
    exact ⟨above, rfl, eq_of_foldlM_step (fun name hn => (hs name hn).2.2) hfold⟩

theorem SamePlace.eq (hf : IsFolder folder) (hs : IsPlain s) (ht : IsPlain t)
    (h : fs.SamePlace (folder ++ s) (folder ++ t)) : s = t := by
  obtain ⟨names, hs', ht'⟩ := h
  obtain ⟨above, habove, hnames⟩ := locate_append hf hs hs'
  obtain ⟨above', habove', hnames'⟩ := locate_append hf ht ht'
  obtain rfl : above = above' := Except.ok.inj (habove.symm.trans habove')
  have hsplit : s.splitOn '/' = t.splitOn '/' := List.append_cancel_left (hnames.symm.trans hnames')
  rw [← Text.join_splitOn '/' s, hsplit, Text.join_splitOn]

end Blocklist.Files
