/-!
# Text

Text is a list of characters, so that every cut, search and comparison is an operation on lists.
String literals stand for their characters wherever text is expected. The cuts `cut?`, `dropPrefix?`
and `dropSuffix?` return the pieces; the lemmas beside them say how the pieces make up the input.
-/

namespace Blocklist

/-- Text as the list of its characters. -/
abbrev Text := List Char

instance : Coe String Text := ⟨String.toList⟩

namespace Text

/-- The decimal digits of a natural number. -/
def ofNat (n : Nat) : Text := Nat.toDigits 10 n

/-- The decimal digits of an integer, after a minus sign if it is negative. -/
def ofInt : Int → Text
  | .ofNat n => ofNat n
  | .negSucc n => '-' :: ofNat (n + 1)

/-- The character `c` repeated `n` times. -/
def fill (c : Char) (n : Nat) : Text := List.replicate n c

/-- `s`, with `c` in front of it up to `width` characters. -/
def padLeft (c : Char) (width : Nat) (s : Text) : Text := fill c (width - s.length) ++ s

/-! ### Ends -/

/-- What follows `p` in `s`, if `s` starts with `p`. -/
def dropPrefix? : (p s : Text) → Option Text
  | [], s => some s
  | _ :: _, [] => none
  | c :: p, d :: s => if c = d then dropPrefix? p s else none

theorem dropPrefix?_eq_some_iff {p s r : Text} : dropPrefix? p s = some r ↔ s = p ++ r := by
  induction p generalizing s with
  | nil => simp [dropPrefix?]
  | cons c p ih =>
    cases s with
    | nil => simp [dropPrefix?]
    | cons d s =>
      by_cases h : c = d
      · subst h; simp [dropPrefix?, ih]
      · simp [dropPrefix?, h, Ne.symm h]

/-- Whether `s` starts with `p`. -/
def startsWith (p s : Text) : Bool := (dropPrefix? p s).isSome

/-- What comes before `p` in `s`, if `s` ends with `p`. -/
def dropSuffix? (p s : Text) : Option Text :=
  (dropPrefix? p.reverse s.reverse).map List.reverse

theorem dropSuffix?_eq_some_iff {p s r : Text} : dropSuffix? p s = some r ↔ s = r ++ p := by
  simp only [dropSuffix?, Option.map_eq_some_iff, dropPrefix?_eq_some_iff]
  constructor
  · rintro ⟨a, ha, rfl⟩
    have := congrArg List.reverse ha
    simpa using this
  · rintro rfl
    exact ⟨r.reverse, by simp, by simp⟩

/-- `s` without `p` in front, if it is there. -/
def removePrefix (p s : Text) : Text := (dropPrefix? p s).getD s

/-- `s` without `p` at its end, if it is there. -/
def removeSuffix (p s : Text) : Text := (dropSuffix? p s).getD s

/-- `s` without its longest end of characters that satisfy `f`. -/
def dropEndWhile (f : Char → Bool) (s : Text) : Text := (s.reverse.dropWhile f).reverse

/-- `s` without its longest start and its longest end of characters that satisfy `f`. -/
def trimBy (f : Char → Bool) (s : Text) : Text := dropEndWhile f (s.dropWhile f)

/-- `s` without one line feed at its end. -/
def dropLineFeed (s : Text) : Text := removeSuffix ['\n'] s

/-! ### Search -/

/-- What comes before and after the first place where `p` stands in `s`. -/
def cut? (p : Text) : Text → Option (Text × Text)
  | [] => if p = [] then some ([], []) else none
  | c :: s =>
    match dropPrefix? p (c :: s) with
    | some r => some ([], r)
    | none => (cut? p s).map fun (a, b) => (c :: a, b)

theorem eq_of_cut? {p s a b : Text} (h : cut? p s = some (a, b)) : s = a ++ p ++ b := by
  induction s generalizing a b with
  | nil =>
    rw [cut?] at h
    split at h <;> simp_all
  | cons c s ih =>
    rw [cut?] at h
    split at h
    · rename_i r hr
      simp only [Option.some.injEq, Prod.mk.injEq] at h
      obtain ⟨rfl, rfl⟩ := h
      simpa using dropPrefix?_eq_some_iff.1 hr
    · simp only [Option.map_eq_some_iff, Prod.exists, Prod.mk.injEq] at h
      obtain ⟨a', b', h', rfl, rfl⟩ := h
      simp [ih h']

/-- Whether `p` stands somewhere in `s`. -/
def contains (p s : Text) : Bool := (cut? p s).isSome

/-- What stands between the first `p` in `s` and the first `q` after it. -/
def between? (p q s : Text) : Option Text :=
  match cut? p s with
  | some (_, rest) => (cut? q rest).map (·.1)
  | none => none

/-- `s`, with `q` in the place of every `c`. -/
def replaceChar (c : Char) (q s : Text) : Text := s.flatMap fun d => if d = c then q else [d]

/-- What comes before the last `c` in `s` (with it) and what comes after. -/
def cutAfterLast? (f : Char → Bool) : Text → Option (Text × Text)
  | [] => none
  | c :: s =>
    match cutAfterLast? f s with
    | some (a, b) => some (c :: a, b)
    | none => if f c then some ([c], s) else none

/-! ### Pieces -/

/-- The pieces of `s` between the characters that satisfy `f`; there is always one piece. -/
def splitWhere (f : Char → Bool) : Text → List Text
  | [] => [[]]
  | c :: s =>
    if f c then [] :: splitWhere f s
    else
      match splitWhere f s with
      | [] => [[c]]
      | piece :: rest => (c :: piece) :: rest

theorem splitWhere_ne_nil (f : Char → Bool) (s : Text) : splitWhere f s ≠ [] := by
  cases s with
  | nil => simp [splitWhere]
  | cons d s =>
    rw [splitWhere]
    split
    · simp
    · split <;> simp

/-- The pieces of `s` between the characters `c`. -/
def splitOn (c : Char) (s : Text) : List Text := splitWhere (· = c) s

/-- The pieces, with `sep` between neighbours. -/
def join (sep : Text) : List Text → Text
  | [] => []
  | [s] => s
  | s :: rest => s ++ sep ++ join sep rest

/-- Splitting at a character and joining with it gives the text back. -/
theorem join_splitOn (c : Char) (s : Text) : join [c] (splitOn c s) = s := by
  unfold splitOn
  induction s with
  | nil => rfl
  | cons d s ih =>
    rw [splitWhere]
    split
    · rename_i h
      have h : d = c := by simpa using h
      subst h
      cases hs : splitWhere (· = d) s with
      | nil => exact absurd hs (splitWhere_ne_nil _ s)
      | cons p r => rw [hs] at ih; simp [join, ih]
    · split
      · rename_i hs; exact absurd hs (splitWhere_ne_nil _ s)
      · rename_i p r hs
        rw [hs] at ih
        cases r with
        | nil => simpa [join] using ih
        | cons q r => simpa [join] using ih

end Text
end Blocklist
