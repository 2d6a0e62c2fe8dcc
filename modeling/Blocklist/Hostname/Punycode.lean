import Blocklist.Text.Basic

/-!
# Punycode

The encoding of RFC 3492: the ASCII characters of a label, a hyphen, and then the other characters in
the order of their code points as differences, each written in digits of base 36 whose thresholds
follow an adaptive bias.
-/

namespace Blocklist.Punycode

/-- The digit of value `d`: `a` to `z`, then `0` to `9`. -/
def digit (d : Nat) : Char := if d < 26 then Char.ofNat (0x61 + d) else Char.ofNat (0x30 + (d - 26))

/-- The value of a digit, in either case. -/
def digitValue? (c : Char) : Option Nat :=
  let n := c.toNat
  if 0x61 ≤ n && n ≤ 0x7A then some (n - 0x61)
  else if 0x41 ≤ n && n ≤ 0x5A then some (n - 0x41)
  else if 0x30 ≤ n && n ≤ 0x39 then some (n - 0x30 + 26)
  else none

/-- The threshold of the digit at place `k`, between 1 and 26. -/
def threshold (k bias : Nat) : Nat :=
  if k ≤ bias + 1 then 1 else if bias + 26 ≤ k then 26 else k - bias

theorem one_le_threshold (k bias : Nat) : 1 ≤ threshold k bias := by
  unfold threshold
  split
  · omega
  · split <;> omega

/-- Divides by 35 until at most 455 is left, and counts 36 for each division. -/
def scale (delta k : Nat) : Nat × Nat :=
  if 455 < delta then scale (delta / 35) (k + 36) else (delta, k)
termination_by delta
decreasing_by exact Nat.div_lt_self (by omega) (by omega)

/-- The bias after a difference, when `count` characters are written. -/
def adapt (delta count : Nat) (first : Bool) : Nat :=
  let d := if first then delta / 700 else delta / 2
  let (rest, k) := scale (d + d / count) 0
  k + 36 * rest / (rest + 38)

/-! ### Encoding -/

/-- The digits of a difference, from place `k` on. -/
def digits (bias k q : Nat) : Text :=
  let t := threshold k bias
  if q < t then [digit q]
  else digit (t + (q - t) % (36 - t)) :: digits bias (k + 36) ((q - t) / (36 - t))
termination_by q
decreasing_by
  have := one_le_threshold k bias
  exact Nat.lt_of_le_of_lt (Nat.div_le_self _ _) (by omega)

/-- The work of an encoder: what is written, the difference since then, the bias, and the number of
characters written. -/
structure Encoder where
  out : Text
  delta : Nat
  bias : Nat
  count : Nat

/-- One character of the label during the round for the code point `m`, after `basic` ASCII
characters. -/
def Encoder.step (basic m : Nat) (e : Encoder) (c : Char) : Encoder :=
  if c.toNat < m then { e with delta := e.delta + 1 }
  else if c.toNat = m then
    { out := e.out ++ digits e.bias 36 e.delta
      delta := 0
      bias := adapt e.delta (e.count + 1) (e.count = basic)
      count := e.count + 1 }
  else e

/-- One round for each code point of the list, when the next one due would be `n`. -/
def Encoder.rounds (label : Text) (basic : Nat) : List Nat → Nat → Encoder → Encoder
  | [], _, e => e
  | m :: rest, n, e =>
    let e := { e with delta := e.delta + (m - n) * (e.count + 1) }
    let e := label.foldl (Encoder.step basic m) e
    rounds label basic rest (m + 1) { e with delta := e.delta + 1 }

/-- The encoded label, without any prefix. -/
def encode (label : Text) : Text :=
  let basic := label.filter fun c => c.toNat < 0x80
  let points := ((label.map Char.toNat).filter (0x80 ≤ ·)).mergeSort.eraseDups
  let e := Encoder.rounds label basic.length points 0x80 ⟨[], 0, 72, basic.length⟩
  (if basic = [] then [] else basic ++ ['-']) ++ e.out

/-! ### Decoding -/

/-- The difference written at the start of the digits, with weight `w` at place `k`, added to `i`, and
the digits after it. -/
def difference? (bias k w i : Nat) : Text → Option (Nat × Text)
  | [] => none
  | c :: rest =>
    match digitValue? c with
    | none => none
    | some d =>
      let t := threshold k bias
      if d < t then some (i + d * w, rest)
      else difference? bias (k + 36) (w * (36 - t)) (i + d * w) rest

theorem length_lt_of_difference? {bias k w i n : Nat} {s rest : Text}
    (h : difference? bias k w i s = some (n, rest)) : rest.length < s.length := by
  induction s generalizing k w i with
  | nil => simp [difference?] at h
  | cons c s ih =>
    rw [difference?] at h
    split at h
    · cases h
    · simp only at h
      split at h
      · simp only [Option.some.injEq, Prod.mk.injEq] at h
        rw [← h.2]; simp
      · have := ih h; simp only [List.length_cons]; omega

/-- Inserts the characters that the digits write into `out`; the code point due is `n`, at place `i`. -/
def insertAll (bias n i : Nat) (out : Text) (s : Text) : Option Text :=
  if s = [] then some out
  else
    match _h : difference? bias 36 1 i s with
    | none => none
    | some (j, rest) =>
      let size := out.length + 1
      let n := n + j / size
      let place := j % size
      if 0x110000 ≤ n then none
      else
        insertAll (adapt (j - i) size (i = 0)) n (place + 1)
          (out.take place ++ [Char.ofNat n] ++ out.drop place) rest
termination_by s.length
decreasing_by exact length_lt_of_difference? _h

/-- The label that `s` encodes. What comes before its last hyphen is taken as it is. -/
def decode? (s : Text) : Option Text :=
  match s.cutAfterLast? (· = '-') with
  | some (basic, rest) => insertAll 72 0x80 0 basic.dropLast rest
  | none => insertAll 72 0x80 0 [] s

end Blocklist.Punycode
