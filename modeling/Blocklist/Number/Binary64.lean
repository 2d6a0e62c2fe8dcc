import Blocklist.Number.Amount

/-!
# Binary floating-point numbers

A `Binary64` is a sign with a number m · 2^e, where m has at most 53 bits and e is at least -1074, or
one of the special values. `ofFraction` rounds a fraction to the nearest such number, and of two
equally near ones to the one with an even m. Sums and products are the rounded exact results.
-/

namespace Blocklist

/-- The quotient rounded to the nearest natural number; a half goes to the even neighbour. -/
def roundDiv (p q : Nat) : Nat :=
  let n := p / q
  let r := p % q
  if 2 * r < q then n else if q < 2 * r then n + 1 else if n % 2 = 0 then n else n + 1

/-- A floating-point number of 64 bits. -/
inductive Binary64 where
  | nan
  | infinite (negative : Bool)
  | finite (negative : Bool) (mantissa : Nat) (exponent : Int)
deriving DecidableEq, Repr

namespace Binary64

/-- The fraction p / q, times 2^(-e), as a fraction. -/
def scaled (p q : Nat) (e : Int) : Nat × Nat :=
  match e with
  | .ofNat n => (p, q * Nat.pow 2 n)
  | .negSucc n => (p * Nat.pow 2 (n + 1), q)

/-- The exponent that gives p / q a mantissa of 53 bits, or the least exponent. -/
def exponentFor (p q : Nat) : Int :=
  -- the quotient lies between 2^(d-1) and 2^(d+1)
  let d : Int := (Nat.log2 p : Int) - (Nat.log2 q : Int)
  let e := d - 52
  let (a, b) := scaled p q e
  max (if a < b * Nat.pow 2 52 then e - 1 else e) (-1074)

/-- The number nearest to p / q, with a sign. -/
def ofFraction (negative : Bool) (p q : Nat) : Binary64 :=
  if p = 0 then .finite negative 0 0
  else
    let e := exponentFor p q
    let (a, b) := scaled p q e
    let m := roundDiv a b
    let (m, e) := if m = Nat.pow 2 53 then (Nat.pow 2 52, e + 1) else (m, e)
    if 971 < e then .infinite negative else .finite negative m e

/-- The number nearest to a rational number. -/
def ofRat (x : Rat) : Binary64 := ofFraction (x < 0) x.num.natAbs x.den

/-- The number m · 10^e, with a sign; far outside the range of the format nothing is computed. -/
def ofDecimal (negative : Bool) (m : Nat) (e : Int) : Binary64 :=
  let places : Int := (Nat.toDigits 10 m).length + e
  if m = 0 || places < -400 then .finite negative 0 0
  else if 400 < places then .infinite negative
  else
    match e with
    | .ofNat n => ofFraction negative (m * Nat.pow 10 n) 1
    | .negSucc n => ofFraction negative m (Nat.pow 10 (n + 1))

/-- The absolute value of m · 2^e as a fraction. -/
def fraction (m : Nat) (e : Int) : Nat × Nat :=
  match e with
  | .ofNat n => (m * Nat.pow 2 n, 1)
  | .negSucc n => (m, Nat.pow 2 (n + 1))

/-- The value of a number. -/
def toAmount : Binary64 → Amount
  | .nan => .nan
  | .infinite negative => .infinite negative
  | .finite negative m e =>
    let (p, q) := fraction m e
    let x : Rat := (p : Rat) / (q : Rat)
    .finite (if negative then -x else x)

/-- The value of the number nearest to `x`. -/
def round (x : Rat) : Amount := (ofRat x).toAmount

end Binary64
end Blocklist
