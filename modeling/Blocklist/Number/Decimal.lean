import Blocklist.Number.Binary64
import Blocklist.Text.Basic

/-!
# Decimal texts of numbers

`fixed` writes an amount with a number of places, `general` with at most six significant digits, and
`shortest` writes a floating-point number with the fewest digits that read back as it, positional for
exponents from -4 to 15. Rounding is to nearest, with a half going to the even neighbour.
-/

namespace Blocklist.Decimal

/-- A minus sign in front of a negative number. -/
def signed (negative : Bool) (s : Text) : Text := if negative then '-' :: s else s

/-- The digits of a natural number, at least `width` of them. -/
def digits (width n : Nat) : Text := Text.padLeft '0' width (Text.ofNat n)

/-- The fraction p / q with `places` decimal places. -/
def fixedFraction (places p q : Nat) : Text :=
  let unit := Nat.pow 10 places
  let n := roundDiv (p * unit) q
  Text.ofNat (n / unit) ++ if places = 0 then [] else '.' :: digits places (n % unit)

/-- The texts of the amounts that are no numbers. -/
def special : Amount → Text
  | .infinite negative => signed negative ['i', 'n', 'f']
  | _ => ['n', 'a', 'n']

/-- An amount with `places` decimal places. -/
def fixed (places : Nat) : Amount → Text
  | .finite x => signed (x < 0) (fixedFraction places x.num.natAbs x.den)
  | x => special x

/-- The fraction p / q rounded to two places, with no zero at the end unless it is the only place. -/
def percent (p q : Nat) : Text :=
  let n := roundDiv (p * 100) q
  Text.ofNat (n / 100) ++ '.' ::
    if n % 10 = 0 then Text.ofNat (n / 10 % 10) else digits 2 (n % 100)

/-! ### Significant digits -/

/-- Digits d with a place k stand for 0.d · 10^k, so k is the number of digits before the point. -/
structure Digits where
  text : Text
  place : Int
deriving Repr, DecidableEq

/-- A lower estimate of k where p / q lies between 10^(k-1) and 10^k, too small by one at most. -/
def placeEstimate (p q : Nat) : Int :=
  (Nat.toDigits 10 p).length - (Nat.toDigits 10 q).length

/-- Whether 10^k is at most p / q. -/
def powerLe (k : Int) (p q : Nat) : Bool :=
  match k with
  | .ofNat n => q * Nat.pow 10 n ≤ p
  | .negSucc n => q ≤ p * Nat.pow 10 (n + 1)

/-- The number k where p / q lies between 10^(k-1) and 10^k, the upper end excluded. -/
def placeOf (p q : Nat) : Int :=
  let k := placeEstimate p q
  if powerLe k p q then k + 1 else k

/-- The fraction p / q over 10^e, as a fraction. -/
def overPower (p q : Nat) (e : Int) : Nat × Nat :=
  match e with
  | .ofNat n => (p, q * Nat.pow 10 n)
  | .negSucc n => (p * Nat.pow 10 (n + 1), q)

/-- Digits without zeros at the end. -/
def stripZeros (s : Text) : Text :=
  match Text.dropEndWhile (· = '0') s with
  | [] => ['0']
  | t => t

/-- The fraction p / q rounded to `count` significant digits. -/
def significant (count p q : Nat) : Digits :=
  let k := placeOf p q
  let (a, b) := overPower p q (k - count)
  let s := Text.ofNat (roundDiv a b)
  ⟨stripZeros s, if count < s.length then k + 1 else k⟩

/-- How a number is laid out: which places are written without exponent, and whether a whole number
has a point and a zero at the end. -/
structure Layout where
  lowest : Int
  highest : Int
  pointZero : Bool

/-- Significant digits in a layout. -/
def Layout.write (l : Layout) (d : Digits) : Text :=
  let n := d.text.length
  if d.place < l.lowest || l.highest < d.place then
    let e := d.place - 1
    d.text.take 1 ++ (if 1 < n then '.' :: d.text.drop 1 else []) ++
      ['e', if e < 0 then '-' else '+'] ++ digits 2 e.natAbs
  else if d.place ≤ 0 then '0' :: '.' :: (Text.fill '0' d.place.natAbs ++ d.text)
  else
    let k := d.place.toNat
    if n ≤ k then d.text ++ Text.fill '0' (k - n) ++ if l.pointZero then ['.', '0'] else []
    else d.text.take k ++ '.' :: d.text.drop k

/-- A number in six significant digits. -/
def generalLayout : Layout := ⟨-3, 6, false⟩

/-- A number that reads back. -/
def shortestLayout : Layout := ⟨-3, 16, true⟩

/-- A number with at most six significant digits. -/
def general : Binary64 → Text
  | .finite negative m e =>
    signed negative
      (if m = 0 then ['0']
        else
          let (p, q) := Binary64.fraction m e
          generalLayout.write (significant 6 p q))
  | x => special x.toAmount

/-- The first grid, of those with `count` digits and more, on which a neighbour of the number rounds to
it; of two such neighbours the nearer. -/
def shortestDigits (m : Nat) (e : Int) (count : Nat) : Nat → Digits
  | 0 => let (p, q) := Binary64.fraction m e; significant 17 p q
  | fuel + 1 =>
    let (p, q) := Binary64.fraction m e
    let k := placeOf p q
    let (a, b) := overPower p q (k - count)
    let readsBack (n : Nat) : Bool := Binary64.ofDecimal false n (k - count) = .finite false m e
    let below := a / b
    let nearest := roundDiv a b
    let other := if nearest = below then below + 1 else below
    let found (n : Nat) : Digits :=
      let s := Text.ofNat n
      ⟨stripZeros s, if count < s.length then k + 1 else k⟩
    if readsBack nearest then found nearest
    else if readsBack other then found other
    else shortestDigits m e (count + 1) fuel

/-- The shortest text that reads back as the number. -/
def shortest : Binary64 → Text
  | .finite negative m e =>
    signed negative
      (if m = 0 then ['0', '.', '0'] else shortestLayout.write (shortestDigits m e 1 17))
  | x => special x.toAmount

/-! ### Reading -/

/-- The number that decimal digits write. -/
def natOf (s : Text) : Nat := s.foldl (fun n c => n * 10 + (c.toNat - 0x30)) 0

/-- An optional sign, and what comes after it. -/
def takeSign : Text → Bool × Text
  | '-' :: s => (true, s)
  | '+' :: s => (false, s)
  | s => (false, s)

/-- The exponent part of a number: nothing, or `e` with an integer. -/
def exponent? : Text → Option Int
  | [] => some 0
  | c :: s =>
    if c = 'e' || c = 'E' then
      let (negative, digits) := takeSign s
      if digits ≠ [] && digits.all Char.isDigit then
        some (if negative then -(natOf digits) else natOf digits)
      else none
    else none

/-- The number of whole digits, a fraction and an exponent, any of which but the digits may be
missing. -/
def ofParts? (negative : Bool) (whole frac : Text) (rest : Text) : Option Binary64 :=
  if whole = [] && frac = [] then none
  else
    (exponent? rest).map fun e =>
      Binary64.ofDecimal negative (natOf (whole ++ frac)) (e - frac.length)

/-- The digits after a point, and what comes after them. -/
def takeFraction : Text → Text × Text
  | '.' :: s => (s.takeWhile Char.isDigit, s.dropWhile Char.isDigit)
  | s => ([], s)

/-- An unsigned decimal number. -/
def unsigned? (negative : Bool) (s : Text) : Option Binary64 :=
  let (frac, rest) := takeFraction (s.dropWhile Char.isDigit)
  ofParts? negative (s.takeWhile Char.isDigit) frac rest

end Blocklist.Decimal
