/-!
# Amounts

What computing with rational numbers of limited size gives: a number, or an infinity where the result is
too large, or nothing that has a value. A result is rounded; with `Amount.finite` as the rounding,
computing is exact.
-/

namespace Blocklist

/-- A rational number, an infinity, or no value. -/
inductive Amount where
  | nan
  | infinite (negative : Bool)
  | finite (x : Rat)
deriving DecidableEq, Repr

namespace Amount

/-- The product. -/
def mul (rounding : Rat → Amount) (a b : Amount) : Amount :=
  match a, b with
  | .finite x, .finite y => rounding (x * y)
  | .infinite n, .infinite m => .infinite (n != m)
  | .infinite n, .finite x | .finite x, .infinite n => if x = 0 then .nan else .infinite (n != (x < 0 : Bool))
  | .nan, _ | _, .nan => .nan

/-- The sum. -/
def add (rounding : Rat → Amount) (a b : Amount) : Amount :=
  match a, b with
  | .finite x, .finite y => rounding (x + y)
  | .infinite n, .infinite m => if n = m then .infinite n else .nan
  | .infinite n, .finite _ | .finite _, .infinite n => .infinite n
  | .nan, _ | _, .nan => .nan

end Amount
end Blocklist
