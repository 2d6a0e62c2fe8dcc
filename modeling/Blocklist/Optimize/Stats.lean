import Blocklist.Number.Decimal

/-!
# Statistics of the optimizer

What the optimizer did to a list: counts of edits, the number of rules before and after, and by how
many percent the list became shorter, computed in floating-point numbers.
-/

namespace Blocklist.Optimize

/-- Counts of what the stages did, and the size of the list. -/
structure Stats where
  optimized : Nat := 0
  redundant : Nat := 0
  merged : Nat := 0
  simplified : Nat := 0
  original : Nat := 0
  final : Nat := 0
  reduction : Amount := .finite 0
deriving DecidableEq

/-- By how many percent `final` is smaller than `original`. -/
def reductionOf (original final : Nat) : Amount :=
  if original = 0 then .finite 0
  else
    let share := Binary64.round (((original : Rat) - (final : Rat)) / (original : Rat))
    .mul Binary64.round share (.finite 100)

/-- The reduction with at most two places. -/
def Stats.reductionText (s : Stats) : Text :=
  match s.reduction with
  | .finite x => Decimal.signed (x < 0) (Decimal.percent x.num.natAbs x.den)
  | x => Decimal.special x

end Blocklist.Optimize
