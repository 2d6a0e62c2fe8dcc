import Blocklist.Hostname.NameprepTable
import Blocklist.Text.CodeRange
import Blocklist.Text.Normal

/-!
# Name preparation

The preparation of a label of an internationalized host name by RFC 3491: drop, fold case, normalize,
and refuse prohibited characters and mixed writing directions. Unassigned code points are allowed.
-/

namespace Blocklist.Nameprep

/-- What a character is mapped to. -/
def fold (c : Char) : Text :=
  let n := c.toNat
  if inRanges dropped n then []
  else
    match foldRuns.find? (·.has n) with
    | some r => [Char.ofNat (n + r.delta).toNat]
    | none =>
      match foldLong.lookup n with
      | some target => target.map Char.ofNat
      | none => [c]

/-- A character of a right-to-left script. -/
def isRightToLeft (c : Char) : Bool := inRanges rightToLeft c.toNat

/-- A character of a left-to-right script. -/
def isLeftToRight (c : Char) : Bool := inRanges leftToRight c.toNat

/-- A label with characters of right-to-left scripts starts and ends with one and has none of
left-to-right scripts. -/
def directionOk (s : Text) : Bool :=
  !s.any isRightToLeft ||
    (!s.any isLeftToRight && s.head?.any isRightToLeft && s.getLast?.any isRightToLeft)

/-- The prepared label. -/
def prepare? (label : Text) : Option Text :=
  let s := Normal.normalize (label.flatMap fold)
  if s.any (fun c => inRanges prohibited c.toNat) || !directionOk s then none else some s

end Blocklist.Nameprep
