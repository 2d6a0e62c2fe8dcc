import Blocklist.Text.Basic

/-!
# Base64

Octets as text: three octets are four characters, and an incomplete group is filled up with `=`.
-/

namespace Blocklist.Base64

/-- The character for a number below 64. -/
def digit (n : Nat) : Char :=
  if n < 26 then Char.ofNat (0x41 + n)
  else if n < 52 then Char.ofNat (0x61 + (n - 26))
  else if n < 62 then Char.ofNat (0x30 + (n - 52))
  else if n = 62 then '+'
  else '/'

/-- The text of octets. -/
def encode : List UInt8 → Text
  | [] => []
  | [a] =>
    let n := a.toNat * 0x10000
    [digit (n / 0x40000), digit (n / 0x1000 % 64), '=', '=']
  | [a, b] =>
    let n := a.toNat * 0x10000 + b.toNat * 0x100
    [digit (n / 0x40000), digit (n / 0x1000 % 64), digit (n / 64 % 64), '=']
  | a :: b :: c :: rest =>
    let n := a.toNat * 0x10000 + b.toNat * 0x100 + c.toNat
    digit (n / 0x40000) :: digit (n / 0x1000 % 64) :: digit (n / 64 % 64) :: digit (n % 64) ::
      encode rest

end Blocklist.Base64
