import Blocklist.Text.Blank

/-!
# Addresses

The texts of IPv4 and IPv6 addresses. `Address.parse?` reads the usual forms: four decimal octets
without leading zeros, or eight groups of up to four hexadecimal digits, where `::` stands for one
group of zeros or more and an IPv4 address may stand for the last two groups. `Address.text` writes
the one canonical form.
-/

namespace Blocklist

/-- An IPv4 address by its octets, an IPv6 address by its eight groups. -/
inductive Address where
  | v4 (octets : List Nat)
  | v6 (groups : List Nat)
deriving Repr, DecidableEq

namespace Address

/-- The value of a digit in a base up to sixteen. -/
def digitValue (c : Char) : Nat :=
  if c.isDigit then c.toNat - '0'.toNat else c.toLower.toNat - 'a'.toNat + 10

/-- The number that digits of a base write. -/
def numberOf (base : Nat) (s : Text) : Nat := s.foldl (fun n c => n * base + digitValue c) 0

/-- A decimal octet: one to three digits, no leading zero, at most 255. -/
def octet? (s : Text) : Option Nat :=
  if s ≠ [] && s.all Char.isDigit && s.length ≤ 3 && (s = ['0'] || s.head? ≠ some '0') &&
      numberOf 10 s ≤ 255 then
    some (numberOf 10 s)
  else none

/-- The four octets of an IPv4 address. -/
def v4Octets? (s : Text) : Option (List Nat) :=
  let parts := s.splitOn '.'
  if parts.length = 4 then parts.mapM octet? else none

/-- An ASCII digit of base sixteen. -/
def isHexDigit (c : Char) : Bool :=
  c.isDigit || ('a' ≤ c && c ≤ 'f') || ('A' ≤ c && c ≤ 'F')

/-- A group: one to four hexadecimal digits. -/
def group? (s : Text) : Option Nat :=
  if s ≠ [] && s.all isHexDigit && s.length ≤ 4 then some (numberOf 16 s) else none

/-- The pieces between the colons, with a dotted address at the end replaced by its two groups. -/
def expandTail? (parts : List Text) : Option (List Text) :=
  match parts.getLast? with
  | some last =>
    if last.elem '.' then
      match v4Octets? last with
      | some [a, b, c, d] =>
        some (parts.dropLast ++ [Nat.toDigits 16 (a * 256 + b), Nat.toDigits 16 (c * 256 + d)])
      | _ => none
    else some parts
  | none => none

/-- The groups on one side of `::`, where the outermost piece is empty if the side has no groups. -/
def sideGroups? (parts : List Text) : Option (List Nat) :=
  if parts = [[]] then some [] else parts.mapM group?

/-- The eight groups of an IPv6 address. -/
def v6Groups? (s : Text) : Option (List Nat) := do
  let pieces := s.splitOn ':'
  if pieces.length < 3 then none
  let parts ← expandTail? pieces
  if 9 < parts.length then none
  -- an empty piece that is neither first nor last is a `::`
  let inner := (parts.drop 1).dropLast
  match inner.findIdx? (· = []) with
  | none => if parts.length = 8 then parts.mapM group? else none
  | some i =>
    let high ← sideGroups? (parts.take (i + 1))
    let low ← sideGroups? (parts.drop (i + 2))
    if high.length + low.length < 8 then
      some (high ++ List.replicate (8 - (high.length + low.length)) 0 ++ low)
    else none

/-- The address that `s` writes. -/
def parse? (s : Text) : Option Address :=
  match v4Octets? s with
  | some octets => some (.v4 octets)
  | none => (v6Groups? s).map .v6

/-- The length of the run of zeros at the start. -/
def zerosAhead (groups : List Nat) : Nat := (groups.takeWhile (· = 0)).length

/-- Start and length of the first of the longest runs of zeros, counted from place `i`. -/
def longestZeros (i : Nat) : List Nat → Nat × Nat
  | [] => (i, 0)
  | g :: rest =>
    let here := zerosAhead (g :: rest)
    let later := longestZeros (i + 1) rest
    if later.2 ≤ here then (i, here) else later

/-- Groups in lower-case hexadecimal digits with colons between them. -/
def groupsText (groups : List Nat) : Text := Text.join [':'] (groups.map (Nat.toDigits 16))

/-- The canonical text: no leading zeros, and `::` for the first longest run of two zeros or
more. -/
def text : Address → Text
  | .v4 octets => Text.join ['.'] (octets.map Text.ofNat)
  | .v6 groups =>
    let (start, length) := longestZeros 0 groups
    if length < 2 then groupsText groups
    else groupsText (groups.take start) ++ [':', ':'] ++ groupsText (groups.drop (start + length))

/-- The canonical text of the address that `s` writes, between blanks and brackets and before a
zone. -/
def canonical? (s : Text) : Option Text :=
  let inner := s.trim.trimBy fun c => c = '[' || c = ']'
  (parse? (inner.takeWhile (· ≠ '%'))).map text

end Address
end Blocklist
