import Blocklist.Text.Basic

/-!
# UTF-8

`encode` writes text as octets. `decode` reads octets: each longest start of a character that cannot
be continued is one fault, and so is an octet that starts no character. Strict reading refuses a
fault, lenient reading puts U+FFFD in its place.
-/

namespace Blocklist.Utf8

/-- The octets of one character. -/
def encodeChar (c : Char) : List UInt8 :=
  let n := c.toNat
  if n < 0x80 then [n.toUInt8]
  else if n < 0x800 then [(0xC0 + n / 0x40).toUInt8, (0x80 + n % 0x40).toUInt8]
  else if n < 0x10000 then
    [(0xE0 + n / 0x1000).toUInt8, (0x80 + n / 0x40 % 0x40).toUInt8, (0x80 + n % 0x40).toUInt8]
  else
    [(0xF0 + n / 0x40000).toUInt8, (0x80 + n / 0x1000 % 0x40).toUInt8,
      (0x80 + n / 0x40 % 0x40).toUInt8, (0x80 + n % 0x40).toUInt8]

/-- The octets of a text. -/
def encode (s : Text) : List UInt8 := s.flatMap encodeChar

/-- What a first octet asks for: the bits it gives, how many octets follow, and the range of the
next one. The range excludes overlong forms, surrogates and numbers above U+10FFFF. -/
def lead? (b : Nat) : Option (Nat × Nat × Nat × Nat) :=
  if b < 0x80 then some (b, 0, 0, 0)
  else if 0xC2 ≤ b && b ≤ 0xDF then some (b - 0xC0, 1, 0x80, 0xBF)
  else if b = 0xE0 then some (0, 2, 0xA0, 0xBF)
  else if b = 0xED then some (0xD, 2, 0x80, 0x9F)
  else if 0xE1 ≤ b && b ≤ 0xEF then some (b - 0xE0, 2, 0x80, 0xBF)
  else if b = 0xF0 then some (0, 3, 0x90, 0xBF)
  else if 0xF1 ≤ b && b ≤ 0xF3 then some (b - 0xF0, 3, 0x80, 0xBF)
  else if b = 0xF4 then some (4, 3, 0x80, 0x8F)
  else none

/-- A character under way: its bits so far, the octets it still needs, the range of the next one. -/
structure Pending where
  bits : Nat
  needed : Nat
  low : Nat
  high : Nat

/-- What an octet does where a character may start. -/
def start (b : UInt8) : Option Char ⊕ Pending :=
  match lead? b.toNat with
  | none => .inl none
  | some (bits, 0, _, _) => .inl (some (Char.ofNat bits))
  | some (bits, needed + 1, low, high) => .inr ⟨bits, needed + 1, low, high⟩

/-- The characters of the octets; `none` stands for a fault. -/
def decodeFrom : Option Pending → List UInt8 → List (Option Char)
  | none, [] => []
  | some _, [] => [none]
  | none, b :: rest =>
    match start b with
    | .inl c => c :: decodeFrom none rest
    | .inr p => decodeFrom (some p) rest
  | some p, b :: rest =>
    if p.low ≤ b.toNat && b.toNat ≤ p.high then
      let bits := p.bits * 0x40 + b.toNat % 0x40
      if p.needed ≤ 1 then some (Char.ofNat bits) :: decodeFrom none rest
      else decodeFrom (some ⟨bits, p.needed - 1, 0x80, 0xBF⟩) rest
    else
      none ::
        match start b with
        | .inl c => c :: decodeFrom none rest
        | .inr q => decodeFrom (some q) rest

/-- The text of the octets, if they have no fault. -/
def decode? (bytes : List UInt8) : Option Text := (decodeFrom none bytes).mapM id

/-- The text of the octets, with U+FFFD for each fault. -/
def decodeLenient (bytes : List UInt8) : Text := (decodeFrom none bytes).map (·.getD '\uFFFD')

/-- Carriage returns, alone or with a line feed after them, as line feeds. -/
def normalizeLineEnds : Text → Text
  | [] => []
  | '\r' :: '\n' :: s => '\n' :: normalizeLineEnds s
  | '\r' :: s => '\n' :: normalizeLineEnds s
  | c :: s => c :: normalizeLineEnds s

end Blocklist.Utf8
