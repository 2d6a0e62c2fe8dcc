import Blocklist.Json.Basic
import Blocklist.Json.Fault

/-!
# JSON tokens

A document is cut into marks, strings and scalars. Each token comes with the number of characters that
are left where it starts. What starts no token is a token of its own kind, one character long, and a
string with a fault ends the tokens, so that the reader meets the first fault first.
-/

namespace Blocklist.Json

/-- A token of a document. -/
inductive Token where
  | openArray
  | closeArray
  | openObject
  | closeObject
  | comma
  | colon
  | string (value : Text)
  | scalar (value : Json)
  | longInteger (digits : Nat)
  | faulty (fault : Fault)
  | other
  | finish

/-- White space between tokens. -/
def isSpace (c : Char) : Bool := c = ' ' || c = '\t' || c = '\n' || c = '\r'

/-- The mark that a character is. -/
def mark? : Char → Option Token
  | '[' => some .openArray
  | ']' => some .closeArray
  | '{' => some .openObject
  | '}' => some .closeObject
  | ',' => some .comma
  | ':' => some .colon
  | _ => none

/-- The exponent at the start of a text, with at least one digit, and what follows it. -/
def takeExponent (s : Text) : Text × Text :=
  match s with
  | c :: t =>
    let (_, digits) := Decimal.takeSign t
    if (c = 'e' || c = 'E') && digits.takeWhile Char.isDigit ≠ [] then
      let after := digits.dropWhile Char.isDigit
      (s.take (s.length - after.length), after)
    else ([], s)
  | [] => ([], s)

/-- The fraction at the start of a text, with at least one digit, and what follows it. -/
def takeFraction (s : Text) : Text × Text :=
  match Decimal.takeFraction s with
  | ([], _) => ([], s)
  | (digits, after) => (digits, after)

/-- The whole part of a number at the start of a text, a zero or digits that start with another digit,
and what follows it. -/
def takeWhole (s : Text) : Text × Text :=
  match s with
  | '0' :: t => (['0'], t)
  | _ => (s.takeWhile Char.isDigit, s.dropWhile Char.isDigit)

/-- The number at the start of a text, as far as it goes, and what follows it. -/
def number? (negative : Bool) (s : Text) : Option (Token × Text) :=
  match takeWhole s with
  | ([], _) => none
  | (whole, s) =>
    let (frac, s) := takeFraction s
    let (exponent, s) := takeExponent s
    if frac = [] && exponent = [] then
      if Number.maxDigits < whole.length then some (.longInteger whole.length, s)
      else
        let n := Decimal.natOf whole
        some (.scalar (.int (if negative then -n else n)), s)
    else (Decimal.ofParts? negative whole frac exponent).map fun x => (.scalar (.float x), s)

/-- The names of values. -/
def names : List (Text × Json) := [
  ("null", .null), ("true", .bool true), ("false", .bool false), ("NaN", .float .nan),
  ("Infinity", .float (.infinite false)), ("-Infinity", .float (.infinite true))]

/-- The scalar at the start of a text, as far as it goes, and what follows it. -/
def scalar? (s : Text) : Option (Token × Text) :=
  match names.findSome? fun (name, v) => (Text.dropPrefix? name s).map fun rest => (Token.scalar v, rest) with
  | some r => some r
  | none =>
    match s with
    | '-' :: t => number? true t
    | _ => number? false s

/-- The character of a one-letter escape. -/
def simpleEscape? : Char → Option Char
  | '"' => some '"'
  | '\\' => some '\\'
  | '/' => some '/'
  | 'b' => some '\x08'
  | 'f' => some '\x0c'
  | 'n' => some '\n'
  | 'r' => some '\r'
  | 't' => some '\t'
  | _ => none

/-- The value of a hexadecimal digit. -/
def hexDigit? (c : Char) : Option Nat :=
  if c.isDigit then some (c.toNat - 0x30)
  else if 'a' ≤ c && c ≤ 'f' then some (c.toNat - 0x57)
  else if 'A' ≤ c && c ≤ 'F' then some (c.toNat - 0x37)
  else none

/-- The number that four hexadecimal digits write. -/
def hex4? (a b c d : Char) : Option Nat := do
  some (((← hexDigit? a) * 16 + (← hexDigit? b)) * 256 + (← hexDigit? c) * 16 + (← hexDigit? d))

/-- The code units of a string, which its closing quote ends, and what follows. A character beyond
the control characters is its own unit, an escape with four digits is a UTF-16 unit. -/
def units : Text → Except Fault (List (Nat × Bool) × Text)
  | [] => .error ⟨.unterminated, 0⟩
  | '"' :: s => .ok ([], s)
  | '\\' :: 'u' :: a :: b :: c :: d :: e :: s =>
    match hex4? a b c d with
    | some n => (units (e :: s)).map fun (us, rest) => ((n, true) :: us, rest)
    | none => .error ⟨.badUnicodeEscape, s.length + 6⟩
  | '\\' :: 'u' :: s => .error ⟨.badUnicodeEscape, s.length + 1⟩
  | '\\' :: c :: s =>
    match simpleEscape? c with
    | some e => (units s).map fun (us, rest) => ((e.toNat, false) :: us, rest)
    | none => .error ⟨.badEscape, s.length + 2⟩
  | c :: s =>
    if c.toNat < 0x20 then .error ⟨.controlCharacter, s.length + 1⟩
    else if c = '\\' then .error ⟨.unterminated, 0⟩
    else (units s).map fun (us, rest) => ((c.toNat, false) :: us, rest)

/-- The characters of code units: two escaped halves of a surrogate pair are one character. There are
none if a half stands alone. -/
def ofUnits? : List (Nat × Bool) → Option Text
  | [] => some []
  | (a, true) :: (b, true) :: us =>
    if 0xD800 ≤ a && a < 0xDC00 && 0xDC00 ≤ b && b < 0xE000 then
      (ofUnits? us).map (Char.ofNat (0x10000 + (a - 0xD800) * 0x400 + (b - 0xDC00)) :: ·)
    else if a.isValidChar then (ofUnits? ((b, true) :: us)).map (Char.ofNat a :: ·)
    else none
  | (a, _) :: us => if a.isValidChar then (ofUnits? us).map (Char.ofNat a :: ·) else none

/-- The token at the start of a text that starts with no white space, and what follows it. The opening
quote of a string is where a missing end is reported. -/
def token (s : Text) : Token × Text :=
  match s with
  | [] => (.finish, [])
  | c :: t =>
    if c = '"' then
      match units t with
      | .ok (us, rest) =>
        match ofUnits? us with
        | some v => (.string v, rest)
        | none => (.faulty ⟨.halfPair, s.length⟩, [])
      | .error ⟨.unterminated, _⟩ => (.faulty ⟨.unterminated, s.length⟩, [])
      | .error f => (.faulty f, [])
    else
      match mark? c, scalar? s with
      | some m, _ => (m, t)
      | none, some (v, rest) => (v, rest)
      | none, none => (.other, t)

/-- The tokens of a text, each with the number of characters from its start on; `fuel` bounds their
number. -/
def tokensWithin : Nat → Text → List (Token × Nat)
  | 0, _ => []
  | fuel + 1, s =>
    let s := s.dropWhile isSpace
    let (t, rest) := token s
    match t with
    | .finish => [(.finish, 0)]
    | _ => (t, s.length) :: tokensWithin fuel rest

/-- The tokens of a document. -/
def tokens (s : Text) : List (Token × Nat) := tokensWithin (s.length + 1) s

end Blocklist.Json
