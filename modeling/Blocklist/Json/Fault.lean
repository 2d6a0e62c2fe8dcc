import Blocklist.Number.Reading

/-!
# Faults of JSON documents

What is wrong with a document, and where: at the character before which `rest` characters are left. An
integer with too many digits is refused although the document has the right form. Half of a surrogate
pair is no character, and a string with one is no text: such documents are not read here.
-/

namespace Blocklist.Json

/-- What is wrong at a place of a document. -/
inductive FaultKind where
  | noValue
  | noKey
  | noColon
  | noComma
  | extraData
  | unterminated
  | controlCharacter
  | badEscape
  | badUnicodeEscape
  | byteOrderMark
  | longInteger (digits : Nat)
  | halfPair
deriving DecidableEq, Repr

/-- The text of a fault. -/
def FaultKind.message : FaultKind → Text
  | noValue => "Expecting value"
  | noKey => "Expecting property name enclosed in double quotes"
  | noColon => "Expecting ':' delimiter"
  | noComma => "Expecting ',' delimiter"
  | extraData => "Extra data"
  | unterminated => "Unterminated string starting at"
  | controlCharacter => "Invalid control character at"
  | badEscape => "Invalid \\escape"
  | badUnicodeEscape => "Invalid \\uXXXX escape"
  | byteOrderMark => "Unexpected UTF-8 BOM (decode using utf-8-sig)"
  | longInteger digits => Number.longMessage digits
  | halfPair => "Half of a surrogate pair"

/-- A fault, and how many characters of the document are left where it is. -/
structure Fault where
  kind : FaultKind
  rest : Nat
deriving DecidableEq, Repr

/-- The text of a fault in the document `s`, with its line, its column and its place. -/
def Fault.message (f : Fault) (s : Text) : Text :=
  let before := s.take (s.length - f.rest)
  let column := (before.reverse.takeWhile (· ≠ '\n')).length + 1
  f.kind.message ++ ": line " ++ Text.ofNat (before.count '\n' + 1) ++ " column " ++
    Text.ofNat column ++ " (char " ++ Text.ofNat before.length ++ ")"

end Blocklist.Json
