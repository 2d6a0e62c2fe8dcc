import Blocklist.Json.Token

/-!
# Reading JSON

The tokens of a document are read one by one against a stack of the containers that are still open.
A reader is `due` one kind of token at a time; a document is complete when a value has been read and no
container is open. A token that is not due is a fault at its place.
-/

namespace Blocklist.Json

/-- A container that is still open, with what it holds so far. -/
inductive Open where
  | array (items : List Json)
  | object (members : List (Text × Json)) (key : Text)

/-- What a reader is due. -/
inductive Due where
  | value
  | valueOrClose
  | keyOrClose
  | key (members : List (Text × Json))
  | colon (members : List (Text × Json)) (key : Text)
  | after (value : Json)
  | nothing (value : Json)

/-- A reader: what it is due, and the containers that are open, the innermost first. The items of an
array come the last one first. -/
structure Reader where
  due : Due
  stack : List Open

/-- The fault of a token that is not due, or of one that has a fault and is due. -/
def Reader.fault (r : Reader) : FaultKind :=
  match r.due, r.stack with
  | .value, _ | .valueOrClose, _ => .noValue
  | .keyOrClose, _ | .key _, _ => .noKey
  | .colon _ _, _ => .noColon
  | .after _, [] | .nothing _, _ => .extraData
  | .after _, _ :: _ => .noComma

/-- A token where a value is due. -/
def Reader.value? (r : Reader) : Token → Option Reader
  | .scalar v => some ⟨.after v, r.stack⟩
  | .string s => some ⟨.after (.string s), r.stack⟩
  | .openArray => some ⟨.valueOrClose, .array [] :: r.stack⟩
  | .openObject => some ⟨.keyOrClose, r.stack⟩
  | _ => none

/-- A token after the value `v`. -/
def Reader.after? (r : Reader) (v : Json) (t : Token) : Option Reader :=
  match t, r.stack with
  | .comma, .array items :: rest => some ⟨.value, .array (v :: items) :: rest⟩
  | .comma, .object members key :: rest => some ⟨.key (setMember key v members), rest⟩
  | .closeArray, .array items :: rest => some ⟨.after (.array (v :: items).reverse), rest⟩
  | .closeObject, .object members key :: rest =>
    some ⟨.after (.object (setMember key v members)), rest⟩
  | .finish, [] => some ⟨.nothing v, []⟩
  | _, _ => none

/-- One token; none if it is not due. -/
def Reader.step? (r : Reader) (t : Token) : Option Reader :=
  match r.due, t with
  | .value, t => r.value? t
  | .valueOrClose, .closeArray => some ⟨.after (.array []), r.stack.tail⟩
  | .valueOrClose, t => r.value? t
  | .keyOrClose, .closeObject => some ⟨.after (.object []), r.stack⟩
  | .keyOrClose, .string key => some ⟨.colon [] key, r.stack⟩
  | .key members, .string key => some ⟨.colon members key, r.stack⟩
  | .colon members key, .colon => some ⟨.value, .object members key :: r.stack⟩
  | .after v, t => r.after? v t
  | _, _ => none

/-- Whether a value is due. -/
def Due.takesValue : Due → Bool
  | .value | .valueOrClose => true
  | _ => false

/-- Whether a string is due. -/
def Due.takesString : Due → Bool
  | .value | .valueOrClose | .keyOrClose | .key _ => true
  | _ => false

/-- One token, with the number of characters from its start on. -/
def Reader.step (r : Reader) (t : Token × Nat) : Except Fault Reader :=
  match t, r.due.takesString, r.due.takesValue with
  | (.faulty f, _), true, _ => .error f
  | (.longInteger digits, rest), _, true => .error ⟨.longInteger digits, rest⟩
  | (t, rest), _, _ =>
    match r.step? t with
    | some next => .ok next
    | none => .error ⟨r.fault, rest⟩

/-- The value of a document. -/
def read (s : Text) : Except Fault Json :=
  if s.head? = some '\uFEFF' then .error ⟨.byteOrderMark, s.length⟩
  else
    match (tokens s).foldlM Reader.step ⟨.value, []⟩ with
    | .ok ⟨.nothing v, _⟩ => .ok v
    | .ok r => .error ⟨r.fault, 0⟩
    | .error f => .error f

end Blocklist.Json
