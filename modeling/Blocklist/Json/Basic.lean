import Blocklist.Number.Decimal
import Blocklist.Text.Quoted

/-!
# JSON values

A value of a JSON document. Whole numbers and floating-point numbers are told apart by how they are
written. An object keeps its members in the order of their first appearance; a later member of the
same name replaces the value.
-/

namespace Blocklist

/-- A JSON value. -/
inductive Json where
  | null
  | bool (value : Bool)
  | int (value : Int)
  | float (value : Binary64)
  | string (value : Text)
  | array (items : List Json)
  | object (members : List (Text × Json))

namespace Json

/-- The members with `value` under `key`: in the place of an older one, or else at the end. -/
def setMember (key : Text) (value : Json) : List (Text × Json) → List (Text × Json)
  | [] => [(key, value)]
  | (k, v) :: rest => if k = key then (k, value) :: rest else (k, v) :: setMember key value rest

/-- The member of this name, if the value is an object that has one. -/
def get? (key : Text) : Json → Option Json
  | .object members => members.lookup key
  | _ => none

/-- What counts as false: null, false, zero, and whatever is empty. -/
def truthy : Json → Bool
  | .null => false
  | .bool b => b
  | .int n => n ≠ 0
  | .float (.finite _ m _) => m ≠ 0
  | .float _ => true
  | .string s => s ≠ []
  | .array items => !items.isEmpty
  | .object members => !members.isEmpty

mutual

/-- The value as messages show it. -/
def shown : Json → Text
  | .null => "None"
  | .bool true => "True"
  | .bool false => "False"
  | .int n => Text.ofInt n
  | .float x => Decimal.shortest x
  | .string s => s.quoted
  | .array items => '[' :: shownItems items ++ [']']
  | .object members => '{' :: shownMembers members ++ ['}']

/-- Items with commas between them. -/
def shownItems : List Json → Text
  | [] => []
  | [v] => shown v
  | v :: rest => shown v ++ [',', ' '] ++ shownItems rest

/-- Members with commas between them. -/
def shownMembers : List (Text × Json) → Text
  | [] => []
  | [(k, v)] => k.quoted ++ [':', ' '] ++ shown v
  | (k, v) :: rest => k.quoted ++ [':', ' '] ++ shown v ++ [',', ' '] ++ shownMembers rest

end

end Json
end Blocklist
