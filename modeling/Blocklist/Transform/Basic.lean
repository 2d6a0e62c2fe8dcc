import Blocklist.Transform.Ascii
import Blocklist.Transform.Compress
import Blocklist.Transform.Duplicates
import Blocklist.Transform.Lines
import Blocklist.Validity

/-!
# Transformations

The transformations that a configuration can ask for, by their names. They run in one fixed order,
whatever the order in which they are listed; the optimizer has its place between the two parts of that
order.
-/

namespace Blocklist

/-- A transformation of a list of lines. -/
inductive Transformation where
  | removeComments
  | compress
  | removeModifiers
  | validate
  | validateAllowIp
  | deduplicate
  | invertAllow
  | removeEmptyLines
  | trimLines
  | insertFinalNewLine
  | convertToAscii
deriving DecidableEq, Repr

namespace Transformation

/-- All transformations. -/
def all : List Transformation :=
  [removeComments, compress, removeModifiers, validate, validateAllowIp, deduplicate, invertAllow,
    removeEmptyLines, trimLines, insertFinalNewLine, convertToAscii]

/-- The name in a configuration. -/
def name : Transformation → Text
  | removeComments => "RemoveComments"
  | compress => "Compress"
  | removeModifiers => "RemoveModifiers"
  | validate => "Validate"
  | validateAllowIp => "ValidateAllowIp"
  | deduplicate => "Deduplicate"
  | invertAllow => "InvertAllow"
  | removeEmptyLines => "RemoveEmptyLines"
  | trimLines => "TrimLines"
  | insertFinalNewLine => "InsertFinalNewLine"
  | convertToAscii => "ConvertToAscii"

/-- The transformation of this name. -/
def ofName? (s : Text) : Option Transformation := all.find? (·.name = s)

/-- The text of the error that a name is no transformation's. -/
def unknownMessage (s : Text) : Text :=
  "Unknown transformation " ++ s.quoted ++ " (expected one of: " ++
    Text.join [',', ' '] (all.map name) ++ ")"

/-- What the transformation does. -/
def run (psl : SuffixList) : Transformation → List Text → List Text
  | removeComments => Transform.removeComments
  | compress => Transform.compress
  | removeModifiers => Transform.removeModifiers
  | validate => Validity.validLines psl false
  | validateAllowIp => Validity.validLines psl true
  | deduplicate => Transform.deduplicate
  | invertAllow => Transform.invertAllow
  | removeEmptyLines => Transform.removeEmptyLines
  | trimLines => Transform.trimLines
  | insertFinalNewLine => Transform.insertFinalNewLine
  | convertToAscii => Transform.convertToAscii

/-- The transformations before the optimizer, in order. -/
def beforeOptimizer : List Transformation :=
  [convertToAscii, trimLines, removeComments, compress, deduplicate, removeModifiers, invertAllow,
    validate, validateAllowIp]

/-- The transformations after the optimizer, in order. -/
def afterOptimizer : List Transformation := [removeEmptyLines, insertFinalNewLine]

/-- Runs those of the transformations `order` that are enabled, one after the other. -/
def runEnabled (psl : SuffixList) (order enabled : List Transformation) (lines : List Text) : List Text :=
  (order.filter (· ∈ enabled)).foldl (fun ls t => t.run psl ls) lines

/-- Runs the enabled transformations. -/
def apply (psl : SuffixList) (enabled : List Transformation) (lines : List Text) : List Text :=
  runEnabled psl (beforeOptimizer ++ afterOptimizer) enabled lines

end Transformation
end Blocklist
