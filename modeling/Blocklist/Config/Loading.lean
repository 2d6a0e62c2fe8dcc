import Blocklist.Config.Reading
import Blocklist.Files.Basic
import Blocklist.Json.Reading

/-!
# Loading configurations

A configuration file is strict UTF-8 and holds one JSON document. Nothing is said here of a document that
has half of a surrogate pair in it, for its strings are no texts.
-/

namespace Blocklist

/-- Why a configuration cannot be loaded. -/
inductive LoadError where
  | missing (path : Path)
  | unreadable (fault : FileFault)
  | notText
  | longInteger (digits : Nat)
  | halfPair
  | badJson (path : Path) (document : Text) (fault : Json.Fault)
  | invalid (error : ConfigError)

/-- The text of the error, as far as it does not depend on what is wrong with a document. -/
def LoadError.summary : LoadError → Text
  | .missing path => "Configuration file not found: " ++ path.text
  | .unreadable fault => fault.description.2
  | .notText => "The configuration file is not UTF-8"
  | .longInteger digits => Number.longMessage digits
  | .halfPair => "The configuration file has half of a surrogate pair in it"
  | .badJson path _ _ => "Invalid JSON in " ++ path.text
  | .invalid error => error.message

/-- The text of the error. -/
def LoadError.message : LoadError → Text
  | .badJson path document fault =>
    (LoadError.badJson path document fault).summary ++ ": " ++ fault.message document
  | e => e.summary

/-- Whether the error is one that is reported; the others end a run. -/
def LoadError.isExpected : LoadError → Bool
  | .unreadable _ | .notText | .longInteger _ | .halfPair => false
  | _ => true

/-- The configuration in a file. -/
def Configuration.load (files : Files) (location : Text) : Except LoadError Configuration :=
  let path := Path.read location
  match files.read path with
  | .error .missing => .error (.missing path)
  | .error fault => .error (.unreadable fault)
  | .ok content =>
    match Utf8.decode? content with
    | none => .error .notText
    | some s =>
      let document := Utf8.normalizeLineEnds s
      match Json.read document with
      | .error ⟨.longInteger digits, _⟩ => .error (.longInteger digits)
      | .error ⟨.halfPair, _⟩ => .error .halfPair
      | .error fault => .error (.badJson path document fault)
      | .ok value =>
        match Configuration.ofJson value with
        | .error error => .error (.invalid error)
        | .ok configuration => .ok configuration

end Blocklist
