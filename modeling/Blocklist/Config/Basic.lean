import Blocklist.Optimize.Basic
import Blocklist.Transform.Basic

/-!
# Configurations

What a list is compiled from. A configuration names sources, says what is done to the lines of each of
them, and then what is done to all lines together.
-/

namespace Blocklist

/-- What is done to a list of lines: the filters that drop and that keep lines, given as they are or by
the sources that hold them, and the transformations. -/
structure ListSettings where
  transformations : List Transformation := []
  exclusions : List Text := []
  exclusionSources : List Text := []
  inclusions : List Text := []
  inclusionSources : List Text := []
deriving DecidableEq, Repr

/-- The kinds of sources. -/
inductive SourceKind where
  | adblock
  | hosts
deriving DecidableEq, Repr

namespace SourceKind

/-- All kinds. -/
def all : List SourceKind := [adblock, hosts]

/-- The name in a configuration. -/
def name : SourceKind → Text
  | adblock => "adblock"
  | hosts => "hosts"

/-- The kind of this name. -/
def ofName? (s : Text) : Option SourceKind := all.find? (·.name = s)

end SourceKind

/-- A source of lines. -/
structure Source where
  location : Text
  kind : SourceKind
  name : Option Text
  settings : ListSettings
deriving DecidableEq, Repr

/-- A configuration. -/
structure Configuration where
  name : Text
  sources : List Source
  description : Option Text
  homepage : Option Text
  license : Option Text
  version : Option Text
  optimization : Option Optimize.Settings
  settings : ListSettings
deriving DecidableEq, Repr

end Blocklist
