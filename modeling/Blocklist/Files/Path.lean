import Blocklist.Text.Basic

/-!
# Paths

A path is a root, which is empty for a relative path, and names. Empty names and single dots say
nothing and are dropped; two dots are kept, because only the files tell what they lead to.
-/

namespace Blocklist

/-- A path. -/
structure Path where
  root : Text
  names : List Text
deriving DecidableEq, Repr

namespace Path

/-- The slashes that a path starts with, where just two mean something else than one. -/
def rootOf (s : Text) : Text :=
  match (s.takeWhile (· = '/')).length with
  | 0 => []
  | 2 => ['/', '/']
  | _ => ['/']

/-- The path that a text writes. -/
def read (s : Text) : Path :=
  ⟨rootOf s, (s.splitOn '/').filter fun name => name ≠ [] && name ≠ ['.']⟩

/-- The written form. -/
def text (p : Path) : Text :=
  if p.root = [] && p.names.isEmpty then ['.'] else p.root ++ Text.join ['/'] p.names

/-- The path of the folder that the path is in; a path without names is its own. -/
def parent (p : Path) : Path := { p with names := p.names.dropLast }

end Path
end Blocklist
