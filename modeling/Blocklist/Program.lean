import Blocklist.Text.Basic

/-!
# The name of the program

The name and the version that the program writes into its output.
-/

namespace Blocklist.Program

/-- The name. -/
def name : Text := "filterlist-compiler"

/-- The version. -/
def version : Text := "1.0.0"

/-- Name and version. -/
def signature : Text := name ++ " v" ++ version

end Blocklist.Program
