import Blocklist.Compile.Tables
import Blocklist.Hostname.SuffixRules

/-!
# Small tables

Tables with a few entries of each kind, for where the full ones are not at hand.
-/

namespace Blocklist.Tables

/-- Some characters by their names, which are written in capitals or small letters. -/
def sampleCharacters (name : Text) : Option Char :=
  [("SPACE", ' '), ("QUOTATION MARK", '"'), ("ASTERISK", '*'), ("FULL STOP", '.'), ("VERTICAL LINE", '|'),
    ("LATIN SMALL LETTER A", 'a'), ("LATIN CAPITAL LETTER A", 'A')].lookup
    (String.ofList (name.map Char.toUpper))

/-- The small tables. -/
def sample : Tables := ⟨.sample, sampleCharacters⟩

end Blocklist.Tables
