import Blocklist.Hostname.PublicSuffix
import Blocklist.Regex.Token

/-!
# Tables

What is looked up in tables that are kept elsewhere.
-/

namespace Blocklist

/-- The public suffix list, and the characters by their names. -/
structure Tables where
  suffixes : SuffixList
  characters : Regex.CharNames

end Blocklist
