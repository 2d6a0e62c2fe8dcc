/-!
# Schemes of URLs

The characters that the name of a scheme consists of.
-/

namespace Blocklist.Url

/-- A character of the name of a scheme. -/
def isSchemeChar (c : Char) : Bool := c.isAlphanum || c = '+' || c = '-' || c = '.'

end Blocklist.Url
