import Blocklist.Hostname.Address
import Blocklist.Hostname.PublicSuffix
import Blocklist.Hostname.Syntax

/-!
# Hostnames

`HostText.read` tells what a text in the place of a hostname is: an address, a name with its public
suffix, or neither.
-/

namespace Blocklist

/-- What stands in the place of a hostname. -/
inductive HostText where
  | invalid
  | address (text : Text)
  | name (text : Text) (suffix : Option Text)
deriving DecidableEq, Repr

/-- Reads `s` in lower case, without blanks around it and without one dot at its end. -/
def HostText.read (psl : SuffixList) (s : Text) : HostText :=
  let name := Text.removeSuffix ['.'] s.trim.lower
  if (Address.canonical? name).isSome then .address name
  else if Hostname.isValid name then .name name (publicSuffix? psl name)
  else .invalid

end Blocklist
