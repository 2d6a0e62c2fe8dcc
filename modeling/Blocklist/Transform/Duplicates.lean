import Blocklist.Cascade
import Blocklist.Rule.Kind

/-!
# Repeated rules

`deduplicate` keeps the first of equal rules; the comments and blank lines directly above a repeated
rule go with it.
-/

namespace Blocklist.Transform

/-- Each line with what it is to the cascade, where the rules `seen` stand further up. -/
def markRepeated (seen : List Text) : List Text → List (Text × Mark)
  | [] => []
  | l :: rest =>
    if isCommentOrBlank l then (l, .attached) :: markRepeated seen rest
    else if l ∈ seen then (l, .removed) :: markRepeated seen rest
    else (l, .kept) :: markRepeated (l :: seen) rest

/-- The lines without repeated rules. -/
def deduplicate (lines : List Text) : List Text :=
  (Cascade.sweep Prod.snd (markRepeated [] lines)).kept.map Prod.fst

end Blocklist.Transform
