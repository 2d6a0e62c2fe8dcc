import Blocklist.Directive.Expansion
import Blocklist.Filter.Basic
import Blocklist.Optimize.Merging

/-!
# Failures

Why a list cannot be compiled.
-/

namespace Blocklist

/-- Why a list cannot be compiled. -/
inductive Failure where
  | download (error : DownloadError)
  | filter (error : FilterError)
  | merge (error : Optimize.MergeError)

/-- The text of the failure. -/
def Failure.message : Failure → Text
  | download e => e.message
  | filter e => e.message
  | merge e => "a domain modifier without value: " ++ e.rule.text.quoted

/-- Whether the failure is one that is reported; the others end a run. -/
def Failure.isExpected : Failure → Bool
  | download e => e.isExpected
  | filter e => e.isExpected
  | merge _ => false

end Blocklist
