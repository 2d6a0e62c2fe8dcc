import Blocklist.Hostname.PublicSuffix
import Blocklist.Hostname.Punycode
import Blocklist.Source.Scheme

/-!
# Suffix lists from rules

How the public suffix list is written: as rules, of which the longest one that a name ends with tells its
suffix. A rule is a sequence of labels; `*` stands for any label, and a label after `!` takes one name out
of such a rule.
-/

namespace Blocklist.SuffixList

/-- Rules by their labels, the last label first. What is left of the rules that a walk has followed so far
has the same form; an empty rest is a rule that ends there. -/
abbrev Node := List (List Text)

/-- The node of all rules. -/
def root (rules : List Text) : Node := rules.map fun r => (r.splitOn '.').reverse

/-- The rests of the rules that go on with the label `l`, if there are any. -/
def child? (node : Node) (l : Text) : Option Node :=
  match node.filterMap (fun r => if r.head? = some l then some r.tail else none) with
  | [] => none
  | rests => some rests

/-- The label in the form in which rules are written: lower case, and decoded. -/
def ruleLabel (l : Text) : Text :=
  let l := l.lower
  match Text.dropPrefix? "xn--" l with
  | some code =>
    if code = [] || code.getLast? = some '-' || l.any (0x80 ≤ ·.toNat) then l
    else (Punycode.decode? code).getD l
  | none => l

/-- How many labels belong to the suffix, when `depth` labels are followed and the last rule that
ended did so at `found`. The labels still to come are given from the right. -/
def suffixLength (node : Node) (depth found : Nat) : List Text → Nat
  | [] => found
  | l :: rest =>
    let l := ruleLabel l
    match child? node l with
    | some next =>
      suffixLength next (depth + 1) (if [] ∈ next then depth + 1 else found) rest
    | none =>
      if (child? node ['*']).isSome then
        if (child? node ('!' :: l)).isSome then depth else depth + 1
      else found

/-- What comes after a leading scheme and two slashes, or after the slashes alone. -/
def dropScheme (s : Text) : Text :=
  match Text.cut? ['/', '/'] s with
  | some ([], rest) => rest
  | some (before, rest) =>
    if 2 ≤ before.length && before.getLast? = some ':' && before.dropLast.all Url.isSchemeChar then rest
    else s
  | none => s

/-- The host part of a URL-like text. -/
def hostPart (s : Text) : Text :=
  let authority := (dropScheme s).takeWhile fun c => c ≠ '/' && c ≠ '?' && c ≠ '#'
  let host := ((Text.cutAfterLast? (· = '@') authority).map (·.2)).getD authority
  match host.head?, Text.cut? [']'] host with
  | some '[', some (inside, _) => inside ++ [']']
  | _, _ => Text.dropEndWhile Hostname.isDot (Text.trim (host.takeWhile (· ≠ ':')))

/-- The list that these rules make. A name may stand in a URL. -/
def ofRules (rules : List Text) : SuffixList where
  find := fun s =>
    let labels := Text.splitWhere Hostname.isDot (hostPart s)
    let count := suffixLength (root rules) 0 0 labels.reverse
    Text.join ['.'] (labels.drop (labels.length - count))

/-- Some rules of each kind that there are. -/
def sample : SuffixList := ofRules [
  "com", "net", "org", "io", "de",
  "uk", "co.uk", "gov.uk", "*.sch.uk",
  "jp", "co.jp", "*.kobe.jp", "!city.kobe.jp",
  "*.ck", "!www.ck",
  "рф"]

end Blocklist.SuffixList
