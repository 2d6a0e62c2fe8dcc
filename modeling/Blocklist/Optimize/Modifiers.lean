import Blocklist.Optimize.Redundancy

/-!
# Repeated modifiers

A modifier that repeats an earlier one of the same rule, value included, is dropped. A rule that
negates all content types but one is counted as well, but not changed.
-/

namespace Blocklist.Optimize

/-- The modifiers that stand for a type of content. -/
def contentTypes : List Text :=
  ["script", "image", "stylesheet", "font", "xmlhttprequest", "media"]

/-- Whether the content types among the modifiers are all negated and all but one. -/
def negatesAllButOne (ms : List Modifier) : Bool :=
  let types := ms.filter fun m => contentTypes.elem m.bareName
  let negated := types.filter fun m => Text.startsWith ['~'] m.name
  negated.length = contentTypes.length - 1 && types.length = negated.length

/-- The line with its repeated modifiers dropped, and the count for it. -/
def dropRepeatedModifiers (line : Text) : Text × Nat :=
  match ruleOf? line with
  | none => (line, 0)
  | some r =>
    let kept := r.modifiers.eraseDups
    let repeated := r.modifiers.length - kept.length
    (if repeated = 0 then line else { r with modifiers := kept : AdblockRule }.text,
      repeated + if negatesAllButOne kept then 1 else 0)

/-- The lines without repeated modifiers. -/
def simplifyModifiers (lines : List Text) (s : Stats) : List Text × Stats :=
  let done := lines.map dropRepeatedModifiers
  (done.map (·.1), { s with simplified := s.simplified + (done.map (·.2)).foldr (· + ·) 0 })

end Blocklist.Optimize
