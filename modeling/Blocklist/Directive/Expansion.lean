import Blocklist.Condition
import Blocklist.Directive.Block
import Blocklist.Fetch.Error

/-!
# Expanding directives

`expand` replaces the directives among some lines: of a conditional block one branch stays, a Safari
block goes, and an included source is what `inclusion` makes of it. A directive that belongs to no block
and a block that is not closed are errors, found when the lines before them are done.
-/

namespace Blocklist

/-- Directives that do not fit together. -/
inductive DirectiveError where
  | unterminated (line : SourceLine)
  | unmatched (line : SourceLine)
deriving DecidableEq, Repr

namespace DirectiveError

/-- The line at which the error is found. -/
def line : DirectiveError → SourceLine
  | unterminated l => l
  | unmatched l => l

/-- The text of the error. -/
def message (e : DirectiveError) : Text :=
  e.line.source ++ ":" ++ Text.ofNat e.line.number ++ ": " ++
    match e with
    | unterminated _ => "unterminated " ++ Directive.openingMark ++ " block"
    | unmatched l => l.text.trim ++ " without matching " ++ Directive.openingMark

end DirectiveError

/-- Why a source cannot be downloaded. -/
inductive DownloadError where
  | fetch (error : FetchError)
  | directive (error : DirectiveError)
deriving DecidableEq, Repr

namespace DownloadError

/-- The text of the error. -/
def message : DownloadError → Text
  | fetch e => e.message
  | directive e => e.message

/-- Whether a source can be passed over after the error. -/
def isExpected : DownloadError → Bool
  | fetch e => e.isExpected
  | directive _ => true

end DownloadError

/-- What follows a Safari block whose opening line stands before the lines; nothing does if it is not
closed. -/
def dropSafariBlock : List SourceLine → List SourceLine
  | [] => []
  | l :: rest => if l.text.trim = Directive.safariMark then rest else dropSafariBlock rest

theorem length_dropSafariBlock_le (lines : List SourceLine) :
    (dropSafariBlock lines).length ≤ lines.length := by
  induction lines with
  | nil => simp [dropSafariBlock]
  | cons l rest ih =>
    rw [dropSafariBlock]
    split <;> simp only [List.length_cons] <;> omega

/-- A computation on a state that may fail with an error and then keeps the state. -/
abbrev Attempt (ε σ α : Type) := ExceptT ε (StateM σ) α

/-- The lines with their directives replaced. -/
def expand {σ : Type} (platform : Option Text)
    (inclusion : SourceLine → Text → Attempt DownloadError σ (List SourceLine)) :
    List SourceLine → Attempt DownloadError σ (List SourceLine)
  | [] => pure []
  | l :: rest =>
    match Directive.of? l.text with
    | some (.opening condition) =>
      match h : Block.read? rest with
      | none => throw (.directive (.unterminated l))
      | some b => do
        have := Block.length_thenLines_lt h
        have := Block.length_elseLines_lt h
        have := Block.length_rest_lt h
        let chosen ←
          if Condition.holds condition platform then expand platform inclusion b.thenLines
          else expand platform inclusion b.elseLines
        return chosen ++ (← expand platform inclusion b.rest)
    | some .alternative | some .closing => throw (.directive (.unmatched l))
    | some (.inclusion path) => do
      let included ← inclusion l path
      return included ++ (← expand platform inclusion rest)
    | some (.safari _) =>
      have := length_dropSafariBlock_le rest
      expand platform inclusion (dropSafariBlock rest)
    | none => do return l :: (← expand platform inclusion rest)
termination_by lines => lines.length
decreasing_by all_goals (simp only [List.length_cons]; omega)

end Blocklist
