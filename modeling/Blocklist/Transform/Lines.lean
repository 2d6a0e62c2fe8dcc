import Blocklist.Rule.Reading

/-!
# Edits of single lines

Transformations that look at each line by itself: blanks and comments are removed, blocking rules become
exceptions, and the modifiers that mean nothing on the level of DNS are dropped.
-/

namespace Blocklist.Transform

/-- Every line without the blanks around it. -/
def trimLines (lines : List Text) : List Text := lines.map Text.trim

/-- The lines that are no comments. -/
def removeComments (lines : List Text) : List Text := lines.filter (!isComment ·)

/-- The lines that are not blank. -/
def removeEmptyLines (lines : List Text) : List Text := lines.filter (!Text.isBlankText ·)

/-- The lines, with an empty line after a last line that is not blank. -/
def insertFinalNewLine (lines : List Text) : List Text :=
  match lines.getLast? with
  | some last => if last.isBlankText then lines else lines ++ [[]]
  | none => lines

/-- A blocking rule as an exception; other lines stay as they are. -/
def invertLine (line : Text) : Text :=
  if isCommentOrBlank line || isHostsLine line || isExceptionLine line then line
  else exceptionMark ++ line

/-- The lines with their blocking rules turned into exceptions. -/
def invertAllow (lines : List Text) : List Text := lines.map invertLine

/-- The modifiers that mean nothing on the level of DNS. -/
def removableModifiers : List Text :=
  ["third-party", "3p", "all", "document", "doc", "popup", "network"]

/-- Whether a modifier, negated or not, means nothing on the level of DNS. -/
def isRemovable (m : Modifier) : Bool := removableModifiers.elem m.bareName

/-- A rule without its removable modifiers; a line that has none of them stays as it is. -/
def stripLine (line : Text) : Text :=
  if isCommentOrBlank line || isHostsLine line then line
  else
    match AdblockRule.read? line with
    | none => line
    | some r =>
      if r.modifiers.any isRemovable then
        { r with modifiers := r.modifiers.filter (!isRemovable ·) : AdblockRule }.text
      else line

/-- The lines without removable modifiers. -/
def removeModifiers (lines : List Text) : List Text := lines.map stripLine

end Blocklist.Transform
