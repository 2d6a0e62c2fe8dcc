import Blocklist.Text.Blank

/-!
# Conditions

The condition of a conditional block is a Boolean expression over names, of which exactly the name of
the platform is true. Negation binds closest, then conjunction, then disjunction. Reading never
fails: characters that start no token are passed over, a missing operand is false, a missing closing
parenthesis is understood, and what follows a complete expression is ignored.
-/

namespace Blocklist

/-- A Boolean expression over names. -/
inductive Condition where
  | truth (value : Bool)
  | name (text : Text)
  | not (c : Condition)
  | and (a b : Condition)
  | or (a b : Condition)
deriving DecidableEq, Repr

namespace Condition

/-- The truth of an expression where exactly the name `platform` is true. -/
def eval (platform : Option Text) : Condition → Bool
  | .truth value => value
  | .name text => platform = some text
  | .not c => !c.eval platform
  | .and a b => a.eval platform && b.eval platform
  | .or a b => a.eval platform || b.eval platform

/-! ### Tokens -/

/-- A token of a condition; words keep their spelling. -/
inductive Token where
  | and
  | or
  | not
  | opening
  | closing
  | truth (value : Bool) (word : Text)
  | name (word : Text)
deriving DecidableEq, Repr

/-- A character of a word: an ASCII letter, an ASCII digit or an underscore. -/
def isNameChar (c : Char) : Bool := c.isAlphanum || c = '_'

/-- The token of a word: `true` and `false` in any case, or else a name. -/
def Token.ofWord (w : Text) : Token :=
  if w.map Char.toLower = ['t', 'r', 'u', 'e'] then .truth true w
  else if w.map Char.toLower = ['f', 'a', 'l', 's', 'e'] then .truth false w
  else .name w

/-- The spelling of a token. -/
def Token.text : Token → Text
  | .and => ['&', '&']
  | .or => ['|', '|']
  | .not => ['!']
  | .opening => ['(']
  | .closing => [')']
  | .truth _ w => w
  | .name w => w

/-- The token of a pending word, if there is one, in front of other tokens. -/
def closeWord (word : Text) (tokens : List Token) : List Token :=
  if word = [] then tokens else Token.ofWord word :: tokens

/-- The tokens of a text that follows the characters `word` of an unfinished word. -/
def tokensAfter (word : Text) : Text → List Token
  | [] => closeWord word []
  | '&' :: '&' :: s => closeWord word (.and :: tokensAfter [] s)
  | '|' :: '|' :: s => closeWord word (.or :: tokensAfter [] s)
  | c :: s =>
    if isNameChar c then tokensAfter (word ++ [c]) s
    else if c = '!' then closeWord word (.not :: tokensAfter [] s)
    else if c = '(' then closeWord word (.opening :: tokensAfter [] s)
    else if c = ')' then closeWord word (.closing :: tokensAfter [] s)
    else closeWord word (tokensAfter [] s)

/-- The tokens of a condition. -/
def tokens (s : Text) : List Token := tokensAfter [] s

/-! ### Reading -/

/-- An expression, and the tokens after it, which are no more than `n`. -/
abbrev Read (n : Nat) := { r : Condition × List Token // r.2.length ≤ n }

/-- The same reading, from a longer list of tokens. -/
def Read.weaken {m n : Nat} (r : Read m) (h : m ≤ n) : Read n := ⟨r.1, Nat.le_trans r.2 h⟩

/-- The tokens without a closing parenthesis in front. -/
def dropClosing : List Token → List Token
  | .closing :: ts => ts
  | ts => ts

theorem length_dropClosing_le (ts : List Token) : (dropClosing ts).length ≤ ts.length := by
  unfold dropClosing
  split <;> simp

mutual

/-- Conjunctions joined by `||`. -/
def readOr (ts : List Token) : Read ts.length :=
  match readAnd ts with
  | ⟨(c, rest), h⟩ => (readOrRest c rest).weaken h
termination_by 4 * ts.length + 3
decreasing_by all_goals (simp_all <;> omega)

/-- The rest of a disjunction that starts with `c`. -/
def readOrRest (c : Condition) (ts : List Token) : Read ts.length :=
  match ts with
  | .or :: rest =>
    match readAnd rest with
    | ⟨(d, rest'), h⟩ =>
      (readOrRest (.or c d) rest').weaken (Nat.le_trans h (Nat.le_succ _))
  | ts => ⟨(c, ts), Nat.le_refl _⟩
termination_by 4 * ts.length + 0
decreasing_by all_goals (simp_all <;> omega)

/-- Operands joined by `&&`. -/
def readAnd (ts : List Token) : Read ts.length :=
  match readOperand ts with
  | ⟨(c, rest), h⟩ => (readAndRest c rest).weaken h
termination_by 4 * ts.length + 2
decreasing_by all_goals (simp_all <;> omega)

/-- The rest of a conjunction that starts with `c`. -/
def readAndRest (c : Condition) (ts : List Token) : Read ts.length :=
  match ts with
  | .and :: rest =>
    match readOperand rest with
    | ⟨(d, rest'), h⟩ =>
      (readAndRest (.and c d) rest').weaken (Nat.le_trans h (Nat.le_succ _))
  | ts => ⟨(c, ts), Nat.le_refl _⟩
termination_by 4 * ts.length + 0
decreasing_by all_goals (simp_all <;> omega)

/-- A negation, a parenthesis, a name or a truth value; false where none of them stands. -/
def readOperand (ts : List Token) : Read ts.length :=
  match ts with
  | .not :: rest =>
    match readOperand rest with
    | ⟨(c, rest'), h⟩ => ⟨(.not c, rest'), Nat.le_trans h (Nat.le_succ _)⟩
  | .opening :: rest =>
    match readOr rest with
    | ⟨(c, rest'), h⟩ =>
      ⟨(c, dropClosing rest'),
        Nat.le_trans (length_dropClosing_le rest') (Nat.le_trans h (Nat.le_succ _))⟩
  | .truth value _ :: rest => ⟨(.truth value, rest), Nat.le_succ _⟩
  | .name w :: rest => ⟨(.name w, rest), Nat.le_succ _⟩
  | ts => ⟨(.truth false, ts), Nat.le_refl _⟩
termination_by 4 * ts.length + 1
decreasing_by all_goals (simp_all <;> omega)

end

/-- The expression that the tokens start with. -/
def ofTokens (ts : List Token) : Condition := (readOr ts).1.1

/-- The expression of a condition; one that is blank is true. -/
def ofText (s : Text) : Condition :=
  if s.isBlankText then .truth true else ofTokens (tokens s)

/-- Whether a condition holds on a platform. -/
def holds (s : Text) (platform : Option Text) : Bool := (ofText s).eval platform

end Condition
end Blocklist
