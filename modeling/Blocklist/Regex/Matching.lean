import Blocklist.Regex.Basic

/-!
# Matching

`Regex.run` gives the places where a match that starts at a place can end, in order of preference; two
ends that differ neither in place nor in captured text are one. `Regex.occursIn` asks for a match
anywhere.
-/

namespace Blocklist.Regex

/-- A place in a text: what is before it, the nearest character first, and after it, and the texts
that groups have captured, the latest first. -/
structure Place where
  before : Text
  after : Text
  groups : List (Nat × Text)
deriving DecidableEq, Repr

/-- The place one character further on, if a character that satisfies `f` is there. -/
def Place.next? (f : Char → Bool) (p : Place) : Option Place :=
  match p.after with
  | [] => none
  | c :: s => if f c then some { p with before := c :: p.before, after := s } else none

/-- The place `n` characters back, if there are as many. -/
def Place.back? (p : Place) : Nat → Option Place
  | 0 => some p
  | n + 1 =>
    match p.before with
    | [] => none
    | c :: s => Place.back? { p with before := s, after := c :: p.after } n

/-- The place after a text that equals `s` under `f`. -/
def Place.skip? (f : Char → Char) (p : Place) : Text → Option Place
  | [] => some p
  | c :: s =>
    match p.next? fun d => f d = f c with
    | some q => q.skip? f s
    | none => none

/-- Whether a word character is next in a direction. -/
def touchesWord (ascii : Bool) (s : Text) : Bool :=
  match s with
  | [] => false
  | c :: _ => (CharClass.word ascii).has c

/-- Whether an anchor holds at a place. -/
def holdsAt (p : Place) : Anchor → Bool
  | .textStart => p.before = []
  | .lineStart => p.before = [] || p.before.head? = some '\n'
  | .textEnd => p.after = []
  | .lineEnd => p.after = [] || p.after.head? = some '\n'
  | .lastLineEnd => p.after = [] || p.after = ['\n']
  | .boundary negated ascii =>
    (p.before ≠ [] || p.after ≠ []) &&
      negated != (touchesWord ascii p.before != touchesWord ascii p.after)

/-- Exactly `n` rounds. -/
def rounds (step : Place → List Place) : Nat → Place → List Place
  | 0, p => [p]
  | n + 1, p => ((step p).flatMap (rounds step n)).eraseDups

/-- Up to `n` rounds, in order of preference. A round that takes no character is the last one. -/
def moreRounds (step : Place → List Place) (many : Bool) : Nat → Place → List Place
  | 0, p => [p]
  | n + 1, p =>
    let more := (step p).flatMap fun q =>
      if q.after.length < p.after.length then moreRounds step many n q else [q]
    (if many then more ++ [p] else p :: more).eraseDups

/-- At least `least` rounds, and then as many as there can be up to `most`. -/
def roundsBetween (step : Place → List Place) (least : Nat) (most : Option Nat) (many : Bool)
    (p : Place) : List Place :=
  (rounds step least p).flatMap fun q =>
    -- each round but the last takes a character
    let bound := q.after.length + 1
    moreRounds step many ((most.map fun m => min (m - least) bound).getD bound) q

/-- The ends of a repetition. A possessive one keeps to the first end of each round. -/
def repeated (step : Place → List Place) (least : Nat) (most : Option Nat) :
    Preference → Place → List Place
  | .greedy, p => (roundsBetween step least most true p).eraseDups
  | .lazy, p => (roundsBetween step least most false p).eraseDups
  | .possessive, p => (roundsBetween (fun q => (step q).take 1) least most true p).take 1

/-- The text between two places of which the second is not before the first. -/
def between (p q : Place) : Text := p.after.take (p.after.length - q.after.length)

/-- The ends of the matches that start at a place, in order of preference. -/
def run : Regex → Place → List Place
  | .empty, p => [p]
  | .char f c, p => (p.next? fun d => f.fold c = f.fold d).toList
  | .any lineFeed, p => (p.next? fun d => lineFeed || d ≠ '\n').toList
  | .set f negated items, p => (p.next? fun d => negated != items.any (·.has f d)).toList
  | .anchor a, p => if holdsAt p a then [p] else []
  | .seq a b, p => (run a p).flatMap (run b)
  | .alt a b, p => run a p ++ run b p
  | .group none r, p => run r p
  | .group (some n) r, p =>
    (run r p).map fun q => { q with groups := (n, between p q) :: q.groups.filter (·.1 ≠ n) }
  | .repeat r least most pref, p => repeated (run r) least most pref p
  | .backref f n, p =>
    match p.groups.lookup n with
    | some s => (p.skip? (if f = .full then lowerChar else f.fold) s).toList
    | none => []
  | .ahead false r, p =>
    ((run r p).head?.map fun q => { p with groups := q.groups }).toList
  | .ahead true r, p => if (run r p).isEmpty then [p] else []
  | .behind negated width r, p =>
    match p.back? width with
    | none => if negated then [p] else []
    | some q =>
      if negated then if (run r q).isEmpty then [p] else []
      else ((run r q).head?.map fun t => { p with groups := t.groups }).toList
  | .atomic r, p => (run r p).take 1
  | .ifGroup n a b, p => if (p.groups.lookup n).isSome then run a p else run b p

/-- Whether there is a match that starts at one of the places of `after`. -/
def occursAfter (r : Regex) (before : Text) : Text → Bool
  | [] => !(run r ⟨before, [], []⟩).isEmpty
  | c :: s => !(run r ⟨before, c :: s, []⟩).isEmpty || occursAfter r (c :: before) s

/-- Whether there is a match anywhere in the text. -/
def occursIn (r : Regex) (s : Text) : Bool := occursAfter r [] s

end Blocklist.Regex
