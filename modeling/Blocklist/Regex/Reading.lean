import Blocklist.Regex.Matching
import Blocklist.Regex.Token

/-!
# Reading regular expressions

The tokens of a pattern are put together one by one. The groups that are still open form a stack; each
has the alternatives that are complete and the parts of the one under way. A pattern is refused if a
repetition has nothing to repeat, a reference leads nowhere or into an open group, a name is given
twice, or the parentheses do not match; the first trouble that is met is the fault. What is wrong with
complete groups is looked for when the whole pattern has been read.
-/

namespace Blocklist.Regex

/-- The flags in force. -/
structure Mode where
  ignoreCase : Bool
  multiline : Bool
  dotAll : Bool
  ascii : Bool
deriving Repr

/-- How letters are compared. -/
def Mode.folding (m : Mode) : Folding :=
  if m.ignoreCase then if m.ascii then .ascii else .full else .exact

/-- The flags after one letter switches a flag on or off. How the tokens of a pattern are spaced, which is
what `x` switches, is known before they are read. -/
def Mode.switch (on : Bool) (m : Mode) (c : Char) : Mode :=
  if c = 'i' then { m with ignoreCase := on }
  else if c = 'm' then { m with multiline := on }
  else if c = 's' then { m with dotAll := on }
  else if c = 'a' then { m with ascii := on }
  else if c = 'u' then { m with ascii := false }
  else m

/-! ### Widths -/

/-- The least and the greatest number of characters of a match; none if there is no greatest. -/
abbrev Span := Nat × Option Nat

/-- The greatest number of both, one after the other. -/
def addMost (a b : Option Nat) : Option Nat := do some ((← a) + (← b))

/-- The greatest number of as many rounds; no round takes anything if the inner one does not. -/
def timesMost (a b : Option Nat) : Option Nat :=
  if a = some 0 || b = some 0 then some 0 else do some ((← a) * (← b))

/-- The span of the matches of an expression, where `widths` has the spans of groups. -/
def span (widths : List (Nat × Span)) : Regex → Span
  | .empty | .anchor _ | .ahead _ _ | .behind _ _ _ => (0, some 0)
  | .char _ _ | .any _ | .set _ _ _ => (1, some 1)
  | .seq a b =>
    let (m, n) := (span widths a, span widths b)
    (m.1 + n.1, addMost m.2 n.2)
  | .alt a b | .ifGroup _ a b =>
    let (m, n) := (span widths a, span widths b)
    (min m.1 n.1, do some (max (← m.2) (← n.2)))
  | .group _ r | .atomic r => span widths r
  | .repeat r least most _ =>
    let n := span widths r
    (n.1 * least, timesMost n.2 most)
  | .backref _ n => (widths.lookup n).getD (0, some 0)

/-- The greatest number of characters that a condition on what comes before can go back. -/
def behindLimit : Nat := 0xFFFFFFFF

/-- The first fault of a complete expression. A `template` has no repetitions. -/
def lateFault? (widths : List (Nat × Span)) (template : Bool) : Regex → Option FaultKind
  | .seq a b | .alt a b | .ifGroup _ a b =>
    lateFault? widths template a <|> lateFault? widths template b
  | .group _ r | .atomic r | .ahead _ r => lateFault? widths template r
  | .repeat r _ _ p => if template then some (.template p.operator) else lateFault? widths template r
  | .behind _ _ r =>
    let width := span widths r
    if behindLimit < width.1 then some .farBehind
    else if width.2 ≠ some width.1 then some .looseBehind
    else lateFault? widths template r
  | _ => none

/-! ### Readers -/

/-- A part of an alternative; what can be repeated is told apart from anchors and repetitions. -/
inductive Part where
  | atom (r : Regex)
  | anchor (r : Regex)
  | repeated (r : Regex)
deriving Repr

/-- The expression of a part. -/
def Part.regex : Part → Regex
  | .atom r => r
  | .anchor r => r
  | .repeated r => r

/-- An open group: how it opened and where, its number if it captures, how many groups there were
before it, the flags outside of it, its complete alternatives and the parts of the one under way, both
the last one first. -/
structure Open where
  kind : GroupKind
  start : Nat
  number : Option Nat
  before : Nat
  outer : Mode
  done : List Regex
  parts : List Part
deriving Repr

/-- The work of a reader: the flags in force, the open groups with the innermost first, the number of
groups so far, the spans of those that are complete, the names given to some of them, the choices by
number with their places, the last one first, whether anything but flags has been read, and the letters
of the flags of the whole pattern. -/
structure Reader where
  mode : Mode
  stack : List Open
  groups : Nat := 0
  widths : List (Nat × Span) := []
  names : List (Text × Nat) := []
  choices : List (Nat × Nat) := []
  started : Bool := false
  globals : Text := []
deriving Repr

/-- The parts in the order of the text, one after the other. -/
def sequence : List Part → Regex
  | [] => .empty
  | [p] => p.regex
  | p :: rest => .seq p.regex (sequence rest)

/-- The alternatives in the order of the text. -/
def alternatives : List Regex → Regex
  | [] => .empty
  | [r] => r
  | r :: rest => .alt r (alternatives rest)

/-- All alternatives of an open group. -/
def Open.branches (o : Open) : List Regex := (sequence o.parts.reverse :: o.done).reverse

/-- Whether the group is a choice. -/
def Open.isChoice (o : Open) : Bool :=
  match o.kind with
  | .ifNumber _ | .ifName _ => true
  | _ => false

/-- Whether the group is a condition on what comes before. -/
def Open.isBehind (o : Open) : Bool :=
  match o.kind with
  | .behind _ => true
  | _ => false

/-- The reader with one more part in the innermost group. -/
def Reader.push (r : Reader) (p : Part) : Reader :=
  match r.stack with
  | [] => r
  | o :: rest => { r with stack := { o with parts := p :: o.parts } :: rest, started := true }

/-- Whether a group is complete. -/
def Reader.isComplete (r : Reader) (n : Nat) : Bool := (r.widths.lookup n).isSome

/-- Whether a group belongs to the outermost open condition on what comes before. -/
def Reader.isBehind (r : Reader) (n : Nat) : Bool :=
  match r.stack.reverse.find? Open.isBehind with
  | some o => o.before < n
  | none => false

/-- A class with the flags in force. -/
def withAscii (ascii : Bool) : SetItem → SetItem
  | .class negated (.digit _) => .class negated (.digit ascii)
  | .class negated (.space _) => .class negated (.space ascii)
  | .class negated (.word _) => .class negated (.word ascii)
  | item => item

/-- The trouble `kind` at a place before the token `p`, found when the token was read. -/
def Piece.trouble (p : Piece) (kind : FaultKind) (rest : Nat) : Trouble := ⟨kind, rest, p.rest⟩

/-- A reference to the group `n`, which has to be complete; `place` is where a reference to an open
group is at fault. -/
def Reader.backref (r : Reader) (p : Piece) (n place : Nat) : Except Trouble Reader :=
  if !r.isComplete n then .error (p.trouble .groupStillOpen place)
  else if r.isBehind n then .error (p.trouble .groupBehind p.rest)
  else .ok (r.push (.atom (.backref r.mode.folding n)))

/-- A repetition of the last part. -/
def Reader.repeat (r : Reader) (p : Piece) (least : Nat) (most : Option Nat) (pref : Preference) :
    Except Trouble Reader :=
  -- the mark of a preference is not read before it is known what is repeated
  let unread := if pref = .greedy then p.rest else p.rest + 1
  match r.stack with
  | [] => .ok r
  | o :: rest =>
    match o.parts with
    | .atom x :: parts =>
      let part := Part.repeated (.repeat x least most pref)
      .ok { r with stack := { o with parts := part :: parts } :: rest }
    | .repeated _ :: _ => .error ⟨.repeatedTwice, p.start, unread⟩
    | _ => .error ⟨.nothingToRepeat, p.start, unread⟩

/-- A bar between alternatives, of which a choice has two. -/
def Reader.bar (r : Reader) (p : Piece) : Except Trouble Reader :=
  match r.stack with
  | [] => .ok r
  | o :: rest =>
    if o.isChoice && !o.done.isEmpty then .error ⟨.manyBranches, p.start, p.start⟩
    else
      let o := { o with done := sequence o.parts.reverse :: o.done, parts := [] }
      .ok { r with stack := o :: rest, started := true }

/-- Opens a group that captures nothing. -/
def Reader.enter (r : Reader) (p : Piece) (kind : GroupKind) : Reader :=
  { r with stack := ⟨kind, p.start, none, r.groups, r.mode, [], []⟩ :: r.stack, started := true }

/-- Opens a group that captures. -/
def Reader.capture (r : Reader) (p : Piece) (name : Option Text) : Reader :=
  let n := r.groups + 1
  { r with
    stack := ⟨.capture name, p.start, some n, r.groups, r.mode, [], []⟩ :: r.stack
    groups := n
    names := (name.map fun s => (s, n)).toList ++ r.names
    started := true }

/-- What a choice must not depend on. -/
def Reader.checkChoice (r : Reader) (p : Piece) (n : Nat) : Except Trouble Unit :=
  if r.stack.any Open.isBehind then
    if !r.isComplete n then .error (p.trouble .groupStillOpen p.rest)
    else if r.isBehind n then .error (p.trouble .groupBehind p.rest)
    else .ok ()
  else .ok ()

/-- The opening of a group. The name of a group stands four characters after the start of its token, and
that of a choice three. -/
def Reader.open (r : Reader) (p : Piece) (kind : GroupKind) : Except Trouble Reader :=
  match kind with
  | .capture none => .ok (r.capture p none)
  | .capture (some name) =>
    match r.names.lookup name with
    | some earlier =>
      .error (p.trouble (.sameName name (r.groups + 1) earlier) (p.start - 4))
    | none => .ok (r.capture p (some name))
  | .plain on off =>
    let mode := off.foldl (Mode.switch false) (on.foldl (Mode.switch true) r.mode)
    .ok { r.enter p kind with mode }
  | .ifNumber n => do
    r.checkChoice p n
    .ok { r.enter p kind with choices := (n, p.start - 3) :: r.choices }
  | .ifName name =>
    match r.names.lookup name with
    | none => .error (p.trouble (.unknownName name) (p.start - 3))
    | some n => do
      r.checkChoice p n
      .ok (r.enter p kind)
  | _ => .ok (r.enter p kind)

/-- A choice between branches, of which the second may be missing. -/
def choice (n : Nat) : List Regex → Regex
  | [] => .empty
  | [a] => .ifGroup n a .empty
  | a :: b :: _ => .ifGroup n a b

/-- Whether the whole pattern is both for the letters of ASCII and for all letters. -/
def Reader.hasTwoAlphabets (r : Reader) : Bool := r.globals.elem 'a' && r.globals.elem 'u'

/-- The end of the innermost group, which must not be the whole pattern. -/
def Reader.close (r : Reader) (p : Piece) : Except Trouble Reader :=
  match r.stack with
  | o :: outer :: rest =>
    let r := { r with mode := o.outer, stack := outer :: rest }
    let body := alternatives o.branches
    let width := span r.widths body
    match o.kind with
    | .capture _ =>
      let widths := (o.number.map fun n => (n, width)).toList ++ r.widths
      .ok ({ r with widths }.push (.atom (.group o.number body)))
    | .plain _ _ => .ok (r.push (.atom (.group none body)))
    | .ahead negated => .ok (r.push (.atom (.ahead negated body)))
    | .behind negated => .ok (r.push (.atom (.behind negated width.1 body)))
    | .atomic => .ok (r.push (.atom (.atomic body)))
    | .ifNumber n => .ok (r.push (.atom (choice n o.branches)))
    | .ifName name => .ok (r.push (.atom (choice ((r.names.lookup name).getD 0) o.branches)))
  | _ => .error ⟨if r.hasTwoAlphabets then .twoAlphabets else .closedTooOften, p.start, p.start⟩

/-- One token. -/
def Reader.step (r : Reader) (p : Piece) : Except Trouble Reader :=
  let atom (x : Regex) : Except Trouble Reader := .ok (r.push (.atom x))
  let anchor (a : Anchor) : Except Trouble Reader := .ok (r.push (.anchor (.anchor a)))
  match p.token with
  | .char c => atom (.char r.mode.folding c)
  | .any => atom (.any r.mode.dotAll)
  | .set negated items =>
    atom (.set r.mode.folding negated (items.map (withAscii r.mode.ascii)))
  | .lineStart => anchor (if r.mode.multiline then .lineStart else .textStart)
  | .lineEnd => anchor (if r.mode.multiline then .lineEnd else .lastLineEnd)
  | .textStart => anchor .textStart
  | .textEnd => anchor .textEnd
  | .boundary negated => anchor (.boundary negated r.mode.ascii)
  | .backref n =>
    if r.groups < n then .error (p.trouble (.noSuchGroup n) (p.start - 1))
    else r.backref p n p.start
  | .namedBackref name =>
    match r.names.lookup name with
    | none => .error (p.trouble (.unknownName name) (p.start - 4))
    | some n => r.backref p n (p.start - 4)
  | .repeat least most pref => r.repeat p least most pref
  | .bar => r.bar p
  | .opening kind => r.open p kind
  | .closing => r.close p
  | .flags on =>
    if r.started then .error (p.trouble .lateFlags p.start)
    else .ok { r with mode := on.foldl (Mode.switch true) r.mode, globals := r.globals ++ on }
  | .note => .ok r

/-- The trouble at the end of a pattern. -/
def Reader.endTrouble? (r : Reader) : Option Trouble :=
  match r.stack with
  | o :: _ :: _ => some ⟨.openGroup, o.start, 0⟩
  | _ =>
    if r.hasTwoAlphabets then some ⟨.twoAlphabets, 0, 0⟩
    else
      (r.choices.reverse.find? fun (n, _) => r.groups < n).map fun (n, place) =>
        ⟨.noSuchGroup n, place, 0⟩

/-- The reader after all tokens of a text. -/
def Reader.run (names : CharNames) (r : Reader) (s : Text) : Except Trouble Reader := do
  let (ps, trouble) := pieces names s
  let r ← ps.foldlM Reader.step r
  match trouble <|> r.endTrouble? with
  | some t => .error t
  | none => .ok r

/-- Whether a text ends with a backslash that escapes nothing. -/
def endsWithBackslash (s : Text) : Bool := (s.reverse.takeWhile (· = '\\')).length % 2 = 1

/-- The reader before a pattern. -/
def Reader.initial (mode : Mode) : Reader where
  mode := mode
  stack := [⟨.plain [] [], 0, none, 0, mode, [], []⟩]

/-- The fault that a trouble is, in a pattern of this length. -/
def Trouble.fault (t : Trouble) (length : Nat) : Fault :=
  ⟨t.kind, if t.kind.isExpected then some (length - t.rest) else none⟩

/-- The expression of a pattern, read with the flags of `mode`. A backslash that escapes nothing is met
as soon as all that stands before it is read. -/
def read (names : CharNames) (mode : Mode) (s : Text) : Except Fault Regex :=
  let lone := endsWithBackslash s
  let body := if lone then s.dropLast else s
  let loneFault : Fault := ⟨.loneBackslash, some body.length⟩
  match (Reader.initial mode).run names body with
  | .error t => .error (if lone && t.unread = 0 then loneFault else t.fault body.length)
  | .ok r =>
    if lone then .error loneFault
    else
      let whole := alternatives ((r.stack.head?.map Open.branches).getD [])
      match lateFault? r.widths (r.globals.elem globalFlag) whole with
      | some kind => .error ⟨kind, none⟩
      | none => .ok whole

end Blocklist.Regex
