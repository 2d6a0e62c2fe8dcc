import Blocklist.Number.Reading
import Blocklist.Regex.Basic
import Blocklist.Regex.Fault

/-!
# Tokens of regular expressions

A pattern is cut into tokens: characters, sets, anchors, repetitions, bars, and the openings and ends of
groups. Escapes and sets are resolved here; what a token means for the groups around it is decided when
the tokens are put together. A backslash and the character after it are one unit of the text wherever
they stand. The flag `x` lets blanks and remarks stand between tokens; nothing else depends on it.
-/

namespace Blocklist.Regex

/-- What a group is, by how it opens. -/
inductive GroupKind where
  | capture (name : Option Text)
  | plain (on off : Text)
  | ahead (negated : Bool)
  | behind (negated : Bool)
  | atomic
  | ifNumber (number : Nat)
  | ifName (name : Text)
deriving DecidableEq, Repr

/-- A token of a pattern. -/
inductive Token where
  | char (c : Char)
  | any
  | set (negated : Bool) (items : List SetItem)
  | lineStart
  | lineEnd
  | textStart
  | textEnd
  | boundary (negated : Bool)
  | backref (number : Nat)
  | namedBackref (name : Text)
  | repeat (least : Nat) (most : Option Nat) (p : Preference)
  | bar
  | opening (k : GroupKind)
  | closing
  | flags (on : Text)
  | note
deriving Repr

/-- The first unit of a text, and what follows it. -/
def takeUnit : Text → Text × Text
  | '\\' :: c :: s => (['\\', c], s)
  | c :: s => ([c], s)
  | [] => ([], [])

/-- What comes before the first unit that is `stop`, and what comes after it. -/
def takeUntil? (stop : Char) : Text → Option (Text × Text)
  | [] => none
  | '\\' :: c :: s => (takeUntil? stop s).map fun (a, b) => ('\\' :: c :: a, b)
  | c :: s =>
    if c = stop then some ([], s) else (takeUntil? stop s).map fun (a, b) => (c :: a, b)

/-! ### Names -/

/-- The characters by their names. -/
abbrev CharNames := Text → Option Char

/-- The text up to `stop`, which is `what` and must not be empty. -/
def takeName (what : Text) (stop : Char) (s : Text) : Except Trouble (Text × Text) :=
  match takeUntil? stop s with
  | some ([], rest) => .error ⟨.missing what, rest.length + 1, rest.length⟩
  | some (name, rest) => .ok (name, rest)
  | none => .error ⟨if s = [] then .missing what else .openName stop, s.length, 0⟩

/-! ### Escapes -/

/-- The value of a hexadecimal digit. -/
def hexValue? (c : Char) : Option Nat :=
  if c.isDigit then some (c.toNat - 0x30)
  else if 'a' ≤ c && c ≤ 'f' then some (c.toNat - 0x57)
  else if 'A' ≤ c && c ≤ 'F' then some (c.toNat - 0x37)
  else none

/-- A digit of base eight. -/
def isOctal (c : Char) : Bool := '0' ≤ c && c ≤ '7'

/-- The number that digits of base eight write. -/
def octalValue (s : Text) : Nat := s.foldl (fun n c => n * 8 + (c.toNat - 0x30)) 0

/-- The trouble with an escape that starts with a backslash and goes on as `s`, of which `read`
characters are read. -/
def escapeTrouble (kind : Text → FaultKind) (s : Text) (read : Nat) : Trouble :=
  ⟨kind ('\\' :: s.take read), s.length + 1, s.length - read⟩

/-- The code that exactly `n` hexadecimal digits write after the letter that `s` starts with. -/
def hexEscape (n : Nat) (s : Text) : Except Trouble (Nat × Text) :=
  let digits := (s.tail.take n).takeWhile fun c => (hexValue? c).isSome
  let value := (digits.filterMap hexValue?).foldl (fun v d => v * 16 + d) 0
  if digits.length < n then .error (escapeTrouble .shortEscape s (digits.length + 1))
  else if value ≤ 0x10FFFF then .ok (value, s.drop (n + 1))
  else .error (escapeTrouble .badEscape s (n + 1))

/-- The code of the character whose name stands in braces after the letter that `s` starts with. -/
def namedEscape (names : CharNames) (s : Text) : Except Trouble (Nat × Text) :=
  match s.tail with
  | '{' :: t => do
    let (name, rest) ← takeName "character name" '}' t
    match names name with
    | some c => .ok (c.toNat, rest)
    | none => .error ⟨.unknownCharacter name, s.length + 1, rest.length⟩
  | t => .error ⟨.missing ['{'], t.length, t.length⟩

/-- The control character that a letter after a backslash stands for. -/
def controlEscape? : Char → Option Char
  | 'a' => some '\x07'
  | 'f' => some '\x0c'
  | 'n' => some '\n'
  | 'r' => some '\r'
  | 't' => some '\t'
  | 'v' => some '\x0b'
  | _ => none

/-- The code of an escape that means the same within sets and outside of them, where `s` is what follows
the backslash and starts with `c`. -/
def sharedEscape (names : CharNames) (c : Char) (s : Text) : Except Trouble (Nat × Text) :=
  match controlEscape? c with
  | some d => .ok (d.toNat, s.tail)
  | none =>
    if c = 'x' then hexEscape 2 s
    else if c = 'u' then hexEscape 4 s
    else if c = 'U' then hexEscape 8 s
    else if c = 'N' then namedEscape names s
    else if c.isAlphanum then .error (escapeTrouble .badEscape s 1)
    else .ok (c.toNat, s.tail)

/-- The class that a letter after a backslash stands for. -/
def classEscape? : Char → Option SetItem
  | 'd' => some (.class false (.digit false))
  | 'D' => some (.class true (.digit false))
  | 's' => some (.class false (.space false))
  | 'S' => some (.class true (.space false))
  | 'w' => some (.class false (.word false))
  | 'W' => some (.class true (.word false))
  | _ => none

/-- The code of an octal escape with these digits, where `s` is what follows the backslash. -/
def octalEscape (digits s : Text) : Except Trouble (Nat × Text) :=
  let n := octalValue digits
  if n ≤ 0xFF then .ok (n, s.drop digits.length)
  else .error (escapeTrouble .largeOctal s digits.length)

/-- The token of a code. The halves of surrogate pairs are no characters, and so nothing matches one. -/
def Token.ofCode (n : Nat) : Token :=
  if n.isValidChar then .char (Char.ofNat n) else .set false []

/-- The octal escape or the reference to a group that a text with a digit in front is, other than
zero. -/
def digitEscape (s : Text) : Except Trouble (Token × Text) :=
  let octal := (s.take 3).takeWhile isOctal
  if octal.length = 3 then (octalEscape octal s).map fun (n, rest) => (.ofCode n, rest)
  else
    let digits := (s.take 2).takeWhile Char.isDigit
    .ok (.backref (Decimal.natOf digits), s.drop digits.length)

/-- The token of an escape outside of a set, where `s` is what follows the backslash. -/
def takeEscape (names : CharNames) (s : Text) : Except Trouble (Token × Text) :=
  match s with
  | [] => .error ⟨.loneBackslash, 1, 0⟩
  | 'A' :: rest => .ok (.textStart, rest)
  | 'Z' :: rest => .ok (.textEnd, rest)
  | 'b' :: rest => .ok (.boundary false, rest)
  | 'B' :: rest => .ok (.boundary true, rest)
  | '0' :: _ =>
    (octalEscape ((s.take 3).takeWhile isOctal) s).map fun (n, rest) => (.ofCode n, rest)
  | c :: rest =>
    match classEscape? c with
    | some item => .ok (.set false [item], rest)
    | none =>
      if c.isDigit then digitEscape s
      else (sharedEscape names c s).map fun (n, rest) => (.ofCode n, rest)

/-! ### Sets -/

/-- A member of a set, before it is known whether it starts a range. -/
inductive Member where
  | code (n : Nat)
  | item (i : SetItem)
deriving DecidableEq, Repr

/-- The items that a member is by itself. -/
def Member.items : Member → List SetItem
  | .code n => if n.isValidChar then [.char (Char.ofNat n)] else []
  | .item i => [i]

/-- The items between two codes, without the halves of surrogate pairs. -/
def itemsBetween (first last : Nat) : List SetItem :=
  let first := if first.isValidChar then first else 0xE000
  let last := if last.isValidChar then last else 0xD7FF
  if first ≤ last then [.range (Char.ofNat first) (Char.ofNat last)] else []

/-- The member of a set that an escape stands for, where `s` is what follows the backslash. -/
def takeSetEscape (names : CharNames) (s : Text) : Except Trouble (Member × Text) :=
  match s with
  | [] => .error ⟨.loneBackslash, 1, 0⟩
  | 'b' :: rest => .ok (.code 0x08, rest)
  | c :: rest =>
    match classEscape? c with
    | some item => .ok (.item item, rest)
    | none =>
      if isOctal c then
        (octalEscape ((s.take 3).takeWhile isOctal) s).map fun (n, rest) => (.code n, rest)
      else (sharedEscape names c s).map fun (n, rest) => (.code n, rest)

/-- One member of a set. -/
def takeMember (names : CharNames) : Text → Except Trouble (Member × Text)
  | [] => .error ⟨.openSet, 0, 0⟩
  | '\\' :: s => takeSetEscape names s
  | c :: s => .ok (.code c.toNat, s)

/-- The range between two members, which have to be codes in order; `first` and `last` are what their
texts start with, and `rest` is what follows them. -/
def rangeOf (a b : Member) (first last rest : Text) : Except Trouble (List SetItem × Text) :=
  let text := (takeUnit first).1 ++ '-' :: (takeUnit last).1
  let bad : Trouble := ⟨.badRange text, rest.length + text.length, rest.length⟩
  match a, b with
  | .code x, .code y => if x ≤ y then .ok (itemsBetween x y, rest) else .error bad
  | _, _ => .error bad

/-- The members of a set up to its closing bracket, which as the first member is a character. `fuel`
bounds the number of members. -/
def takeMembers (names : CharNames) (fuel : Nat) (first : Bool) (s : Text) :
    Except Trouble (List SetItem × Text) :=
  match fuel with
  | 0 => .error ⟨.openSet, 0, 0⟩
  | fuel + 1 =>
    if !first && s.head? = some ']' then .ok ([], s.tail)
    else do
      let (member, rest) ← takeMember names s
      match rest with
      | '-' :: ']' :: after => .ok (member.items ++ [.char '-'], after)
      | '-' :: after =>
        let (last, rest) ← takeMember names after
        let (range, rest) ← rangeOf member last s after rest
        let (items, rest) ← takeMembers names fuel false rest
        .ok (range ++ items, rest)
      | _ =>
        let (items, rest) ← takeMembers names fuel false rest
        .ok (member.items ++ items, rest)

/-- The set that follows an opening bracket. -/
def takeSet (names : CharNames) (s : Text) : Except Trouble (Token × Text) :=
  let (negated, inner) :=
    match s with
    | '^' :: rest => (true, rest)
    | _ => (false, s)
  match takeMembers names (inner.length + 1) true inner with
  | .ok (items, rest) => .ok (.set negated items, rest)
  | .error ⟨.openSet, _, _⟩ => .error ⟨.openSet, s.length + 1, 0⟩
  | .error t => .error t

/-! ### Repetitions -/

/-- A repetition with its preference. -/
def withPreference (least : Nat) (most : Option Nat) : Text → Token × Text
  | '?' :: s => (.repeat least most .lazy, s)
  | '+' :: s => (.repeat least most .possessive, s)
  | s => (.repeat least most .greedy, s)

/-- The counts at the start of a text, the lower one missing if it is empty and the upper one if there is
none, and what follows their closing brace. -/
def takeCounts? (s : Text) : Option (Text × Text × Text) :=
  let low := s.takeWhile Char.isDigit
  let (high, rest) :=
    match s.dropWhile Char.isDigit with
    | ',' :: t => (t.takeWhile Char.isDigit, t.dropWhile Char.isDigit)
    | t => (low, t)
  match rest with
  | '}' :: after => if s.head? = some '}' then none else some (low, high, after)
  | _ => none

/-- The least number that is too large for a count. -/
def countLimit : Nat := 0xFFFFFFFF

/-- The number that the digits of a count write, if it is not too large; `rest` is what follows the
counts. -/
def countOf (digits rest : Text) : Except Trouble Nat :=
  if Number.maxDigits < digits.length then
    .error ⟨.longCount digits.length, rest.length, rest.length⟩
  else if countLimit ≤ Decimal.natOf digits then .error ⟨.hugeCount, rest.length, rest.length⟩
  else .ok (Decimal.natOf digits)

/-- The repetition whose counts follow an opening brace; if none do, the brace is a character. -/
def takeBraces (s : Text) : Except Trouble (Token × Text) :=
  match takeCounts? s with
  | none => .ok (.char '{', s)
  | some (low, high, rest) => do
    let least ← countOf low rest
    let most ← countOf high rest
    if high = [] then .ok (withPreference least none rest)
    else if most < least then .error ⟨.badCounts, s.length, rest.length⟩
    else .ok (withPreference least (some most) rest)

/-! ### Groups -/

/-- A name of a group: a letter or underscore, and then word characters. -/
def isGroupName (s : Text) : Bool :=
  match s with
  | [] => false
  | c :: rest => isWordChar c && !isDecimalDigit c && rest.all isWordChar

/-- The name of a group up to `stop`. -/
def takeGroupName (stop : Char) (s : Text) : Except Trouble (Text × Text) := do
  let (name, rest) ← takeName "group name" stop s
  if isGroupName name then .ok (name, rest) else .error ⟨.badName name, s.length, rest.length⟩

/-- The least number that no group can have. -/
def groupLimit : Nat := 0x3FFFFFFF

/-- The group that a choice depends on, up to the closing parenthesis. -/
def takeChoice (s : Text) : Except Trouble (GroupKind × Text) := do
  let (name, rest) ← takeName "group name" ')' s
  if isGroupName name then .ok (.ifName name, rest)
  else
    match Number.int? name with
    | some (.ofNat 0) => .error ⟨.groupZero, s.length, rest.length⟩
    | some (.ofNat n) =>
      if n < groupLimit then .ok (.ifNumber n, rest)
      else .error ⟨.noSuchGroup n, s.length, rest.length⟩
    | _ => .error ⟨.badName name, s.length, rest.length⟩

/-- The letters of flags. -/
def isFlag (c : Char) : Bool := ['i', 'm', 's', 'x', 'a', 'u', 't', 'L'].elem c

/-- The flags that say which characters are letters, of which there can be only one. -/
def isTypeFlag (c : Char) : Bool := ['a', 'u', 'L'].elem c

/-- The flag that only a whole pattern has. -/
def globalFlag : Char := 't'

/-- The trouble with what stands in the place of a flag; `expected` may follow there as well. -/
def flagTrouble (expected : Text) (s : Text) : Trouble :=
  let (unit, rest) := takeUnit s
  let isLetter (c : Char) : Bool := isWordChar c && !isDecimalDigit c && c ≠ '_'
  let kind := if unit ≠ [] && unit.all isLetter then .unknownFlag else .missing expected
  ⟨kind, s.length, rest.length⟩

/-- The flags that are switched on, the mark after them, and what follows it. -/
def takeFlagsOn (on : Text) : Text → Except Trouble ((Text × Char) × Text)
  | [] => .error (flagTrouble "-, : or )" [])
  | c :: s =>
    let bad (why : Text) : Trouble := ⟨.badFlags why, s.length, s.length⟩
    if [')', '-', ':'].elem c then .ok ((on, c), s)
    else if !isFlag c then .error (flagTrouble "-, : or )" (c :: s))
    else if c = 'L' then .error (bad "cannot use 'L' flag with a str pattern")
    else if isTypeFlag c && on.any (fun d => isTypeFlag d && d ≠ c) then
      .error (bad "flags 'a', 'u' and 'L' are incompatible")
    else takeFlagsOn (on ++ [c]) s

/-- The flags that are switched off, up to the colon after them; the first one is due if there is none
yet. -/
def takeFlagsOff (off : Text) : Text → Except Trouble (Text × Text)
  | [] => .error (flagTrouble (if off = [] then "flag" else ":") [])
  | c :: s =>
    if off ≠ [] && c = ':' then .ok (off, s)
    else if !isFlag c then .error (flagTrouble (if off = [] then "flag" else ":") (c :: s))
    else if isTypeFlag c then
      .error ⟨.badFlags "cannot turn off flags 'a', 'u' and 'L'", s.length, s.length⟩
    else takeFlagsOff (off ++ [c]) s

/-- The flags at the start of a text: for the whole pattern, or to be switched on and off for a group. -/
def takeFlags (s : Text) : Except Trouble (Token × Text) := do
  let ((on, mark), rest) ← takeFlagsOn [] s
  let bad (why : Text) (rest : Text) : Trouble := ⟨.badFlags why, rest.length + 1, rest.length⟩
  if mark = ')' then .ok (.flags on, rest)
  else if on.elem globalFlag then .error (bad "cannot turn on global flag" rest)
  else if mark = ':' then .ok (.opening (.plain on []), rest)
  else do
    let (off, rest) ← takeFlagsOff [] rest
    if off.elem globalFlag then .error (bad "cannot turn off global flag" rest)
    else if off.any on.elem then .error (bad "flag turned on and off" rest)
    else .ok (.opening (.plain on off), rest)

/-- The trouble with an extension that no group has: what stands after the question mark in `s`, whose
first `known` characters are as they should be. -/
def extensionTrouble (s : Text) (known : Nat) : Trouble :=
  let (unit, rest) := takeUnit (s.drop known)
  if unit = [] then ⟨.cutOff, 0, 0⟩
  else ⟨.badExtension ('?' :: s.take known ++ unit), s.length + 1, rest.length⟩

/-- What follows an opening parenthesis and a question mark. -/
def takeExtension (s : Text) : Except Trouble (Token × Text) :=
  match s with
  | 'P' :: '<' :: t =>
    (takeGroupName '>' t).map fun (name, rest) => (.opening (.capture (some name)), rest)
  | 'P' :: '=' :: t => (takeGroupName ')' t).map fun (name, rest) => (.namedBackref name, rest)
  | 'P' :: _ => .error (extensionTrouble s 1)
  | ':' :: t => .ok (.opening (.plain [] []), t)
  | '#' :: t =>
    match takeUntil? ')' t with
    | some (_, rest) => .ok (.note, rest)
    | none => .error ⟨.openNote, s.length + 2, 0⟩
  | '=' :: t => .ok (.opening (.ahead false), t)
  | '!' :: t => .ok (.opening (.ahead true), t)
  | '<' :: '=' :: t => .ok (.opening (.behind false), t)
  | '<' :: '!' :: t => .ok (.opening (.behind true), t)
  | '<' :: _ => .error (extensionTrouble s 1)
  | '(' :: t => (takeChoice t).map fun (kind, rest) => (.opening kind, rest)
  | '>' :: t => .ok (.opening .atomic, t)
  | c :: _ => if isFlag c || c = '-' then takeFlags s else .error (extensionTrouble s 0)
  | [] => .error (extensionTrouble s 0)

/-! ### Patterns -/

/-- The first token of a text, and what follows it. -/
def takeToken (names : CharNames) : Text → Except Trouble (Token × Text)
  | [] => .ok (.note, [])
  | '\\' :: s => takeEscape names s
  | '.' :: s => .ok (.any, s)
  | '[' :: s => takeSet names s
  | '(' :: '?' :: s => takeExtension s
  | '(' :: s => .ok (.opening (.capture none), s)
  | ')' :: s => .ok (.closing, s)
  | '|' :: s => .ok (.bar, s)
  | '^' :: s => .ok (.lineStart, s)
  | '$' :: s => .ok (.lineEnd, s)
  | '*' :: s => .ok (withPreference 0 none s)
  | '+' :: s => .ok (withPreference 1 none s)
  | '?' :: s => .ok (withPreference 0 (some 1) s)
  | '{' :: s => takeBraces s
  | c :: s => .ok (.char c, s)

/-- A blank that may stand between tokens. -/
def isSpacing (c : Char) : Bool := [' ', '\t', '\n', '\r', '\x0b', '\x0c'].elem c

/-- The first token of a text, where blanks and remarks up to the end of a line may stand before it. -/
def takeSpaced (names : CharNames) : Text → Except Trouble (Token × Text)
  | [] => .ok (.note, [])
  | c :: s =>
    if isSpacing c then .ok (.note, s)
    else if c = '#' then .ok (.note, ((takeUntil? '\n' s).map (·.2)).getD [])
    else takeToken names (c :: s)

/-- Whether tokens are spaced in the groups that are open after a token, the innermost first. -/
def Token.spacing (t : Token) (spaced : Bool) (outer : List Bool) : List Bool :=
  match t with
  | .opening (.plain on off) => ((spaced || on.elem 'x') && !off.elem 'x') :: spaced :: outer
  | .opening _ => spaced :: spaced :: outer
  | .closing => outer
  | .flags on => (spaced || on.elem 'x') :: outer
  | _ => spaced :: outer

/-- A token of a pattern, with the number of characters from its start on and after its end. -/
structure Piece where
  token : Token
  start : Nat
  rest : Nat
deriving Repr

/-- The tokens of a pattern up to the first trouble, where `spacing` tells of the groups that are open
whether tokens are spaced; `fuel` bounds their number. -/
def piecesWithin (names : CharNames) : Nat → (spacing : List Bool) → Text → List Piece × Option Trouble
  | 0, _, _ => ([], none)
  | _, _, [] => ([], none)
  | fuel + 1, spacing, c :: s =>
    let spaced := spacing.headD false
    match if spaced then takeSpaced names (c :: s) else takeToken names (c :: s) with
    | .ok (t, rest) =>
      let (more, trouble) := piecesWithin names fuel (t.spacing spaced spacing.tail) rest
      (⟨t, s.length + 1, rest.length⟩ :: more, trouble)
    | .error trouble => ([], some trouble)

/-- The tokens of a pattern up to the first trouble. -/
def pieces (names : CharNames) (s : Text) : List Piece × Option Trouble :=
  piecesWithin names s.length [false] s

end Blocklist.Regex
