import Blocklist.Number.Reading
import Blocklist.Output.Format

/-!
# Arguments

The arguments of the command. A flag has a long name, which may be cut to any start that no other flag
has, and some have a short one; the value of a flag is the next argument, or it is attached to the name.
Several short flags may stand behind one dash. Of a flag that is given twice the last value counts.
-/

namespace Blocklist

/-- A flag of the command. -/
inductive Flag where
  | help
  | config
  | output
  | format
  | hostsIp
  | platform
  | concurrency
  | timeout
  | retries
  | verbose
deriving DecidableEq, Repr

namespace Flag

/-- The flags with their short and long names. -/
def names : List (Text × Flag) := [
  ("-h", help), ("--help", help), ("-c", config), ("--config", config), ("-o", output),
  ("--output", output), ("-f", format), ("--format", format), ("--hosts-ip", hostsIp),
  ("--platform", platform), ("--concurrency", concurrency), ("--timeout", timeout),
  ("--retries", retries), ("-v", verbose), ("--verbose", verbose)]

/-- The flag of this name. -/
def ofName? (s : Text) : Option Flag := names.lookup s

/-- Whether the flag has a value. -/
def takesValue : Flag → Bool
  | help | verbose => false
  | _ => true

end Flag

/-- Why the arguments do not lead to a run: help was asked for, or they are wrong. -/
inductive Refusal where
  | help
  | usage
deriving DecidableEq, Repr

/-- What is attached to the name of a flag: nothing, what follows an equals sign, or what follows the
letter of a short flag. -/
inductive Attached where
  | nothing
  | assigned (value : Text)
  | adjoined (value : Text)
deriving DecidableEq, Repr

/-- An argument. -/
inductive Argument where
  | value (s : Text)
  | flag (f : Flag) (attached : Attached)
  | unknown
  | separator
deriving DecidableEq, Repr

namespace Argument

/-- A negative number without exponent; a line feed may follow it. -/
def isNegativeNumber (s : Text) : Bool :=
  match Text.dropLineFeed s with
  | '-' :: s =>
    let rest := s.dropWhile isDecimalDigit
    if rest = [] then s ≠ []
    else rest.head? = some '.' && rest.tail ≠ [] && rest.tail.all isDecimalDigit
  | _ => false

/-- What a name and something assigned to it make. -/
def assigned (s : Text) : Text × Attached :=
  match Text.cut? ['='] s with
  | some (name, v) => (name, .assigned v)
  | none => (s, .nothing)

/-- The flags whose long name starts with `s`. -/
def abbreviated (s : Text) : List Flag :=
  Flag.names.filterMap fun (name, f) => if Text.startsWith s name then some f else none

/-- An argument that is no flag: a value if it is a negative number or has a space in it. -/
def ofOther (s : Text) : Argument :=
  if isNegativeNumber s || s.elem ' ' then .value s else .unknown

/-- An argument with a dash in front that is not the name of a flag, nor one with a value assigned. -/
def ofDashed (s : Text) : Except Refusal Argument :=
  if Text.startsWith ['-', '-'] s then
    let (name, attached) := assigned s
    match abbreviated name with
    | [] => .ok (ofOther s)
    | [f] => .ok (.flag f attached)
    | _ => .error .usage
  else
    match Flag.ofName? (s.take 2) with
    | some f => .ok (.flag f (.adjoined (s.drop 2)))
    | none => .ok (ofOther s)

/-- The argument that a text is. -/
def read (s : Text) : Except Refusal Argument :=
  if s.head? ≠ some '-' || s = ['-'] then .ok (.value s)
  else if s = ['-', '-'] then .ok .separator
  else
    match Flag.ofName? s with
    | some f => .ok (.flag f .nothing)
    | none =>
      let (name, attached) := assigned s
      match Flag.ofName? name with
      | some f => .ok (.flag f attached)
      | none => ofDashed s

/-- The arguments that texts are; after a separator all are values. -/
def readAll : List Text → Except Refusal (List Argument)
  | [] => .ok []
  | s :: rest => do
    match ← read s with
    | .separator => return .separator :: rest.map Argument.value
    | a => return a :: (← readAll rest)

end Argument

/-- What the command is asked to do. -/
structure Request where
  config : Text
  output : Option Text
  format : Format
  hostsIp : Text
  platform : Option Text
  concurrency : Int
  timeout : Binary64
  retries : Int
  verbose : Bool
deriving DecidableEq, Repr

namespace Request

/-- A request as far as it is read, and whether something was left over. -/
structure Draft where
  config : Option Text := none
  output : Option Text := none
  format : Format := .adblock
  hostsIp : Text := Output.defaultIp
  platform : Option Text := none
  concurrency : Int := 10
  timeout : Binary64 := .ofRat 30
  retries : Int := 3
  verbose : Bool := false
  leftOver : Bool := false

/-- What an argument adds to a request. -/
inductive Step where
  | switch (f : Flag)
  | set (f : Flag) (value : Text)
  | leftOver
  | wrong
deriving DecidableEq, Repr

/-- The steps of a short flag and the letters after it, and the flag whose value is still to come. -/
def cluster (f : Flag) : Text → List Step × Option Flag
  | [] => if f.takesValue then ([], some f) else ([.switch f], none)
  | '=' :: s => (if f.takesValue then [.set f s] else [.wrong], none)
  | c :: s =>
    if f.takesValue then ([.set f (c :: s)], none)
    else if c = '-' then ([.wrong], none)
    else
      match Flag.ofName? ['-', c] with
      | some g =>
        match cluster g s with
        | ([.wrong], _) => ([.wrong], none)
        | (steps, last) => (.switch f :: steps, last)
      | none => ([.switch f, .leftOver], none)

/-- The steps of a flag, and the flag whose value is still to come. -/
def stepsOf (f : Flag) : Attached → List Step × Option Flag
  | .nothing => cluster f []
  | .assigned s => cluster f ('=' :: s)
  | .adjoined s => cluster f s

/-- The steps of arguments. A flag that lacks its value is wrong before any step of its cluster. -/
def steps : List Argument → List Step
  | [] => []
  | .flag f attached :: rest =>
    match stepsOf f attached, rest with
    | (done, some g), .value s :: rest => done ++ .set g s :: steps rest
    | (_, some _), _ => [.wrong]
    | (done, none), rest => done ++ steps rest
  | _ :: rest => .leftOver :: steps rest

/-- The value that is read from a text, which has to be one. -/
def required {α : Type} : Option α → Except Refusal α
  | some a => .ok a
  | none => .error .usage

/-- The draft with the value of a flag. -/
def Draft.set (d : Draft) (value : Text) : Flag → Except Refusal Draft
  | .help | .verbose => .error .usage
  | .config => .ok { d with config := some value }
  | .output => .ok { d with output := some value }
  | .format => do return { d with format := ← required (Format.ofName? value) }
  | .hostsIp => .ok { d with hostsIp := value }
  | .platform => .ok { d with platform := some value }
  | .concurrency => do return { d with concurrency := ← required (Number.int? value) }
  | .timeout => do return { d with timeout := ← required (Number.binary64? value) }
  | .retries => do return { d with retries := ← required (Number.int? value) }

/-- The draft after one more step. -/
def Draft.step (d : Draft) : Step → Except Refusal Draft
  | .switch .help => .error .help
  | .switch .verbose => .ok { d with verbose := true }
  | .switch _ => .error .usage
  | .set f value => d.set value f
  | .leftOver => .ok { d with leftOver := true }
  | .wrong => .error .usage

/-- The request of a draft with nothing left over. -/
def ofDraft (d : Draft) : Except Refusal Request :=
  match d.config with
  | some config =>
    if d.leftOver then .error .usage
    else .ok ⟨config, d.output, d.format, d.hostsIp, d.platform, d.concurrency, d.timeout, d.retries,
      d.verbose⟩
  | none => .error .usage

/-- The request that arguments make. -/
def ofArguments (arguments : List Text) : Except Refusal Request := do
  ofDraft (← (steps (← Argument.readAll arguments)).foldlM Draft.step {})

end Request
end Blocklist
