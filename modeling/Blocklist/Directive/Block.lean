import Blocklist.Directive.Line

/-!
# Conditional blocks

The lines from an opening directive to the one that closes it, in two branches. A block that stands in
a branch is part of it, directives included; only an alternative at the level of the block itself
separates the branches. Main statement: `Block.length_rest_lt`, that a block and what follows it are
shorter than the lines they are read from.
-/

namespace Blocklist

/-- The branches of a conditional block, and the lines after it. -/
structure Block where
  thenLines : List SourceLine
  elseLines : List SourceLine
  rest : List SourceLine
deriving DecidableEq, Repr

namespace Block

/-- The block with one more line in front of a branch. -/
def push (inElse : Bool) (l : SourceLine) (b : Block) : Block :=
  if inElse then { b with elseLines := l :: b.elseLines }
  else { b with thenLines := l :: b.thenLines }

/-- The block whose opening line has been read, where `depth` further blocks are open and `inElse` says
which branch the lines belong to; none if it is not closed. -/
def collect? : (depth : Nat) → (inElse : Bool) → List SourceLine → Option Block
  | _, _, [] => none
  | depth, inElse, l :: rest =>
    match Directive.of? l.text with
    | some (.opening _) => (collect? (depth + 1) inElse rest).map (push inElse l)
    | some .closing =>
      match depth with
      | 0 => some ⟨[], [], rest⟩
      | d + 1 => (collect? d inElse rest).map (push inElse l)
    | some .alternative =>
      match depth with
      | 0 => collect? 0 true rest
      | d + 1 => (collect? (d + 1) inElse rest).map (push inElse l)
    | _ => (collect? depth inElse rest).map (push inElse l)

/-- The block whose opening line stands before `lines`. -/
def read? (lines : List SourceLine) : Option Block := collect? 0 false lines

/-- The number of lines of a block and after it. -/
def size (b : Block) : Nat := b.thenLines.length + b.elseLines.length + b.rest.length

@[simp] theorem size_push (inElse : Bool) (l : SourceLine) (b : Block) :
    (push inElse l b).size = b.size + 1 := by
  cases inElse <;> simp [push, size] <;> omega

/-- The closing line belongs to neither branch. -/
theorem size_lt_of_collect? {depth : Nat} {inElse : Bool} {lines : List SourceLine} {b : Block}
    (h : collect? depth inElse lines = some b) : b.size < lines.length := by
  induction lines generalizing depth inElse b with
  | nil => simp [collect?] at h
  | cons l rest ih =>
    have pushed {d : Nat} {e : Bool} (h : (collect? d e rest).map (push inElse l) = some b) :
        b.size < (l :: rest).length := by
      obtain ⟨b', hb', rfl⟩ := Option.map_eq_some_iff.1 h
      have := ih hb'
      simp only [size_push, List.length_cons]
      omega
    rw [collect?.eq_def] at h
    dsimp only at h
    split at h
    · exact pushed h
    · split at h
      · simp only [Option.some.injEq] at h
        subst h
        simp [size]
      · exact pushed h
    · split at h
      · have := ih h
        simp only [List.length_cons]
        omega
      · exact pushed h
    · exact pushed h

theorem size_lt_of_read? {lines : List SourceLine} {b : Block} (h : read? lines = some b) :
    b.size < lines.length :=
  size_lt_of_collect? h

theorem length_thenLines_lt {lines : List SourceLine} {b : Block} (h : read? lines = some b) :
    b.thenLines.length < lines.length := by
  have := size_lt_of_read? h
  simp only [size] at this
  omega

theorem length_elseLines_lt {lines : List SourceLine} {b : Block} (h : read? lines = some b) :
    b.elseLines.length < lines.length := by
  have := size_lt_of_read? h
  simp only [size] at this
  omega

theorem length_rest_lt {lines : List SourceLine} {b : Block} (h : read? lines = some b) :
    b.rest.length < lines.length := by
  have := size_lt_of_read? h
  simp only [size] at this
  omega

end Block
end Blocklist
