import Blocklist.Proofs.Directive.Attempt
import Blocklist.Proofs.Directive.Expansion

/-!
# Documents

`Document lines` is a way to read `lines` as a tree: content, inclusions, conditional blocks with or
without an alternative, and Safari blocks, well nested. `reached` is what a platform sees of the tree,
in order, and `interpret` makes lines of it from left to right. `expand_eq_interpret`: expanding the
lines is interpreting the tree. The point is `Document.collect?_append`: a document that stands in a
branch passes through the scan for the end of a block as a whole, since each block in it takes the
depth up and down again.
-/

namespace Blocklist

/-- A tree of the given lines. What follows a mark is free, and so are the blanks around a line. -/
inductive Document : List SourceLine → Type
  | nil : Document []
  | content (l : SourceLine) (h : ∀ m ∈ Directive.marks, ¬ m <+: l.text.trim) {rest : List SourceLine}
      (tail : Document rest) : Document (l :: rest)
  | inclusion (l : SourceLine) (path : Text) (h : l.text.trim = Directive.inclusionMark ++ path)
      {rest : List SourceLine} (tail : Document rest) : Document (l :: rest)
  | conditional (opening : SourceLine) (condition : Text)
      (ho : opening.text.trim = Directive.openingMark ++ condition)
      {body : List SourceLine} (thenPart : Document body)
      (closing : SourceLine) (hc : Directive.closingMark <+: closing.text.trim)
      {rest : List SourceLine} (tail : Document rest) : Document (opening :: (body ++ closing :: rest))
  | choice (opening : SourceLine) (condition : Text)
      (ho : opening.text.trim = Directive.openingMark ++ condition)
      {body : List SourceLine} (thenPart : Document body)
      (alternative : SourceLine) (ha : Directive.alternativeMark <+: alternative.text.trim)
      {other : List SourceLine} (elsePart : Document other)
      (closing : SourceLine) (hc : Directive.closingMark <+: closing.text.trim)
      {rest : List SourceLine} (tail : Document rest) :
      Document (opening :: (body ++ alternative :: (other ++ closing :: rest)))
  | safari (opening : SourceLine) (ho : Directive.safariMark <+: opening.text.trim)
      {body : List SourceLine} (part : Document body)
      (hb : ∀ l ∈ body, l.text.trim ≠ Directive.safariMark)
      (closing : SourceLine) (hc : closing.text.trim = Directive.safariMark)
      {rest : List SourceLine} (tail : Document rest) : Document (opening :: (body ++ closing :: rest))

/-- What is left of a document when the blocks are gone. -/
inductive Item where
  | content (l : SourceLine)
  | inclusion (l : SourceLine) (path : Text)
deriving DecidableEq, Repr

namespace Item
variable {σ : Type}

/-- The lines of an item, where `inclusion` gives those of an included source. -/
def lines (inclusion : SourceLine → Text → Attempt DownloadError σ (List SourceLine)) :
    Item → Attempt DownloadError σ (List SourceLine)
  | .content l => pure [l]
  | .inclusion l path => inclusion l path

/-- The line of an inclusion and its path. -/
def inclusion? : Item → Option (SourceLine × Text)
  | .content _ => none
  | .inclusion l path => some (l, path)

/-- The lines of the items, from left to right. -/
def interpret (inclusion : SourceLine → Text → Attempt DownloadError σ (List SourceLine)) :
    List Item → Attempt DownloadError σ (List SourceLine)
  | [] => pure []
  | item :: rest => do
    let ls ← item.lines inclusion
    return ls ++ (← interpret inclusion rest)

theorem interpret_append (inclusion : SourceLine → Text → Attempt DownloadError σ (List SourceLine))
    (items more : List Item) :
    interpret inclusion (items ++ more) =
      (do let ls ← interpret inclusion items; return ls ++ (← interpret inclusion more)) := by
  induction items with
  | nil => simp [interpret]
  | cons item rest ih =>
    simp only [List.cons_append, interpret, ih, bind_assoc, pure_bind, List.append_assoc]

end Item

/-- What the platform sees of a document. -/
def Document.reached (platform : Option Text) : {lines : List SourceLine} → Document lines → List Item
  | _, .nil => []
  | _, .content l _ tail => .content l :: tail.reached platform
  | _, .inclusion l path _ tail => .inclusion l path.trim :: tail.reached platform
  | _, .conditional _ condition _ thenPart _ _ tail =>
    (if Condition.holds condition.trim platform then thenPart.reached platform else []) ++
      tail.reached platform
  | _, .choice _ condition _ thenPart _ _ elsePart _ _ tail =>
    (if Condition.holds condition.trim platform then thenPart.reached platform
      else elsePart.reached platform) ++ tail.reached platform
  | _, .safari _ _ _ _ _ _ tail => tail.reached platform

/-! ### The end of a block -/

namespace Block
variable {l : SourceLine} {inElse : Bool}

/-- The block with more lines in front of a branch. -/
def pushAll (inElse : Bool) (ls : List SourceLine) (b : Block) : Block := ls.foldr (push inElse) b

theorem pushAll_nil : pushAll inElse [] = id := rfl

theorem pushAll_cons (ls : List SourceLine) :
    pushAll inElse (l :: ls) = push inElse l ∘ pushAll inElse ls := rfl

theorem pushAll_append (ls more : List SourceLine) :
    pushAll inElse (ls ++ more) = pushAll inElse ls ∘ pushAll inElse more := by
  funext b
  exact List.foldr_append

theorem pushAll_false (ls : List SourceLine) (b : Block) :
    pushAll false ls b = ⟨ls ++ b.thenLines, b.elseLines, b.rest⟩ := by
  induction ls with
  | nil => rfl
  | cons l ls ih => rw [pushAll_cons, Function.comp_apply, ih]; rfl

theorem pushAll_true (ls : List SourceLine) (b : Block) :
    pushAll true ls b = ⟨b.thenLines, ls ++ b.elseLines, b.rest⟩ := by
  induction ls with
  | nil => rfl
  | cons l ls ih => rw [pushAll_cons, Function.comp_apply, ih]; rfl

end Block

namespace Document
variable {lines : List SourceLine}

/-- A document goes into the branch at hand as it is. -/
theorem collect?_append (d : Document lines) (depth : Nat) (inElse : Bool) (after : List SourceLine) :
    Block.collect? depth inElse (lines ++ after) =
      (Block.collect? depth inElse after).map (Block.pushAll inElse lines) := by
  induction d generalizing depth after with
  | nil => rw [List.nil_append, Block.pushAll_nil, Option.map_id_apply]
  | content l h tail ih =>
    have hl := Directive.of?_eq_none_iff.2 h
    rw [List.cons_append, Block.collect?_cons_of_flat (by simp [hl]) (by simp [hl]) (by simp [hl]), ih,
      Option.map_map]
    rfl
  | inclusion l path h tail ih =>
    have hl := Directive.of?_of_inclusion h
    rw [List.cons_append, Block.collect?_cons_of_flat (by simp [hl]) (by simp [hl]) (by simp [hl]), ih,
      Option.map_map]
    rfl
  | conditional opening condition ho thenPart closing hc tail ihThen ihTail =>
    rw [List.cons_append, List.append_assoc, List.cons_append,
      Block.collect?_cons_opening (Directive.of?_of_opening ho), ihThen,
      Block.collect?_cons_closing_succ (Directive.of?_of_closing hc), ihTail]
    simp only [Option.map_map, Block.pushAll_cons, Block.pushAll_append]
  | choice opening condition ho thenPart alternative ha elsePart closing hc tail ihThen ihElse ihTail =>
    simp only [List.cons_append, List.append_assoc]
    rw [Block.collect?_cons_opening (Directive.of?_of_opening ho), ihThen,
      Block.collect?_cons_alternative_succ (Directive.of?_of_alternative ha), ihElse,
      Block.collect?_cons_closing_succ (Directive.of?_of_closing hc), ihTail]
    simp only [Option.map_map, Block.pushAll_cons, Block.pushAll_append]
  | safari opening ho part hb closing hc tail ihPart ihTail =>
    obtain ⟨r, ho⟩ := ho
    have hl := Directive.of?_of_safari ho.symm
    have hl' : Directive.of? closing.text = some (.safari _) :=
      Directive.of?_of_safari (hc.trans (List.append_nil _).symm)
    rw [List.cons_append, List.append_assoc, List.cons_append,
      Block.collect?_cons_of_flat (by simp [hl]) (by simp [hl]) (by simp [hl]), ihPart,
      Block.collect?_cons_of_flat (by simp [hl']) (by simp [hl']) (by simp [hl']), ihTail]
    simp only [Option.map_map, Block.pushAll_cons, Block.pushAll_append]

/-- The scan finds the line that closes the block. -/
theorem read?_conditional {body rest : List SourceLine} (d : Document body) {closing : SourceLine}
    (hc : Directive.closingMark <+: closing.text.trim) :
    Block.read? (body ++ closing :: rest) = some ⟨body, [], rest⟩ := by
  rw [Block.read?, d.collect?_append, Block.collect?_cons_closing (Directive.of?_of_closing hc),
    Option.map_some, Block.pushAll_false, List.append_nil]

/-- The scan finds the line between the branches and the one that closes the block. -/
theorem read?_choice {body other rest : List SourceLine} (d : Document body) (d' : Document other)
    {alternative closing : SourceLine} (ha : Directive.alternativeMark <+: alternative.text.trim)
    (hc : Directive.closingMark <+: closing.text.trim) :
    Block.read? (body ++ alternative :: (other ++ closing :: rest)) = some ⟨body, other, rest⟩ := by
  rw [Block.read?, d.collect?_append, Block.collect?_cons_alternative (Directive.of?_of_alternative ha),
    d'.collect?_append, Block.collect?_cons_closing (Directive.of?_of_closing hc), Option.map_some,
    Option.map_some, Block.pushAll_true, Block.pushAll_false, List.append_nil, List.append_nil]

end Document

/-! ### Expansion -/

theorem dropSafariBlock_append {body : List SourceLine} (hb : ∀ l ∈ body, l.text.trim ≠ Directive.safariMark)
    {closing : SourceLine} (hc : closing.text.trim = Directive.safariMark) (rest : List SourceLine) :
    dropSafariBlock (body ++ closing :: rest) = rest := by
  induction body with
  | nil => simp [dropSafariBlock, hc]
  | cons l body ih =>
    have hl := hb l (List.mem_cons_self ..)
    rw [List.cons_append, dropSafariBlock, if_neg hl, ih fun l' h => hb l' (List.mem_cons_of_mem _ h)]

section
variable {σ : Type} {platform : Option Text}
  {inclusion : SourceLine → Text → Attempt DownloadError σ (List SourceLine)}

/-- Expanding lines that are a document interprets the document. -/
theorem Document.expand_eq_interpret {lines : List SourceLine} (d : Document lines) :
    expand platform inclusion lines = Item.interpret inclusion (d.reached platform) := by
  induction d with
  | nil => rw [expand_nil]; rfl
  | content l h tail ih =>
    rw [expand_cons_content (Directive.of?_eq_none_iff.2 h), ih]
    simp [reached, Item.interpret, Item.lines]
  | inclusion l path h tail ih =>
    rw [expand_cons_inclusion (Directive.of?_of_inclusion h), ih]
    rfl
  | conditional opening condition ho thenPart closing hc tail ihThen ihTail =>
    rw [expand_cons_opening (Directive.of?_of_opening ho) (read?_conditional thenPart hc), reached,
      Item.interpret_append, ← ihTail, Block.chosen]
    split
    · rw [ihThen]
    · rw [expand_nil]; rfl
  | choice opening condition ho thenPart alternative ha elsePart closing hc tail ihThen ihElse ihTail =>
    rw [expand_cons_opening (Directive.of?_of_opening ho) (read?_choice thenPart elsePart ha hc), reached,
      Item.interpret_append, ← ihTail, Block.chosen]
    split
    · rw [ihThen]
    · rw [ihElse]
  | safari opening ho part hb closing hc tail ihPart ihTail =>
    obtain ⟨r, ho⟩ := ho
    rw [expand_cons_safari (Directive.of?_of_safari ho.symm), dropSafariBlock_append hb hc, ihTail]
    rfl

/-! ### Inclusions -/

/-- The inclusions that the platform sees in a document, in order. -/
def Document.inclusions (platform : Option Text) {lines : List SourceLine} (d : Document lines) :
    List (SourceLine × Text) :=
  (d.reached platform).filterMap Item.inclusion?

/-- `inclusion`, which also keeps a list of the lines and paths that it is asked for. -/
def recorded (inclusion : SourceLine → Text → Attempt DownloadError σ (List SourceLine)) (l : SourceLine)
    (path : Text) : Attempt DownloadError (σ × List (SourceLine × Text)) (List SourceLine) :=
  ExceptT.mk fun (s, calls) =>
    let (r, s') := (inclusion l path).run s
    (r, s', calls ++ [(l, path)])

theorem Item.run_interpret_cons (item : Item) (rest : List Item) (s : σ) :
    (interpret inclusion (item :: rest)).run s =
      match (item.lines inclusion).run s with
      | (.ok ls, s') =>
        match (interpret inclusion rest).run s' with
        | (.ok more, s'') => (.ok (ls ++ more), s'')
        | (.error e, s'') => (.error e, s'')
      | (.error e, s') => (.error e, s') := by
  rw [interpret, Attempt.run_bind]
  rcases (item.lines inclusion).run s with ⟨_ | ls, s'⟩
  · rfl
  · dsimp only
    rw [Attempt.run_bind]
    rcases (interpret inclusion rest).run s' with ⟨_ | more, s''⟩ <;> rfl

theorem Item.run_lines_recorded (item : Item) (s : σ) (calls : List (SourceLine × Text)) :
    (item.lines (recorded inclusion)).run (s, calls) =
      (((item.lines inclusion).run s).1, ((item.lines inclusion).run s).2,
        calls ++ item.inclusion?.toList) := by
  cases item with
  | content l => simp only [lines, inclusion?, Attempt.run_pure, Option.toList_none, List.append_nil]
  | inclusion l path => rfl

variable (inclusion) in
/-- Interpreting some items asks for their inclusions in order, for all of them unless it fails. -/
theorem Item.run_interpret_recorded (items : List Item) (s : σ) (calls : List (SourceLine × Text)) :
    ∃ more, (interpret (recorded inclusion) items).run (s, calls) =
        (((interpret inclusion items).run s).1, ((interpret inclusion items).run s).2, calls ++ more) ∧
      more <+: items.filterMap inclusion? ∧
      ∀ ls, ((interpret inclusion items).run s).1 = .ok ls → more = items.filterMap inclusion? := by
  induction items generalizing s calls with
  | nil => exact ⟨[], by simp [interpret, Attempt.run_pure], List.nil_prefix, fun _ _ => rfl⟩
  | cons item rest ih =>
    have hcalls : (item :: rest).filterMap inclusion? =
        item.inclusion?.toList ++ rest.filterMap inclusion? := by
      cases item <;> rfl
    rw [hcalls, run_interpret_cons, run_interpret_cons, run_lines_recorded]
    rcases (item.lines inclusion).run s with ⟨e | ls, s'⟩
    · exact ⟨_, rfl, List.prefix_append .., fun _ h => by cases h⟩
    · obtain ⟨more, hrun, hpre, hall⟩ := ih s' (calls ++ item.inclusion?.toList)
      refine ⟨item.inclusion?.toList ++ more, ?_, (List.prefix_append_right_inj _).2 hpre, ?_⟩
      · dsimp only
        rw [hrun]
        rcases (interpret inclusion rest).run s' with ⟨e | ls', s''⟩ <;> simp only [List.append_assoc]
      · intro ls' h
        dsimp only at h
        rcases hrest : (interpret inclusion rest).run s' with ⟨e | more', s''⟩
        · rw [hrest] at h; cases h
        · rw [hall more' (by rw [hrest])]

/-- An expansion, whatever an inclusion does to the state, ends with the result and the state that the
document says, and asks for exactly the inclusions that the platform sees, in order. In a download the
state is the sources that it met and the state of the fetcher. -/
theorem Document.run_expand {lines : List SourceLine} (d : Document lines) (s : σ) :
    ∃ r s' calls,
      (expand platform inclusion lines).run s = (r, s') ∧
      (Item.interpret inclusion (d.reached platform)).run s = (r, s') ∧
      (expand platform (recorded inclusion) lines).run (s, []) = (r, s', calls) ∧
      calls <+: d.inclusions platform ∧ ∀ ls, r = .ok ls → calls = d.inclusions platform := by
  obtain ⟨calls, hrun, hpre, hall⟩ :=
    Item.run_interpret_recorded inclusion (d.reached platform) s []
  refine ⟨_, _, calls, ?_, rfl, ?_, hpre, hall⟩
  · rw [d.expand_eq_interpret]
    rfl
  · rw [d.expand_eq_interpret, hrun]
    rfl

end

end Blocklist
