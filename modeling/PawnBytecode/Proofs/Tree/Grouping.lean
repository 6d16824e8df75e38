import PawnBytecode.Code.Routine
import PawnBytecode.Proofs.Shown
import PawnBytecode.Proofs.Traversal
import PawnBytecode.Tree.Rebuild

namespace PawnBytecode

namespace Code

/-- An item of a segment: held by cells, and no boundary. -/
structure Item.Inner (size : CellSize) (item : Item) : Prop where
  held : item.Held size
  opens : item.opcode.opensFunction = false
  closes : item.opcode.closesStretch = false

def Routine.Held (size : CellSize) (routine : Routine) : Prop :=
  ∀ segment ∈ routine.segments, ∀ item ∈ segment.1, item.Inner size

end Code

namespace Instruction

/-- An instruction that the pass lets wait, with its operands. -/
structure Inner (instruction : Instruction) : Prop where
  counted : instruction.Counted
  opens : instruction.opcode.opensFunction = false
  closes : instruction.opcode.closesStretch = false

end Instruction

namespace Code

/-- The records of a case table are no boundaries either, whatever their cells hold. -/
theorem Item.Inner.instructionsAt {size : CellSize} {offset : Nat} {item : Item}
    {instruction : Instruction} (inner : item.Inner size)
    (member : instruction ∈ item.instructionsAt size offset) : instruction.Inner := by
  obtain ⟨held, opens, closes⟩ := inner
  cases held with
  | plain _ _ counted _ =>
    obtain rfl := List.mem_singleton.mp member
    exact ⟨counted, opens, closes⟩
  | caseTable _ _ =>
    rcases List.mem_cons.mp member with rfl | member
    · exact ⟨rfl, opens, closes⟩
    · obtain ⟨record, entry, _, operands⟩ := mem_recordsAt member
      refine ⟨?_, ?_, ?_⟩
      · rw [Instruction.Counted, operands, record]
        rfl
      · rw [record]
        rfl
      · rw [record]
        rfl

theorem inner_instructionsAt {size : CellSize} {items : List Item}
    (inner : ∀ item ∈ items, item.Inner size) (offset : Nat) :
    ∀ instruction ∈ instructionsAt size offset items, instruction.Inner := by
  intro instruction member
  obtain ⟨item, present, _, inside⟩ := mem_instructionsAt member
  exact (inner item present).instructionsAt inside

end Code

namespace Tree

open Code (instructionsAt)

variable {symbols : SymbolTable}

def lineOf (symbols : SymbolTable) (instruction : Instruction) : Annotated :=
  ⟨instruction, symbols.callee instruction⟩

theorem mapM_annotated {instructions : List Instruction}
    (named : ∀ instruction ∈ instructions, instruction.NamesCallee) (symbols : SymbolTable) :
    instructions.mapM (Progress.annotated symbols) = .ok (instructions.map (lineOf symbols)) := by
  refine Traversal.mapM_of_forall fun instruction member => ?_
  rw [Progress.annotated, symbols.annotate_of_namesCallee (named instruction member)]
  rfl

namespace Function

def extend (function : Function) (symbols : SymbolTable) (lines : List Instruction) : Function :=
  { function with body := (lines.map (lineOf symbols)).reverse ++ function.body }

theorem extend_append (function : Function) (first second : List Instruction) :
    (function.extend symbols first).extend symbols second = function.extend symbols (first ++ second) := by
  simp [extend]

end Function

namespace Progress

/-- What neither opens nor closes anything waits. -/
theorem foldlM_waiting {instructions : List Instruction}
    (opens : ∀ instruction ∈ instructions, instruction.opcode.opensFunction = false)
    (closes : ∀ instruction ∈ instructions, instruction.opcode.closesStretch = false)
    (symbols : SymbolTable) (progress : Progress) :
    instructions.foldlM (step symbols) progress =
      .ok { progress with waiting := instructions.reverse ++ progress.waiting } := by
  induction instructions generalizing progress with
  | nil => rfl
  | cons instruction instructions ih =>
    have waits : step symbols progress instruction =
        .ok { progress with waiting := instruction :: progress.waiting } := by
      simp [step, opens instruction, closes instruction]
    have others := ih (fun instruction member => opens instruction (List.mem_cons_of_mem _ member))
      (fun instruction member => closes instruction (List.mem_cons_of_mem _ member))
      { progress with waiting := instruction :: progress.waiting }
    rw [List.foldlM_cons, waits]
    simpa [bind, Except.bind] using others

theorem step_closing {instruction : Instruction} (opens : instruction.opcode.opensFunction = false)
    (closes : instruction.opcode.closesStretch = true) {lines : List Instruction}
    (named : ∀ line ∈ lines, line.NamesCallee) (current : Function) (closed : List Function)
    (drops : List Drop) :
    step symbols ⟨current :: closed, lines.reverse, drops⟩ instruction =
      .ok ⟨current.extend symbols lines :: closed, [], drops⟩ := by
  simp only [step, opens, closes, Bool.false_eq_true, ↓reduceIte, close, List.reverse_reverse,
    mapM_annotated named, bind, Except.bind, pure, Except.pure]
  rfl

open Code (cells Closing Routine) in
/-- The segments of a function are added to it one after another, and nothing is left waiting. -/
theorem foldlM_segments {size : CellSize} {segments : List (List Code.Item × Closing)}
    (inner : ∀ segment ∈ segments, ∀ item ∈ segment.1, item.Inner size) (offset : Nat)
    (current : Function) (closed : List Function) (drops : List Drop) :
    (instructionsAt size offset (segments.flatMap Routine.segmentItems)).foldlM (step symbols)
        ⟨current :: closed, [], drops⟩ =
      .ok ⟨current.extend symbols (Routine.bodyAt size offset segments) :: closed, [], drops⟩ := by
  induction segments generalizing offset current with
  | nil => rfl
  | cons segment segments ih =>
    have lines := Code.inner_instructionsAt (inner segment List.mem_cons_self) offset
    have waits := foldlM_waiting (fun line member => (lines line member).opens)
      (fun line member => (lines line member).closes) symbols ⟨current :: closed, [], drops⟩
    have closing : ∀ start, step symbols
        ⟨current :: closed, (instructionsAt size offset segment.1).reverse, drops⟩
          ⟨start, segment.2.opcode, []⟩ =
        .ok ⟨current.extend symbols (instructionsAt size offset segment.1) :: closed, [], drops⟩ := by
      intro start
      apply step_closing
      · cases segment.2 <;> rfl
      · cases segment.2 <;> rfl
      · exact fun line member => (lines line member).counted.namesCallee
    have others := ih (fun segment member => inner segment (List.mem_cons_of_mem _ member))
      (offset + size.bytes * (cells (Routine.segmentItems segment)).length)
      (current.extend symbols (instructionsAt size offset segment.1))
    rw [Function.extend_append] at others
    rw [List.append_nil] at waits
    rw [List.flatMap_cons, Code.instructionsAt_append, List.foldlM_append, Routine.segmentItems,
      Code.instructionsAt_append, List.foldlM_append, waits]
    simp only [bind, Except.bind, Code.instructionsAt, Code.Item.instructionsAt, List.append_nil,
      List.foldlM_cons, List.foldlM_nil, closing, pure, Except.pure]
    exact others

open Code (Routine) in
theorem foldlM_routine {size : CellSize} {routine : Routine} (held : routine.Held size) (offset : Nat)
    (functions : List Function) (drops : List Drop) :
    (instructionsAt size offset routine.items).foldlM (step symbols) ⟨functions, [], drops⟩ =
      .ok ⟨(entry symbols offset).extend symbols
        (Routine.bodyAt size (offset + size.bytes) routine.segments) :: functions, [], drops⟩ := by
  have opened : step symbols ⟨functions, [], drops⟩ ⟨offset, .proc, []⟩ =
      .ok ⟨entry symbols offset :: functions, [], drops⟩ := rfl
  have width : size.bytes * (Code.Item.plain .proc []).cells.length = size.bytes := Nat.mul_one _
  rw [Routine.items, instructionsAt, Code.Item.instructionsAt, List.singleton_append, List.foldlM_cons,
    opened, width]
  exact foldlM_segments held _ _ functions drops

open Code (cells Routine routineItems) in
/-- Functions that stand one after another are taken one after another. -/
theorem foldlM_routines {size : CellSize} {routines : List Routine}
    (held : ∀ routine ∈ routines, routine.Held size) (offset : Nat) (functions : List Function)
    (drops : List Drop) :
    (instructionsAt size offset (routineItems routines)).foldlM (step symbols) ⟨functions, [], drops⟩ =
      .ok ⟨((Routine.placedAt size offset routines).map fun placed =>
        (entry symbols placed.1).extend symbols placed.2).reverse ++ functions, [], drops⟩ := by
  induction routines generalizing offset functions with
  | nil => rfl
  | cons routine routines ih =>
    have others := ih (fun routine member => held routine (List.mem_cons_of_mem _ member))
      (offset + size.bytes * (cells routine.items).length)
      ((entry symbols offset).extend symbols
        (Routine.bodyAt size (offset + size.bytes) routine.segments) :: functions)
    rw [routineItems, List.flatMap_cons, Code.instructionsAt_append, List.foldlM_append,
      foldlM_routine (held routine List.mem_cons_self)]
    simp only [Routine.placedAt, List.map_cons, List.reverse_cons, List.append_assoc,
      List.singleton_append]
    exact others

end Progress

def functionOf (symbols : SymbolTable) (placed : Nat × List Instruction) : Function :=
  { Progress.entry symbols placed.1 with body := placed.2.map (lineOf symbols) }

/-- The stream of functions is grouped into them, and nothing is dropped. -/
theorem rebuild_routines {size : CellSize} {routines : List Code.Routine}
    (held : ∀ routine ∈ routines, routine.Held size) (symbols : SymbolTable) (offset : Nat) :
    rebuild symbols (instructionsAt size offset (Code.routineItems routines)) =
      .ok ⟨⟨(Code.Routine.placedAt size offset routines).map (functionOf symbols)⟩, []⟩ := by
  have bodies : ∀ placed : Nat × List Instruction,
      { (Progress.entry symbols placed.1).extend symbols placed.2 with
        body := ((Progress.entry symbols placed.1).extend symbols placed.2).body.reverse } =
        functionOf symbols placed := by
    intro placed
    simp [Function.extend, Progress.entry, functionOf]
  rw [rebuild, Progress.start, Progress.foldlM_routines held]
  simp only [bind, Except.bind, pure, Except.pure, Progress.finish, List.append_nil, List.isEmpty_nil,
    ↓reduceIte, List.reverse_nil, List.map_reverse, List.reverse_reverse, List.map_map]
  congr 4
  exact funext bodies

end Tree

end PawnBytecode
