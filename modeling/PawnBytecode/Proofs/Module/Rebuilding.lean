import PawnBytecode.Proofs.Module.Layout
import PawnBytecode.Proofs.Tree.Grouping

namespace PawnBytecode

namespace Code

theorem length_cells_of_mem {items : List Item} {item : Item} (member : item ∈ items) :
    item.cells.length ≤ (cells items).length := by
  induction items with
  | nil => cases member
  | cons first items ih =>
    rw [cells_cons, List.length_append]
    rcases List.mem_cons.mp member with rfl | member
    · exact Nat.le_add_right ..
    · exact Nat.le_trans (ih member) (Nat.le_add_left ..)

/-- A segment below 4 GiB holds no case table whose records a cell could not count. -/
theorem Item.countable_of_length {size : CellSize} {items : List Item} {item : Item}
    (bound : (Code.cells items).length < 2 ^ 32) (member : item ∈ items) : item.Countable size := by
  cases item with
  | plain => trivial
  | caseTable default records =>
    have within := length_cells_of_mem member
    have recordsWithin : records.length ≤ (recordCells records).length := by
      simp only [recordCells, List.length_flatMap, List.length_cons, List.length_nil, List.map_const',
        List.sum_replicate_nat]
      omega
    have wide : 2 ^ 32 ≤ 2 ^ (8 * size.bytes) := by cases size <;> decide
    have inside : (recordCells records).length ≤ (Item.caseTable default records).cells.length := by
      simp only [Item.cells_eq, operandCells, List.length_cons]
      omega
    show records.length < 2 ^ (8 * size.bytes)
    omega

/-- Every item of a function is one that cells hold. -/
theorem Routine.Held.item {size : CellSize} {routine : Routine} (held : routine.Held size)
    {item : Item} (member : item ∈ routine.items) : item.Held size := by
  rcases List.mem_cons.mp member with rfl | member
  · exact .plain (by decide) (by decide) rfl (fun operand none => by cases none)
  · obtain ⟨segment, present, inside⟩ := List.mem_flatMap.mp member
    rcases List.mem_append.mp inside with inner | closing
    · exact (held segment present item inner).held
    · obtain rfl := List.mem_singleton.mp closing
      cases segment.2
      · exact .plain (by decide) (by decide) rfl (fun operand none => by cases none)
      · exact .plain (by decide) (by decide) rfl (fun operand none => by cases none)

theorem routineItems_cons (routine : Routine) (routines : List Routine) :
    routineItems (routine :: routines) = routine.items ++ routineItems routines := List.flatMap_cons

theorem Routine.length_placedAt (size : CellSize) (offset : Nat) (routines : List Routine) :
    (placedAt size offset routines).length = routines.length := by
  induction routines generalizing offset with
  | nil => rfl
  | cons routine routines ih => rw [placedAt, List.length_cons, ih, List.length_cons]

/-- A function is placed behind the cells of the functions before it. -/
theorem Routine.placedAt_append (size : CellSize) (offset : Nat) (before after : List Routine)
    (routine : Routine) :
    (placedAt size offset (before ++ routine :: after))[before.length]? =
      some (offset + size.bytes * (cells (routineItems before)).length,
        bodyAt size (offset + size.bytes * (cells (routineItems before)).length + size.bytes)
          routine.segments) := by
  induction before generalizing offset with
  | nil => rfl
  | cons first before ih =>
    have place : offset + size.bytes * (cells (routineItems (first :: before))).length =
        offset + size.bytes * (cells first.items).length +
          size.bytes * (cells (routineItems before)).length := by
      rw [routineItems_cons, cells_append, List.length_append, Nat.mul_add, Nat.add_assoc]
    rw [List.cons_append, placedAt, List.length_cons, List.getElem?_cons_succ, ih, place]

end Code

namespace Module

open Code (Item Routine routineItems)

/-- A function as it was written at an offset of the code: named by the first public there, with
the instructions of its segments and the callees that the symbols give them. -/
structure Rebuilds (size : CellSize) (symbols : SymbolTable) (offset : Nat) (routine : Routine)
    (function : Tree.Function) : Prop where
  address : function.address = offset
  name : symbols.Names offset function.name
  isPublic : function.isPublic ↔ ∃ symbol ∈ symbols.publics, symbol.address = offset
  body : function.body.map Tree.Annotated.instruction =
    Routine.bodyAt size (offset + size.bytes) routine.segments
  comments : ∀ line ∈ function.body, symbols.Comments line.instruction line.comment

theorem inner_bodyAt {size : CellSize} {segments : List (List Item × Code.Closing)}
    (inner : ∀ segment ∈ segments, ∀ item ∈ segment.1, item.Inner size) (offset : Nat) :
    ∀ instruction ∈ Routine.bodyAt size offset segments, instruction.Inner := by
  induction segments generalizing offset with
  | nil =>
    intro instruction member
    cases member
  | cons segment segments ih =>
    intro instruction member
    rcases List.mem_append.mp member with first | rest
    · exact Code.inner_instructionsAt (inner segment List.mem_cons_self) offset instruction first
    · exact ih (fun segment member => inner segment (List.mem_cons_of_mem _ member)) _ instruction rest

theorem rebuilds_functionOf {size : CellSize} {routine : Routine} (held : routine.Held size)
    (symbols : SymbolTable) (offset : Nat) :
    Rebuilds size symbols offset routine (Tree.functionOf symbols
      (offset, Routine.bodyAt size (offset + size.bytes) routine.segments)) := by
  constructor
  · rfl
  · exact SymbolTable.names_iff.mpr rfl
  · simp [Tree.functionOf, Tree.Progress.entry, SymbolTable.findPublic, List.find?_isSome]
  · simp [Tree.functionOf, Tree.lineOf, Function.comp_def]
  · intro line member
    obtain ⟨instruction, inside, rfl⟩ := List.mem_map.mp member
    exact SymbolTable.comments_iff.mpr
      (symbols.annotate_of_counted (inner_bodyAt held _ instruction inside).counted)

/-- The code of an assembled image is decoded into its functions. -/
theorem Parts.Fits.instructions {parts : Parts} {prolog : Bytes} {routines : List Routine}
    (fits : parts.Fits) (fixed : parts.flags &&& 0x04 = 0)
    (length : prolog.length = 2 * parts.cellSize.bytes)
    (code : parts.code = Code.encode parts.cellSize prolog (routineItems routines))
    (held : ∀ routine ∈ routines, routine.Held parts.cellSize) :
    parts.assembled.instructions = .ok (Code.instructionsAt parts.cellSize
      (2 * parts.cellSize.bytes) (routineItems routines)) := by
  have inside : parts.code.length ≤ parts.length := by
    simp only [Parts.length, Parts.dataStart]
    omega
  have width : parts.code.length = 2 * parts.cellSize.bytes +
      parts.cellSize.bytes * (Code.cells (routineItems routines)).length := by
    rw [code, Code.encode, List.length_append, length, CellSize.length_encode]
  have bound : (Code.cells (routineItems routines)).length < 2 ^ 32 := by
    have small := fits.length
    have cell := Nat.le_mul_of_pos_left (Code.cells (routineItems routines)).length
      parts.cellSize.bytes_pos
    omega
  rw [instructions_assembled fixed, code]
  apply Code.decode_of_items length
  intro item member
  obtain ⟨routine, present, within⟩ := List.mem_flatMap.mp member
  exact ⟨(held routine present).item within, Item.countable_of_length bound member⟩

/-- Rebuilding undoes assembling: the functions come back in order, each at the offset where its
entry stands in the code, and nothing is dropped. -/
theorem rebuild_assembled {parts : Parts} {symbols : SymbolTable} {prolog : Bytes}
    {routines : List Routine} (fits : parts.Fits) (spelled : parts.SpellsAll symbols)
    (fixed : parts.flags &&& 0x04 = 0) (length : prolog.length = 2 * parts.cellSize.bytes)
    (code : parts.code = Code.encode parts.cellSize prolog (routineItems routines))
    (held : ∀ routine ∈ routines, routine.Held parts.cellSize) :
    ∃ module functions, parse parts.image parts.cellSize.bytes = .ok module ∧
      module.rebuild = .ok ⟨⟨functions⟩, []⟩ ∧ functions.length = routines.length ∧
      ∀ before routine after, routines = before ++ routine :: after →
        ∃ function, functions[before.length]? = some function ∧
          Rebuilds parts.cellSize symbols
            (Code.encode parts.cellSize prolog (routineItems before)).length routine function := by
  refine ⟨parts.assembled, (Routine.placedAt parts.cellSize (2 * parts.cellSize.bytes) routines).map
    (Tree.functionOf symbols), fits.parse, ?_, ?_, ?_⟩
  · have grouped := Tree.rebuild_routines held symbols (2 * parts.cellSize.bytes)
    rw [← spelled.symbols_eq] at grouped ⊢
    simp only [rebuild, fits.instructions fixed length code held, fits.publics, fits.natives,
      Failure.lift, bind, Except.bind]
    exact grouped
  · rw [List.length_map, Routine.length_placedAt]
  · intro before routine after same
    have place : (Code.encode parts.cellSize prolog (routineItems before)).length =
        2 * parts.cellSize.bytes + parts.cellSize.bytes * (Code.cells (routineItems before)).length := by
      rw [Code.encode, List.length_append, length, CellSize.length_encode]
    have present : routine ∈ routines := by simp [same]
    refine ⟨_, ?_, rebuilds_functionOf (held routine present) symbols _⟩
    rw [List.getElem?_map, same, Routine.placedAt_append, place]
    rfl

/-- Two functions; operands and case cells hold the numbers of an entry and of a closing
instruction. -/
def sampleRoutines : List Routine :=
  [⟨[([.plain .constPri [0x2E], .caseTable 0x30 [(0x2E, -1)]], .breakpoint),
      ([.plain .sysreqC [0]], .retn)]⟩,
    ⟨[([], .retn)]⟩]

def sampleParts : Parts where
  cellSize := .four
  flags := 0
  definitionSize := 8
  stack := 0x4000
  entry := 0xFFFFFFFF
  publics := [([0x6D, 0xE9], 8)]
  natives := [([0x70], 0)]
  code := Code.encode .four (List.replicate 8 0xFF) (routineItems sampleRoutines)
  data := [1, 2, 3, 4]

def sampleSymbols : SymbolTable := ⟨[⟨"mé", 8⟩], [⟨"p", 0⟩]⟩

/-- Boundary numbers among the operands of a public function stay in its body. -/
theorem rebuild_assembled_sample :
    sampleParts.Fits ∧ sampleParts.SpellsAll sampleSymbols ∧
      (∀ routine ∈ sampleRoutines, routine.Held .four) ∧
      ∃ module functions, parse sampleParts.image 4 = .ok module ∧
        module.rebuild = .ok ⟨⟨functions⟩, []⟩ ∧ functions.length = 2 ∧
        ∀ before routine after, sampleRoutines = before ++ routine :: after →
          ∃ function, functions[before.length]? = some function ∧
            Rebuilds .four sampleSymbols
              (Code.encode .four (List.replicate 8 0xFF) (routineItems before)).length routine function := by
  have fits : sampleParts.Fits := by
    refine ⟨?_, ?_, ?_, ?_, ?_, ?_⟩ <;> decide
  have spelled : sampleParts.SpellsAll sampleSymbols :=
    ⟨.cons ⟨by decide, rfl⟩ .nil, .cons ⟨by decide, rfl⟩ .nil⟩
  have held : ∀ routine ∈ sampleRoutines, routine.Held .four := by
    intro routine member segment present item inside
    rcases List.mem_cons.mp member with rfl | member
    · rcases List.mem_cons.mp present with rfl | present
      · rcases List.mem_cons.mp inside with rfl | inside
        · exact ⟨.plain (by decide) (by decide) rfl (by decide), rfl, rfl⟩
        · obtain rfl := List.mem_singleton.mp inside
          exact ⟨.caseTable (by decide) (by decide), rfl, rfl⟩
      · obtain rfl := List.mem_singleton.mp present
        obtain rfl := List.mem_singleton.mp inside
        exact ⟨.plain (by decide) (by decide) rfl (by decide), rfl, rfl⟩
    · obtain rfl := List.mem_singleton.mp member
      obtain rfl := List.mem_singleton.mp present
      cases inside
  exact ⟨fits, spelled, held, rebuild_assembled fits spelled (by decide) rfl rfl held⟩

end Module

end PawnBytecode
