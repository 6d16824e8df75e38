import PawnBytecode.Proofs.Acceptance
import PawnBytecode.Proofs.Module.Tables

/-! Calls and the publics that they name. The address of a public is a number without a sign and the target
of a call is one with a sign, so they meet where the target is below half of the cell's numbers; from
there on the target is negative, where no public is. -/
namespace PawnBytecode

namespace Code

variable {size : CellSize} {code : Bytes} {instructions : List Instruction} {instruction : Instruction}

/-- The cells of an instruction stand at its offset. -/
theorem holdsAt_cells (decoded : decode size code = .ok instructions) (member : instruction ∈ instructions) :
    ∃ position : Nat, instruction.offset = position ∧
      code.HoldsAt position (size.encode instruction.cells) := by
  obtain ⟨prolog, items, length, valid, rfl, rfl⟩ := items_of_decode decoded
  have held : ∀ item ∈ items, item.Held size := fun item member => (valid item member).1
  have placed := placed_instructionsAt held (2 * size.bytes)
  have spelled := instructionsAt_cells held (2 * size.bytes)
  obtain ⟨before, after, same⟩ := List.append_of_mem member
  rw [same] at placed spelled
  refine ⟨_, placed.offset_eq, prolog ++ size.encode (before.flatMap Instruction.cells),
    size.encode (after.flatMap Instruction.cells), ?_, ?_⟩
  · rw [encode, ← spelled]
    simp only [List.flatMap_append, List.flatMap_cons, size.encode_append, List.append_assoc]
  · rw [List.length_append, length, size.length_encode]

/-- The only operand of an instruction is what the cell behind its number spells in two's complement. -/
theorem operands_of_single (decoded : decode size code = .ok instructions)
    (member : instruction ∈ instructions) (single : instruction.opcode.operandCount = 1) :
    ∃ position : Nat, instruction.offset = position ∧
      instruction.operands = [size.signed (code.numberAt size.bytes (position + size.bytes))] := by
  have stream := stream_of_decode decoded
  obtain ⟨position, place, holds⟩ := holdsAt_cells decoded member
  obtain ⟨operand, operands⟩ := List.length_eq_one_iff.mp ((stream.counted instruction member).trans single)
  have plain : instruction.opcode ≠ .caseRecord ∧ instruction.opcode ≠ .caseTable := by
    constructor <;> intro other <;> rw [other] at single <;> cases single
  have held := stream.ranged instruction member 0 operand (by rw [operands]; rfl)
  rw [if_neg fun table => plain.2 table.1] at held
  have cells : size.encode instruction.cells =
      Bytes.ofInt size.bytes instruction.opcode.number ++ Bytes.ofInt size.bytes operand := by
    simp [Instruction.cells, plain.1, operands, CellSize.encode]
  have number := (cells ▸ holds).right.numberAt
  rw [Bytes.length_ofInt, Bytes.length_ofInt, size.unsigned_ofInt] at number
  exact ⟨position, place, by rw [number, CellSize.signed_residue held, operands]⟩

end Code

namespace SymbolTable

variable {symbols : SymbolTable} {instruction : Instruction} {target : Int}

theorem callee_of_call (calls : instruction.opcode = .call) (operands : instruction.operands = [target]) :
    symbols.callee instruction = some (symbols.functionName target ++ "()") := by
  have other : ¬Opcode.call.kind = .native := by decide
  rw [callee, annotate, calls, if_neg other, if_pos rfl, operands]
  rfl

end SymbolTable

namespace Module

open Listing (lineStart shownLine)

variable {module : Module} {symbols : SymbolTable} {instructions : List Instruction}

theorem address_of_publics (read : module.publics = .ok symbols.publics) {symbol : Symbol}
    (member : symbol ∈ symbols.publics) : ∃ number : Nat, number < 2 ^ 32 ∧ symbol.address = number := by
  cases symbolsIn_eq_iff.mp read with
  | entries _ _ _ each =>
    obtain ⟨index, found⟩ := List.getElem?_of_mem member
    exact ⟨_, Bytes.numberAt_lt 4 .., (each index symbol found).address⟩

/-- Listing and tree show an instruction with the name of a callee. -/
structure ShowsCallee (module : Module) (instruction : Instruction) (name : String) : Prop where
  listed : ∃ lines operands, Listing.plain.lines module = .ok lines ∧
    instruction.operandText = .ok operands ∧
    lines.filter (fun shown => (lineStart instruction.offset).isPrefixOf shown) =
      [shownLine ⟨instruction, some (name ++ "()")⟩ operands]
  rebuilt : ∀ rebuilt, module.rebuild = .ok rebuilt → ∀ function ∈ rebuilt.plugin.functions,
    ∀ line ∈ function.body, line.instruction = instruction → line.comment = some (name ++ "()")

theorem Reads.showsCallee (reads : module.Reads symbols instructions) {instruction : Instruction}
    (member : instruction ∈ instructions) (name : String)
    (found : symbols.callee instruction = some (name ++ "()")) : module.ShowsCallee instruction name := by
  have ordered := ordered_of_instructions reads.2.2
  constructor
  · obtain ⟨operands, shown⟩ := (ordered.counted instruction member).operandText
    refine ⟨_, operands, Listing.lines_plain reads.1 reads.2.1 reads.2.2 ordered.counted, shown, ?_⟩
    rw [Listing.filter_lineStart ordered member, Listing.plainLine_of_shown shown, Tree.lineOf, found]
  · intro rebuilt built function inside line present same
    rw [reads.rebuild] at built
    rw [Tree.functions_of_rebuild
      (fun instruction member => (ordered.counted instruction member).namesCallee) built] at inside
    obtain ⟨stretch, cut, rfl⟩ := List.mem_map.mp inside
    rw [(Tree.Stretch.lineOf_function cut present).2, same]
    exact found

theorem Reads.decoded (reads : module.Reads symbols instructions) {code : Bytes}
    (segment : module.codeSegment = .ok code) : Code.decode module.cellSize code = .ok instructions := by
  obtain ⟨_, _, read⟩ := reads
  rw [Module.instructions_eq] at read
  split at read
  · cases read
  · rwa [segment] at read

/-- A call is shown with the first public at its target, but for targets in the upper half of the numbers
of a cell of four bytes: these are taken for negative addresses, and named for them. -/
theorem calls_named {code : Bytes} {call : Instruction} (reads : module.Reads symbols instructions)
    (segment : module.codeSegment = .ok code) (member : call ∈ instructions) (calls : call.opcode = .call) :
    ∃ position target : Nat, call.offset = position ∧
      target = code.numberAt module.cellSize.bytes (position + module.cellSize.bytes) ∧
      ∀ before symbol after, symbols.publics = before ++ symbol :: after →
        symbol.address = (target : Int) → (∀ other ∈ before, other.address ≠ (target : Int)) →
        (module.cellSize = .eight ∨ target < 2 ^ 31 → module.ShowsCallee call symbol.name) ∧
        (module.cellSize = .four → 2 ^ 31 ≤ target →
          module.ShowsCallee call ("sub_" ++ Numeral.smallHex 4 ((target : Int) - 2 ^ 32))) := by
  obtain ⟨position, place, operands⟩ :=
    Code.operands_of_single (reads.decoded segment) member (by rw [calls]; rfl)
  refine ⟨position, _, place, rfl, fun before symbol after publics address first => ?_⟩
  have bound := Bytes.numberAt_lt module.cellSize.bytes code (position + module.cellSize.bytes)
  generalize code.numberAt module.cellSize.bytes (position + module.cellSize.bytes) = target at *
  have shown := reads.showsCallee member
  rw [SymbolTable.callee_of_call calls operands] at shown
  -- Below half of the cell's numbers the target has no sign, and from there on no public can be at it.
  constructor
  · intro lower
    have present : symbol ∈ symbols.publics := by simp [publics]
    obtain ⟨number, small, again⟩ := address_of_publics reads.2.1 present
    have same : target = number := by omega
    have half : 2 * target < 256 ^ module.cellSize.bytes := by
      rcases lower with eight | lower
      · rw [eight, CellSize.bytes]
        omega
      · cases module.cellSize <;> simp only [CellSize.bytes] <;> omega
    apply shown
    rw [CellSize.signed_of_lower half, SymbolTable.functionName_of_first publics address first]
  · intro four upper
    have below : module.cellSize.signed target = (target : Int) - 2 ^ 32 := by
      rw [four] at bound ⊢
      exact CellSize.signed_of_upper bound (by rw [CellSize.bytes]; omega)
    rw [four, CellSize.bytes] at bound
    have absent : ∀ other ∈ symbols.publics, other.address ≠ (target : Int) - 2 ^ 32 := by
      intro other present
      obtain ⟨number, _, again⟩ := address_of_publics reads.2.1 present
      omega
    apply shown
    rw [below, SymbolTable.functionName_of_absent absent]
    rfl

def farItems : List Code.Item :=
  [.plain .proc [], .plain .call [8], .plain .call [-2 ^ 31], .plain .retn []]

def farParts : Parts where
  cellSize := .four
  flags := 0
  definitionSize := 8
  stack := 0x4000
  entry := 8
  publics := [([0x66], 8), ([0x67], 2 ^ 31)]
  natives := []
  code := Code.encode .four (List.replicate 8 0) farItems
  data := []

theorem farParts_reads :
    farParts.assembled.Reads farParts.symbols (Code.instructionsAt .four 8 farItems) := by
  have fits : farParts.Fits := by
    refine ⟨?_, ?_, ?_, ?_, ?_, ?_⟩ <;> decide
  exact fits.reads rfl rfl rfl (by decide : ∀ item ∈ farItems, item.Valid .four)

/-- The near call has the name of the public at its target, the far one that of a negative address. -/
theorem calls_named_far :
    farParts.assembled.Reads farParts.symbols (Code.instructionsAt .four 8 farItems) ∧
      farParts.assembled.codeSegment = .ok farParts.code ∧
      farParts.assembled.ShowsCallee ⟨12, .call, [8]⟩ "f" ∧
      farParts.assembled.ShowsCallee ⟨20, .call, [-2 ^ 31]⟩ "sub_-80000000" := by
  have segment := farParts.codeSegment_assembled
  refine ⟨farParts_reads, segment, ?_, ?_⟩
  · have near : ⟨12, .call, [8]⟩ ∈ Code.instructionsAt .four 8 farItems := by decide
    obtain ⟨position, target, place, spelled, named⟩ := calls_named farParts_reads segment near rfl
    obtain rfl : 12 = position := Int.ofNat.inj place
    obtain rfl : target = 8 := spelled.trans (by decide)
    exact (named [] ⟨"f", 8⟩ [⟨"g", 2 ^ 31⟩] rfl rfl (by simp)).1 (.inr (by decide))
  · have far : ⟨20, .call, [-2 ^ 31]⟩ ∈ Code.instructionsAt .four 8 farItems := by decide
    obtain ⟨position, target, place, spelled, named⟩ := calls_named farParts_reads segment far rfl
    obtain rfl : 20 = position := Int.ofNat.inj place
    obtain rfl : target = 2 ^ 31 := spelled.trans (by decide)
    exact (named [⟨"f", 8⟩] ⟨"g", 2 ^ 31⟩ [] rfl rfl (by decide)).2 rfl (Nat.le_refl _)

/-- The bytes of a far call spell the address of a public that the call is not named by. -/
theorem call_misnamed :
    ∃ call ∈ Code.instructionsAt .four 8 farItems,
      farParts.assembled.Reads farParts.symbols (Code.instructionsAt .four 8 farItems) ∧
      farParts.assembled.codeSegment = .ok farParts.code ∧ call.offset = 20 ∧ call.opcode = .call ∧
      farParts.code.numberAt 4 24 = 2 ^ 31 ∧ farParts.symbols.publics = [⟨"f", 8⟩, ⟨"g", 2 ^ 31⟩] ∧
      farParts.assembled.rebuild = .ok ⟨⟨[⟨"f", 8, true,
        [⟨⟨12, .call, [8]⟩, some "f()"⟩, ⟨call, some "sub_-80000000()"⟩]⟩]⟩, []⟩ ∧
      ¬farParts.assembled.ShowsCallee call "g" := by
  have built : farParts.assembled.rebuild = .ok ⟨⟨[⟨"f", 8, true,
      [⟨⟨12, .call, [8]⟩, some "f()"⟩, ⟨⟨20, .call, [-2 ^ 31]⟩, some "sub_-80000000()"⟩]⟩]⟩, []⟩ :=
    farParts_reads.rebuild.trans rfl
  refine ⟨⟨20, .call, [-2 ^ 31]⟩, by decide, farParts_reads, farParts.codeSegment_assembled, rfl, rfl,
    by decide, rfl, built, fun shows => ?_⟩
  have comment := shows.rebuilt _ built _ List.mem_cons_self _ (List.mem_cons_of_mem _ List.mem_cons_self) rfl
  exact absurd comment (by decide)

end Module

end PawnBytecode
