import PawnBytecode.Proofs.Code.Decoding

namespace PawnBytecode

def Instruction.Counted (instruction : Instruction) : Prop :=
  instruction.operands.length = instruction.opcode.operandCount

theorem Instruction.Counted.cells_ne_nil {instruction : Instruction} (counted : instruction.Counted) :
    instruction.cells ≠ [] := by
  by_cases record : instruction.opcode = .caseRecord
  · intro empty
    rw [cells, if_pos record] at empty
    rw [Counted, empty, record] at counted
    cases counted
  · rw [cells, if_neg record]
    exact List.cons_ne_nil _ _

/-- Every operand is a signed cell, but the count of a case table is an unsigned one. -/
def Instruction.Ranged (size : CellSize) (instruction : Instruction) : Prop :=
  ∀ index operand, instruction.operands[index]? = some operand →
    if instruction.opcode = .caseTable ∧ index = 0 then 0 ≤ operand ∧ operand < 2 ^ (8 * size.bytes)
    else size.Holds operand

namespace Code

/-- Instructions one directly after another, the first at `offset`. -/
inductive Placed (size : CellSize) : Nat → List Instruction → Prop where
  | nil : Placed size offset []
  | cons {instruction : Instruction} {rest : List Instruction}
      (start : instruction.offset = (offset : Nat))
      (next : Placed size (offset + size.bytes * instruction.cells.length) rest) :
      Placed size offset (instruction :: rest)

/-- Case records stand only in a run directly after a case table, which counts them. -/
inductive CaseRuns : List Instruction → Prop where
  | nil : CaseRuns []
  | plain {instruction : Instruction} {rest : List Instruction}
      (noTable : instruction.opcode ≠ .caseTable) (noRecord : instruction.opcode ≠ .caseRecord)
      (next : CaseRuns rest) : CaseRuns (instruction :: rest)
  | table {instruction : Instruction} {run rest : List Instruction}
      (opcode : instruction.opcode = .caseTable)
      (records : ∀ record ∈ run, record.opcode = .caseRecord)
      (count : instruction.operands.head? = some (run.length : Int)) (next : CaseRuns rest) :
      CaseRuns (instruction :: (run ++ rest))

/-- What the instructions of a whole segment are, prolog apart. -/
structure Stream (size : CellSize) (instructions : List Instruction) : Prop where
  placed : ∀ before instruction after, instructions = before ++ instruction :: after →
    instruction.offset = ((2 * size.bytes +
      (size.encode (before.flatMap Instruction.cells)).length : Nat) : Int)
  counted : ∀ instruction ∈ instructions, instruction.Counted
  ranged : ∀ instruction ∈ instructions, instruction.Ranged size
  runs : CaseRuns instructions

theorem Placed.append {size : CellSize} {offset : Nat} {first second : List Instruction}
    (placed : Placed size offset first)
    (next : Placed size (offset + size.bytes * (first.flatMap Instruction.cells).length) second) :
    Placed size offset (first ++ second) := by
  induction placed with
  | nil => simpa using next
  | cons start _ ih =>
    refine .cons start (ih ?_)
    simpa only [List.flatMap_cons, List.length_append, Nat.mul_add, Nat.add_assoc] using next

theorem Placed.offset_eq {size : CellSize} {offset : Nat} {before after : List Instruction}
    {instruction : Instruction} (placed : Placed size offset (before ++ instruction :: after)) :
    instruction.offset = ((offset + size.bytes * (before.flatMap Instruction.cells).length : Nat) : Int) := by
  induction before generalizing offset with
  | nil =>
    cases placed with
    | cons start _ => simpa using start
  | cons first before ih =>
    cases placed with
    | cons _ next =>
      rw [ih next, List.flatMap_cons, List.length_append, Nat.mul_add, Nat.add_assoc]

theorem Placed.le_offset {size : CellSize} {offset : Nat} {instructions : List Instruction}
    (placed : Placed size offset instructions) {instruction : Instruction}
    (member : instruction ∈ instructions) :
    ∃ position : Nat, instruction.offset = position ∧ offset ≤ position := by
  induction placed with
  | nil => cases member
  | cons start _ ih =>
    rcases List.mem_cons.mp member with rfl | member
    · exact ⟨_, start, Nat.le_refl _⟩
    · obtain ⟨position, same, later⟩ := ih member
      exact ⟨position, same, Nat.le_of_add_right_le later⟩

theorem Placed.pairwise_offset {size : CellSize} {offset : Nat} {instructions : List Instruction}
    (placed : Placed size offset instructions)
    (occupied : ∀ instruction ∈ instructions, instruction.cells ≠ []) :
    instructions.Pairwise fun first second => first.offset < second.offset := by
  induction placed with
  | nil => exact .nil
  | @cons offset instruction rest start next ih =>
    refine .cons (fun other member => ?_)
      (ih fun other member => occupied other (List.mem_cons_of_mem _ member))
    obtain ⟨position, same, later⟩ := next.le_offset member
    have cell := List.length_pos_iff.mpr (occupied instruction List.mem_cons_self)
    have width := Nat.mul_le_mul size.bytes_pos cell
    rw [start, same]
    omega

theorem placed_recordsAt (size : CellSize) (offset : Nat) (records : List (Int × Int)) :
    Placed size offset (Item.recordsAt size offset records) := by
  induction records generalizing offset with
  | nil => exact .nil
  | cons record records ih =>
    refine .cons rfl ?_
    rw [Nat.mul_comm]
    exact ih _

theorem placed_item (size : CellSize) (offset : Nat) (item : Item) :
    Placed size offset (item.instructionsAt size offset) := by
  cases item with
  | plain opcode operands => exact .cons rfl .nil
  | caseTable default records =>
    refine .cons rfl ?_
    have width : size.bytes * (⟨offset, .caseTable, [(records.length : Int), default]⟩ :
        Instruction).cells.length = 3 * size.bytes := Nat.mul_comm ..
    rw [width]
    exact placed_recordsAt size _ records

/-- The instructions of items stand one directly after another. -/
theorem placed_instructionsAt {size : CellSize} {items : List Item}
    (held : ∀ item ∈ items, item.Held size) (offset : Nat) :
    Placed size offset (instructionsAt size offset items) := by
  induction items generalizing offset with
  | nil => exact .nil
  | cons item items ih =>
    have first := held item List.mem_cons_self
    refine (placed_item size offset item).append ?_
    rw [first.instructionsAt_cells]
    exact ih (fun item member => held item (List.mem_cons_of_mem _ member)) _

theorem instructionsAt_cells {size : CellSize} {items : List Item}
    (held : ∀ item ∈ items, item.Held size) (offset : Nat) :
    (instructionsAt size offset items).flatMap Instruction.cells = cells items := by
  induction items generalizing offset with
  | nil => rfl
  | cons item items ih =>
    rw [instructionsAt, List.flatMap_append, (held item List.mem_cons_self).instructionsAt_cells,
      ih (fun item member => held item (List.mem_cons_of_mem _ member)), cells_cons]

theorem mem_instructionsAt {size : CellSize} {offset : Nat} {items : List Item}
    {instruction : Instruction} (member : instruction ∈ instructionsAt size offset items) :
    ∃ item ∈ items, ∃ start, instruction ∈ item.instructionsAt size start := by
  induction items generalizing offset with
  | nil => cases member
  | cons item items ih =>
    rcases List.mem_append.mp member with first | rest
    · exact ⟨item, List.mem_cons_self, offset, first⟩
    · obtain ⟨other, present, start, inside⟩ := ih rest
      exact ⟨other, List.mem_cons_of_mem _ present, start, inside⟩

theorem mem_recordsAt {size : CellSize} {offset : Nat} {records : List (Int × Int)}
    {instruction : Instruction} (member : instruction ∈ Item.recordsAt size offset records) :
    instruction.opcode = .caseRecord ∧
      ∃ record ∈ records, instruction.operands = [record.1, record.2] := by
  induction records generalizing offset with
  | nil => cases member
  | cons record records ih =>
    rcases List.mem_cons.mp member with rfl | rest
    · exact ⟨rfl, record, List.mem_cons_self, rfl⟩
    · obtain ⟨opcode, other, present, operands⟩ := ih rest
      exact ⟨opcode, other, List.mem_cons_of_mem _ present, operands⟩

theorem length_recordsAt (size : CellSize) (offset : Nat) (records : List (Int × Int)) :
    (Item.recordsAt size offset records).length = records.length := by
  induction records generalizing offset with
  | nil => rfl
  | cons record records ih => rw [Item.recordsAt, List.length_cons, ih, List.length_cons]

/-- The instructions of an item have the operands that the instruction set states. -/
theorem Item.Valid.shaped {size : CellSize} {offset : Nat} {item : Item} {instruction : Instruction}
    (valid : item.Valid size) (member : instruction ∈ item.instructionsAt size offset) :
    instruction.Counted ∧ instruction.Ranged size := by
  obtain ⟨held, countable⟩ := valid
  cases held with
  | plain noTable _ counted held =>
    obtain rfl := List.mem_singleton.mp member
    refine ⟨counted, fun index operand found => ?_⟩
    rw [if_neg (fun table => noTable table.1)]
    exact held operand (List.mem_of_getElem? found)
  | caseTable held recordsHeld =>
    rcases List.mem_cons.mp member with rfl | member
    · refine ⟨rfl, fun index operand found => ?_⟩
      match index with
      | 0 =>
        obtain rfl := Option.some.inj found
        exact ⟨Int.natCast_nonneg _, by exact_mod_cast countable⟩
      | 1 =>
        obtain rfl := Option.some.inj found
        exact held
    · obtain ⟨opcode, record, present, operands⟩ := mem_recordsAt member
      obtain ⟨value, target⟩ := recordsHeld record present
      refine ⟨by rw [Instruction.Counted, operands, opcode]; rfl, fun index operand found => ?_⟩
      rw [if_neg (fun table => Opcode.noConfusion (opcode.symm.trans table.1))]
      have inside := List.mem_of_getElem? found
      rw [operands] at inside
      rcases List.mem_cons.mp inside with rfl | inside
      · exact value
      · obtain rfl := List.mem_singleton.mp inside
        exact target

/-- A case table of a program is followed by its own records and then by another item. -/
theorem caseRuns_instructionsAt {size : CellSize} {items : List Item}
    (held : ∀ item ∈ items, item.Held size) (offset : Nat) :
    CaseRuns (instructionsAt size offset items) := by
  induction items generalizing offset with
  | nil => exact .nil
  | cons item items ih =>
    have next := fun start => ih (fun item member => held item (List.mem_cons_of_mem _ member)) start
    cases held item List.mem_cons_self with
    | plain noTable noRecord _ _ => exact .plain noTable noRecord (next _)
    | caseTable _ _ =>
      refine .table rfl (fun record member => (mem_recordsAt member).1) ?_ (next _)
      rw [length_recordsAt]
      rfl

theorem stream_instructionsAt {size : CellSize} {items : List Item}
    (valid : ∀ item ∈ items, item.Valid size) :
    Stream size (instructionsAt size (2 * size.bytes) items) := by
  have held : ∀ item ∈ items, item.Held size := fun item member => (valid item member).1
  have shaped : ∀ instruction ∈ instructionsAt size (2 * size.bytes) items,
      instruction.Counted ∧ instruction.Ranged size := by
    intro instruction member
    obtain ⟨item, present, _, inside⟩ := mem_instructionsAt member
    exact (valid item present).shaped inside
  constructor
  · intro before instruction after same
    have placed := placed_instructionsAt held (2 * size.bytes)
    rw [same] at placed
    rw [placed.offset_eq, size.length_encode]
  · exact fun instruction member => (shaped instruction member).1
  · exact fun instruction member => (shaped instruction member).2
  · exact caseRuns_instructionsAt held _

/-- Instructions with their operands at growing offsets. -/
structure Ordered (instructions : List Instruction) : Prop where
  counted : ∀ instruction ∈ instructions, instruction.Counted
  position : ∀ instruction ∈ instructions, ∃ position : Nat, instruction.offset = position
  ascending : instructions.Pairwise fun first second => first.offset < second.offset

theorem Ordered.front {first second : List Instruction} (ordered : Ordered (first ++ second)) :
    Ordered first where
  counted instruction member := ordered.counted instruction (List.mem_append_left _ member)
  position instruction member := ordered.position instruction (List.mem_append_left _ member)
  ascending := (List.pairwise_append.mp ordered.ascending).1

/-- No two instructions share an offset. -/
theorem Ordered.filter_offset {instructions : List Instruction} (ordered : Ordered instructions)
    {instruction : Instruction} (member : instruction ∈ instructions) :
    instructions.filter (·.offset == instruction.offset) = [instruction] := by
  obtain ⟨before, after, rfl⟩ := List.append_of_mem member
  obtain ⟨_, rest, earlier⟩ := List.pairwise_append.mp ordered.ascending
  obtain ⟨later, _⟩ := List.pairwise_cons.mp rest
  have front : before.filter (·.offset == instruction.offset) = [] := by
    apply List.filter_eq_nil_iff.mpr
    intro other inside
    have apart := earlier other inside instruction List.mem_cons_self
    simp [Int.ne_of_lt apart]
  have back : after.filter (·.offset == instruction.offset) = [] := by
    apply List.filter_eq_nil_iff.mpr
    intro other inside
    simp [Int.ne_of_gt (later other inside)]
  simp [front, back]

theorem ordered_of_decode {size : CellSize} {code : Bytes} {instructions : List Instruction}
    (decoded : decode size code = .ok instructions) : Ordered instructions := by
  obtain ⟨prolog, items, length, valid, rfl, rfl⟩ := items_of_decode decoded
  have placed := placed_instructionsAt (fun item member => (valid item member).1) (2 * size.bytes)
  have counted := (stream_instructionsAt valid).counted
  refine ⟨counted, fun instruction member => ?_, placed.pairwise_offset fun instruction member => ?_⟩
  · obtain ⟨position, same, _⟩ := placed.le_offset member
    exact ⟨position, same⟩
  · exact (counted instruction member).cells_ne_nil

theorem stream_of_decode {size : CellSize} {code : Bytes} {instructions : List Instruction}
    (decoded : decode size code = .ok instructions) : Stream size instructions := by
  obtain ⟨prolog, items, length, valid, rfl, rfl⟩ := items_of_decode decoded
  exact stream_instructionsAt valid

/-- Decoding loses nothing: the prolog and the cells of the instructions are the segment, and the
instructions are a stream over it. -/
theorem decode_lossless {size : CellSize} {code : Bytes} {instructions : List Instruction}
    (decoded : decode size code = .ok instructions) :
    2 * size.bytes ≤ code.length ∧
      code.take (2 * size.bytes) ++ size.encode (instructions.flatMap Instruction.cells) = code ∧
      Stream size instructions := by
  obtain ⟨prolog, items, length, valid, rfl, rfl⟩ := items_of_decode decoded
  have held : ∀ item ∈ items, item.Held size := fun item member => (valid item member).1
  refine ⟨?_, ?_, stream_instructionsAt valid⟩
  · rw [encode, List.length_append, length]
    exact Nat.le_add_right ..
  · rw [instructionsAt_cells held, encode, List.take_left' length]

/-- A case table whose record holds the number of a closing instruction and a negative target. -/
theorem decode_lossless_caseTable :
    decode .four (CellSize.four.encode [0x78, 0, 0x82, 1, 0x2E, 0x30, -1]) =
        .ok [⟨8, .caseTable, [1, 0x2E]⟩, ⟨20, .caseRecord, [0x30, -1]⟩] ∧
      2 * CellSize.four.bytes ≤ (CellSize.four.encode [0x78, 0, 0x82, 1, 0x2E, 0x30, -1]).length ∧
      (CellSize.four.encode [0x78, 0, 0x82, 1, 0x2E, 0x30, -1]).take (2 * CellSize.four.bytes) ++
          CellSize.four.encode ([⟨8, .caseTable, [1, 0x2E]⟩, ⟨20, .caseRecord, [0x30, -1]⟩].flatMap
            Instruction.cells) =
        CellSize.four.encode [0x78, 0, 0x82, 1, 0x2E, 0x30, -1] ∧
      Stream .four [⟨8, .caseTable, [1, 0x2E]⟩, ⟨20, .caseRecord, [0x30, -1]⟩] := by
  have decoded : decode .four (CellSize.four.encode [0x78, 0, 0x82, 1, 0x2E, 0x30, -1]) =
      .ok [⟨8, .caseTable, [1, 0x2E]⟩, ⟨20, .caseRecord, [0x30, -1]⟩] := by
    have length : (CellSize.four.encode [0x78, 0]).length = 2 * CellSize.four.bytes := rfl
    have valid : ∀ item ∈ [Item.caseTable 0x2E [(0x30, -1)]], item.Valid .four := by
      intro item member
      obtain rfl := List.mem_singleton.mp member
      exact ⟨.caseTable (by decide) (by decide), (by decide : 1 < 2 ^ 32)⟩
    exact decode_of_items length valid
  exact ⟨decoded, decode_lossless decoded⟩

/-- Every program of the format is decoded into its instructions, and each of them stands at its
offset: the bytes before it spell its predecessors, the bytes from there on it and the rest. -/
theorem decode_encode {size : CellSize} {prolog : Bytes} {items : List Item}
    (length : prolog.length = 2 * size.bytes) (held : ∀ item ∈ items, item.Held size)
    (countable : ∀ item ∈ items, item.Countable size) :
    decode size (encode size prolog items) = .ok (instructionsAt size (2 * size.bytes) items) ∧
      ∀ before instruction after,
        instructionsAt size (2 * size.bytes) items = before ++ instruction :: after →
        ∃ position : Nat, instruction.offset = (position : Int) ∧
          (encode size prolog items).take position =
            prolog ++ size.encode (before.flatMap Instruction.cells) ∧
          (encode size prolog items).drop position =
            size.encode ((instruction :: after).flatMap Instruction.cells) := by
  have valid : ∀ item ∈ items, item.Valid size :=
    fun item member => ⟨held item member, countable item member⟩
  refine ⟨decode_of_items length valid, fun before instruction after same => ?_⟩
  have spelled : encode size prolog items =
      (prolog ++ size.encode (before.flatMap Instruction.cells)) ++
        size.encode ((instruction :: after).flatMap Instruction.cells) := by
    rw [encode, ← instructionsAt_cells held (2 * size.bytes), same, List.flatMap_append,
      size.encode_append, List.append_assoc]
  have width : (prolog ++ size.encode (before.flatMap Instruction.cells)).length =
      2 * size.bytes + (size.encode (before.flatMap Instruction.cells)).length := by
    rw [List.length_append, length]
  refine ⟨_, (stream_instructionsAt valid).placed before instruction after same, ?_, ?_⟩
  · rw [spelled, List.take_left' width]
  · rw [spelled, List.drop_left' width]

/-- Cells that hold the numbers of an entry and of a closing instruction stay operands. -/
theorem decode_encode_boundaryNumbers :
    (∀ item ∈ [.plain .constPri [0x2E], .caseTable 0x30 [(0x2E, -1)]], Item.Held .eight item) ∧
      (∀ item ∈ [.plain .constPri [0x2E], .caseTable 0x30 [(0x2E, -1)]], Item.Countable .eight item) ∧
      decode .eight (encode .eight (List.replicate 16 0)
          [.plain .constPri [0x2E], .caseTable 0x30 [(0x2E, -1)]]) =
        .ok [⟨16, .constPri, [0x2E]⟩, ⟨32, .caseTable, [1, 0x30]⟩, ⟨56, .caseRecord, [0x2E, -1]⟩] := by
  have held : ∀ item ∈ [.plain .constPri [0x2E], .caseTable 0x30 [(0x2E, -1)]],
      Item.Held .eight item := by
    intro item member
    rcases List.mem_cons.mp member with rfl | member
    · exact .plain (by decide) (by decide) rfl (by decide)
    · obtain rfl := List.mem_singleton.mp member
      exact .caseTable (by decide) (by decide)
  have countable : ∀ item ∈ [.plain .constPri [0x2E], .caseTable 0x30 [(0x2E, -1)]],
      Item.Countable .eight item := by
    intro item member
    rcases List.mem_cons.mp member with rfl | member
    · trivial
    · obtain rfl := List.mem_singleton.mp member
      exact (by decide : 1 < 2 ^ 64)
  have length : (List.replicate 16 0 : Bytes).length = 2 * CellSize.eight.bytes := rfl
  exact ⟨held, countable, (decode_encode length held countable).1⟩

end Code

end PawnBytecode
