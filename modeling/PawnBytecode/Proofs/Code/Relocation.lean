import PawnBytecode.Proofs.Code.Decoding

namespace PawnBytecode

def Instruction.shift (distance : Nat) (instruction : Instruction) : Instruction :=
  { instruction with offset := instruction.offset + distance }

def Fault.shift (distance : Nat) : Fault → Fault
  | truncated stage field offset => truncated stage field (offset + distance)
  | unknownOpcode opcode offset => unknownOpcode opcode (offset + distance)
  | other => other

namespace Code

def relocate (distance : Nat) : Except Fault (List Instruction) → Except Fault (List Instruction)
  | .ok instructions => .ok (instructions.map (Instruction.shift distance))
  | .error fault => .error (fault.shift distance)

/-- Instructions occupy the same cells at every place. -/
theorem span_shift (distance : Nat) (entry : List Instruction) :
    span (entry.map (Instruction.shift distance)) = span entry := by
  rw [span, List.flatMap_map]
  rfl

theorem readRecords_shift (size : CellSize) (count offset distance : Nat) (cells : List Nat) :
    readRecords size count (offset + distance) cells =
      (readRecords size count offset cells).map fun read =>
        (read.1.map (Instruction.shift distance), read.2) := by
  induction count generalizing offset cells with
  | zero => rfl
  | succ count ih =>
    match cells with
    | [] => rfl
    | [_] => rfl
    | value :: target :: cells =>
      have others := ih (offset + 2 * size.bytes) cells
      rw [Nat.add_right_comm] at others
      rw [readRecords, readRecords, others]
      cases readRecords size count (offset + 2 * size.bytes) cells <;> rfl

theorem readOperands_shift (size : CellSize) (offset distance : Nat) (opcode : Opcode)
    (cells : List Nat) :
    readOperands size (offset + distance) opcode cells =
      (readOperands size offset opcode cells).map fun read =>
        (read.1.map (Instruction.shift distance), read.2) := by
  by_cases table : opcode = .caseTable
  · subst table
    match cells with
    | [] => rfl
    | [_] => rfl
    | count :: default :: cells =>
      have records := readRecords_shift size count (offset + 3 * size.bytes) distance cells
      rw [Nat.add_right_comm] at records
      rw [readOperands_caseTable, readOperands_caseTable, records]
      cases readRecords size count (offset + 3 * size.bytes) cells <;> rfl
  · rw [readOperands_fixed table, readOperands_fixed table]
    by_cases enough : opcode.operandCount ≤ cells.length
    · rw [if_pos enough, if_pos enough]
      rfl
    · rw [if_neg enough, if_neg enough]
      rfl

/-- The place of the cells shows in the offsets and nowhere else. -/
theorem decodeFrom_shift (size : CellSize) (ragged : Bool) (stop offset distance : Nat)
    (cells : List Nat) :
    decodeFrom size ragged (stop + distance) (offset + distance) cells =
      relocate distance (decodeFrom size ragged stop offset cells) := by
  fun_induction decodeFrom size ragged stop offset cells with
  | case1 offset incomplete =>
    rw [decodeFrom, if_pos incomplete]
    rfl
  | case2 offset complete =>
    rw [decodeFrom, if_neg complete]
    rfl
  | case3 offset number operands unknown =>
    rw [decodeFrom_unknown unknown]
    rfl
  | case4 offset number operands opcode known field short =>
    have moved := readOperands_shift size offset distance opcode operands
    rw [short] at moved
    rw [decodeFrom_short known moved]
    rfl
  | case5 offset number operands opcode known entry rest read tail succeeded ih
  | case6 offset number operands opcode known entry rest read fault failed ih =>
    have moved := readOperands_shift size offset distance opcode operands
    rw [read] at moved
    rw [decodeFrom_entry known moved, span_shift, Nat.add_right_comm, ih]
    simp [*, relocate, Except.map]

theorem decode_append_eq {size : CellSize} {code : Bytes} {instructions : List Instruction}
    (accepted : decode size code = .ok instructions) (suffix : Bytes) :
    decode size (code ++ suffix) =
      (relocate (code.length - 2 * size.bytes)
        (decode size (code.take (2 * size.bytes) ++ suffix))).map (instructions ++ ·) := by
  obtain ⟨prolog, items, length, valid, rfl, rfl⟩ := items_of_decode accepted
  have front : (encode size prolog items).take (2 * size.bytes) = prolog := List.take_left' length
  have distance : (encode size prolog items).length - 2 * size.bytes =
      size.bytes * (cells items).length := by
    rw [encode, List.length_append, length, size.length_encode]
    omega
  -- The prolog alone is the program without items.
  have alone := decode_encode_append length (List.forall_mem_nil _) suffix
  rw [encode, cells_nil, CellSize.encode, List.flatMap_nil, List.append_nil] at alone
  rw [front, distance, alone, decode_encode_append length valid, decodeFrom_shift]
  cases decodeFrom size (!(size.split suffix).2.isEmpty)
    (2 * size.bytes + size.bytes * (size.split suffix).1.length) (2 * size.bytes)
    (size.split suffix).1 <;> rfl

/-- Decoding is compositional. Bytes behind accepted code are decoded, or refused, as they are
directly behind its prolog, further back by the length of the code between. -/
theorem decode_append {size : CellSize} {code : Bytes} {instructions : List Instruction}
    (accepted : decode size code = .ok instructions) (suffix : Bytes) :
    (∀ more, decode size (code.take (2 * size.bytes) ++ suffix) = .ok more →
      decode size (code ++ suffix) =
        .ok (instructions ++ more.map (Instruction.shift (code.length - 2 * size.bytes)))) ∧
    (∀ opcode offset,
      decode size (code.take (2 * size.bytes) ++ suffix) = .error (.unknownOpcode opcode offset) →
      decode size (code ++ suffix) =
        .error (.unknownOpcode opcode (offset + (code.length - 2 * size.bytes : Nat)))) ∧
    ∀ stage field offset,
      decode size (code.take (2 * size.bytes) ++ suffix) = .error (.truncated stage field offset) →
      decode size (code ++ suffix) =
        .error (.truncated stage field (offset + (code.length - 2 * size.bytes : Nat))) := by
  have behind := decode_append_eq accepted suffix
  refine ⟨fun more found => ?_, fun opcode offset refused => ?_, fun stage field offset refused => ?_⟩
  · rw [behind, found]
    rfl
  · rw [behind, refused]
    rfl
  · rw [behind, refused]
    rfl

/-- Behind eight bytes of instructions: a closing instruction, the number of the case record, and half
a case table, whose missing cell is told from the front of the segment. -/
theorem decode_append_halfTable :
    decode .four (CellSize.four.encode [0, 0, 0x86, 0x2E]) = .ok [⟨8, .nop, []⟩, ⟨12, .proc, []⟩] ∧
      decode .four (CellSize.four.encode [0, 0] ++ CellSize.four.encode [0x30]) =
        .ok [⟨8, .retn, []⟩] ∧
      decode .four (CellSize.four.encode [0, 0, 0x86, 0x2E] ++ CellSize.four.encode [0x30]) =
        .ok [⟨8, .nop, []⟩, ⟨12, .proc, []⟩, ⟨16, .retn, []⟩] ∧
      decode .four (CellSize.four.encode [0, 0] ++ CellSize.four.encode [0x1000]) =
        .error (.unknownOpcode 0x1000 8) ∧
      decode .four (CellSize.four.encode [0, 0, 0x86, 0x2E] ++ CellSize.four.encode [0x1000]) =
        .error (.unknownOpcode 0x1000 16) ∧
      decode .four (CellSize.four.encode [0, 0] ++ (CellSize.four.encode [0x82, 2, 0x30] ++ [7])) =
        .error (.truncated .decoder "case value" 20) ∧
      decode .four (CellSize.four.encode [0, 0, 0x86, 0x2E] ++
          (CellSize.four.encode [0x82, 2, 0x30] ++ [7])) =
        .error (.truncated .decoder "case value" 28) := by
  have accepted : decode .four (CellSize.four.encode [0, 0, 0x86, 0x2E]) =
      .ok [⟨8, .nop, []⟩, ⟨12, .proc, []⟩] := by cbv
  have closing : decode .four (CellSize.four.encode [0, 0] ++ CellSize.four.encode [0x30]) =
      .ok [⟨8, .retn, []⟩] := by cbv
  have unknown : decode .four (CellSize.four.encode [0, 0] ++ CellSize.four.encode [0x1000]) =
      .error (.unknownOpcode 0x1000 8) := by cbv
  have half : decode .four (CellSize.four.encode [0, 0] ++
      (CellSize.four.encode [0x82, 2, 0x30] ++ [7])) =
      .error (.truncated .decoder "case value" 20) := by cbv
  exact ⟨accepted, closing, (decode_append accepted _).1 _ closing, unknown,
    (decode_append accepted _).2.1 _ _ unknown, half, (decode_append accepted _).2.2 _ _ _ half⟩

end Code

end PawnBytecode
