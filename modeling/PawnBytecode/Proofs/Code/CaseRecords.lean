import PawnBytecode.Proofs.Code.Stopping

/-! Case tables and the bytes behind them. A table declares any number of records; those that are
there are read, and the first cell that is not there ends decoding wherever the count would lead. -/
namespace PawnBytecode.Code

variable {size : CellSize} {code : Bytes} {place start count : Nat} {found : List Instruction}

def recordAt (size : CellSize) (code : Bytes) (place : Nat) : Instruction :=
  ⟨place, .caseRecord, [size.signed (code.numberAt size.bytes place),
    size.signed (code.numberAt size.bytes (place + size.bytes))]⟩

def recordsIn (size : CellSize) (code : Bytes) (start count : Nat) : List Instruction :=
  (List.range count).map fun index => recordAt size code (start + 2 * size.bytes * index)

def tableAt (size : CellSize) (code : Bytes) (place : Nat) : Instruction :=
  ⟨place, .caseTable, [(code.numberAt size.bytes (place + size.bytes) : Int),
    size.signed (code.numberAt size.bytes (place + 2 * size.bytes))]⟩

theorem recordsIn_succ (size : CellSize) (code : Bytes) (start count : Nat) :
    recordsIn size code start (count + 1) =
      recordAt size code start :: recordsIn size code (start + 2 * size.bytes) count := by
  have later : ∀ index, start + 2 * size.bytes * (index + 1) =
      start + 2 * size.bytes + 2 * size.bytes * index := by
    intro index
    rw [Nat.mul_succ, Nat.add_right_comm, Nat.add_assoc]
  simp only [recordsIn, List.range_succ_eq_map, List.map_cons, List.map_map, Function.comp_def,
    Nat.mul_zero, Nat.add_zero, Nat.succ_eq_add_one, later]

theorem span_recordsIn (size : CellSize) (code : Bytes) (start count : Nat) :
    span (recordsIn size code start count) = 2 * count := by
  induction count generalizing start with
  | zero => rfl
  | succ count ih =>
    have others := ih (start + 2 * size.bytes)
    rw [span] at others
    rw [recordsIn_succ, span, List.flatMap_cons, List.length_append, others, Nat.mul_succ, Nat.add_comm]
    rfl

/-- Reading some records and then others is reading them all. -/
theorem readRecords_add (size : CellSize) (first second offset : Nat) (cells : List Nat) :
    readRecords size (first + second) offset cells =
      (readRecords size first offset cells).bind fun read =>
        (readRecords size second (offset + 2 * size.bytes * first) read.2).map fun more =>
          (read.1 ++ more.1, more.2) := by
  induction first generalizing offset cells with
  | zero =>
    simp only [Nat.zero_add, readRecords, Except.bind, Nat.mul_zero, Nat.add_zero, List.nil_append]
    cases readRecords size second offset cells <;> rfl
  | succ first ih =>
    rw [Nat.succ_add]
    cases cells with
    | nil => rfl
    | cons value cells =>
      cases cells with
      | nil => rfl
      | cons target cells =>
        have place : offset + 2 * size.bytes * (first + 1) =
            offset + 2 * size.bytes + 2 * size.bytes * first := by
          rw [Nat.mul_succ, Nat.add_right_comm, Nat.add_assoc]
        rw [readRecords, readRecords, ih, place]
        cases readRecords size first (offset + 2 * size.bytes) cells with
        | error field => rfl
        | ok read =>
          simp only [Except.bind]
          cases readRecords size second (offset + 2 * size.bytes + 2 * size.bytes * first) read.2 <;>
            rfl

/-- As many records as the bytes hold are read where they stand. -/
theorem readRecords_cellsFrom (enough : start + 2 * size.bytes * count ≤ code.length) :
    readRecords size count start (size.cellsFrom code start) =
      .ok (recordsIn size code start count,
        size.cellsFrom code (start + 2 * size.bytes * count)) := by
  induction count generalizing start with
  | zero => rfl
  | succ count ih =>
    have next : start + 2 * size.bytes * (count + 1) =
        start + size.bytes + size.bytes + 2 * size.bytes * count := by
      rw [Nat.mul_succ, Nat.two_mul]
      omega
    have others : readRecords size count (start + size.bytes + size.bytes)
        (size.cellsFrom code (start + size.bytes + size.bytes)) = .ok
          (recordsIn size code (start + size.bytes + size.bytes) count,
            size.cellsFrom code (start + size.bytes + size.bytes + 2 * size.bytes * count)) :=
      ih (next ▸ enough)
    have both : start + 2 * size.bytes = start + size.bytes + size.bytes := by
      rw [Nat.two_mul, Nat.add_assoc]
    rw [CellSize.cellsFrom_of_complete (by omega), CellSize.cellsFrom_of_complete (by omega),
      readRecords, both, others, next, recordsIn_succ, both]
    rfl

theorem decodable?_caseTable (table : code.numberAt size.bytes place = Opcode.caseTable.number) :
    Opcode.decodable? (code.numberAt size.bytes place) = some .caseTable :=
  Opcode.decodable?_eq_some.mpr ⟨congrArg Int.ofNat table, Opcode.noConfusion⟩

/-- A case table behind which there are bytes for all its records is given with them, and decoding
comes to the place behind the last one. -/
theorem Reaches.caseTable (reached : Reaches size code place found)
    (table : code.numberAt size.bytes place = Opcode.caseTable.number)
    (enough : place + 3 * size.bytes +
      2 * size.bytes * code.numberAt size.bytes (place + size.bytes) ≤ code.length) :
    Reaches size code
      (place + 3 * size.bytes + 2 * size.bytes * code.numberAt size.bytes (place + size.bytes))
      (found ++ tableAt size code place :: recordsIn size code (place + 3 * size.bytes)
        (code.numberAt size.bytes (place + size.bytes))) := by
  have second : place + size.bytes + size.bytes = place + 2 * size.bytes := by omega
  have third : place + 2 * size.bytes + size.bytes = place + 3 * size.bytes := by omega
  have read : readOperands size place .caseTable (size.cellsFrom code (place + size.bytes)) =
      .ok (tableAt size code place :: recordsIn size code (place + 3 * size.bytes)
        (code.numberAt size.bytes (place + size.bytes)), size.cellsFrom code (place +
          3 * size.bytes + 2 * size.bytes * code.numberAt size.bytes (place + size.bytes))) := by
    rw [CellSize.cellsFrom_of_complete (by omega), second,
      CellSize.cellsFrom_of_complete (by omega), third, readOperands_caseTable,
      readRecords_cellsFrom enough]
    rfl
  have width : size.bytes * span (tableAt size code place :: recordsIn size code
      (place + 3 * size.bytes) (code.numberAt size.bytes (place + size.bytes))) =
      3 * size.bytes + 2 * size.bytes * code.numberAt size.bytes (place + size.bytes) := by
    have records := span_recordsIn size code (place + 3 * size.bytes)
      (code.numberAt size.bytes (place + size.bytes))
    rw [span] at records
    rw [span, List.flatMap_cons, List.length_append, records, Nat.mul_add, Nat.mul_left_comm,
      Nat.mul_assoc, Nat.mul_comm 3]
    rfl
  have next := reached.entry (by omega) (decodable?_caseTable table) read
  rwa [width, ← Nat.add_assoc] at next

/-- A case table behind which there are not bytes for all its records ends decoding at the first cell
that is missing or incomplete. -/
theorem Reaches.decode_cutTable {left : Nat} (reached : Reaches size code place found)
    (table : code.numberAt size.bytes place = Opcode.caseTable.number)
    (length : code.length = place + 3 * size.bytes + left)
    (few : left < 2 * size.bytes * code.numberAt size.bytes (place + size.bytes)) :
    decode size code = .error (.truncated .decoder (recordField (left / size.bytes))
      (place + 3 * size.bytes + size.bytes * (left / size.bytes) : Nat)) := by
  have header : place + 3 * size.bytes ≤ code.length := by omega
  have stops := Stops.operand (Nat.le_trans (by omega) header) (decodable?_caseTable table)
    (.records header (by omega))
  have behind : (code.length - (place + size.bytes)) / size.bytes = left / size.bytes + 2 := by
    have rest : code.length - (place + size.bytes) = left + size.bytes * 2 := by omega
    rw [rest, Nat.add_mul_div_left _ _ size.bytes_pos]
  have stop : size.bytes * (code.length / size.bytes) =
      place + 3 * size.bytes + size.bytes * (left / size.bytes) := by
    obtain ⟨before, rfl⟩ := reached.aligned
    have whole : code.length = left + size.bytes * (before + 3) := by
      rw [length, Nat.mul_add, Nat.mul_comm 3, Nat.add_comm]
    rw [whole, Nat.add_mul_div_left _ _ size.bytes_pos, Nat.mul_add, Nat.mul_add, Nat.mul_comm 3,
      Nat.add_comm]
  rw [behind, stop] at stops
  exact reached.decode_of_stops stops

/-- Of the records that a case table declares, the complete ones are read, and the cells behind them
do not make another one. -/
theorem readRecords_cut {left : Nat} (length : code.length = start + left)
    (few : left < 2 * size.bytes * count) :
    ∃ cells, readRecords size (left / (2 * size.bytes)) start (size.cellsFrom code start) =
        .ok (recordsIn size code start (left / (2 * size.bytes)), cells) ∧
      cells.length < 2 ∧
      readRecords size (count - left / (2 * size.bytes))
        (start + 2 * size.bytes * (left / (2 * size.bytes))) cells =
          .error (recordField (left / size.bytes)) := by
  have width : 0 < 2 * size.bytes := Nat.mul_pos (by decide) size.bytes_pos
  have below := Nat.div_mul_le_self left (2 * size.bytes)
  have fewer : left / (2 * size.bytes) < count := Nat.div_lt_of_lt_mul few
  have enough : start + 2 * size.bytes * (left / (2 * size.bytes)) ≤ code.length := by
    rw [length, Nat.mul_comm]
    omega
  have complete := readRecords_cellsFrom enough
  refine ⟨_, complete, ?_, ?_⟩
  · rw [size.length_cellsFrom, length, Nat.div_lt_iff_lt_mul size.bytes_pos]
    have rest := Nat.div_add_mod left (2 * size.bytes)
    have ragged := Nat.mod_lt left width
    omega
  · -- The records that are complete do not fail, so it is the others that all of them fail at.
    have missing : readRecords size count start (size.cellsFrom code start) =
        .error (recordField (left / size.bytes)) := by
      have cells : (size.cellsFrom code start).length = left / size.bytes := by
        rw [size.length_cellsFrom, length, Nat.add_sub_cancel_left]
      rw [readRecords_eq_error, cells]
      refine ⟨Nat.div_lt_of_lt_mul ?_, rfl⟩
      rwa [Nat.mul_left_comm, ← Nat.mul_assoc]
    rw [← Nat.add_sub_of_le (Nat.le_of_lt fewer), readRecords_add, complete] at missing
    simp only [Except.bind] at missing
    cases rest : readRecords size (count - left / (2 * size.bytes))
        (start + 2 * size.bytes * (left / (2 * size.bytes)))
        (size.cellsFrom code (start + 2 * size.bytes * (left / (2 * size.bytes)))) with
    | error field =>
      rw [rest] at missing
      exact missing
    | ok read =>
      rw [rest] at missing
      cases missing

/-- A case table whose header is complete is handled by the bytes behind it, whatever number of
records it declares. If they are all there, the table and each of them at its offset are given, and
decoding goes on behind the last. Otherwise decoding fails at the first cell that is not there, after
the records that are complete; place and name of that cell tell nothing about the number declared. -/
theorem decode_caseTable {left : Nat} (reached : Reaches size code place found)
    (table : code.numberAt size.bytes place = Opcode.caseTable.number)
    (declared : code.numberAt size.bytes (place + size.bytes) = count)
    (length : code.length = place + 3 * size.bytes + left) :
    (2 * size.bytes * count ≤ left →
      Reaches size code (place + 3 * size.bytes + 2 * size.bytes * count)
        (found ++ tableAt size code place :: recordsIn size code (place + 3 * size.bytes) count) ∧
      decode size code =
        (relocate (place + 3 * size.bytes + 2 * size.bytes * count - 2 * size.bytes)
          (decode size (code.take (2 * size.bytes) ++
            code.drop (place + 3 * size.bytes + 2 * size.bytes * count)))).map
          (found ++ tableAt size code place ::
            recordsIn size code (place + 3 * size.bytes) count ++ ·)) ∧
    (left < 2 * size.bytes * count →
      decode size code = .error (.truncated .decoder (recordField (left / size.bytes))
        (place + 3 * size.bytes + size.bytes * (left / size.bytes) : Nat)) ∧
      ∃ cells, readRecords size (left / (2 * size.bytes)) (place + 3 * size.bytes)
          (size.cellsFrom code (place + 3 * size.bytes)) =
          .ok (recordsIn size code (place + 3 * size.bytes) (left / (2 * size.bytes)), cells) ∧
        cells.length < 2 ∧
        readRecords size (count - left / (2 * size.bytes))
          (place + 3 * size.bytes + 2 * size.bytes * (left / (2 * size.bytes))) cells =
            .error (recordField (left / size.bytes))) := by
  subst declared
  refine ⟨fun enough => ?_, fun few => ⟨reached.decode_cutTable table length few, ?_⟩⟩
  · have next := reached.caseTable table (by omega)
    exact ⟨next, next.decode_behind⟩
  · exact readRecords_cut length few

/-- A table that declares as many records as a cell can say, before three cells and half of one. -/
def boundlessTable : Bytes := CellSize.four.encode [0x78, 0, 0x82, -1, 0x30, 7, 0x2E, 9] ++ [1, 2]

def singleTable : Bytes := CellSize.four.encode [0x78, 0, 0x82, 1, 0x30, 7, -1, 0x86]

theorem decode_caseTable_boundless :
    Reaches .four boundlessTable 8 [] ∧ boundlessTable.numberAt 4 8 = Opcode.caseTable.number ∧
      boundlessTable.numberAt 4 12 = 2 ^ 32 - 1 ∧ boundlessTable.length = 8 + 3 * 4 + 14 ∧
      decode .four boundlessTable = .error (.truncated .decoder "case target" 32) ∧
      (∃ cells, readRecords .four 1 20 (CellSize.four.cellsFrom boundlessTable 20) =
        .ok ([⟨20, .caseRecord, [7, 0x2E]⟩], cells)) ∧
      Reaches .four singleTable 28 [⟨8, .caseTable, [1, 0x30]⟩, ⟨20, .caseRecord, [7, -1]⟩] := by
  have reached : Reaches .four boundlessTable 8 [] := reaches_prolog (by decide : 8 ≤ _)
  have table : boundlessTable.numberAt 4 8 = Opcode.caseTable.number := by decide
  have declared : boundlessTable.numberAt 4 12 = 2 ^ 32 - 1 := by decide
  have length : boundlessTable.length = 8 + 3 * 4 + 14 := by decide
  have few : 14 < 2 * CellSize.four.bytes * (2 ^ 32 - 1) := by decide
  have first : recordsIn .four boundlessTable 20 1 = [⟨20, .caseRecord, [7, 0x2E]⟩] := by
    decide +kernel
  obtain ⟨failed, cells, complete, _⟩ := (decode_caseTable reached table declared length).2 few
  have begun : Reaches .four singleTable 8 [] := reaches_prolog (by decide : 8 ≤ _)
  have entry : singleTable.numberAt 4 8 = Opcode.caseTable.number := by decide
  have one : singleTable.numberAt 4 12 = 1 := by decide
  have behind : singleTable.length = 8 + 3 * 4 + 12 := by decide
  have header : tableAt .four singleTable 8 = ⟨8, .caseTable, [1, 0x30]⟩ := by decide +kernel
  have record : recordsIn .four singleTable 20 1 = [⟨20, .caseRecord, [7, -1]⟩] := by
    decide +kernel
  obtain ⟨single, _⟩ := (decode_caseTable begun entry one behind).1 (by decide)
  refine ⟨reached, table, declared, length, failed, ⟨cells, ?_⟩, ?_⟩
  · rw [← first]
    exact complete
  · rw [← header, ← record]
    exact single

end PawnBytecode.Code
