import PawnBytecode.Proofs.Code.Items

/-! Code segments and programs. Decoding succeeds exactly on two cells of prolog followed by the
encoding of items, and gives their instructions. -/
namespace PawnBytecode.Code

def Item.Valid (size : CellSize) (item : Item) : Prop := item.Held size ∧ item.Countable size

instance (size : CellSize) (item : Item) : Decidable (item.Valid size) :=
  match item with
  | .plain opcode operands =>
    decidable_of_iff ((opcode ≠ .caseTable ∧ opcode ≠ .caseRecord) ∧
      operands.length = opcode.operandCount ∧ ∀ operand ∈ operands, size.Holds operand)
      ⟨fun ⟨⟨table, record⟩, counted, held⟩ => ⟨.plain table record counted held, trivial⟩,
        fun ⟨.plain table record counted held, _⟩ => ⟨⟨table, record⟩, counted, held⟩⟩
  | .caseTable default records =>
    decidable_of_iff ((size.Holds default ∧ ∀ record ∈ records, size.Holds record.1 ∧ size.Holds record.2) ∧
      records.length < 2 ^ (8 * size.bytes))
      ⟨fun ⟨⟨held, recordsHeld⟩, few⟩ => ⟨.caseTable held recordsHeld, few⟩,
        fun ⟨.caseTable held recordsHeld, few⟩ => ⟨⟨held, recordsHeld⟩, few⟩⟩

/-- The instructions of one entry are decoded, then those of the cells after it. -/
theorem decodeFrom_entry {size : CellSize} {number offset : Nat} {operands rest : List Nat}
    {opcode : Opcode} {entry : List Instruction} (known : Opcode.decodable? number = some opcode)
    (read : readOperands size offset opcode operands = .ok (entry, rest)) (ragged : Bool) (stop : Nat) :
    decodeFrom size ragged stop offset (number :: operands) =
      (decodeFrom size ragged stop (offset + size.bytes * span entry) rest).map (entry ++ ·) := by
  rw [decodeFrom]
  simp only [known]
  split
  · rename_i field failed
    rw [read] at failed
    cases failed
  · rename_i found remaining succeeded
    rw [read] at succeeded
    cases succeeded
    cases decodeFrom size ragged stop (offset + size.bytes * span entry) rest <;> rfl

theorem decodeFrom_unknown {number : Nat} (unknown : Opcode.decodable? number = none)
    (size : CellSize) (ragged : Bool) (stop offset : Nat) (operands : List Nat) :
    decodeFrom size ragged stop offset (number :: operands) = .error (.unknownOpcode number offset) := by
  rw [decodeFrom]
  simp only [unknown]

theorem decodeFrom_short {size : CellSize} {number offset : Nat} {operands : List Nat}
    {opcode : Opcode} {field : String} (known : Opcode.decodable? number = some opcode)
    (short : readOperands size offset opcode operands = .error field) (ragged : Bool) (stop : Nat) :
    decodeFrom size ragged stop offset (number :: operands) =
      .error (.truncated .decoder field stop) := by
  rw [decodeFrom]
  simp only [known]
  split
  · rename_i missing failed
    rw [short] at failed
    cases failed
    rfl
  · rename_i succeeded
    rw [short] at succeeded
    cases succeeded

theorem decodeFrom_item {size : CellSize} {item : Item} (valid : item.Valid size) (ragged : Bool)
    (stop offset : Nat) (rest : List Nat) :
    decodeFrom size ragged stop offset (item.cells.map size.residue ++ rest) =
      (decodeFrom size ragged stop (offset + size.bytes * item.cells.length) rest).map
        (item.instructionsAt size offset ++ ·) := by
  have known : Opcode.decodable? (item.opcode.number : Int) = some item.opcode :=
    Opcode.decodable?_eq_some.mpr ⟨rfl, valid.1.opcode_ne⟩
  have read := readOperands_operandCells valid.1 valid.2 offset rest
  have entry := decodeFrom_entry known read ragged stop
  rw [span, valid.1.instructionsAt_cells] at entry
  rw [← entry, item.map_residue_cells, List.cons_append]

/-- Items in front of other cells are decoded item by item. -/
theorem decodeFrom_items {size : CellSize} {items : List Item}
    (valid : ∀ item ∈ items, item.Valid size) (ragged : Bool) (stop offset : Nat) (rest : List Nat) :
    decodeFrom size ragged stop offset ((cells items).map size.residue ++ rest) =
      (decodeFrom size ragged stop (offset + size.bytes * (cells items).length) rest).map
        (instructionsAt size offset items ++ ·) := by
  induction items generalizing offset with
  | nil =>
    simp only [cells_nil, List.map_nil, List.nil_append, List.length_nil, Nat.mul_zero, Nat.add_zero,
      instructionsAt]
    cases decodeFrom size ragged stop offset rest <;> rfl
  | cons item items ih =>
    have others := ih (fun item member => valid item (List.mem_cons_of_mem _ member))
      (offset + size.bytes * item.cells.length)
    have stopping : offset + size.bytes * (cells (item :: items)).length =
        offset + size.bytes * item.cells.length + size.bytes * (cells items).length := by
      rw [cells_cons, List.length_append, Nat.mul_add, Nat.add_assoc]
    rw [stopping, cells_cons, List.map_append, List.append_assoc,
      decodeFrom_item (valid item List.mem_cons_self), others]
    cases decodeFrom size ragged stop _ rest with
    | error fault => rfl
    | ok found => simp [Except.map, instructionsAt]

/-- What was decoded to the end is a list of items. -/
theorem items_of_decodeFrom {size : CellSize} {ragged : Bool} {stop offset : Nat}
    {numbers : List Nat} {instructions : List Instruction}
    (small : ∀ number ∈ numbers, number < 256 ^ size.bytes)
    (decoded : decodeFrom size ragged stop offset numbers = .ok instructions) :
    ragged = false ∧ ∃ items : List Item, (∀ item ∈ items, item.Valid size) ∧
      instructions = instructionsAt size offset items ∧ numbers = (cells items).map size.residue := by
  fun_induction decodeFrom size ragged stop offset numbers generalizing instructions with
  | case1 => cases decoded
  | case2 offset ragged =>
    cases decoded
    exact ⟨by simpa using ragged, [], by simp, rfl, rfl⟩
  | case3 => cases decoded
  | case4 => cases decoded
  | case5 offset number operands opcode known entry rest read tail succeeded ih =>
    cases decoded
    obtain ⟨numbered, plain⟩ := Opcode.decodable?_eq_some.mp known
    have smallOperands : ∀ cell ∈ operands, cell < 256 ^ size.bytes :=
      fun cell member => small cell (List.mem_cons_of_mem _ member)
    obtain ⟨item, held, countable, code, unrolled, tiles⟩ :=
      item_of_readOperands plain smallOperands read
    have smallRest : ∀ cell ∈ rest, cell < 256 ^ size.bytes :=
      fun cell member => smallOperands cell (by rw [tiles]; exact List.mem_append_right _ member)
    obtain ⟨complete, items, valid, same, tilesRest⟩ := ih smallRest succeeded
    refine ⟨complete, item :: items, ?_, ?_, ?_⟩
    · intro other member
      rcases List.mem_cons.mp member with first | member
      · rw [first]
        exact ⟨held, countable⟩
      · exact valid other member
    · rw [same, unrolled, span, held.instructionsAt_cells]
      rfl
    · rw [tiles, tilesRest, cells_cons, List.map_append, item.map_residue_cells, code,
        ← Int.ofNat.inj numbered, List.cons_append]
  | case6 => cases decoded

theorem prolog_cells {size : CellSize} {prolog : Bytes} (length : prolog.length = 2 * size.bytes) :
    ∃ first second : Nat, first < 256 ^ size.bytes ∧ second < 256 ^ size.bytes ∧
      prolog = [first, second].flatMap (Bytes.ofNat size.bytes) := by
  have half : (prolog.take size.bytes).length = size.bytes := by
    rw [List.length_take]
    omega
  have other : (prolog.drop size.bytes).length = size.bytes := by
    rw [List.length_drop]
    omega
  have firstSmall := Bytes.unsigned_lt (prolog.take size.bytes)
  have secondSmall := Bytes.unsigned_lt (prolog.drop size.bytes)
  have firstBytes := Bytes.ofNat_unsigned (prolog.take size.bytes)
  have secondBytes := Bytes.ofNat_unsigned (prolog.drop size.bytes)
  rw [half] at firstSmall firstBytes
  rw [other] at secondSmall secondBytes
  refine ⟨_, _, firstSmall, secondSmall, ?_⟩
  simp only [List.flatMap_cons, List.flatMap_nil, List.append_nil, firstBytes, secondBytes,
    List.take_append_drop]

/-- A segment is decoded as its cells are, after the two of the prolog. -/
theorem decode_of_split {size : CellSize} {code tail : Bytes} {first second : Nat} {body : List Nat}
    (cut : size.split code = (first :: second :: body, tail)) :
    decode size code = decodeFrom size (!tail.isEmpty)
      (size.bytes * (first :: second :: body).length) (2 * size.bytes) body := by
  simp only [decode, cut]

/-- A program with bytes behind it is decoded into its instructions and what its cells are followed
by, whatever the bytes of the prolog are. -/
theorem decode_encode_append {size : CellSize} {prolog : Bytes} {items : List Item}
    (length : prolog.length = 2 * size.bytes) (valid : ∀ item ∈ items, item.Valid size)
    (suffix : Bytes) :
    decode size (encode size prolog items ++ suffix) =
      (decodeFrom size (!(size.split suffix).2.isEmpty)
        (2 * size.bytes + size.bytes * (size.split suffix).1.length + size.bytes * (cells items).length)
        (2 * size.bytes + size.bytes * (cells items).length) (size.split suffix).1).map
          (instructionsAt size (2 * size.bytes) items ++ ·) := by
  obtain ⟨first, second, firstSmall, secondSmall, rfl⟩ := prolog_cells length
  have small : ∀ number ∈ first :: second :: (cells items).map size.residue,
      number < 256 ^ size.bytes := by
    intro number member
    rcases List.mem_cons.mp member with rfl | member
    · exact firstSmall
    · rcases List.mem_cons.mp member with rfl | member
      · exact secondSmall
      · obtain ⟨value, _, rfl⟩ := List.mem_map.mp member
        exact size.residue_lt value
  have cut : size.split (encode size ([first, second].flatMap (Bytes.ofNat size.bytes)) items ++ suffix) =
      (first :: second :: ((cells items).map size.residue ++ (size.split suffix).1),
        (size.split suffix).2) := by
    rw [encode, size.encode_eq, ← List.flatMap_append]
    exact size.split_append small suffix
  have stop : size.bytes * (first :: second :: ((cells items).map size.residue ++
      (size.split suffix).1)).length =
      2 * size.bytes + size.bytes * (size.split suffix).1.length +
        size.bytes * (cells items).length := by
    simp only [List.length_cons, List.length_append, List.length_map, Nat.mul_add, Nat.mul_one]
    omega
  rw [decode_of_split cut, decodeFrom_items valid, stop]

theorem decode_of_items {size : CellSize} {prolog : Bytes} {items : List Item}
    (length : prolog.length = 2 * size.bytes) (valid : ∀ item ∈ items, item.Valid size) :
    decode size (encode size prolog items) = .ok (instructionsAt size (2 * size.bytes) items) := by
  have cut : size.split [] = ([], []) := size.split_cells (List.forall_mem_nil _) size.bytes_pos
  have decoded := decode_encode_append length valid []
  rw [List.append_nil, cut, decodeFrom] at decoded
  simpa [Except.map] using decoded

/-- What was decoded is a program behind two cells of prolog. -/
theorem items_of_decode {size : CellSize} {code : Bytes} {instructions : List Instruction}
    (decoded : decode size code = .ok instructions) :
    ∃ prolog items, prolog.length = 2 * size.bytes ∧ (∀ item ∈ items, item.Valid size) ∧
      code = encode size prolog items ∧ instructions = instructionsAt size (2 * size.bytes) items := by
  obtain ⟨tiles, small, short⟩ := size.split_exact code
  match cut : size.split code with
  | ([], tail) => simp [decode, cut] at decoded
  | ([_], tail) => simp [decode, cut] at decoded
  | (first :: second :: body, tail) =>
    rw [decode_of_split cut] at decoded
    rw [cut] at tiles small
    have smallBody : ∀ number ∈ body, number < 256 ^ size.bytes :=
      fun number member => small number (by simp [member])
    obtain ⟨complete, items, valid, same, spelled⟩ := items_of_decodeFrom smallBody decoded
    have none : tail = [] := by simpa using complete
    refine ⟨[first, second].flatMap (Bytes.ofNat size.bytes), items, ?_, valid, ?_, same⟩
    · simp [Nat.two_mul]
    · rw [tiles, none, spelled, encode, size.encode_eq, ← List.flatMap_append, List.append_nil]
      rfl

end PawnBytecode.Code
