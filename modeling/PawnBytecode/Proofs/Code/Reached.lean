import PawnBytecode.Proofs.Bytes.Numbers
import PawnBytecode.Proofs.Code.Relocation

/-! Places that decoding comes to on its way from entry to entry. The bytes before such a place are a
code segment of their own, and from there on the cells are decoded as if nothing else had been
before. -/
namespace PawnBytecode

namespace CellSize

variable {size : CellSize} {data : Bytes}

theorem split_of_short (short : data.length < size.bytes) : size.split data = ([], data) := by
  have ragged : ¬(data.take size.bytes).length = size.bytes := by
    rw [List.length_take]
    omega
  rw [split, if_neg ragged]

theorem split_of_full (full : size.bytes ≤ data.length) :
    size.split data = (data.numberAt size.bytes 0 :: (size.split (data.drop size.bytes)).1,
      (size.split (data.drop size.bytes)).2) := by
  have taken : (data.take size.bytes).length = size.bytes := by
    rw [List.length_take]
    omega
  rw [split, if_pos taken]
  rfl

/-- The length of a buffer says how many complete cells it has and how many bytes are left over. -/
theorem length_split (size : CellSize) (data : Bytes) :
    (size.split data).1.length = data.length / size.bytes ∧
      (size.split data).2.length = data.length % size.bytes := by
  obtain ⟨tiles, _, short⟩ := size.split_exact data
  have width : data.length = (size.split data).2.length + size.bytes * (size.split data).1.length := by
    conv => lhs; rw [tiles]
    rw [List.length_append, List.length_flatMap]
    simp only [Bytes.length_ofNat, List.map_const', List.sum_replicate_nat]
    rw [Nat.mul_comm, Nat.add_comm]
  rw [width, Nat.add_mul_div_left _ _ size.bytes_pos, Nat.add_mul_mod_self_left,
    Nat.div_eq_of_lt short, Nat.mod_eq_of_lt short, Nat.zero_add]
  exact ⟨rfl, rfl⟩

def cellsFrom (size : CellSize) (code : Bytes) (place : Nat) : List Nat :=
  (size.split (code.drop place)).1

variable {code : Bytes} {place : Nat}

theorem cellsFrom_of_short (short : code.length < place + size.bytes) :
    size.cellsFrom code place = [] := by
  have few : (code.drop place).length < size.bytes := by
    have positive := size.bytes_pos
    rw [List.length_drop]
    omega
  rw [cellsFrom, split_of_short few]

theorem cellsFrom_of_complete (complete : place + size.bytes ≤ code.length) :
    size.cellsFrom code place =
      code.numberAt size.bytes place :: size.cellsFrom code (place + size.bytes) := by
  have enough : size.bytes ≤ (code.drop place).length := by
    rw [List.length_drop]
    omega
  rw [cellsFrom, split_of_full enough, Bytes.numberAt_drop, List.drop_drop]
  rfl

theorem length_cellsFrom (size : CellSize) (code : Bytes) (place : Nat) :
    (size.cellsFrom code place).length = (code.length - place) / size.bytes := by
  rw [cellsFrom, (size.length_split _).1, List.length_drop]

theorem cellsFrom_lt : ∀ number ∈ size.cellsFrom code place, number < 256 ^ size.bytes :=
  (size.split_exact (code.drop place)).2.1

end CellSize

namespace Code

/-- Decoding has given these instructions when it comes to the place: the bytes before the place are
decoded to them. -/
structure Reaches (size : CellSize) (code : Bytes) (place : Nat) (found : List Instruction) : Prop where
  inside : place ≤ code.length
  decoded : decode size (code.take place) = .ok found

variable {size : CellSize} {code : Bytes} {place : Nat} {found : List Instruction}

theorem decode_of_short (short : code.length < 2 * size.bytes) :
    decode size code = .error (.truncated .decoder "prolog" 0) := by
  have few : (size.split code).1.length < 2 := by
    rw [(size.length_split code).1]
    exact Nat.div_lt_of_lt_mul (Nat.mul_comm .. ▸ short)
  match cut : size.split code with
  | ([], tail) | ([_], tail) => simp only [decode, cut]
  | (_ :: _ :: _, _) =>
    rw [cut, List.length_cons, List.length_cons] at few
    omega

/-- A reached place stands behind a program. -/
theorem Reaches.exists_items (reached : Reaches size code place found) :
    ∃ prolog items, prolog.length = 2 * size.bytes ∧ (∀ item ∈ items, item.Valid size) ∧
      code.take place = encode size prolog items ∧
      place = 2 * size.bytes + size.bytes * (cells items).length ∧
      found = instructionsAt size (2 * size.bytes) items := by
  obtain ⟨prolog, items, length, valid, spelled, same⟩ := items_of_decode reached.decoded
  refine ⟨prolog, items, length, valid, spelled, ?_, same⟩
  have width := congrArg List.length spelled
  rwa [List.length_take, Nat.min_eq_left reached.inside, encode, List.length_append, length,
    size.length_encode] at width

theorem Reaches.prolog_le (reached : Reaches size code place found) : 2 * size.bytes ≤ place := by
  obtain ⟨_, _, _, _, _, rfl, _⟩ := reached.exists_items
  exact Nat.le_add_right ..

theorem Reaches.aligned (reached : Reaches size code place found) : size.bytes ∣ place := by
  obtain ⟨_, items, _, _, _, rfl, _⟩ := reached.exists_items
  exact ⟨2 + (cells items).length, by rw [Nat.mul_add, Nat.mul_comm 2]⟩

/-- From a reached place on, its cells are what is left to decode. -/
theorem Reaches.decode_eq (reached : Reaches size code place found) :
    decode size code =
      (decodeFrom size (!(size.split (code.drop place)).2.isEmpty)
        (size.bytes * (code.length / size.bytes)) place (size.cellsFrom code place)).map
          (found ++ ·) := by
  obtain ⟨prolog, items, length, valid, spelled, start, same⟩ := reached.exists_items
  have stop : 2 * size.bytes + size.bytes * ((code.length - place) / size.bytes) +
      size.bytes * (cells items).length = size.bytes * (code.length / size.bytes) := by
    obtain ⟨count, rfl⟩ := reached.aligned
    obtain ⟨left, rest⟩ := Nat.exists_eq_add_of_le' reached.inside
    have before : count = 2 + (cells items).length :=
      Nat.eq_of_mul_eq_mul_left size.bytes_pos (by rw [start, Nat.mul_add, Nat.mul_comm 2])
    rw [rest, Nat.add_sub_cancel, Nat.add_mul_div_left _ _ size.bytes_pos, before]
    simp only [Nat.mul_add, Nat.mul_comm 2]
    omega
  have behind := decode_encode_append length valid (code.drop place)
  rw [← spelled, List.take_append_drop, (size.length_split _).1, List.length_drop, stop, ← start,
    ← same] at behind
  exact behind

theorem Reaches.decode_behind (reached : Reaches size code place found) :
    decode size code =
      (relocate (place - 2 * size.bytes)
        (decode size (code.take (2 * size.bytes) ++ code.drop place))).map (found ++ ·) := by
  have behind := decode_append_eq reached.decoded (code.drop place)
  rwa [List.take_append_drop, List.length_take, Nat.min_eq_left reached.inside, List.take_take,
    Nat.min_eq_left reached.prolog_le] at behind

theorem reaches_prolog (long : 2 * size.bytes ≤ code.length) : Reaches size code (2 * size.bytes) [] := by
  have length : (code.take (2 * size.bytes)).length = 2 * size.bytes := by
    rw [List.length_take, Nat.min_eq_left long]
  refine ⟨long, ?_⟩
  have decoded := decode_of_items length (List.forall_mem_nil _)
  rwa [encode, cells_nil, CellSize.encode, List.flatMap_nil, List.append_nil] at decoded

/-- From a reached place, decoding comes to the end of the entry that stands there. -/
theorem Reaches.entry (reached : Reaches size code place found)
    (complete : place + size.bytes ≤ code.length) {opcode : Opcode}
    (known : Opcode.decodable? (code.numberAt size.bytes place) = some opcode)
    {entry : List Instruction} {rest : List Nat}
    (read : readOperands size place opcode (size.cellsFrom code (place + size.bytes)) =
      .ok (entry, rest)) :
    Reaches size code (place + size.bytes * span entry) (found ++ entry) := by
  obtain ⟨prolog, items, length, valid, spelled, start, same⟩ := reached.exists_items
  obtain ⟨number, plain⟩ := Opcode.decodable?_eq_some.mp known
  obtain ⟨item, held, countable, named, unrolled, tiles⟩ :=
    item_of_readOperands plain CellSize.cellsFrom_lt read
  have cut : size.cellsFrom code place = item.cells.map size.residue ++ rest := by
    rw [CellSize.cellsFrom_of_complete complete, tiles, item.map_residue_cells, named,
      Int.ofNat.inj number]
    rfl
  have behind : ∃ after, code.drop place = size.encode item.cells ++ after := by
    obtain ⟨bytes, _, _⟩ := size.split_exact (code.drop place)
    rw [← CellSize.cellsFrom, cut, List.flatMap_append, ← size.encode_eq, List.append_assoc] at bytes
    exact ⟨_, bytes⟩
  obtain ⟨after, behind⟩ := behind
  -- The program before the place, with this item at its end, is what stands before the new place.
  have width : span entry = item.cells.length := by
    rw [unrolled, span, held.instructionsAt_cells]
  have whole : code = encode size prolog (items ++ [item]) ++ after := by
    conv => lhs; rw [← List.take_append_drop place code, spelled, behind]
    rw [encode, encode, cells_append, size.encode_append, cells_cons, cells_nil, List.append_nil]
    simp only [List.append_assoc]
  have stop : (encode size prolog (items ++ [item])).length = place + size.bytes * span entry := by
    rw [encode, List.length_append, length, size.length_encode, cells_append, cells_cons, cells_nil,
      List.append_nil, List.length_append, Nat.mul_add, width, start, Nat.add_assoc]
  have together : ∀ other ∈ items ++ [item], other.Valid size := by
    intro other member
    rcases List.mem_append.mp member with member | last
    · exact valid other member
    · obtain rfl := List.mem_singleton.mp last
      exact ⟨held, countable⟩
  refine ⟨?_, ?_⟩
  · rw [whole, List.length_append, stop]
    exact Nat.le_add_right ..
  · rw [whole, List.take_left' stop, decode_of_items length together, instructionsAt_append, ← start,
      same, unrolled]
    simp [instructionsAt]

/-- The way of the decoder through a segment: from behind the prolog, entry by entry. -/
inductive Visits (size : CellSize) (code : Bytes) : Nat → List Instruction → Prop where
  | prolog (long : 2 * size.bytes ≤ code.length) : Visits size code (2 * size.bytes) []
  | entry {place : Nat} {found : List Instruction} {opcode : Opcode} {entry : List Instruction}
      {rest : List Nat} (before : Visits size code place found)
      (complete : place + size.bytes ≤ code.length)
      (known : Opcode.decodable? (code.numberAt size.bytes place) = some opcode)
      (read : readOperands size place opcode (size.cellsFrom code (place + size.bytes)) =
        .ok (entry, rest)) :
      Visits size code (place + size.bytes * span entry) (found ++ entry)

theorem Visits.reaches (visited : Visits size code place found) : Reaches size code place found := by
  induction visited with
  | prolog long => exact reaches_prolog long
  | entry _ complete known read ih => exact ih.entry complete known read

/-- Where an item stands, the decoder goes on behind it. -/
theorem Visits.item (visited : Visits size code place found) {item : Item} (valid : item.Valid size)
    {after : Bytes} (stands : code.drop place = size.encode item.cells ++ after) :
    Visits size code (place + size.bytes * item.cells.length)
      (found ++ item.instructionsAt size place) := by
  have complete : place + size.bytes ≤ code.length := by
    have width := congrArg List.length stands
    rw [List.length_drop, List.length_append, size.length_encode, item.cells_eq, List.length_cons,
      Nat.mul_succ] at width
    have positive := size.bytes_pos
    omega
  have small : ∀ number ∈ item.cells.map size.residue, number < 256 ^ size.bytes := by
    intro number member
    obtain ⟨value, _, rfl⟩ := List.mem_map.mp member
    exact size.residue_lt value
  have cells : size.cellsFrom code place =
      item.opcode.number :: (item.operandCells.map size.residue ++ (size.split after).1) := by
    rw [CellSize.cellsFrom, stands, size.encode_eq, size.split_append small, item.map_residue_cells]
    rfl
  rw [CellSize.cellsFrom_of_complete complete] at cells
  obtain ⟨number, operands⟩ := List.cons.inj cells
  have known : Opcode.decodable? (code.numberAt size.bytes place) = some item.opcode :=
    Opcode.decodable?_eq_some.mpr ⟨congrArg Int.ofNat number, valid.1.opcode_ne⟩
  have read := readOperands_operandCells valid.1 valid.2 place (size.split after).1
  rw [← operands] at read
  have next := visited.entry complete known read
  rwa [span, valid.1.instructionsAt_cells] at next

/-- Where a program stands, the decoder comes to its end. -/
theorem Visits.items (visited : Visits size code place found) {items : List Item}
    (valid : ∀ item ∈ items, item.Valid size) {after : Bytes}
    (stands : code.drop place = size.encode (cells items) ++ after) :
    Visits size code (place + size.bytes * (cells items).length)
      (found ++ instructionsAt size place items) := by
  induction items generalizing place found with
  | nil =>
    rw [instructionsAt, List.append_nil]
    exact visited
  | cons item items ih =>
    have others : ∀ item ∈ items, item.Valid size :=
      fun item member => valid item (List.mem_cons_of_mem _ member)
    rw [cells_cons, size.encode_append, List.append_assoc] at stands
    have next := visited.item (valid item List.mem_cons_self) stands
    have behind : code.drop (place + size.bytes * item.cells.length) =
        size.encode (cells items) ++ after := by
      rw [← List.drop_drop, stands, List.drop_left' (size.length_encode _)]
    have rest := ih next others behind
    rwa [Nat.add_assoc, ← Nat.mul_add, ← List.length_append, ← cells_cons, List.append_assoc] at rest

/-- The decoder comes to exactly the places before which the bytes decode, with what they decode to. -/
theorem reaches_iff_visits : Reaches size code place found ↔ Visits size code place found := by
  refine ⟨fun reached => ?_, Visits.reaches⟩
  obtain ⟨prolog, items, length, valid, spelled, rfl, rfl⟩ := reached.exists_items
  have begun : Visits size code (2 * size.bytes) [] :=
    .prolog (Nat.le_trans reached.prolog_le reached.inside)
  have stands : code.drop (2 * size.bytes) = size.encode (cells items) ++
      code.drop (2 * size.bytes + size.bytes * (cells items).length) := by
    conv => lhs; rw [← List.take_append_drop (2 * size.bytes + size.bytes * (cells items).length) code]
    rw [spelled, encode, List.append_assoc, List.drop_left' length]
  exact begun.items valid stands

end Code

end PawnBytecode
