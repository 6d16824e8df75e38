import PawnBytecode.Proofs.Bytes.Strings
import PawnBytecode.Proofs.Module.ReadBack

/-! String constants. The characters of a constant stand one stride apart, and the first zero among
them ends it; nothing else of the data segment is looked at. -/
namespace PawnBytecode.Module

variable {self : Module} {data string : Bytes} {start : Nat} {address : Int}

def characters (data : Bytes) (start : Nat) : Bytes :=
  Bytes.everyNth constantStride 0 (data.drop start)

theorem getElem?_characters (data : Bytes) (start index : Nat) :
    (characters data start)[index]? = data[start + constantStride * index]? := by
  rw [characters, Bytes.getElem?_everyNth (by decide), List.getElem?_drop, Nat.zero_add]

theorem characters_add (data : Bytes) (start index : Nat) :
    characters data (start + constantStride * index) = (characters data start).drop index := by
  apply List.ext_getElem?
  intro further
  rw [List.getElem?_drop, getElem?_characters, getElem?_characters, Nat.mul_add, Nat.add_assoc]

structure WrittenAt (data : Bytes) (start : Nat) (string : Bytes) : Prop where
  characters : ∀ index byte, string[index]? = some byte →
    data[start + constantStride * index]? = some byte
  ended : data[start + constantStride * string.length]? = some 0

theorem writtenAt_iff :
    WrittenAt data start string ↔ ∃ after, characters data start = string ++ 0 :: after := by
  constructor
  · intro written
    have front : (characters data start).take string.length = string := by
      apply List.ext_getElem?
      intro index
      by_cases inside : index < string.length
      · have byte := List.getElem?_eq_getElem inside
        rw [List.getElem?_take_of_lt inside, getElem?_characters, written.characters index _ byte, byte]
      · rw [List.getElem?_eq_none (by rw [List.length_take]; omega), List.getElem?_eq_none (by omega)]
    have zero : (characters data start)[string.length]? = some 0 := by
      rw [getElem?_characters, written.ended]
    obtain ⟨bound, same⟩ := List.getElem?_eq_some_iff.mp zero
    refine ⟨(characters data start).drop (string.length + 1), ?_⟩
    conv => lhs; rw [← List.take_append_drop string.length (characters data start)]
    rw [front, List.drop_eq_getElem_cons bound, same]
  · rintro ⟨after, spelled⟩
    refine ⟨fun index byte found => ?_, ?_⟩
    · have inside := (List.getElem?_eq_some_iff.mp found).1
      rw [← getElem?_characters, spelled, List.getElem?_append_left inside, found]
    · rw [← getElem?_characters, spelled, List.getElem?_append_right (Nat.le_refl _), Nat.sub_self]
      rfl

theorem constant_eq (segment : self.dataSegment = .ok data) (inside : start < data.length) :
    self.constant start = match Bytes.zeroTerminated? (characters data start) with
      | some string => .ok string
      | none => .error (.unterminated "constant" (self.header.data + start)) := by
  have within : (0 : Int) ≤ start ∧ (start : Int) < data.length := by omega
  simp only [constant, segment, bind, Except.bind, if_pos within, Int.toNat_natCast, characters]
  cases Bytes.zeroTerminated? (Bytes.everyNth constantStride 0 (data.drop start)) <;> rfl

theorem constant_outside (segment : self.dataSegment = .ok data)
    (outside : ¬(0 ≤ address ∧ address < data.length)) :
    self.constant address = .error (.constantAddress address data.length) := by
  simp only [constant, segment, bind, Except.bind, if_neg outside]
  rfl

theorem constant_eq_ok (segment : self.dataSegment = .ok data) :
    self.constant address = .ok string ↔
      ∃ start : Nat, address = start ∧ 0 ∉ string ∧ WrittenAt data start string := by
  constructor
  · intro found
    by_cases inside : 0 ≤ address ∧ address < data.length
    · obtain ⟨start, rfl⟩ := Int.eq_ofNat_of_zero_le inside.1
      rw [constant_eq segment (by omega)] at found
      split at found
      · rename_i terminated
        obtain rfl := Except.ok.inj found
        obtain ⟨zeroFree, spelled⟩ := Bytes.zeroTerminated?_eq_some.mp terminated
        exact ⟨start, rfl, zeroFree, writtenAt_iff.mpr spelled⟩
      · cases found
    · rw [constant_outside segment inside] at found
      cases found
  · rintro ⟨start, rfl, zeroFree, written⟩
    have bound := (List.getElem?_eq_some_iff.mp written.ended).1
    have terminated := Bytes.zeroTerminated?_eq_some.mpr ⟨zeroFree, writtenAt_iff.mp written⟩
    rw [constant_eq segment (Nat.lt_of_le_of_lt (Nat.le_add_right ..) bound), terminated]

/-- A constant whose first zero is so many strides on has the characters before it. -/
theorem constant_of_first_zero (segment : self.dataSegment = .ok data) {count : Nat}
    (zero : data[start + constantStride * count]? = some 0)
    (earlier : ∀ before < count, data[start + constantStride * before]? ≠ some 0) :
    ∃ string, self.constant start = .ok string ∧ string.length = count ∧
      ∀ index < count, string[index]? = data[start + constantStride * index]? := by
  have bound : count < (characters data start).length := by
    rw [← getElem?_characters] at zero
    exact (List.getElem?_eq_some_iff.mp zero).1
  have width : ((characters data start).take count).length = count := by
    rw [List.length_take, Nat.min_eq_left (Nat.le_of_lt bound)]
  have each : ∀ index < count,
      ((characters data start).take count)[index]? = data[start + constantStride * index]? := by
    intro index before
    rw [List.getElem?_take_of_lt before, getElem?_characters]
  have zeroFree : 0 ∉ (characters data start).take count := by
    intro member
    obtain ⟨index, inside, same⟩ := List.getElem_of_mem member
    refine earlier index (width ▸ inside) ?_
    rw [← each index (width ▸ inside), List.getElem?_eq_getElem inside, same]
  have written : WrittenAt data start ((characters data start).take count) := by
    refine ⟨fun index byte found => ?_, width.symm ▸ zero⟩
    have inside := (List.getElem?_eq_some_iff.mp found).1
    rwa [each index (width ▸ inside)] at found
  exact ⟨_, (constant_eq_ok segment).mpr ⟨start, rfl, zeroFree, written⟩, width, each⟩

/-- Without a zero on the strides there is no constant. -/
theorem constant_of_no_zero (segment : self.dataSegment = .ok data) (inside : start < data.length)
    (endless : ∀ count, data[start + constantStride * count]? ≠ some 0) :
    self.constant start = .error (.unterminated "constant" (self.header.data + start)) := by
  have zeroFree : 0 ∉ characters data start := by
    intro member
    obtain ⟨index, bound, same⟩ := List.getElem_of_mem member
    refine endless index ?_
    rw [← getElem?_characters, List.getElem?_eq_getElem bound, same]
  rw [constant_eq segment inside, Bytes.zeroTerminated?_eq_none.mpr zeroFree]

theorem constant_drop (segment : self.dataSegment = .ok data)
    (found : self.constant address = .ok string) {index : Nat} (within : index ≤ string.length) :
    self.constant (address + constantStride * index) = .ok (string.drop index) := by
  obtain ⟨start, rfl, zeroFree, written⟩ := (constant_eq_ok segment).mp found
  obtain ⟨after, spelled⟩ := writtenAt_iff.mp written
  refine (constant_eq_ok segment).mpr ⟨start + constantStride * index, by simp,
    fun member => zeroFree (List.mem_of_mem_drop member), writtenAt_iff.mpr ⟨after, ?_⟩⟩
  rw [characters_add, spelled, List.drop_append_of_le_length within]

theorem characters_congr {other : Bytes}
    (same : ∀ count, other[start + constantStride * count]? = data[start + constantStride * count]?) :
    characters other start = characters data start := by
  apply List.ext_getElem?
  intro index
  rw [getElem?_characters, getElem?_characters, same]

/-- How string constants are read from a data segment. -/
structure ReadsConstants (module : Module) (data : Bytes) : Prop where
  outside : ∀ address other limit, module.constant address = .error (.constantAddress other limit) ↔
    ¬(0 ≤ address ∧ address < data.length) ∧ other = address ∧ limit = data.length
  ended : ∀ start count : Nat, data[start + constantStride * count]? = some 0 →
    (∀ before < count, data[start + constantStride * before]? ≠ some 0) →
    ∃ string, module.constant start = .ok string ∧ string.length = count ∧
      ∀ index < count, string[index]? = data[start + constantStride * index]?
  endless : ∀ start : Nat, start < data.length →
    (∀ count, data[start + constantStride * count]? ≠ some 0) →
    module.constant start = .error (.unterminated "constant" (module.header.data + start))
  between : ∀ (other : Module) (otherData : Bytes), other.dataSegment = .ok otherData →
    otherData.length = data.length → other.header.data = module.header.data → ∀ start : Nat,
    (∀ count, otherData[start + constantStride * count]? = data[start + constantStride * count]?) →
    other.constant start = module.constant start
  zeroFree : ∀ address string, module.constant address = .ok string → 0 ∉ string
  suffix : ∀ address string, module.constant address = .ok string → ∀ index ≤ string.length,
    module.constant (address + constantStride * index) = .ok (string.drop index)
  written : ∀ (start : Nat) string, 0 ∉ string → WrittenAt data start string →
    module.constant start = .ok string

/-- Constants are read as strings whose characters stand one stride apart and that end at the first
zero on the strides. The bytes between do not matter, a string written so is read back, and behind some
of its characters the rest of it. -/
theorem constant_reads (segment : self.dataSegment = .ok data) : self.ReadsConstants data := by
  constructor
  case outside =>
    intro address other limit
    by_cases inside : 0 ≤ address ∧ address < data.length
    · obtain ⟨start, rfl⟩ := Int.eq_ofNat_of_zero_le inside.1
      rw [constant_eq segment (by omega)]
      split <;> simp [inside]
    · rw [constant_outside segment inside]
      simp [inside, eq_comm]
  case ended => exact fun start count zero earlier => constant_of_first_zero segment zero earlier
  case endless => exact fun start inside endless => constant_of_no_zero segment inside endless
  case between =>
    intro other otherData otherSegment length place start same
    by_cases inside : start < data.length
    · rw [constant_eq segment inside, constant_eq otherSegment (length ▸ inside),
        characters_congr same, place]
    · rw [constant_outside segment (by omega), constant_outside otherSegment (by omega), length]
  case zeroFree =>
    intro address string found
    obtain ⟨_, _, zeroFree, _⟩ := (constant_eq_ok segment).mp found
    exact zeroFree
  case suffix => exact fun address string found index within => constant_drop segment found within
  case written =>
    intro start string zeroFree written
    exact (constant_eq_ok segment).mpr ⟨start, rfl, zeroFree, written⟩

/-- Two characters with other bytes between them, and data that end before a zero stands on the strides
of their last bytes. -/
def stridedParts : Parts where
  cellSize := .eight
  flags := 0
  definitionSize := 8
  stack := 0
  entry := 0
  publics := []
  natives := []
  code := []
  data := [0x68, 1, 0, 2, 0x69, 3, 4, 0, 0, 7, 0x21]

theorem constant_reads_strided :
    stridedParts.assembled.dataSegment = .ok stridedParts.data ∧
      stridedParts.assembled.constant 0 = .ok [0x68, 0x69] ∧
      stridedParts.assembled.constant 4 = .ok [0x69] ∧
      stridedParts.assembled.constant 3 = .ok [2] ∧
      stridedParts.assembled.constant 9 =
        .error (.unterminated "constant" (stridedParts.assembled.header.data + 9)) ∧
      stridedParts.assembled.constant 11 = .error (.constantAddress 11 11) ∧
      stridedParts.assembled.constant (-1) = .error (.constantAddress (-1) 11) := by
  have segment := stridedParts.dataSegment_assembled
  have reads := constant_reads segment
  have first : WrittenAt stridedParts.data 0 [0x68, 0x69] := writtenAt_iff.mpr ⟨[], by decide⟩
  have unaligned : WrittenAt stridedParts.data 3 [2] := writtenAt_iff.mpr ⟨[], by decide⟩
  have whole : stridedParts.assembled.constant 0 = .ok [0x68, 0x69] :=
    reads.written 0 [0x68, 0x69] (by decide) first
  have endless : ∀ count, stridedParts.data[9 + constantStride * count]? ≠ some 0 := by
    intro count
    cases count with
    | zero => decide
    | succ count =>
      rw [List.getElem?_eq_none (by simp [stridedParts, constantStride]; omega)]
      simp
  exact ⟨segment, whole, reads.suffix 0 _ whole 1 (by decide), reads.written 3 _ (by decide) unaligned,
    reads.endless 9 (by decide) endless, (reads.outside 11 11 11).mpr (by decide),
    (reads.outside (-1) (-1) 11).mpr (by decide)⟩

end PawnBytecode.Module
