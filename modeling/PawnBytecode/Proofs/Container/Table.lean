import PawnBytecode.Proofs.Bytes.Records
import PawnBytecode.Proofs.Isolation
import PawnBytecode.Proofs.Traversal

/-! The table of a container, told by the bytes of the file alone. Each record is read exactly where its
fields are there and its cell size is supported, so that reading all records is reading each of them. -/
namespace PawnBytecode

namespace Section

def unsupportedCells (size : Nat) : Option Fault :=
  if size = 4 ∨ size = 8 then none else some (.cellSize .record size [4, 8])

def fields (index : Nat) : List Field :=
  let start := tableStart + recordLength * index
  let named := fun what => "section " ++ toString (index : Int) ++ " " ++ what
  [⟨named "cell size", start, 1, unsupportedCells⟩, .free (named "disk size") (start + 1) 4,
    .free (named "image size") (start + 5) 4, .free (named "memory size") (start + 9) 4,
    .free (named "offset") (start + 13) 4]

/-- The record that the bytes at its place in the table spell. -/
def spelled (data : Bytes) (index : Nat) : Section :=
  let start := tableStart + recordLength * index
  { index := index
    cellSize := data.numberAt 1 start
    diskSize := data.numberAt 4 (start + 1)
    imageSize := data.numberAt 4 (start + 5)
    memorySize := data.numberAt 4 (start + 9)
    offset := data.numberAt 4 (start + 13) }

theorem unsupportedCells_eq_none {size : Nat} : unsupportedCells size = none ↔ size = 4 ∨ size = 8 := by
  unfold unsupportedCells
  split <;> simp_all

variable {data : Bytes} {index : Nat}

/-- The fields of a record are read in their order. -/
theorem read_eq_outcome (data : Bytes) (index : Nat) :
    read data index = Field.outcome .record data (fields index) (spelled data index) := by
  have start : (tableStart : Int) + recordLength * index = (tableStart + recordLength * index : Nat) := by
    simp
  have taken : readRecord index (Cursor.seek .record data (tableStart + recordLength * index : Nat)) =
      Field.outcome .record data (fields index) (spelled data index,
        Cursor.seek .record data (tableStart + recordLength * index + recordLength : Nat)) := by
    unfold readRecord
    refine Field.read_checked (fun fault found => ?_) fun found => ?_
    · obtain ⟨unsupported, same⟩ := Option.ite_none_left_eq_some.mp found
      obtain rfl := Option.some.inj same
      rw [CellSize.check_unsupported (by omega)]
      rfl
    · have supported := unsupportedCells_eq_none.mp found
      obtain ⟨size, cells⟩ := CellSize.check_supported
        (show (data.numberAt 1 (tableStart + recordLength * index) : Int) = 4 ∨ _ = 8 by omega) .record
      rw [cells, Reading.bind_of_ok (Reading.liftM_ok ..)]
      iterate 4 refine Field.read_free ?_
      rfl
  rw [read, start, taken]
  exact Field.outcome_bind rfl

theorem good_fields_iff : (∀ field ∈ fields index, field.Good data) ↔
    tableStart + recordLength * (index + 1) ≤ data.length ∧
      (data.numberAt 1 (tableStart + recordLength * index) = 4 ∨
        data.numberAt 1 (tableStart + recordLength * index) = 8) := by
  simp only [fields, List.forall_mem_cons, Field.Good, Field.free, Field.number,
    unsupportedCells_eq_none, and_true, recordLength]
  simp only [List.not_mem_nil, false_imp_iff, implies_true, and_true]
  omega

theorem rows_fields (index : Nat) : Field.Rows (tableStart + recordLength * index) (fields index)
    (tableStart + recordLength * index + recordLength) := by
  simp [fields, Field.Rows, Field.free, recordLength]

theorem encode_spelled (complete : tableStart + recordLength * (index + 1) ≤ data.length) :
    (spelled data index).encode = (data.drop (tableStart + recordLength * index)).take recordLength := by
  have whole : tableStart + recordLength * index + recordLength ≤ data.length := complete
  have written := (rows_fields index).flatMap_ofNat whole
  rw [Nat.add_sub_cancel_left] at written
  have one := Bytes.ofInt_natCast (data.numberAt_lt 1 (tableStart + recordLength * index))
  have four := fun place => Bytes.ofInt_natCast (data.numberAt_lt 4 place)
  rw [← written]
  simp [fields, Field.free, Field.number, encode, spelled, one, four]

/-- A record is read where all its bytes are there and its cell size is supported. -/
theorem read_eq_ok {self : Section} : read data index = .ok self ↔
    (tableStart + recordLength * (index + 1) ≤ data.length ∧
      (data.numberAt 1 (tableStart + recordLength * index) = 4 ∨
        data.numberAt 1 (tableStart + recordLength * index) = 8)) ∧ spelled data index = self := by
  rw [read_eq_outcome, Field.outcome_eq_ok, good_fields_iff]

end Section

namespace Container

/-- Refuses a table without sections, and one with more than there are cell sizes. -/
def unsupportedCount (count : Nat) : Option Fault :=
  if count < 1 then some .noSections
  else if count > sectionLimit then some (.tooManySections count sectionLimit)
  else none

def fields : List Field :=
  [⟨"magic", 0, 4, Field.only (.wrongMagic .container) magic⟩,
    ⟨"version", 4, 2, Field.only (.wrongContainerVersion .container) version⟩,
    ⟨"section_count", 6, 1, unsupportedCount⟩]

theorem unsupportedCount_eq_none {count : Nat} : unsupportedCount count = none ↔ count = 1 ∨ count = 2 := by
  unfold unsupportedCount sectionLimit
  split
  · simp
    omega
  · split
    · simp
      omega
    · simp
      omega

theorem unsupportedCount_eq_some {count : Nat} {fault : Fault} (found : unsupportedCount count = some fault) :
    fault = .noSections ∨ fault = .tooManySections count sectionLimit := by
  unfold unsupportedCount at found
  split at found
  · exact .inl (Option.some.inj found).symm
  · exact .inr (Option.some.inj (Option.ite_none_right_eq_some.mp found).2).symm

/-- The fields of the header are read in their order. -/
theorem parse_eq_outcome (data : Bytes) :
    parse data = Field.outcome .container data fields ⟨data.numberAt 1 6, data⟩ := by
  have taken : readHeader (Cursor.seek .container data 0) =
      Field.outcome .container data fields
        (data.numberAt 1 6, Cursor.seek .container data Section.tableStart) := by
    unfold readHeader
    refine Field.read_only (fun mark other => ?_) ?_
    · rw [if_pos other]
      rfl
    rw [if_neg (not_not.mpr rfl)]
    refine Field.read_only (fun found other => ?_) ?_
    · rw [if_pos other]
      rfl
    rw [if_neg (not_not.mpr rfl)]
    refine Field.read_checked (fun fault found => ?_) fun found => ?_
    · unfold unsupportedCount at found
      split at found
      · rename_i few
        obtain rfl := Option.some.inj found
        rw [if_pos few]
        rfl
      · rename_i some_
        obtain ⟨many, same⟩ := Option.ite_none_right_eq_some.mp found
        obtain rfl := Option.some.inj same
        rw [if_neg some_, if_pos many]
        rfl
    · have counted : data.numberAt 1 6 = 1 ∨ data.numberAt 1 6 = 2 := unsupportedCount_eq_none.mp found
      have few : ¬data.numberAt 1 6 > sectionLimit := by
        rw [sectionLimit]
        omega
      rw [if_neg (show ¬data.numberAt 1 6 < 1 by omega), if_neg few]
      rfl
  rw [parse, taken]
  exact Field.outcome_bind rfl

theorem good_fields_iff {data : Bytes} : (∀ field ∈ fields, field.Good data) ↔
    Section.tableStart ≤ data.length ∧ data.numberAt 4 0 = magic ∧ data.numberAt 2 4 = version ∧
      (data.numberAt 1 6 = 1 ∨ data.numberAt 1 6 = 2) := by
  simp only [fields, List.forall_mem_cons, Field.Good, Field.number, Field.only,
    unsupportedCount_eq_none, ite_eq_left_iff, reduceCtorEq, imp_false, not_not, Section.tableStart]
  simp only [List.not_mem_nil, false_imp_iff, implies_true, and_true]
  omega

theorem rows_fields : Field.Rows 0 fields Section.tableStart := by
  simp [fields, Field.Rows, Section.tableStart]

theorem encodeHeader_number {data : Bytes} (good : ∀ field ∈ fields, field.Good data) :
    encodeHeader (data.numberAt 1 6) = data.take Section.tableStart := by
  obtain ⟨complete, mark, versioned, _⟩ := good_fields_iff.mp good
  have written := rows_fields.flatMap_ofNat complete
  rw [List.drop_zero, Nat.sub_zero] at written
  rw [← written, encodeHeader, ← mark, ← versioned]
  simp [fields, Field.number]

/-- A container is accepted exactly when it begins with the header of one or two sections. -/
theorem parse_eq_ok {data : Bytes} {self : Container} : parse data = .ok self ↔
    self.data = data ∧ (self.sectionCount = 1 ∨ self.sectionCount = 2) ∧
      ∃ rest, data = encodeHeader self.sectionCount ++ rest := by
  constructor
  · intro parsed
    rw [parse_eq_outcome, Field.outcome_eq_ok] at parsed
    obtain ⟨good, rfl⟩ := parsed
    refine ⟨rfl, (good_fields_iff.mp good).2.2.2, data.drop Section.tableStart, ?_⟩
    rw [encodeHeader_number good, List.take_append_drop]
  · obtain ⟨count, found⟩ := self
    rintro ⟨rfl, counted, rest, same⟩
    change found = encodeHeader count ++ rest at same
    subst same
    exact parse_encodeHeader counted rest

variable {self : Container} {records : List Section} {index : Nat}

theorem sectionAt_of_lt (inside : index < self.sectionCount) :
    self.sectionAt index = Section.read self.data index :=
  if_pos ⟨Int.natCast_nonneg index, Int.ofNat_lt.mpr inside⟩

theorem sections_eq_ok : self.sections = .ok records ↔ records.length = self.sectionCount ∧
    ∀ (index : Nat) record, records[index]? = some record → self.sectionAt index = .ok record := by
  rw [sections, Traversal.mapM_range_eq_ok]
  refine and_congr_right fun length => forall_congr' fun index => forall_congr' fun record =>
    imp_congr_right fun found => ?_
  rw [sectionAt_of_lt (length ▸ (List.getElem?_eq_some_iff.mp found).1)]

theorem sections_eq_error {fault : Fault} : self.sections = .error fault ↔
    ∃ index < self.sectionCount, self.sectionAt index = .error fault ∧
      ∀ before < index, ∃ record, self.sectionAt before = .ok record := by
  rw [sections, Traversal.mapM_range_eq_error]
  refine exists_congr fun index => and_congr_right fun inside => ?_
  rw [sectionAt_of_lt inside]
  refine and_congr_right fun _ => forall_congr' fun before => imp_congr_right fun less => ?_
  rw [sectionAt_of_lt (Nat.lt_trans less inside)]

theorem flatMap_windows (data : Bytes) (start width count : Nat) :
    (List.range count).flatMap (fun index => (data.drop (start + width * index)).take width) =
      (data.drop start).take (width * count) := by
  induction count with
  | zero => simp
  | succ count ih =>
    rw [List.range_succ, List.flatMap_append, ih, List.flatMap_singleton, Nat.mul_succ, List.take_add,
      List.drop_drop]

/-- Records that were read are written to the bytes they were read from. -/
theorem flatMap_encode (listed : self.sections = .ok records) :
    records.flatMap Section.encode =
      (self.data.drop Section.tableStart).take (Section.recordLength * self.sectionCount) := by
  obtain ⟨length, each⟩ := sections_eq_ok.mp listed
  have read : ∀ index ∈ List.range self.sectionCount,
      Section.tableStart + Section.recordLength * (index + 1) ≤ self.data.length ∧
        Section.read self.data index = .ok (Section.spelled self.data index) := by
    intro index member
    have inside := List.mem_range.mp member
    have found := each index _ (List.getElem?_eq_getElem (length.symm ▸ inside))
    rw [sectionAt_of_lt inside, Section.read_eq_ok] at found
    exact ⟨found.1.1, Section.read_eq_ok.mpr ⟨found.1, rfl⟩⟩
  have all := Traversal.mapM_of_forall fun index member => (read index member).2
  obtain rfl := Except.ok.inj (listed.symm.trans all)
  have windows := List.map_congr_left fun index member => Section.encode_spelled (read index member).1
  rw [List.flatMap_map, List.flatMap_def, windows, ← List.flatMap_def, flatMap_windows]

/-- What the bytes of an accepted container say about its table. -/
structure TableExact (container : Container) : Prop where
  listed : (∃ records, container.sections = .ok records) ↔
    ∀ index < container.sectionCount, ∃ record, container.sectionAt index = .ok record
  entries : ∀ records, container.sections = .ok records → records.length = container.sectionCount ∧
    ∀ (index : Nat) record, records[index]? = some record → container.sectionAt index = .ok record
  failed : ∀ fault, container.sections = .error fault ↔
    ∃ index < container.sectionCount, container.sectionAt index = .error fault ∧
      ∀ before < index, ∃ record, container.sectionAt before = .ok record
  packed : ∀ records, container.sections = .ok records →
    encodeHeader container.sectionCount ++ records.flatMap Section.encode =
      container.data.take (tableLength container.sectionCount)
  refused : ∀ index < container.sectionCount, ∀ fault, container.sectionAt index = .error fault ↔
    Field.FirstFault .record container.data (Section.fields index) fault
  /-- The cell size is judged before the rest of the record is looked for. -/
  cells : ∀ index < container.sectionCount, ∀ byte,
    container.data[Section.tableStart + Section.recordLength * index]? = some byte → byte ≠ 4 → byte ≠ 8 →
      container.sectionAt index = .error (.cellSize .record byte.toNat [4, 8])
  alone : ∀ (other : Container) (index : Nat), index < container.sectionCount → index < other.sectionCount →
    container.data.Shares other.data (Section.recordStart index)
      (Section.recordStart index + Section.recordLength) →
        other.sectionAt index = container.sectionAt index

theorem tableExact {data : Bytes} (parsed : parse data = .ok self) : self.TableExact := by
  obtain ⟨rfl, _, rest, same⟩ := parse_eq_ok.mp parsed
  constructor
  case listed =>
    constructor
    · rintro ⟨records, listed⟩ index inside
      obtain ⟨length, each⟩ := sections_eq_ok.mp listed
      exact ⟨_, each index _ (List.getElem?_eq_getElem (length.symm ▸ inside))⟩
    · intro each
      cases found : self.sections with
      | ok records => exact ⟨records, rfl⟩
      | error fault =>
        obtain ⟨index, inside, failed, _⟩ := sections_eq_error.mp found
        obtain ⟨record, read⟩ := each index inside
        rw [failed] at read
        cases read
  case entries => exact fun records listed => sections_eq_ok.mp listed
  case failed => exact fun fault => sections_eq_error
  case packed =>
    intro records listed
    have header : encodeHeader self.sectionCount = self.data.take Section.tableStart := by
      conv => rhs; rw [same]
      exact (List.take_left' (length_encodeHeader _)).symm
    rw [flatMap_encode listed, header, tableLength, List.take_add]
  case refused =>
    intro index inside fault
    rw [sectionAt_of_lt inside, Section.read_eq_outcome, Field.outcome_eq_error]
  case cells =>
    intro index inside byte found four eight
    have bound := (List.getElem?_eq_some_iff.mp found).1
    rw [sectionAt_of_lt inside, Section.read_eq_outcome, Field.outcome_eq_error]
    refine ⟨[], _, _, rfl, List.forall_mem_nil _, .refused bound ?_⟩
    rw [Field.number, Bytes.numberAt_one found]
    refine if_neg ?_
    rintro (same | same)
    · exact four (UInt8.toNat_inj.mp same)
    · exact eight (UInt8.toNat_inj.mp same)
  case alone =>
    intro other index inside within shares
    rw [sectionAt_of_lt inside, sectionAt_of_lt within, Section.read_eq_of_shares shares]

/-- Table bytes and records are one and the same. A container is accepted exactly when it begins with its
header; records that fit are read back, whatever stands behind them, and records that were read are
written to the bytes they were read from; and reading all records is reading each of them. -/
theorem table_exactly :
    (∀ data self, parse data = .ok self ↔ self.data = data ∧
      (self.sectionCount = 1 ∨ self.sectionCount = 2) ∧
        ∃ rest, data = encodeHeader self.sectionCount ++ rest) ∧
    (∀ records : List Section, records.length = 1 ∨ records.length = 2 →
      (∀ (index : Nat) record, records[index]? = some record → record.index = index ∧ record.Fits) →
      ∀ rest, ∃ self, self.sectionCount = records.length ∧ self.sections = .ok records ∧
        parse (encodeHeader records.length ++ records.flatMap Section.encode ++ rest) = .ok self) ∧
    ∀ data self, parse data = .ok self → self.TableExact := by
  refine ⟨fun data self => parse_eq_ok, ?_, fun data self => tableExact⟩
  intro records counted numbered rest
  refine ⟨⟨records.length, encodeHeader records.length ++ records.flatMap Section.encode ++ rest⟩, rfl,
    sections_eq_ok.mpr ⟨rfl, fun index record found => ?_⟩, ?_⟩
  · obtain ⟨number, fits⟩ := numbered index record found
    rw [sectionAt_of_lt (List.getElem?_eq_some_iff.mp found).1]
    exact Section.read_of_holdsAt fits number (holdsAt_encoded found records.length rest)
  · rw [List.append_assoc]
    exact parse_encodeHeader counted _

def extremeRecords : List Section :=
  [⟨0, 8, 0xFFFFFFFF, 0, 0xFFFFFFFF, 0⟩, ⟨1, 4, 0, 0xFFFFFFFF, 0, 0xFFFFFFFF⟩]

/-- The first of them, and nothing but an unsupported cell size where the second one should be. -/
def halfTable : Bytes := encodeHeader 2 ++ (extremeRecords.take 1).flatMap Section.encode ++ [3]

theorem table_exactly_halfTable :
    (∃ self, self.sectionCount = 2 ∧ self.sections = .ok extremeRecords ∧
      parse (encodeHeader 2 ++ extremeRecords.flatMap Section.encode ++ [1, 2]) = .ok self) ∧
    ∃ self, parse halfTable = .ok self ∧
      self.sectionAt (0 : Nat) = .ok ⟨0, 8, 0xFFFFFFFF, 0, 0xFFFFFFFF, 0⟩ ∧
      self.sectionAt (1 : Nat) = .error (.cellSize .record 3 [4, 8]) ∧
      self.sections = .error (.cellSize .record 3 [4, 8]) := by
  obtain ⟨accepted, readBack, table⟩ := table_exactly
  have numbered : ∀ (index : Nat) record, extremeRecords[index]? = some record →
      record.index = index ∧ record.Fits := by
    intro index record found
    match index, found with
    | 0, found =>
      obtain rfl := Option.some.inj found
      exact ⟨rfl, by decide, by decide, by decide, by decide, by decide⟩
    | 1, found =>
      obtain rfl := Option.some.inj found
      exact ⟨rfl, by decide, by decide, by decide, by decide, by decide⟩
  have parsed : parse halfTable = .ok ⟨2, halfTable⟩ :=
    (accepted halfTable ⟨2, halfTable⟩).mpr ⟨rfl, .inr rfl, _, List.append_assoc ..⟩
  have exactly := table halfTable _ parsed
  have first : sectionAt ⟨2, halfTable⟩ (0 : Nat) = .ok ⟨0, 8, 0xFFFFFFFF, 0, 0xFFFFFFFF, 0⟩ := by
    decide +kernel
  have second := exactly.cells 1 (by decide) 3 (by decide +kernel) (by decide) (by decide)
  refine ⟨readBack extremeRecords (.inr rfl) numbered [1, 2], _, parsed, first, second, ?_⟩
  refine (exactly.failed _).mpr ⟨1, by decide, second, fun before less => ?_⟩
  obtain rfl : before = 0 := by omega
  exact ⟨_, first⟩

end Container

end PawnBytecode
