import PawnBytecode.Container.Pack
import PawnBytecode.Proofs.Bytes.Region
import PawnBytecode.Proofs.Failing
import PawnBytecode.Proofs.Module.Header

namespace PawnBytecode

namespace Section

structure Fits (self : Section) : Prop where
  cellSize : self.cellSize = 4 ∨ self.cellSize = 8
  diskSize : 0 ≤ self.diskSize ∧ self.diskSize < 2 ^ 32
  imageSize : 0 ≤ self.imageSize ∧ self.imageSize < 2 ^ 32
  memorySize : 0 ≤ self.memorySize ∧ self.memorySize < 2 ^ 32
  offset : 0 ≤ self.offset ∧ self.offset < 2 ^ 32

theorem length_encode (self : Section) : self.encode.length = recordLength := by
  simp [encode, recordLength]

theorem readRecord_ofNat {cellSize diskSize imageSize memorySize offset : Nat}
    (cells : (cellSize : Int) = 4 ∨ (cellSize : Int) = 8) (disk : diskSize < 2 ^ 32)
    (image : imageSize < 2 ^ 32) (memory : memorySize < 2 ^ 32) (place : offset < 2 ^ 32)
    (index : Nat) (start : Int) (rest : Bytes) :
    ∃ next, readRecord index ⟨.record, start, some (Bytes.ofNat 1 cellSize ++ (Bytes.ofNat 4 diskSize ++
        (Bytes.ofNat 4 imageSize ++ (Bytes.ofNat 4 memorySize ++ (Bytes.ofNat 4 offset ++ rest)))))⟩ =
      .ok (⟨index, cellSize, diskSize, imageSize, memorySize, offset⟩, next) := by
  obtain ⟨found, supported⟩ := CellSize.check_supported cells .record
  have small : cellSize < 256 := by omega
  rw [readRecord, Reading.bind_of_ok (Cursor.u8_ofNat small ..), supported,
    Reading.bind_of_ok (Reading.liftM_ok ..), Reading.bind_of_ok (Cursor.u32_ofNat disk ..),
    Reading.bind_of_ok (Cursor.u32_ofNat image ..), Reading.bind_of_ok (Cursor.u32_ofNat memory ..),
    Reading.bind_of_ok (Cursor.u32_ofNat place ..)]
  exact ⟨_, rfl⟩

/-- A record is read back where it stands. -/
theorem read_of_holdsAt {data : Bytes} {self : Section} {index : Nat} (fits : self.Fits)
    (numbered : self.index = index)
    (holds : data.HoldsAt (tableStart + recordLength * index) self.encode) :
    read data index = .ok self := by
  obtain ⟨number, cellSize, diskSize, imageSize, memorySize, offset⟩ := self
  obtain ⟨cells, ⟨disk, diskBound⟩, ⟨image, imageBound⟩, ⟨memory, memoryBound⟩, ⟨place, placeBound⟩⟩ := fits
  simp only at numbered cells disk diskBound image imageBound memory memoryBound place placeBound
  -- The fields are whole numbers without a sign, as the bytes are.
  obtain ⟨cellSize, rfl⟩ := Int.eq_ofNat_of_zero_le (show 0 ≤ cellSize by omega)
  obtain ⟨diskSize, rfl⟩ := Int.eq_ofNat_of_zero_le disk
  obtain ⟨imageSize, rfl⟩ := Int.eq_ofNat_of_zero_le image
  obtain ⟨memorySize, rfl⟩ := Int.eq_ofNat_of_zero_le memory
  obtain ⟨offset, rfl⟩ := Int.eq_ofNat_of_zero_le place
  have cellSmall : cellSize < 256 ^ 1 := by omega
  have diskSmall : diskSize < 256 ^ 4 := by omega
  have imageSmall : imageSize < 256 ^ 4 := by omega
  have memorySmall : memorySize < 256 ^ 4 := by omega
  have offsetSmall : offset < 256 ^ 4 := by omega
  obtain ⟨after, sought⟩ := holds.seek .record
  simp only [encode, Bytes.ofInt_natCast cellSmall, Bytes.ofInt_natCast diskSmall,
    Bytes.ofInt_natCast imageSmall, Bytes.ofInt_natCast memorySmall, Bytes.ofInt_natCast offsetSmall,
    List.append_assoc] at sought
  have start : (tableStart : Int) + recordLength * index = (tableStart + recordLength * index : Nat) := by
    simp
  obtain ⟨next, taken⟩ := readRecord_ofNat cells diskSmall imageSmall memorySmall offsetSmall index
    (tableStart + recordLength * index : Nat) after
  rw [read, start, sought, taken, numbered]
  rfl

/-- What stands where a record says is the payload of its section. -/
theorem slice?_of_holdsAt {data payload : Bytes} {self : Section} {start : Nat}
    (holds : data.HoldsAt start payload) (offset : self.offset = start)
    (size : self.diskSize = payload.length) : data.slice? self.offset self.stop = some payload := by
  rw [stop, offset, size, ← Int.natCast_add]
  exact holds.slice?

/-- A section whose payload inflates to an image of the declared length is unpacked to it. -/
theorem unpack_of_holdsAt {data payload image : Bytes} {self : Section} {start : Nat}
    (holds : data.HoldsAt start payload) (offset : self.offset = start)
    (size : self.diskSize = payload.length) (length : self.imageSize = image.length)
    (inflates : Deflate.decompress payload = .ok image) : self.unpack data = .ok image := by
  simp only [unpack, slice?_of_holdsAt holds offset size, inflates, length, ↓reduceIte]

end Section

namespace Container

/-- The sections fit a container: their count and every number of their records. -/
structure Fits (variants : List Variant) : Prop where
  count : variants.length = 1 ∨ variants.length = 2
  length : (pack variants).length < 2 ^ 32
  images : ∀ variant ∈ variants, variant.image.length < 2 ^ 32
  memory : ∀ variant ∈ variants, variant.memorySize < 2 ^ 32

variable {variants : List Variant}

theorem length_encodeHeader (count : Nat) : (encodeHeader count).length = Section.tableStart := by
  simp [encodeHeader, Section.tableStart]

theorem length_recordsFrom (index offset : Nat) (variants : List Variant) :
    (recordsFrom index offset variants).length = variants.length := by
  induction variants generalizing index offset with
  | nil => rfl
  | cons variant variants ih => simp [recordsFrom, ih]

theorem length_encoded (sections : List Section) :
    (sections.flatMap Section.encode).length = Section.recordLength * sections.length := by
  induction sections with
  | nil => rfl
  | cons first sections ih =>
    rw [List.flatMap_cons, List.length_append, ih, Section.length_encode, List.length_cons, Nat.mul_succ,
      Nat.add_comm]

theorem getElem?_recordsFrom {index : Nat} {variant : Variant} (found : variants[index]? = some variant)
    (first offset : Nat) :
    (recordsFrom first offset variants)[index]? = some (variant.record (first + index)
      (offset + ((variants.take index).flatMap Variant.payload).length)) := by
  induction variants generalizing index first offset with
  | nil => cases found
  | cons other variants ih =>
    cases index with
    | zero =>
      obtain rfl := Option.some.inj found
      rfl
    | succ index =>
      have next := ih found (first + 1) (offset + other.payload.length)
      rw [Nat.add_assoc first, Nat.add_comm 1, Nat.add_assoc offset] at next
      simpa [recordsFrom] using next

def payloadStart (variants : List Variant) (index : Nat) : Nat :=
  tableLength variants.length + ((variants.take index).flatMap Variant.payload).length

/-- Every record stands at its number in the table, whatever stands behind the table. -/
theorem holdsAt_encoded {records : List Section} {index : Nat} {record : Section}
    (found : records[index]? = some record) (count : Nat) (rest : Bytes) :
    Bytes.HoldsAt (encodeHeader count ++ records.flatMap Section.encode ++ rest)
      (Section.tableStart + Section.recordLength * index) record.encode := by
  have table := (Bytes.holdsAt_self (encodeHeader count ++ records.flatMap Section.encode ++ rest)).left.right
  rw [length_encodeHeader, Nat.zero_add] at table
  have bound := (List.getElem?_eq_some_iff.mp found).1
  have holds := table.trans (Bytes.holdsAt_flatMap found)
  rwa [length_encoded, List.length_take, Nat.min_eq_left (Nat.le_of_lt bound)] at holds

theorem holdsAt_record {index : Nat} {variant : Variant} (found : variants[index]? = some variant) :
    (pack variants).HoldsAt (Section.tableStart + Section.recordLength * index)
      (variant.record index (payloadStart variants index)).encode := by
  have record := getElem?_recordsFrom found 0 (tableLength variants.length)
  rw [Nat.zero_add] at record
  exact holdsAt_encoded record variants.length (variants.flatMap Variant.payload)

theorem holdsAt_payload {index : Nat} {variant : Variant} (found : variants[index]? = some variant) :
    (pack variants).HoldsAt (payloadStart variants index) variant.payload := by
  have payloads := (pack variants).holdsAt_self.right
  rw [List.length_append, length_encodeHeader, length_encoded, length_recordsFrom, Nat.zero_add] at payloads
  exact payloads.trans (Bytes.holdsAt_flatMap found)

theorem data_of_parse {data : Bytes} {self : Container} (parsed : parse data = .ok self) :
    self.data = data := by
  obtain ⟨_, _, same⟩ := exists_of_bind parsed
  obtain rfl := Except.ok.inj same
  rfl

theorem isContainer_pack (variants : List Variant) : isContainer (pack variants) = true := by
  have bytes : (pack variants).take 4 = Bytes.ofNat 4 magic := by
    simp only [pack, encodeHeader, List.append_assoc]
    exact List.take_left' (Bytes.length_ofNat ..)
  have long : 4 ≤ (pack variants).length := by
    simp only [pack, encodeHeader, List.length_append, Bytes.length_ofNat]
    omega
  rw [isContainer, bytes, Bytes.unsigned_ofNat, decide_eq_true long]
  rfl

/-- A header is read back, whatever stands behind it. -/
theorem parse_encodeHeader {count : Nat} (counted : count = 1 ∨ count = 2) (rest : Bytes) :
    parse (encodeHeader count ++ rest) = .ok ⟨count, encodeHeader count ++ rest⟩ := by
  have small : count < 256 := by omega
  have some_ : ¬count < 1 := by omega
  have few : ¬count > sectionLimit := by
    simp only [sectionLimit]
    omega
  have header : ∃ next, readHeader (Cursor.seek .container (encodeHeader count ++ rest) 0) =
      .ok (count, next) := by
    rw [Cursor.seek_zero]
    simp only [encodeHeader, List.append_assoc]
    simp only [readHeader, bind, StateT.bind, Except.bind,
      Cursor.u32_ofNat (show magic < 2 ^ 32 by decide), Cursor.u16_ofNat (show version < 2 ^ 16 by decide),
      Cursor.u8_ofNat small, ne_eq, not_true_eq_false, some_, few, ↓reduceIte]
    exact ⟨_, rfl⟩
  obtain ⟨next, header⟩ := header
  rw [parse, header]
  rfl

theorem parse_pack (count : variants.length = 1 ∨ variants.length = 2) :
    parse (pack variants) = .ok ⟨variants.length, pack variants⟩ := by
  rw [pack, List.append_assoc]
  exact parse_encodeHeader count _

theorem fits_record (fits : Fits variants) {index : Nat} {variant : Variant}
    (found : variants[index]? = some variant) :
    (variant.record index (payloadStart variants index)).Fits := by
  have member := List.mem_of_getElem? found
  have image := fits.images variant member
  have memory := fits.memory variant member
  have payload := (holdsAt_payload found).bound
  have total := fits.length
  constructor
  · cases same : variant.cellSize <;> simp [Variant.record, same, CellSize.bytes]
  all_goals
    simp only [Variant.record]
    omega

theorem load_record (fits : Fits variants) {index : Nat} {variant : Variant}
    (found : variants[index]? = some variant)
    (inflates : Deflate.decompress variant.payload = .ok variant.image) :
    load ⟨variants.length, pack variants⟩ index =
      Module.parse variant.image variant.cellSize.bytes := by
  have bound := (List.getElem?_eq_some_iff.mp found).1
  have inside : (0 : Int) ≤ index ∧ (index : Int) < variants.length := by omega
  have record := Section.read_of_holdsAt (fits_record fits found) rfl (holdsAt_record found)
  have image : (variant.record index (payloadStart variants index)).unpack (pack variants) =
      .ok variant.image :=
    Section.unpack_of_holdsAt (holdsAt_payload found) rfl rfl rfl inflates
  rw [load, sectionAt, if_pos inside, record]
  simp only [bind, Except.bind, Section.load, image]
  rfl

end Container

namespace Module

open Container (Fits Variant pack)

variable {variants : List Variant}

theorem load_pack_inside (fits : Fits variants)
    (inflates : ∀ variant ∈ variants, Deflate.decompress variant.payload = .ok variant.image)
    {index : Nat} {variant : Variant} (found : variants[index]? = some variant) (cellSize : Option Int) :
    load (pack variants) index cellSize = parse variant.image variant.cellSize.bytes := by
  rw [load, if_pos (Container.isContainer_pack variants), Container.parse_pack fits.count]
  exact Container.load_record fits found (inflates variant (List.mem_of_getElem? found))

theorem load_pack_outside (fits : Fits variants) {index : Int}
    (outside : ¬(0 ≤ index ∧ index < variants.length)) (cellSize : Option Int) :
    load (pack variants) index cellSize = .error (.sectionIndex index variants.length) := by
  rw [load, if_pos (Container.isContainer_pack variants), Container.parse_pack fits.count]
  simp only [bind, Except.bind, Container.load, Container.sectionAt, if_neg outside]

/-- The report on a section that is not there has the number that was asked for. -/
theorem report_load_pack_outside (fits : Fits variants) {index : Int}
    (outside : ¬(0 ≤ index ∧ index < variants.length)) (cellSize : Option Int) :
    Failure.report (load (pack variants) index cellSize) =
      .error (if Numeral.Writable index then .fault (.sectionIndex index variants.length)
        else .tooManyDigits) := by
  have brief : (Fault.sectionIndex index variants.length).Brief ↔ Numeral.Writable index :=
    Fault.brief_sectionIndex (by have := fits.count; omega)
  rw [load_pack_outside fits outside]
  split
  · rename_i short
    exact Failure.report_of_brief (brief.mpr short)
  · rename_i long
    exact Failure.report_of_long (mt brief.mp long)

/-- A container is transparent. Loading a section is parsing its image with the cell size of its
record, whatever cell size is given, and the sections that are there are all that can be loaded. Any
other is refused by its number, unless that is too long to be reported. -/
theorem load_pack (fits : Fits variants)
    (inflates : ∀ variant ∈ variants, Deflate.decompress variant.payload = .ok variant.image) :
    (∀ (index : Nat) variant cellSize, variants[index]? = some variant →
      load (pack variants) index cellSize = parse variant.image variant.cellSize.bytes) ∧
    ∀ (index : Int) cellSize, ¬(0 ≤ index ∧ index < variants.length) →
      Failure.report (load (pack variants) index cellSize) =
        .error (if Numeral.Writable index then .fault (.sectionIndex index variants.length)
          else .tooManyDigits) :=
  ⟨fun _ _ cellSize found => load_pack_inside fits inflates found cellSize,
    fun _ cellSize outside => report_load_pack_outside fits outside cellSize⟩

end Module

def sampleHeader : Header := ⟨56, 0, 8, 56, 56, 56, 56, 0xFFFFFFFF, 56, 56, 56, 56, 56, 56⟩

/-- A module that parses, then an image too short for a header. -/
def sampleVariants : List Container.Variant :=
  [⟨.eight, sampleHeader.encode, Deflate.store [sampleHeader.encode], 7⟩,
    ⟨.four, [1, 2, 3], Deflate.store [[1, 2], [3]], 0⟩]

theorem fits_sampleVariants : Container.Fits sampleVariants :=
  ⟨.inr rfl, by decide +kernel, by decide, by decide⟩

theorem Module.load_pack_sample :
    Container.Fits sampleVariants ∧
      (∀ variant ∈ sampleVariants, Deflate.decompress variant.payload = .ok variant.image) ∧
      load (Container.pack sampleVariants) 0 (some 4) = .ok ⟨sampleHeader, .eight, sampleHeader.encode⟩ ∧
      load (Container.pack sampleVariants) 1 none = .error (.truncated .image "size" 0) ∧
      Failure.report (load (Container.pack sampleVariants) (-1) none) =
        .error (.fault (.sectionIndex (-1) 2)) := by
  have inflates : ∀ variant ∈ sampleVariants,
      Deflate.decompress variant.payload = .ok variant.image := by
    intro variant member
    rcases List.mem_cons.mp member with rfl | member
    · rfl
    · obtain rfl := List.mem_singleton.mp member
      rfl
  obtain ⟨inside, outside⟩ := load_pack fits_sampleVariants inflates
  refine ⟨fits_sampleVariants, inflates, ?_, ?_, ?_⟩
  · rw [show (0 : Int) = (0 : Nat) from rfl, inside 0 _ (some 4) rfl]
    rfl
  · rw [show (1 : Int) = (1 : Nat) from rfl, inside 1 _ none rfl]
    rfl
  · rw [outside (-1) none (by decide), if_pos (Numeral.writable_of_small (by decide))]
    rfl

/-- A section that is not there, but is not reported. -/
theorem Module.load_pack_unwritten :
    ¬(Numeral.tooLong : Int) < sampleVariants.length ∧
      Failure.report (load (Container.pack sampleVariants) Numeral.tooLong none) =
        .error .tooManyDigits ∧
      ¬∃ fault, Failure.tooManyDigits = .fault fault := by
  have far : ¬(Numeral.tooLong : Int) < sampleVariants.length := by
    have long : 10 ^ 1 ≤ Numeral.tooLong := Numeral.pow_le_tooLong (by decide)
    have few : sampleVariants.length = 2 := rfl
    omega
  refine ⟨far, ?_, nofun⟩
  rw [report_load_pack_outside fits_sampleVariants fun inside => far inside.2,
    if_neg Numeral.not_writable_tooLong]

end PawnBytecode
