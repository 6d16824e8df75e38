import PawnBytecode.Proofs.Bytes.Records
import PawnBytecode.Proofs.Module.Header

/-! Module headers, told by the bytes of the image alone. A header is read exactly where all its fields
are there and its marks are right, and otherwise the first field that is not decides the fault. -/
namespace PawnBytecode

namespace Header

def fields : List Field :=
  [.free "size" 0 4, ⟨"magic", 4, 2, Field.only (.wrongMagic .image) magic⟩,
    ⟨"file_version", 6, 1, Field.only (.wrongFileVersion .image) fileVersion⟩,
    ⟨"amx_version", 7, 1, Field.only (.wrongMachineVersion .image) machineVersion⟩,
    .free "flags" 8 2, .free "defsize" 10 2, .free "cod" 12 4, .free "dat" 16 4, .free "hea" 20 4,
    .free "stp" 24 4, .free "cip" 28 4, .free "publics" 32 4, .free "natives" 36 4,
    .free "libraries" 40 4, .free "pubvars" 44 4, .free "tags" 48 4, .free "nametable" 52 4]

/-- The header that the front of an image spells. -/
def spelled (image : Bytes) : Header where
  size := image.numberAt 4 0
  flags := image.numberAt 2 8
  definitionSize := image.numberAt 2 10
  code := image.numberAt 4 12
  data := image.numberAt 4 16
  heap := image.numberAt 4 20
  stack := image.numberAt 4 24
  entry := image.numberAt 4 28
  publics := image.numberAt 4 32
  natives := image.numberAt 4 36
  libraries := image.numberAt 4 40
  publicVariables := image.numberAt 4 44
  tags := image.numberAt 4 48
  names := image.numberAt 4 52

/-- The bytes of a described header: the described numbers in their widths, and the three marks. -/
def pack (description : List (String × Nat)) : Bytes :=
  let described := fun (width : Nat) (name : String) => Bytes.ofNat width ((description.lookup name).getD 0)
  described 4 "size" ++ Bytes.ofNat 2 magic ++ Bytes.ofNat 1 fileVersion ++ Bytes.ofNat 1 machineVersion ++
    described 2 "flags" ++ described 2 "defsize" ++ offsetNames.flatMap (described 4)

variable {image : Bytes}

theorem read_marked {wrong : Stage → Int → Int → Fault} {expected : Nat} {name : String}
    {start width : Nat} {others : List Field} {next : Reading α} {after : α × Cursor}
    (rest : next (Cursor.seek .image image (start + width : Nat)) =
      Field.outcome .image image others after) :
    (Cursor.number name width >>= fun actual => require wrong expected actual >>= fun _ => next)
        (Cursor.seek .image image start) =
      Field.outcome .image image (⟨name, start, width, Field.only (wrong .image) expected⟩ :: others) after := by
  refine Field.read_only (fun actual other => ?_) ?_
  · rw [require, if_neg other]
    rfl
  · rw [Reading.bind_of_ok (require_self ..)]
    exact rest

theorem read_eq_outcome (image : Bytes) :
    read (Cursor.seek .image image 0) =
      Field.outcome .image image fields (spelled image, Cursor.seek .image image length) := by
  unfold read readMarks
  simp only [bind_assoc]
  refine Field.read_free ?_
  iterate 3 refine read_marked ?_
  iterate 13 refine Field.read_free ?_
  rfl

theorem good_fields_iff : (∀ field ∈ fields, field.Good image) ↔
    length ≤ image.length ∧ image.numberAt 2 4 = magic ∧ image.numberAt 1 6 = fileVersion ∧
      image.numberAt 1 7 = machineVersion := by
  simp only [fields, List.forall_mem_cons, Field.Good, Field.free, Field.number, Field.only,
    ite_eq_left_iff, reduceCtorEq, imp_false, Decidable.not_not, and_true, length]
  simp only [List.not_mem_nil, false_imp_iff, implies_true, and_true]
  omega

theorem rows_fields : Field.Rows 0 fields length := by
  simp [fields, Field.Rows, Field.free, length]

theorem encode_spelled (good : ∀ field ∈ fields, field.Good image) :
    (spelled image).encode = image.take length := by
  obtain ⟨complete, mark, fileMark, machineMark⟩ := good_fields_iff.mp good
  have written := rows_fields.flatMap_ofNat complete
  rw [List.drop_zero, Nat.sub_zero] at written
  rw [← written, encode, ← mark, ← fileMark, ← machineMark]
  simp [fields, Field.free, Field.number, spelled, offsets]

theorem fits_spelled (image : Bytes) : (spelled image).Fits := by
  have four := Bytes.numberAt_lt 4 image
  have two := Bytes.numberAt_lt 2 image
  refine ⟨four _, two _, two _, fun offset member => ?_⟩
  simp only [offsets, spelled, List.mem_cons, List.not_mem_nil, or_false] at member
  rcases member with rfl | rfl | rfl | rfl | rfl | rfl | rfl | rfl | rfl | rfl | rfl <;> exact four _

end Header

namespace Module

theorem pack_description (self : Module) : Header.pack self.description = self.header.encode := by
  simp [Header.pack, description, Header.offsetNames, Header.offsets, Header.encode, List.lookup_cons]

theorem parse_bytes (image : Bytes) (size : CellSize) : parse image size.bytes =
    Field.outcome .image image Header.fields ⟨Header.spelled image, size, image⟩ := by
  rw [parse, CellSize.check_bytes, Header.read_eq_outcome]
  exact Field.outcome_bind rfl

/-- What the bytes of an image say about its header. -/
structure ParsesExactly (image : Bytes) (cellSize : Int) : Prop where
  accepted : (∃ module, parse image cellSize = .ok module) ↔ (cellSize = 4 ∨ cellSize = 8) ∧
    Header.length ≤ image.length ∧ image.numberAt 2 4 = 0xF1E0 ∧ image.numberAt 1 6 = 8 ∧
      image.numberAt 1 7 = 8
  kept : ∀ module, parse image cellSize = .ok module →
    module.image = image ∧ module.cellSize.bytes = cellSize ∧ module.header.Fits
  packed : ∀ module, parse image cellSize = .ok module →
    Header.pack module.description = module.header.encode ∧
      module.header.encode = image.take Header.length
  /-- The cell size comes before all fields. -/
  unsupported : ¬(cellSize = 4 ∨ cellSize = 8) →
    parse image cellSize = .error (.cellSize .image cellSize [4, 8])
  refused : (cellSize = 4 ∨ cellSize = 8) →
    ∀ fault, parse image cellSize = .error fault ↔ Field.FirstFault .image image Header.fields fault

theorem parsesExactly (image : Bytes) (cellSize : Int) : ParsesExactly image cellSize := by
  by_cases supported : cellSize = 4 ∨ cellSize = 8
  · obtain ⟨size, rfl⟩ := CellSize.exists_bytes_iff.mpr supported
    have found : ∀ module, parse image size.bytes = .ok module ↔
        (∀ field ∈ Header.fields, field.Good image) ∧ ⟨Header.spelled image, size, image⟩ = module := by
      intro module
      rw [parse_bytes, Field.outcome_eq_ok]
    constructor
    case accepted =>
      simp only [found, exists_and_left, exists_eq', and_true, Header.good_fields_iff, supported, true_and]
      rfl
    case kept =>
      intro module parsed
      obtain ⟨_, rfl⟩ := (found module).mp parsed
      exact ⟨rfl, rfl, Header.fits_spelled image⟩
    case packed =>
      intro module parsed
      obtain ⟨good, rfl⟩ := (found module).mp parsed
      exact ⟨pack_description _, Header.encode_spelled good⟩
    case unsupported => exact fun unsupported => absurd supported unsupported
    case refused =>
      intro _ fault
      rw [parse_bytes, Field.outcome_eq_error]
  · have failed : parse image cellSize = .error (.cellSize .image cellSize [4, 8]) := by
      rw [parse, CellSize.check_unsupported supported]
      rfl
    constructor
    case accepted => simp [failed, supported]
    case kept | packed =>
      intro module parsed
      rw [failed] at parsed
      cases parsed
    case unsupported => exact fun _ => failed
    case refused => exact fun holds => absurd holds supported

/-- Header bytes and header numbers are one and the same. An image is accepted exactly when its header
is whole and has its marks, and the numbers read are packed to the bytes they were read from; numbers
that fit, packed with anything behind them, are read back; and all else fails at the first field that
is cut off or wrong. -/
theorem parse_exactly :
    (∀ image cellSize, ParsesExactly image cellSize) ∧
    ∀ header : Header, header.Fits → ∀ (size : CellSize) (rest : Bytes),
      parse (header.encode ++ rest) size.bytes = .ok ⟨header, size, header.encode ++ rest⟩ :=
  ⟨parsesExactly, fun _ fits size rest => parse_encode fits size rest⟩

/-- A header whose numbers are all different, some of them the largest of their width. -/
def distinctHeader : Header :=
  ⟨0xFFFFFFFF, 0xFFFF, 2, 3, 4, 5, 6, 0xFFFFFFFE, 7, 8, 9, 10, 11, 0x80000000⟩

theorem parse_exactly_distinct :
    distinctHeader.Fits ∧
      parse (distinctHeader.encode ++ [0x2A]) 8 =
        .ok ⟨distinctHeader, .eight, distinctHeader.encode ++ [0x2A]⟩ ∧
      parse (distinctHeader.encode.take 19) 4 = .error (.truncated .image "dat" 16) ∧
      parse [0, 0, 0, 0, 0xE0, 0xF1, 9] 4 = .error (.wrongFileVersion .image 8 9) ∧
      parse [] 2 = .error (.cellSize .image 2 [4, 8]) := by
  obtain ⟨exactly, readBack⟩ := parse_exactly
  have fits : distinctHeader.Fits := ⟨by decide, by decide, by decide, by decide⟩
  refine ⟨fits, readBack distinctHeader fits .eight [0x2A], ?_, ?_, (exactly [] 2).unsupported (by decide)⟩
  · rw [(exactly _ 4).refused (.inl rfl), Field.firstFault_iff]
    rfl
  · rw [(exactly _ 4).refused (.inl rfl), Field.firstFault_iff]
    rfl

end Module

end PawnBytecode
