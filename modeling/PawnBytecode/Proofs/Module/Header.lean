import PawnBytecode.Module.Basic
import PawnBytecode.Proofs.Bytes.Reading

namespace PawnBytecode

namespace Header

structure Fits (header : Header) : Prop where
  size : header.size < 2 ^ 32
  flags : header.flags < 2 ^ 16
  definitionSize : header.definitionSize < 2 ^ 16
  offsets : ∀ offset ∈ header.offsets, offset < 2 ^ 32

theorem length_encode (header : Header) : header.encode.length = length := by
  simp [encode, offsets, length]

theorem require_self (wrong : Stage → Int → Int → Fault) (mark : Nat) (cursor : Cursor) :
    require wrong mark mark cursor = .ok ((), cursor) := by
  rw [require, if_pos rfl]
  rfl

theorem readMarks_encoded (stage : Stage) (offset : Int) (rest : Bytes) :
    readMarks ⟨stage, offset, some (Bytes.ofNat 2 magic ++ (Bytes.ofNat 1 fileVersion ++
      (Bytes.ofNat 1 machineVersion ++ rest)))⟩ = .ok ((), ⟨stage, offset + 2 + 1 + 1, some rest⟩) := by
  rw [readMarks, Reading.bind_of_ok (Cursor.u16_ofNat (by decide) ..),
    Reading.bind_of_ok (require_self ..), Reading.bind_of_ok (Cursor.u8_ofNat (by decide) ..),
    Reading.bind_of_ok (require_self ..), Reading.bind_of_ok (Cursor.u8_ofNat (by decide) ..),
    require_self]

/-- A header is read back from its bytes. -/
theorem read_encode {header : Header} (fits : header.Fits) (stage : Stage) (offset : Int)
    (rest : Bytes) :
    ∃ after, read ⟨stage, offset, some (header.encode ++ rest)⟩ = .ok (header, after) := by
  have code := fits.offsets header.code (by simp [offsets])
  have data := fits.offsets header.data (by simp [offsets])
  have heap := fits.offsets header.heap (by simp [offsets])
  have stack := fits.offsets header.stack (by simp [offsets])
  have entry := fits.offsets header.entry (by simp [offsets])
  have publics := fits.offsets header.publics (by simp [offsets])
  have natives := fits.offsets header.natives (by simp [offsets])
  have libraries := fits.offsets header.libraries (by simp [offsets])
  have publicVariables := fits.offsets header.publicVariables (by simp [offsets])
  have tags := fits.offsets header.tags (by simp [offsets])
  have names := fits.offsets header.names (by simp [offsets])
  simp only [encode, offsets, List.flatMap_cons, List.flatMap_nil, List.append_assoc, List.append_nil]
  rw [read, Reading.bind_of_ok (Cursor.u32_ofNat fits.size ..),
    Reading.bind_of_ok (readMarks_encoded ..),
    Reading.bind_of_ok (Cursor.u16_ofNat fits.flags ..),
    Reading.bind_of_ok (Cursor.u16_ofNat fits.definitionSize ..),
    Reading.bind_of_ok (Cursor.u32_ofNat code ..), Reading.bind_of_ok (Cursor.u32_ofNat data ..),
    Reading.bind_of_ok (Cursor.u32_ofNat heap ..), Reading.bind_of_ok (Cursor.u32_ofNat stack ..),
    Reading.bind_of_ok (Cursor.u32_ofNat entry ..), Reading.bind_of_ok (Cursor.u32_ofNat publics ..),
    Reading.bind_of_ok (Cursor.u32_ofNat natives ..),
    Reading.bind_of_ok (Cursor.u32_ofNat libraries ..),
    Reading.bind_of_ok (Cursor.u32_ofNat publicVariables ..),
    Reading.bind_of_ok (Cursor.u32_ofNat tags ..), Reading.bind_of_ok (Cursor.u32_ofNat names ..)]
  exact ⟨_, rfl⟩

end Header

namespace CellSize

theorem check_bytes (stage : Stage) (size : CellSize) : check stage (size.bytes : Int) = .ok size := by
  cases size <;> rfl

theorem exists_bytes_iff {size : Int} : (∃ found : CellSize, size = found.bytes) ↔ size = 4 ∨ size = 8 := by
  constructor
  · rintro ⟨_ | _, rfl⟩
    · exact .inl rfl
    · exact .inr rfl
  · rintro (rfl | rfl)
    · exact ⟨.four, rfl⟩
    · exact ⟨.eight, rfl⟩

theorem check_supported {size : Int} (supported : size = 4 ∨ size = 8) (stage : Stage) :
    ∃ found, check stage size = .ok found := by
  obtain ⟨found, rfl⟩ := exists_bytes_iff.mpr supported
  exact ⟨found, check_bytes stage found⟩

theorem check_unsupported {size : Int} (unsupported : ¬(size = 4 ∨ size = 8)) (stage : Stage) :
    check stage size = .error (.cellSize stage size supported) := by
  rw [check, if_neg fun four => unsupported (.inl four), if_neg fun eight => unsupported (.inr eight)]

end CellSize

theorem Module.parse_encode {header : Header} (fits : header.Fits) (size : CellSize) (rest : Bytes) :
    Module.parse (header.encode ++ rest) size.bytes = .ok ⟨header, size, header.encode ++ rest⟩ := by
  obtain ⟨after, read⟩ := Header.read_encode fits .image 0 rest
  simp only [Module.parse, CellSize.check_bytes, Cursor.seek_zero, read, bind, Except.bind, pure,
    Except.pure]

end PawnBytecode
