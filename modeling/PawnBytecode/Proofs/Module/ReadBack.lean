import PawnBytecode.Proofs.Module.Layout
import PawnBytecode.Proofs.Stages

namespace PawnBytecode.Module

namespace Parts

variable {parts : Parts}

theorem dataSegment_assembled (parts : Parts) : parts.assembled.dataSegment = .ok parts.data := by
  have region := parts.layout.data.slice?
  simp only [dataSegment, segment, assembled, header, length, region]

theorem instructions_compact (flagged : parts.flags &&& 0x04 ≠ 0) :
    parts.assembled.instructions = .error (.compactCode parts.flags) := by
  have compact : parts.assembled.header.flags &&& 0x04 ≠ 0 := flagged
  exact instructions_of_compact compact

/-- No code segment is refused for another encoding than its own. -/
theorem decode_ne_compact (size : CellSize) (code : Bytes) (flags : Int) :
    Code.decode size code ≠ .error (.compactCode flags) := by
  intro failed
  cases (Code.decode_ends size code).of_error failed

end Parts

/-- Reading an image undoes writing it: both tables, the code and the data come back, and the code
is decoded unless the flags say that it is stored in the variable-length encoding. -/
theorem parse_image {parts : Parts} {symbols : SymbolTable} (fits : parts.Fits)
    (spelled : parts.SpellsAll symbols) :
    ∃ module, parse parts.image parts.cellSize.bytes = .ok module ∧
      module.publics = .ok symbols.publics ∧ module.natives = .ok symbols.natives ∧
      module.codeSegment = .ok parts.code ∧ module.dataSegment = .ok parts.data ∧
      module.header.size = parts.image.length ∧
      (parts.flags &&& 0x04 = 0 → module.instructions = Code.decode parts.cellSize parts.code) ∧
      (module.instructions = .error (.compactCode parts.flags) ↔ parts.flags &&& 0x04 ≠ 0) := by
  rw [← spelled.symbols_eq]
  refine ⟨parts.assembled, fits.parse, fits.publics, fits.natives, parts.codeSegment_assembled,
    parts.dataSegment_assembled, parts.length_image.symm, Parts.instructions_assembled, ?_⟩
  constructor
  · intro refused fixed
    rw [Parts.instructions_assembled fixed] at refused
    exact Parts.decode_ne_compact _ _ _ refused
  · exact Parts.instructions_compact

/-- Two publics without a name at one address, and code in the variable-length encoding. -/
def compactParts : Parts where
  cellSize := .eight
  flags := 0x0C
  definitionSize := 0xFFFF
  stack := 0xFFFFFFFF
  entry := 0
  publics := [([], 16), ([], 16)]
  natives := [([0xFF], 0xFFFFFFFF)]
  code := [0x80, 0x2E, 0x30]
  data := [1, 2, 3, 4, 5]

def compactSymbols : SymbolTable := ⟨[⟨"", 16⟩, ⟨"", 16⟩], [⟨"ÿ", 0xFFFFFFFF⟩]⟩

theorem parse_image_compact :
    compactParts.Fits ∧ compactParts.SpellsAll compactSymbols ∧
      ∃ module, parse compactParts.image 8 = .ok module ∧
        module.publics = .ok [⟨"", 16⟩, ⟨"", 16⟩] ∧ module.natives = .ok [⟨"ÿ", 0xFFFFFFFF⟩] ∧
        module.codeSegment = .ok [0x80, 0x2E, 0x30] ∧ module.dataSegment = .ok [1, 2, 3, 4, 5] ∧
        module.instructions = .error (.compactCode 0x0C) := by
  have fits : compactParts.Fits := by
    refine ⟨?_, ?_, ?_, ?_, ?_, ?_⟩ <;> decide
  have spelled : compactParts.SpellsAll compactSymbols :=
    ⟨.cons ⟨rfl, rfl⟩ (.cons ⟨rfl, rfl⟩ .nil), .cons ⟨by decide, rfl⟩ .nil⟩
  obtain ⟨module, parsed, publics, natives, code, data, _, _, compact⟩ := parse_image fits spelled
  exact ⟨fits, spelled, module, parsed, publics, natives, code, data, compact.mpr (by decide)⟩

end PawnBytecode.Module
