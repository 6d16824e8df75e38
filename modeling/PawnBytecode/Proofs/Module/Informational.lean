import PawnBytecode.Proofs.Module.Parsing
import PawnBytecode.Proofs.Module.Tables
import PawnBytecode.Tree.Rebuild

/-! Header fields that only inform. Segments and tables are found by the other fields and read behind the
header, so images that differ in these fields alone are read and rebuilt alike. -/
namespace PawnBytecode

namespace Bytes

/-- Two buffers of one length that are the same from a place on. -/
structure AgreeFrom (base : Nat) (first second : Bytes) : Prop where
  length : first.length = second.length
  rest : first.drop base = second.drop base

namespace AgreeFrom

variable {base : Nat} {first second : Bytes} (agree : first.AgreeFrom base second)

include agree

theorem drop_eq {place : Nat} (behind : base ≤ place) : first.drop place = second.drop place := by
  have split : place = base + (place - base) := by omega
  rw [split, ← List.drop_drop, ← List.drop_drop, agree.rest]

theorem numberAt_eq {place : Nat} (behind : base ≤ place) (width : Nat) :
    first.numberAt width place = second.numberAt width place := by
  rw [numberAt, numberAt, agree.drop_eq behind]

theorem slice?_eq {start : Nat} (behind : base ≤ start) (stop : Int) :
    first.slice? start stop = second.slice? start stop := by
  rw [slice?, slice?, agree.length, Int.toNat_natCast, agree.drop_eq behind]

theorem stringAt_eq {offset : Nat} (behind : base ≤ offset) (stage : Stage) (what : String) :
    stringAt stage what first offset = stringAt stage what second offset := by
  rw [stringAt, stringAt, agree.length, Int.toNat_natCast, agree.drop_eq behind]

end AgreeFrom

end Bytes

def Field.Covers (field : Field) (place : Nat) : Prop :=
  field.start ≤ place ∧ place < field.start + field.width

instance (field : Field) (place : Nat) : Decidable (field.Covers place) :=
  inferInstanceAs (Decidable (_ ∧ _))

namespace Header

/-- The fields that nothing is found by. -/
def informational : List String := ["size", "defsize", "hea", "stp", "cip", "pubvars", "tags", "nametable"]

/-- Two images of one length that differ at places of informational fields only. -/
structure DifferInformationally (first second : Bytes) : Prop where
  length : first.length = second.length
  bytes : ∀ place, (∀ field ∈ fields, field.name ∈ informational → ¬ field.Covers place) →
    first[place]? = second[place]?

/-- No other field shares a place with an informational one. -/
theorem informational_apart : ∀ field ∈ fields, field.name ∉ informational →
    ∀ other ∈ fields, other.name ∈ informational →
      field.start + field.width ≤ other.start ∨ other.start + other.width ≤ field.start := by
  decide +kernel

theorem stop_le_length : ∀ field ∈ fields, field.start + field.width ≤ length := by
  decide

namespace DifferInformationally

variable {first second : Bytes} (differ : DifferInformationally first second)

include differ

theorem number_eq {field : Field} (member : field ∈ fields) (essential : field.name ∉ informational) :
    field.number first = field.number second := by
  refine Bytes.numberAt_congr fun place from_ below => differ.bytes place fun other inside named covers => ?_
  obtain ⟨start, stop⟩ := covers
  rcases informational_apart field member essential other inside named with before | after
  · omega
  · omega

theorem agreeFrom : Bytes.AgreeFrom Header.length first second where
  length := differ.length
  rest := by
    refine List.ext_getElem? fun index => ?_
    rw [List.getElem?_drop, List.getElem?_drop]
    refine differ.bytes _ fun field member _ covers => ?_
    have stop := stop_le_length field member
    have below := covers.2
    omega

end DifferInformationally

end Header

namespace Module

variable {one other : Module}

/-- Two modules that are the same behind their headers, with headers that find the same things there. -/
structure AgreeBehind (one other : Module) : Prop where
  cellSize : one.cellSize = other.cellSize
  image : one.image.AgreeFrom Header.length other.image
  flags : one.header.flags = other.header.flags
  code : one.header.code = other.header.code
  data : one.header.data = other.header.data
  publics : one.header.publics = other.header.publics
  natives : one.header.natives = other.header.natives
  libraries : one.header.libraries = other.header.libraries

theorem agreeBehind_of_parse {first second : Bytes} {cellSize : Int}
    (differ : Header.DifferInformationally first second) (firstParsed : parse first cellSize = .ok one)
    (secondParsed : parse second cellSize = .ok other) : one.AgreeBehind other := by
  have supported := ((parsesExactly first cellSize).accepted.mp ⟨one, firstParsed⟩).1
  obtain ⟨size, rfl⟩ := CellSize.exists_bytes_iff.mpr supported
  rw [parse_bytes, Field.outcome_eq_ok] at firstParsed secondParsed
  obtain ⟨_, rfl⟩ := firstParsed
  obtain ⟨_, rfl⟩ := secondParsed
  have number : ∀ name start width, Field.free name start width ∈ Header.fields →
      name ∉ Header.informational → first.numberAt width start = second.numberAt width start :=
    fun _ _ _ member essential => differ.number_eq member essential
  exact {
    cellSize := rfl
    image := differ.agreeFrom
    flags := number "flags" 8 2 (by simp [Header.fields]) (by decide)
    code := number "cod" 12 4 (by simp [Header.fields]) (by decide)
    data := number "dat" 16 4 (by simp [Header.fields]) (by decide)
    publics := number "publics" 32 4 (by simp [Header.fields]) (by decide)
    natives := number "natives" 36 4 (by simp [Header.fields]) (by decide)
    libraries := number "libraries" 40 4 (by simp [Header.fields]) (by decide) }

/-- A record that ends inside its table, of a table inside the image. -/
def FullRecord (image : Bytes) (start stop index : Nat) : Prop :=
  start + recordLength * (index + 1) ≤ stop ∧ stop ≤ image.length

/-- The table starts behind the header, and so do the names of its full records. -/
structure TableBehind (image : Bytes) (start stop : Nat) : Prop where
  records : Header.length ≤ start
  names : ∀ index, FullRecord image start stop index → Header.length ≤ nameOffset image start index

/-- All that a module is rebuilt from stands behind its header. -/
structure StandsBehind (module : Module) : Prop where
  publics : TableBehind module.image module.header.publics module.header.natives
  natives : TableBehind module.image module.header.natives module.header.libraries
  code : Header.length ≤ module.header.code

namespace AgreeBehind

variable (agree : one.AgreeBehind other) {table : String} {start stop : Nat}

include agree

theorem segment_eq (behind : Header.length ≤ start) (name : String) (stop : Nat) :
    one.segment name start stop = other.segment name start stop := by
  rw [segment, segment, agree.image.slice?_eq behind, agree.image.length]

theorem symbolAt_eq {index : Nat} (behind : TableBehind one.image start stop)
    (full : FullRecord one.image start stop index) :
    one.symbolAt table start index = other.symbolAt table start index := by
  have inside : start + recordLength * index + recordLength ≤ one.image.length :=
    Nat.le_trans full.1 full.2
  have record : Header.length ≤ start + recordLength * index := Nat.le_add_right_of_le behind.records
  have address : addressAt one.image start index = addressAt other.image start index :=
    agree.image.numberAt_eq record 4
  have name : nameOffset one.image start index = nameOffset other.image start index :=
    agree.image.numberAt_eq (Nat.le_add_right_of_le record) 4
  rw [Module.symbolAt_eq inside, Module.symbolAt_eq (agree.image.length ▸ inside), ← name, ← address,
    agree.image.stringAt_eq (behind.names index full)]

theorem symbolsIn_eq (behind : TableBehind one.image start stop) :
    one.symbolsIn table start stop = other.symbolsIn table start stop := by
  by_cases valid : start ≤ stop ∧ stop ≤ one.image.length
  · have full : ∀ index ∈ List.range ((stop - start) / recordLength),
        FullRecord one.image start stop index := by
      intro index member
      have less := List.mem_range.mp member
      simp only [FullRecord, recordLength] at less ⊢
      omega
    rw [Module.symbolsIn_eq valid, Module.symbolsIn_eq (agree.image.length ▸ valid),
      Traversal.mapM_congr fun index member => agree.symbolAt_eq behind (full index member)]
  · rw [symbolsIn, symbolsIn, segment_eq_error valid, segment_eq_error (agree.image.length ▸ valid),
      agree.image.length]
    rfl

end AgreeBehind

/-- Two modules that answer alike, with the same result or the same fault. -/
structure AnswerAlike (one other : Module) : Prop where
  publics : one.publics = other.publics
  natives : one.natives = other.natives
  instructions : one.instructions = other.instructions
  rebuild : one.rebuild = other.rebuild

theorem AgreeBehind.answerAlike (agree : one.AgreeBehind other) (behind : one.StandsBehind) :
    AnswerAlike one other := by
  have publics : one.publics = other.publics := by
    rw [Module.publics, Module.publics, ← agree.publics, ← agree.natives]
    exact agree.symbolsIn_eq behind.publics
  have natives : one.natives = other.natives := by
    rw [Module.natives, Module.natives, ← agree.natives, ← agree.libraries]
    exact agree.symbolsIn_eq behind.natives
  have code : one.codeSegment = other.codeSegment := by
    rw [codeSegment, codeSegment, ← agree.code, ← agree.data]
    exact agree.segment_eq behind.code ..
  have instructions : one.instructions = other.instructions := by
    rw [Module.instructions_eq, Module.instructions_eq, Header.isCompact, Header.isCompact, ← agree.flags,
      ← agree.cellSize, ← code]
  refine ⟨publics, natives, instructions, ?_⟩
  rw [Module.rebuild, Module.rebuild, ← publics, ← natives, ← instructions]

/-- Informational fields do not influence what a module is rebuilt to. -/
theorem answerAlike_of_informational {first second : Bytes} {cellSize : Int}
    (differ : Header.DifferInformationally first second) (firstParsed : parse first cellSize = .ok one)
    (secondParsed : parse second cellSize = .ok other) (behind : one.StandsBehind) :
    AnswerAlike one other :=
  (agreeBehind_of_parse differ firstParsed secondParsed).answerAlike behind

def filledHeader (number : Nat) : Header :=
  ⟨number, 0, number, 74, 90, number, number, number, 56, 64, 72, number, number, number⟩

/-- An image with one public, a native without a name and one function, which is the public. -/
def filledImage (number : Nat) : Bytes :=
  (filledHeader number).encode ++ ([8, 72, 0, 73].flatMap (Bytes.ofNat 4) ++ [0x66, 0] ++
    [0, 0, Opcode.proc.number, Opcode.retn.number].flatMap (Bytes.ofNat 4))

theorem answerAlike_of_informational_filled :
    parse (filledImage 0) 4 = .ok ⟨filledHeader 0, .four, filledImage 0⟩ ∧
      parse (filledImage 0xABCD) 4 = .ok ⟨filledHeader 0xABCD, .four, filledImage 0xABCD⟩ ∧
      publics ⟨filledHeader 0, .four, filledImage 0⟩ = .ok [⟨"f", 8⟩] ∧
      AnswerAlike ⟨filledHeader 0, .four, filledImage 0⟩
        ⟨filledHeader 0xABCD, .four, filledImage 0xABCD⟩ := by
  have first : parse (filledImage 0) 4 = .ok ⟨filledHeader 0, .four, filledImage 0⟩ := by decide +kernel
  have second : parse (filledImage 0xABCD) 4 = .ok ⟨filledHeader 0xABCD, .four, filledImage 0xABCD⟩ := by
    decide +kernel
  have differ : Header.DifferInformationally (filledImage 0) (filledImage 0xABCD) := by
    refine ⟨by decide +kernel, fun place => ?_⟩
    by_cases inside : place < 90
    · have all : ∀ place < 90, (∀ field ∈ Header.fields, field.name ∈ Header.informational →
          ¬ field.Covers place) → (filledImage 0)[place]? = (filledImage 0xABCD)[place]? := by
        decide +kernel
      exact all place inside
    · have lengths : (filledImage 0).length = 90 ∧ (filledImage 0xABCD).length = 90 := by decide +kernel
      rw [List.getElem?_eq_none (by omega), List.getElem?_eq_none (by omega)]
      exact fun _ => rfl
  have single : ∀ {start stop index}, stop = start + 8 → FullRecord (filledImage 0) start stop index →
      index = 0 := by
    intro start stop index same full
    have stops := full.1
    simp only [recordLength] at stops
    omega
  have behind : StandsBehind ⟨filledHeader 0, .four, filledImage 0⟩ := by
    refine ⟨⟨by decide, fun index full => ?_⟩, ⟨by decide, fun index full => ?_⟩, by decide⟩
    · obtain rfl := single rfl full
      decide +kernel
    · obtain rfl := single rfl full
      decide +kernel
  exact ⟨first, second, by decide +kernel, answerAlike_of_informational differ first second behind⟩

end Module

end PawnBytecode
