import PawnBytecode.Proofs.Bytes.Shared
import PawnBytecode.Proofs.Bytes.Trailing
import PawnBytecode.Proofs.Container

namespace PawnBytecode

namespace Section

theorem readRecord_within (index : Int) : Reading.Within recordLength (readRecord index) := by
  unfold readRecord
  exact (Cursor.u8_within _).bind fun _ => (Reading.Within.lift _).bind fun _ =>
    (Cursor.u32_within _).bind fun _ => (Cursor.u32_within _).bind fun _ =>
      (Cursor.u32_within _).bind fun _ => (Cursor.u32_within _).bind fun _ => .pure _

def recordStart (index : Int) : Int := tableStart + recordLength * index

variable {first second : Bytes} {index : Int}

theorem read_eq_of_shares
    (shares : first.Shares second (recordStart index) (recordStart index + recordLength)) :
    read first index = read second index := by
  have readings : ∀ data, read data index =
      (readRecord index (Cursor.seek .record data (recordStart index))).map Prod.fst := by
    intro data
    rw [read, recordStart]
    cases readRecord index (Cursor.seek .record data (tableStart + recordLength * index)) <;> rfl
  rw [readings, readings]
  exact (readRecord_within index).map_eq (Cursor.agrees_seek shares .record)

theorem unpack_eq_of_shares {self : Section} (shares : first.Shares second self.offset self.stop) :
    self.unpack first = self.unpack second := by
  obtain ⟨payload, inFirst, inSecond⟩ := shares
  rw [unpack, unpack, inFirst, inSecond]

end Section

namespace Container

/-- A container that parses begins with its mark. -/
theorem isContainer_of_parse {data : Bytes} {self : Container} (parsed : parse data = .ok self) :
    isContainer data = true := by
  obtain ⟨⟨count, after⟩, read, _⟩ := exists_of_bind parsed
  obtain ⟨⟨mark, place⟩, marked, checked⟩ := exists_of_bind read
  rw [Cursor.seek_zero] at marked
  have long : 4 ≤ data.length := Cursor.length_of_number marked
  have spelled : Bytes.unsigned (data.take 4) = mark := by
    rw [Cursor.u32, Cursor.number, Reading.bind_of_ok (Cursor.take_inside _ _ _ long)] at marked
    cases marked
    rfl
  have magical : mark = magic := by
    refine Decidable.byContradiction fun wrong => ?_
    simp only [if_pos wrong] at checked
    cases checked
  rw [isContainer, spelled, magical, decide_eq_true long]
  rfl

end Container

namespace Module

/-- Sections are isolated. When the record of a section is the same in two containers, and so is
the payload that it names, the section loads alike from both, whatever else stands in them. -/
theorem load_isolated {first second : Bytes} {one other : Container} {index : Nat}
    (firstParsed : Container.parse first = .ok one) (secondParsed : Container.parse second = .ok other)
    (inFirst : index < one.sectionCount) (inSecond : index < other.sectionCount)
    (record : first.Shares second (Section.recordStart index)
      (Section.recordStart index + Section.recordLength))
    (payload : ∀ named, Section.read first index = .ok named →
      first.Shares second named.offset named.stop) (cellSize otherCellSize : Option Int) :
    load first index cellSize = load second index otherCellSize := by
  have opened : ∀ {data : Bytes} {container : Container} (size : Option Int),
      Container.parse data = .ok container → index < container.sectionCount →
        load data index size = (Section.read data index >>= fun named => named.load data) := by
    intro data container size parsed inside
    have positive : (0 : Int) ≤ index ∧ (index : Int) < container.sectionCount := by omega
    rw [load, if_pos (Container.isContainer_of_parse parsed), parsed]
    simp only [bind, Except.bind, Container.load, Container.sectionAt, if_pos positive,
      Container.data_of_parse parsed]
  rw [opened cellSize firstParsed inFirst, opened otherCellSize secondParsed inSecond,
    ← Section.read_eq_of_shares record]
  cases found : Section.read first index with
  | error fault => rfl
  | ok named =>
    have unpacked := Section.unpack_eq_of_shares (payload named found)
    simp only [bind, Except.bind, Section.load, unpacked]

def sampleRecord : Section := ⟨0, 8, (Deflate.store [sampleHeader.encode]).length, 56, 7, 41⟩

/-- The first sample section without the second one: other bytes stand where its record was, and
behind the payload. -/
def aloneContainer : Bytes :=
  Container.encodeHeader 1 ++ (sampleRecord.encode ++
    (List.replicate 17 0xFF ++ (Deflate.store [sampleHeader.encode] ++ [1, 2, 3])))

theorem load_isolated_alone :
    Container.parse (Container.pack sampleVariants) = .ok ⟨2, Container.pack sampleVariants⟩ ∧
      Container.parse aloneContainer = .ok ⟨1, aloneContainer⟩ ∧
      (Container.pack sampleVariants).Shares aloneContainer (Section.recordStart (0 : Nat))
        (Section.recordStart (0 : Nat) + Section.recordLength) ∧
      load (Container.pack sampleVariants) (0 : Nat) none = load aloneContainer (0 : Nat) (some 4) := by
  have count : sampleVariants.length = 1 ∨ sampleVariants.length = 2 := .inr rfl
  have packed := Container.parse_pack count
  have alone : Container.parse aloneContainer = .ok ⟨1, aloneContainer⟩ := by decide +kernel
  have record : (Container.pack sampleVariants).Shares aloneContainer (Section.recordStart (0 : Nat))
      (Section.recordStart (0 : Nat) + Section.recordLength) :=
    ⟨sampleRecord.encode, by decide +kernel, by decide +kernel⟩
  have read : Section.read (Container.pack sampleVariants) (0 : Nat) = .ok sampleRecord := by
    decide +kernel
  refine ⟨packed, alone, record, ?_⟩
  refine load_isolated packed alone (by decide) (by decide) record (fun named found => ?_) none (some 4)
  rw [read] at found
  obtain rfl := Except.ok.inj found
  exact ⟨Deflate.store [sampleHeader.encode], by decide +kernel, by decide +kernel⟩

end Module

end PawnBytecode
