import PawnBytecode.Bytes.Lemmas
import PawnBytecode.Proofs.Isolation
import PawnBytecode.Proofs.Stages

/-! Faults put into words. A file has no number in it that is too long to be written, so only what a
caller asks for can be. -/
namespace PawnBytecode

open Numeral (Writable writable_natCast)

namespace Reading

variable {α β : Type} {good : α → Prop} {better : β → Prop}

/-- A reading that takes good values, and whose faults can be put into words. -/
def Takes (good : α → Prop) (reading : Reading α) : Prop :=
  ∀ cursor, Ends (fun read => good read.1) Fault.Brief (reading cursor)

theorem Takes.pure {value : α} (holds : good value) : Takes good (Pure.pure value : Reading α) :=
  fun _ => holds

theorem Takes.throw {fault : Fault} (brief : fault.Brief) :
    Takes good (MonadExcept.throw fault : Reading α) := fun _ => brief

theorem Takes.lift {result : Except Fault α} (ends : Ends good Fault.Brief result) :
    Takes good (liftM result : Reading α) := by
  intro cursor
  cases result with
  | error cause => exact ends
  | ok found => exact ends

theorem Takes.bind {first : Reading α} {next : α → Reading β} (takes : Takes good first)
    (nextTakes : ∀ value, good value → Takes better (next value)) : Takes better (first >>= next) := by
  intro cursor
  apply (takes cursor).bind
  intro read holds
  exact nextTakes read.1 holds read.2

end Reading

open Reading (Takes)

namespace Cursor

theorem take_takes (field : String) (size : Int) :
    Takes (fun bytes => bytes.length = size.toNat) (take field size) := by
  have cut : ∀ stage offset, (Fault.truncated stage field offset).Brief := fun _ _ => List.forall_mem_nil _
  intro cursor
  unfold take
  cases cursor.rest with
  | none => exact cut _ _
  | some rest =>
    by_cases enough : 0 ≤ size ∧ (rest.take size.toNat).length = size.toNat
    · simp only [if_pos enough]
      exact enough.2
    · simp only [if_neg enough]
      exact cut _ _

theorem number_takes (field : String) {width : Nat} (narrow : width ≤ 4) :
    Takes (fun value => value < 2 ^ 64) (number field width) := by
  refine (take_takes field width).bind fun bytes length => .pure ?_
  have bound := bytes.unsigned_lt
  rw [length, Int.toNat_natCast] at bound
  exact Nat.lt_of_lt_of_le bound
    (Nat.le_trans (Nat.pow_le_pow_right (by decide) narrow) (by decide : 256 ^ 4 ≤ 2 ^ 64))

theorem u8_takes (field : String) : Takes (· < 2 ^ 64) (u8 field) := number_takes field (by decide)

theorem u16_takes (field : String) : Takes (· < 2 ^ 64) (u16 field) := number_takes field (by decide)

theorem u32_takes (field : String) : Takes (· < 2 ^ 64) (u32 field) := number_takes field (by decide)

end Cursor

theorem CellSize.check_brief (stage : Stage) {size : Int} (short : Writable size) :
    Briefly (check stage size) := by
  unfold check
  split
  · trivial
  · split
    · trivial
    · intro number member
      simp only [Fault.decimals, supported, List.mem_cons, List.not_mem_nil, or_false] at member
      rcases member with rfl | rfl | rfl
      · exact short
      · exact writable_natCast (by decide)
      · exact writable_natCast (by decide)

namespace Header

theorem require_takes {wrong : Stage → Int → Int → Fault}
    (shown : ∀ expected actual, (wrong .image expected actual).decimals ⊆ [expected, actual])
    {expected actual : Nat} (wanted : expected < 2 ^ 64) (found : actual < 2 ^ 64) :
    Takes (fun _ => True) (require wrong expected actual) := by
  unfold require
  split
  · exact .pure trivial
  · refine .throw fun number member => ?_
    have either := shown _ _ member
    simp only [List.mem_cons, List.not_mem_nil, or_false] at either
    rcases either with rfl | rfl
    · exact writable_natCast wanted
    · exact writable_natCast found

theorem readMarks_takes : Takes (fun _ => True) readMarks := by
  refine (Cursor.u16_takes _).bind fun magic small => ?_
  refine (require_takes (fun _ _ => List.nil_subset _) (by decide) small).bind fun _ _ => ?_
  refine (Cursor.u8_takes _).bind fun version small => ?_
  refine (require_takes (fun _ _ => List.Subset.refl _) (by decide) small).bind fun _ _ => ?_
  exact (Cursor.u8_takes _).bind fun version small =>
    require_takes (fun _ _ => List.Subset.refl _) (by decide) small

theorem read_takes : Takes (fun _ => True) read := by
  refine (Cursor.u32_takes _).bind fun _ _ => readMarks_takes.bind fun _ _ => ?_
  refine (Cursor.u16_takes _).bind fun _ _ => (Cursor.u16_takes _).bind fun _ _ => ?_
  iterate 11 refine (Cursor.u32_takes _).bind fun _ _ => ?_
  exact .pure trivial

end Header

theorem Module.parse_brief (image : Bytes) {cellSize : Int} (short : Writable cellSize) :
    Briefly (parse image cellSize) := by
  unfold parse
  apply (CellSize.check_brief .image short).bind
  intro cellSize _
  apply (Header.read_takes _).bind
  intro read _
  trivial

namespace Section

/-- A record that is read has its number and few digits in it. -/
structure ReadAs (index : Int) (record : Section) : Prop where
  index : record.index = index
  cellSize : Writable record.cellSize
  imageSize : Writable record.imageSize

theorem readRecord_takes (index : Int) : Takes (ReadAs index) (readRecord index) := by
  refine (Cursor.u8_takes _).bind fun size sizeSmall => ?_
  refine (Takes.lift (CellSize.check_brief .record (writable_natCast sizeSmall))).bind fun _ _ => ?_
  refine (Cursor.u32_takes _).bind fun _ _ => (Cursor.u32_takes _).bind fun image imageSmall => ?_
  refine (Cursor.u32_takes _).bind fun _ _ => (Cursor.u32_takes _).bind fun _ _ => ?_
  exact .pure ⟨rfl, writable_natCast sizeSmall, writable_natCast imageSmall⟩

theorem read_ends (data : Bytes) (index : Int) : Ends (ReadAs index) Fault.Brief (read data index) := by
  unfold read
  apply (readRecord_takes index _).bind
  intro record holds
  exact holds

theorem parse_of_short {data : Bytes} {index : Int} (short : Writable index) :
    parse data index = Failure.lift (read data index) := by
  rw [parse, Failure.writing_of_short (List.forall_mem_singleton.mpr short)]
  cases found : read data index with
  | ok record => rfl
  | error fault => exact Failure.report_of_brief ((read_ends data index).of_error found)

theorem unpack_brief {self : Section} (short : Writable self.index) (data : Bytes) :
    Briefly (self.unpack data) := by
  unfold unpack
  split
  · exact List.forall_mem_nil _
  · split
    · exact (Fault.brief_of_single rfl).mpr short
    · split
      · trivial
      · exact (Fault.brief_of_single rfl).mpr short

end Section

namespace Container

variable {data : Bytes} {container : Container} {index : Int}

/-- A container that is opened has few sections. -/
theorem parse_ends (data : Bytes) :
    Ends (fun container => container.sectionCount ≤ sectionLimit) Fault.Brief (parse data) := by
  have header : Takes (· ≤ sectionLimit) readHeader := by
    refine (Cursor.u32_takes _).bind fun mark _ => ?_
    split
    · exact .throw (List.forall_mem_nil _)
    · refine (Cursor.u16_takes _).bind fun found small => ?_
      split
      · exact .throw (Fault.brief_of_pair rfl (writable_natCast (by decide)) (writable_natCast small))
      · refine (Cursor.u8_takes _).bind fun count small => ?_
        by_cases few : count < 1
        · simp only [if_pos few]
          exact .throw (List.forall_mem_nil _)
        · simp only [if_neg few]
          by_cases many : count > sectionLimit
          · simp only [if_pos many]
            exact .throw (Fault.brief_of_pair rfl (writable_natCast small) (writable_natCast (by decide)))
          · simp only [if_neg many]
            exact .pure (Nat.le_of_not_lt many)
  unfold parse
  apply (header _).bind
  intro read few
  exact few

theorem writable_of_inside (few : container.sectionCount ≤ sectionLimit)
    (inside : 0 ≤ index ∧ index < container.sectionCount) : Writable index := by
  simp only [sectionLimit] at few
  exact Numeral.writable_of_small (by omega)

theorem load_brief_of_inside (few : container.sectionCount ≤ sectionLimit)
    (inside : 0 ≤ index ∧ index < container.sectionCount) : Briefly (container.load index) := by
  rw [load, sectionAt, if_pos inside]
  apply (Section.read_ends container.data index).bind
  rintro record ⟨rfl, short, _⟩
  apply (Section.unpack_brief (writable_of_inside few inside) container.data).bind
  intro image _
  exact Module.parse_brief image short

theorem load_brief_iff (few : container.sectionCount ≤ sectionLimit) :
    Briefly (container.load index) ↔ Writable index := by
  by_cases inside : 0 ≤ index ∧ index < container.sectionCount
  · exact ⟨fun _ => writable_of_inside few inside, fun _ => load_brief_of_inside few inside⟩
  · rw [load, sectionAt, if_neg inside]
    exact Fault.brief_sectionIndex (Nat.lt_of_le_of_lt few (by decide))

end Container

namespace Module

variable {self : Module}

theorem segment_ends (short : Writable self.image.length) (name : String) (start stop : Nat) :
    Ends (fun bytes => bytes.length ≤ self.image.length) Fault.Brief (self.segment name start stop) := by
  unfold segment
  split
  · rename_i bytes found
    obtain ⟨_, _, length, after, same⟩ := Bytes.drop_of_slice? found
    have whole := congrArg List.length same
    simp only [List.length_drop, List.length_append] at whole
    exact Nat.le_trans (by omega : bytes.length ≤ self.image.length - start) (Nat.sub_le _ _)
  · exact (Fault.brief_of_single rfl).mpr short

theorem stringAt_brief (what : String) (data : Bytes) (offset : Int) :
    Briefly (Bytes.stringAt .image what data offset) := by
  unfold Bytes.stringAt
  split
  · split
    · trivial
    · exact List.forall_mem_nil _
  · exact List.forall_mem_nil _

theorem symbolAt_brief (table : String) (start index : Nat) : Briefly (self.symbolAt table start index) := by
  unfold symbolAt
  apply (Cursor.u32_takes _ _).bind
  intro address _
  apply (Cursor.u32_takes _ _).bind
  intro offset _
  apply (stringAt_brief _ _ _).bind
  intro name _
  trivial

theorem symbolsIn_brief (short : Writable self.image.length) (table : String) (start stop : Nat) :
    Briefly (self.symbolsIn table start stop) := by
  unfold symbolsIn
  apply (segment_ends short table start stop).bind
  intro region _
  apply (Ends.mapM fun index _ => symbolAt_brief table start index).bind
  intro symbols _
  split
  · trivial
  · exact List.forall_mem_nil _

theorem constant_brief (short : Writable self.image.length) (address : Int) :
    Briefly (self.constant address) := by
  unfold constant
  apply (segment_ends short _ _ _).bind
  intro data within
  split
  · split
    · trivial
    · exact List.forall_mem_nil _
  · exact (Fault.brief_of_single rfl).mpr (Nat.lt_of_le_of_lt within short)

theorem instructions_brief (short : Writable self.image.length) : Briefly self.instructions := by
  rw [instructions_eq]
  split
  · exact List.forall_mem_nil _
  · apply (segment_ends short _ _ _).bind
    intro code _
    apply (Code.decode_ends self.cellSize code).mono fun _ _ => trivial
    intro fault refused
    cases refused with
    | truncated => exact List.forall_mem_nil _
    | unknown => exact List.forall_mem_nil _

/-- What is asked for is refused, and its number is too long for the report. -/
inductive Unwritten (data : Bytes) (index : Int) : Option Int → Prop where
  | index {container : Container} {cellSize : Option Int} (opened : Container.parse data = .ok container)
    (long : ¬Writable index) : Unwritten data index cellSize
  | cellSize {size : Int} (bare : Container.isContainer data = false) (long : ¬Writable size) :
    Unwritten data index (some size)

variable {data : Bytes} {index : Int} {cellSize : Option Int}

theorem parse_brief_iff (image : Bytes) {cellSize : Int} :
    Briefly (parse image cellSize) ↔ Writable cellSize := by
  refine ⟨fun brief => Decidable.of_not_not fun long => ?_, parse_brief image⟩
  have refused : CellSize.check .image cellSize = .error (.cellSize .image cellSize CellSize.supported) := by
    have other : cellSize ≠ 4 ∧ cellSize ≠ 8 := by
      constructor <;> rintro rfl <;> exact long (writable_natCast (by decide))
    rw [CellSize.check, if_neg other.1, if_neg other.2]
  rw [parse, refused] at brief
  exact long (brief cellSize List.mem_cons_self)

theorem writable_bareCellSize :
    Writable (bareCellSize cellSize) ↔ ∀ size ∈ cellSize, Writable size := by
  have default : Writable defaultCellSize := writable_natCast (by decide)
  cases cellSize with
  | none => exact ⟨fun _ => nofun, fun _ => default⟩
  | some size =>
    by_cases zero : size = 0
    · subst zero
      exact ⟨fun _ => by simpa using Numeral.writable_of_small (by decide), fun _ => default⟩
    · simp [bareCellSize, zero]

/-- Of the reports on a module that is not loaded, those on a number that is too long are not written. -/
theorem load_brief_iff : Briefly (load data index cellSize) ↔ ¬Unwritten data index cellSize := by
  unfold load
  split
  · rename_i marked
    have opening := Container.parse_ends data
    cases opened : Container.parse data with
    | error fault =>
      refine ⟨fun _ unwritten => ?_, fun _ => opening.of_error opened⟩
      cases unwritten with
      | index found => exact absurd (opened.symm.trans found) nofun
      | cellSize bare => exact absurd (marked.symm.trans bare) nofun
    | ok container =>
      refine (Container.load_brief_iff (opening.of_ok opened)).trans ⟨fun short unwritten => ?_, fun written => ?_⟩
      · cases unwritten with
        | index _ long => exact long short
        | cellSize bare => exact absurd (marked.symm.trans bare) nofun
      · exact Decidable.of_not_not fun long => written (.index opened long)
  · rename_i unmarked
    have bare : Container.isContainer data = false := by simpa using unmarked
    rw [parse_brief_iff, writable_bareCellSize]
    constructor
    · intro short unwritten
      cases unwritten with
      | index opened => exact unmarked (Container.isContainer_of_parse opened)
      | cellSize _ long => exact long (short _ rfl)
    · rintro written size rfl
      exact Decidable.of_not_not fun long => written (.cellSize bare long)

/-- What escapes without words are the numbers that a caller has asked for. -/
theorem report_load_eq_tooManyDigits :
    Failure.report (load data index cellSize) = .error .tooManyDigits ↔ Unwritten data index cellSize := by
  rw [Failure.report_eq_tooManyDigits, load_brief_iff, Classical.not_not]

end Module

end PawnBytecode
