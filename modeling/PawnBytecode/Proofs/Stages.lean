import PawnBytecode.Container.Basic
import PawnBytecode.Proofs.Code.Stream
import PawnBytecode.Proofs.Failing

namespace PawnBytecode

/-- A fault of one of the stages, and no cell size that the decoder refuses. -/
structure Fault.From (stages : List Stage) (fault : Fault) : Prop where
  stage : fault.stage ∈ stages
  cellSize : ∀ actual supported, fault ≠ .cellSize .decoder actual supported

theorem Fault.From.of_stage {stages : List Stage} {fault : Fault} {stage : Stage}
    (same : fault.stage = stage) (member : stage ∈ stages) (other : stage ≠ .decoder) :
    fault.From stages := by
  refine ⟨same ▸ member, fun actual supported refused => other ?_⟩
  rw [← same, refused]
  rfl

theorem Ends.from_stage {α : Type} {good : α → Prop} {result : Except Fault α} {stage : Stage}
    (ends : Ends good (fun fault => fault.stage = stage) result) {stages : List Stage}
    (member : stage ∈ stages) (other : stage ≠ .decoder) : Ends good (Fault.From stages) result :=
  ends.mono (fun _ found => found) fun _ same => Fault.From.of_stage same member other

/-- A result whose fault, if it is one, was found at the stage. -/
abbrev FaultsAt (stage : Stage) (result : Except Fault α) : Prop :=
  Ends (fun _ => True) (fun fault => fault.stage = stage) result

def loadStages : List Stage := [.container, .record, .image]

theorem CellSize.check_faultsAt (stage : Stage) (size : Int) : FaultsAt stage (check stage size) := by
  unfold check
  split
  · trivial
  · split
    · trivial
    · rfl

namespace Header

theorem require_staysAt {wrong : Stage → Int → Int → Fault}
    (image : ∀ expected actual, (wrong .image expected actual).stage = .image) (expected actual : Nat) :
    Reading.StaysAt .image (require wrong expected actual) := by
  unfold require
  split
  · exact .pure ()
  · exact .throw (image _ _)

theorem readMarks_staysAt : Reading.StaysAt .image readMarks := by
  refine (Cursor.u16_staysAt _).bind fun _ => (require_staysAt (fun _ _ => rfl) _ _).bind fun _ => ?_
  refine (Cursor.u8_staysAt _).bind fun _ => (require_staysAt (fun _ _ => rfl) _ _).bind fun _ => ?_
  exact (Cursor.u8_staysAt _).bind fun _ => require_staysAt (fun _ _ => rfl) _ _

theorem read_staysAt : Reading.StaysAt .image read := by
  refine (Cursor.u32_staysAt _).bind fun _ => readMarks_staysAt.bind fun _ => ?_
  refine (Cursor.u16_staysAt _).bind fun _ => (Cursor.u16_staysAt _).bind fun _ => ?_
  iterate 11 refine (Cursor.u32_staysAt _).bind fun _ => ?_
  exact .pure _

end Header

namespace Module

variable {self : Module}

theorem parse_faultsAt (image : Bytes) (cellSize : Int) : FaultsAt .image (parse image cellSize) := by
  unfold parse
  apply (CellSize.check_faultsAt .image cellSize).bind
  intro cellSize _
  apply (Header.read_staysAt _ rfl).bind
  intro read _
  trivial

theorem segment_faultsAt (name : String) (start stop : Nat) :
    FaultsAt .image (self.segment name start stop) := by
  unfold segment
  split
  · trivial
  · rfl

theorem stringAt_faultsAt (what : String) (data : Bytes) (offset : Int) :
    FaultsAt .image (Bytes.stringAt .image what data offset) := by
  unfold Bytes.stringAt
  split
  · split
    · trivial
    · rfl
  · rfl

theorem symbolAt_faultsAt (table : String) (start index : Nat) :
    FaultsAt .image (self.symbolAt table start index) := by
  unfold symbolAt
  apply (Cursor.u32_staysAt _ _ rfl).bind
  intro address place
  apply (Cursor.u32_staysAt _ _ place).bind
  intro offset _
  apply (stringAt_faultsAt _ _ _).bind
  intro name _
  trivial

theorem symbolsIn_faultsAt (table : String) (start stop : Nat) :
    FaultsAt .image (self.symbolsIn table start stop) := by
  unfold symbolsIn
  apply (segment_faultsAt _ _ _).bind
  intro region _
  apply (Ends.mapM fun index _ => symbolAt_faultsAt table start index).bind
  intro symbols _
  split
  · trivial
  · rfl

theorem constant_faultsAt (address : Int) : FaultsAt .image (self.constant address) := by
  unfold constant
  apply (segment_faultsAt _ _ _).bind
  intro data _
  split
  · split
    · trivial
    · rfl
  · rfl

end Module

namespace Section

theorem readRecord_staysAt (index : Int) : Reading.StaysAt .record (readRecord index) := by
  refine (Cursor.u8_staysAt _).bind fun size => ?_
  refine (Reading.StaysAt.lift (CellSize.check_faultsAt .record size)).bind fun _ => ?_
  iterate 4 refine (Cursor.u32_staysAt _).bind fun _ => ?_
  exact .pure _

theorem read_faultsAt (data : Bytes) (index : Int) : FaultsAt .record (read data index) := by
  unfold read
  apply (readRecord_staysAt index _ rfl).bind
  intro found _
  trivial

theorem unpack_faultsAt (self : Section) (data : Bytes) : FaultsAt .record (self.unpack data) := by
  unfold unpack
  split
  · rfl
  · split
    · rfl
    · split
      · trivial
      · rfl

end Section

namespace Container

theorem readHeader_staysAt : Reading.StaysAt .container readHeader := by
  refine (Cursor.u32_staysAt _).bind fun mark => ?_
  split
  · exact .throw rfl
  · refine (Cursor.u16_staysAt _).bind fun found => ?_
    split
    · exact .throw rfl
    · refine (Cursor.u8_staysAt _).bind fun count => ?_
      by_cases few : count < 1
      · simp only [if_pos few]
        exact .throw rfl
      · simp only [if_neg few]
        by_cases many : count > sectionLimit
        · simp only [if_pos many]
          exact .throw rfl
        · simp only [if_neg many]
          exact .pure _

theorem parse_faultsAt (data : Bytes) : FaultsAt .container (parse data) := by
  unfold parse
  apply (readHeader_staysAt _ rfl).bind
  intro found _
  trivial

theorem sectionAt_ends (self : Container) (index : Int) :
    Ends (fun _ => True) (Fault.From loadStages) (self.sectionAt index) := by
  unfold sectionAt
  split
  · exact (Section.read_faultsAt self.data index).from_stage (by decide) (by decide)
  · exact .of_stage (rfl : _ = Stage.container) (by decide) (by decide)

theorem load_ends (self : Container) (index : Int) :
    Ends (fun _ => True) (Fault.From loadStages) (self.load index) := by
  unfold load
  apply (sectionAt_ends self index).bind
  intro found _
  apply ((found.unpack_faultsAt self.data).from_stage (by decide) (by decide)).bind
  intro image _
  exact (Module.parse_faultsAt image found.cellSize).from_stage (by decide) (by decide)

end Container

namespace Module

theorem load_ends (data : Bytes) (index : Int) (cellSize : Option Int) :
    Ends (fun _ => True) (Fault.From loadStages) (load data index cellSize) := by
  unfold load
  split
  · apply ((Container.parse_faultsAt data).from_stage (by decide) (by decide)).bind
    intro container _
    exact container.load_ends index
  · exact (parse_faultsAt data _).from_stage (by decide) (by decide)

end Module

/-- What decoding refuses: a cell that is cut off, and a number that no instruction has. -/
inductive Code.Refused : Fault → Prop where
  | truncated (field : String) (offset : Int) : Refused (.truncated .decoder field offset)
  | unknown (number offset : Int) : Refused (.unknownOpcode number offset)

theorem Code.decodeFrom_ends (size : CellSize) (ragged : Bool) (stop offset : Nat) (cells : List Nat) :
    Ends (fun _ => True) Code.Refused (decodeFrom size ragged stop offset cells) := by
  fun_induction decodeFrom size ragged stop offset cells with
  | case1 => exact .truncated _ _
  | case2 => trivial
  | case3 => exact .unknown _ _
  | case4 => exact .truncated _ _
  | case5 => trivial
  | case6 _ _ _ _ _ _ _ _ _ failed ih => exact ih.of_error failed

/-- Decoded instructions have the operands that the instruction set states. -/
theorem Code.decode_ends (size : CellSize) (code : Bytes) :
    Ends (fun instructions => ∀ instruction ∈ instructions, instruction.Counted) Code.Refused
      (decode size code) := by
  cases decoded : decode size code with
  | ok instructions =>
    obtain ⟨prolog, items, _, valid, _, rfl⟩ := items_of_decode decoded
    exact (stream_instructionsAt valid).counted
  | error fault =>
    match cut : size.split code with
    | ([], tail) | ([_], tail) =>
      simp only [decode, cut] at decoded
      cases decoded
      exact .truncated _ _
    | (first :: second :: body, tail) =>
      rw [decode_of_split cut] at decoded
      exact (decodeFrom_ends ..).of_error decoded

theorem Module.instructions_ends (self : Module) :
    Ends (fun instructions => ∀ instruction ∈ instructions, instruction.Counted)
      (Fault.From [.image, .decoder]) self.instructions := by
  rw [instructions_eq]
  split
  · exact ⟨by simp [Fault.stage], fun actual supported refused => by cases refused⟩
  · apply ((self.segment_faultsAt ..).from_stage (by decide) (by decide)).bind
    intro code _
    apply (Code.decode_ends self.cellSize code).mono fun _ counted => counted
    intro fault refused
    cases refused with
    | truncated => exact ⟨by simp [Fault.stage], fun actual supported refused => by cases refused⟩
    | unknown => exact ⟨by simp [Fault.stage], fun actual supported refused => by cases refused⟩

end PawnBytecode
