import PawnBytecode.Proofs.Container.Table
import PawnBytecode.Proofs.Module.Parsing
import PawnBytecode.Proofs.Stages

/-! Containers and bare images told apart. The mark of a container stands where an image has its size, and
its version where an image has its mark, so no buffer is both. -/
namespace PawnBytecode

/-- The report of a container whose mark is another one, or is cut off. -/
def Fault.OfMark : Fault → Prop
  | wrongMagic stage _ _ => stage = .container
  | truncated stage field _ => stage = .container ∧ field = "magic"
  | _ => False

theorem Fault.OfMark.stage {fault : Fault} (ofMark : fault.OfMark) : fault.stage = .container := by
  cases fault with
  | wrongMagic => exact ofMark
  | truncated => exact ofMark.1
  | _ => cases ofMark

abbrev PastMark {α : Type} (result : Except Fault α) : Prop :=
  Ends (fun _ => True) (fun fault => ¬ fault.OfMark) result

theorem FaultsAt.pastMark {α : Type} {stage : Stage} {result : Except Fault α} (ends : FaultsAt stage result)
    (other : stage ≠ .container) : PastMark result :=
  ends.mono (fun _ found => found) fun _ same ofMark => other (same.symm.trans ofMark.stage)

namespace Container

variable {data : Bytes}

theorem isContainer_iff : isContainer data = true ↔ 4 ≤ data.length ∧ data.numberAt 4 0 = magic := by
  simp [isContainer, Bytes.numberAt]

theorem parse_of_isContainer (marked : isContainer data = true) :
    parse data = Field.outcome .container data fields.tail ⟨data.numberAt 1 6, data⟩ := by
  obtain ⟨long, mark⟩ := isContainer_iff.mp marked
  have good : Field.Good data ⟨"magic", 0, 4, Field.only (.wrongMagic .container) magic⟩ :=
    ⟨long, if_pos mark⟩
  rw [parse_eq_outcome, fields, Field.outcome_cons_of_good good]
  rfl

theorem parse_pastMark (marked : isContainer data = true) : PastMark (parse data) := by
  rw [parse_of_isContainer marked]
  cases refused : Field.outcome .container data fields.tail (⟨data.numberAt 1 6, data⟩ : Container) with
  | ok container => trivial
  | error fault =>
    obtain ⟨before, field, after, same, _, wrong⟩ := Field.outcome_eq_error.mp refused
    have member : field ∈ fields.tail := same ▸ List.mem_append_right _ List.mem_cons_self
    simp only [fields, List.tail_cons, List.mem_cons, List.not_mem_nil, or_false] at member
    intro ofMark
    cases wrong with
    | cut short => rcases member with rfl | rfl <;> exact absurd ofMark.2 (by decide)
    | refused complete found =>
      rcases member with rfl | rfl
      · obtain rfl := Option.some.inj (Option.ite_none_left_eq_some.mp found).2
        cases ofMark
      · rcases unsupportedCount_eq_some found with rfl | rfl <;> cases ofMark

theorem load_pastMark (self : Container) (index : Int) : PastMark (self.load index) := by
  have entry : PastMark (self.sectionAt index) := by
    unfold sectionAt
    split
    · exact (Section.read_faultsAt self.data index).pastMark (by decide)
    · exact fun ofMark => ofMark
  apply entry.bind
  intro named _
  apply ((named.unpack_faultsAt self.data).pastMark (by decide)).bind
  intro image _
  exact (Module.parse_faultsAt image named.cellSize).pastMark (by decide)

theorem parse_of_wrong_version (marked : isContainer data = true) (long : 6 ≤ data.length)
    (other : data.numberAt 2 4 ≠ version) :
    parse data = .error (.wrongContainerVersion .container version (data.numberAt 2 4)) := by
  rw [parse_of_isContainer marked, Field.outcome_eq_error]
  exact ⟨[], _, _, rfl, List.forall_mem_nil _, .refused long (if_neg other)⟩

end Container

namespace Module

variable {data : Bytes} {cellSize : Int} {module : Module}

theorem bareCellSize_of_supported (supported : cellSize = 4 ∨ cellSize = 8) :
    bareCellSize (some cellSize) = cellSize := by
  rcases supported with rfl | rfl <;> rfl

theorem front_of_parse (parsed : parse data cellSize = .ok module) :
    (cellSize = 4 ∨ cellSize = 8) ∧ 6 ≤ data.length ∧ data.numberAt 4 0 = module.header.size ∧
      data.numberAt 2 4 = Header.magic := by
  have supported := ((parsesExactly data cellSize).accepted.mp ⟨module, parsed⟩).1
  obtain ⟨size, rfl⟩ := CellSize.exists_bytes_iff.mpr supported
  rw [parse_bytes, Field.outcome_eq_ok, Header.good_fields_iff] at parsed
  obtain ⟨⟨long, mark, _⟩, rfl⟩ := parsed
  exact ⟨supported, Nat.le_trans (by decide) long, rfl, mark⟩

theorem load_pastMark (data : Bytes) (index : Int) (cellSize : Option Int) :
    PastMark (load data index cellSize) := by
  unfold load
  split
  · rename_i marked
    apply (Container.parse_pastMark marked).bind
    intro container _
    exact container.load_pastMark index
  · exact (parse_faultsAt data _).pastMark (by decide)

/-- An accepted image is loaded as itself, unless its size spells the mark of a container. -/
theorem load_of_parse (parsed : parse data cellSize = .ok module) (index : Int) :
    load data index (some cellSize) =
      if module.header.size = Container.magic then
        .error (.wrongContainerVersion .container Container.version Header.magic)
      else .ok module := by
  obtain ⟨supported, long, size, mark⟩ := front_of_parse parsed
  rw [← size]
  by_cases spelled : data.numberAt 4 0 = Container.magic
  · have marked := Container.isContainer_iff.mpr ⟨Nat.le_trans (by decide) long, spelled⟩
    have other : data.numberAt 2 4 ≠ Container.version := by
      rw [mark]
      decide
    rw [load, if_pos marked, if_pos spelled, Container.parse_of_wrong_version marked long other, mark]
    rfl
  · have unmarked : ¬ Container.isContainer data = true := fun marked =>
      spelled (Container.isContainer_iff.mp marked).2
    rw [load, if_neg unmarked, if_neg spelled, bareCellSize_of_supported supported, parsed]

/-- The two readings of one buffer, and what is made of it. -/
structure Sniffs (data : Bytes) : Prop where
  apart : ∀ cellSize container module, Container.parse data = .ok container →
    parse data cellSize ≠ .ok module
  pastMark : ∀ index cellSize fault, load data index cellSize = .error fault → ¬ fault.OfMark
  bare : ∀ cellSize module, parse data cellSize = .ok module → ∀ index,
    load data index (some cellSize) =
      if module.header.size = 0x414D5858 then .error (.wrongContainerVersion .container 768 0xF1E0)
      else .ok module

theorem sniffs (data : Bytes) : Sniffs data where
  apart cellSize container module opened parsed := by
    rw [Container.parse_eq_outcome, Field.outcome_eq_ok, Container.good_fields_iff] at opened
    obtain ⟨⟨_, _, version, _⟩, _⟩ := opened
    have mark := (front_of_parse parsed).2.2.2
    rw [version] at mark
    exact absurd mark (by decide)
  pastMark index cellSize fault refused := (load_pastMark data index cellSize).of_error refused
  bare cellSize module parsed index := load_of_parse parsed index

/-- A header whose size spells the mark of a container. -/
def markedHeader : Header := { distinctHeader with size := Container.magic }

theorem sniffs_markedHeader :
    parse markedHeader.encode 8 = .ok ⟨markedHeader, .eight, markedHeader.encode⟩ ∧
      load markedHeader.encode (-1) (some 8) = .error (.wrongContainerVersion .container 768 0xF1E0) ∧
      load distinctHeader.encode 5 (some 4) = .ok ⟨distinctHeader, .four, distinctHeader.encode⟩ := by
  have marked : parse markedHeader.encode 8 = .ok ⟨markedHeader, .eight, markedHeader.encode⟩ := by
    decide +kernel
  have bare : parse distinctHeader.encode 4 = .ok ⟨distinctHeader, .four, distinctHeader.encode⟩ := by
    decide +kernel
  exact ⟨marked, (sniffs _).bare 8 _ marked (-1), (sniffs _).bare 4 _ bare 5⟩

end Module

end PawnBytecode
