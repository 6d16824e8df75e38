import PawnBytecode.Proofs.Deflate.Stored
import PawnBytecode.Proofs.Reports

/-! Sections that are unpacked. A stored image is given back whole, or not at all: its length is the
declared one and its checksum the one that the stream has. A section outside of the buffer is cut off. -/
namespace PawnBytecode.Section

open Numeral (Writable)

/-- A section of a buffer holds an image cut into stored blocks and closed by four bytes. What else stands
in the section and around it is of no concern. -/
structure Stores (record : Section) (data : Bytes) (parts : List Bytes) (check : Bytes) : Prop where
  nonempty : parts ≠ []
  short : ∀ part ∈ parts, part.length ≤ 0xFFFF
  four : check.length = 4
  placed : ∃ (start : Nat) (behind : Bytes),
    data.HoldsAt start (Deflate.storedStream parts check ++ behind) ∧
      record.offset = start ∧ record.diskSize = (Deflate.storedStream parts check ++ behind).length

variable {record : Section} {data : Bytes}

theorem extract_of_ok {image : Bytes} (unpacked : record.unpack data = .ok image) :
    record.extract data = .ok image := by
  rw [extract, unpacked]

/-- What is wrong with a section is told when the numbers in its words can be written. -/
theorem extract_of_error {fault : Fault} (refused : record.unpack data = .error fault) :
    record.extract data = .error
      (if ∀ number ∈ record.toldNumbers data, Writable number then .fault fault else .tooManyDigits) := by
  rw [extract, refused]
  exact (apply_ite Except.error ..).symm

theorem extract_eq_truncated_iff {stage : Stage} {field : String} {place : Int} :
    record.extract data = .error (.fault (.truncated stage field place)) ↔
      record.unpack data = .error (.truncated stage field place) ∧
        ∀ number ∈ record.toldNumbers data, Writable number := by
  cases unpacked : record.unpack data with
  | ok image =>
    rw [extract_of_ok unpacked]
    exact ⟨nofun, nofun⟩
  | error fault =>
    rw [extract_of_error unpacked]
    by_cases short : ∀ number ∈ record.toldNumbers data, Writable number
    · rw [if_pos short]
      constructor
      · rintro ⟨⟩
        exact ⟨rfl, short⟩
      · rintro ⟨⟨⟩, _⟩
        rfl
    · rw [if_neg short]
      exact ⟨nofun, fun same => absurd same.2 short⟩

/-- What becomes of a stored image, by the declared length and the four bytes that close it. What is
wrong with it cannot be told when a number of its words is too long. -/
structure UnpacksStored (record : Section) (data image check : Bytes) : Prop where
  whole : check = Deflate.closing image → record.imageSize = image.length →
    record.extract data = .ok image
  mismatch : check = Deflate.closing image → record.imageSize ≠ image.length →
    record.extract data = .error
      (if Writable record.imageSize ∧ Writable record.index then
        .fault (.corruptSection record.index ("expected " ++ toString record.imageSize ++
          " bytes after inflating, got " ++ toString image.length))
      else .tooManyDigits)
  damaged : check ≠ Deflate.closing image →
    record.extract data = .error
      (if Writable record.index then
        .fault (.corruptSection record.index
          "inflate failed: Error -3 while decompressing data: incorrect data check")
      else .tooManyDigits)

theorem unpacksStored {parts : List Bytes} {check : Bytes} (stores : record.Stores data parts check) :
    record.UnpacksStored data parts.flatten check := by
  obtain ⟨start, behind, holds, offset, size⟩ := stores.placed
  have region := slice?_of_holdsAt holds offset size
  have inflated := Deflate.decompress_storedStream stores.nonempty stores.short stores.four behind
  constructor
  case whole =>
    intro right length
    rw [if_pos right] at inflated
    exact extract_of_ok (unpack_of_holdsAt holds offset size length inflated)
  case mismatch =>
    intro right length
    rw [if_pos right] at inflated
    have refused : record.unpack data =
        .error (.corruptSection record.index (sizeMismatch record.imageSize parts.flatten.length)) := by
      simp only [unpack, region, inflated, if_neg (Ne.symm length)]
    have told : record.toldNumbers data = [record.imageSize, record.index] := by
      rw [toldNumbers, region, Option.map_some, inflated]
    simp only [extract_of_error refused, told, List.forall_mem_cons, List.not_mem_nil, false_imp_iff,
      implies_true, and_true]
    rfl
  case damaged =>
    intro wrong
    rw [if_neg wrong] at inflated
    have refused : record.unpack data = .error (.corruptSection record.index
        "inflate failed: Error -3 while decompressing data: incorrect data check") := by
      simp only [unpack, region, inflated]
      rfl
    have told : record.toldNumbers data = [record.index] := by
      rw [toldNumbers, region, Option.map_some, inflated]
    simp only [extract_of_error refused, told, List.forall_mem_singleton]

/-- Of a section that is read from a table it is always told what is wrong. -/
theorem extract_of_read {table : Bytes} {index : Int} (found : read table index = .ok record)
    (few : Writable index) : record.extract data = Failure.lift (record.unpack data) := by
  obtain ⟨rfl, _, imageSize⟩ := (read_ends table index).of_ok found
  have short : ∀ number ∈ record.toldNumbers data, Writable number := by
    unfold toldNumbers
    split
    · simpa using ⟨imageSize, few⟩
    · simpa using few
  cases unpacked : record.unpack data with
  | ok image => rw [extract_of_ok unpacked, Failure.lift]
  | error fault => rw [extract_of_error unpacked, if_pos short, Failure.lift]

def Inside (record : Section) (data : Bytes) : Prop :=
  0 ≤ record.offset ∧ record.offset ≤ record.offset + record.diskSize ∧
    record.offset + record.diskSize ≤ data.length

/-- A payload is cut off exactly where its section leaves the buffer. -/
theorem unpack_truncated (record : Section) (data : Bytes) (stage : Stage) (field : String) (place : Int) :
    record.unpack data = .error (.truncated stage field place) ↔ ¬record.Inside data ∧
      stage = .record ∧ field = "section " ++ toString record.index ++ " payload" ∧
        place = record.offset := by
  by_cases inside : record.Inside data
  · obtain ⟨region, sliced⟩ : ∃ region, data.slice? record.offset record.stop = some region :=
      ⟨_, if_pos inside⟩
    refine ⟨fun failed => ?_, fun outside => absurd inside outside.1⟩
    simp only [unpack, sliced] at failed
    cases inflated : Deflate.decompress region with
    | error damage =>
      simp only [inflated] at failed
      cases failed
    | ok image =>
      simp only [inflated] at failed
      split at failed <;> cases failed
  · have sliced : data.slice? record.offset record.stop = none := if_neg inside
    simp only [unpack, sliced]
    constructor
    · intro failed
      cases failed
      exact ⟨inside, rfl, rfl, rfl⟩
    · rintro ⟨_, rfl, rfl, rfl⟩
      rfl

theorem toldNumbers_of_outside (outside : ¬record.Inside data) :
    record.toldNumbers data = [record.index] := by
  have sliced : data.slice? record.offset record.stop = none := if_neg outside
  rw [toldNumbers, sliced]
  rfl

/-- The payload of a section outside of the buffer is cut off, and its number is told where it can be. -/
theorem extract_truncated (record : Section) (data : Bytes) (stage : Stage) (field : String) (place : Int) :
    record.extract data = .error (.fault (.truncated stage field place)) ↔ ¬record.Inside data ∧
      Writable record.index ∧ stage = .record ∧
        field = "section " ++ toString record.index ++ " payload" ∧ place = record.offset := by
  rw [extract_eq_truncated_iff, unpack_truncated]
  constructor
  · rintro ⟨⟨outside, words⟩, short⟩
    rw [toldNumbers_of_outside outside, List.forall_mem_singleton] at short
    exact ⟨outside, short, words⟩
  · rintro ⟨outside, short, words⟩
    refine ⟨⟨outside, words⟩, ?_⟩
    rwa [toldNumbers_of_outside outside, List.forall_mem_singleton]

theorem extract_unwritten (outside : ¬record.Inside data) (long : ¬Writable record.index) :
    record.extract data = .error .tooManyDigits := by
  have refused := (record.unpack_truncated data _ _ _).mpr ⟨outside, rfl, rfl, rfl⟩
  simp only [extract_of_error refused, toldNumbers_of_outside outside, List.forall_mem_singleton, if_neg long]

/-- Unpacking undoes storing and takes no length on trust. However an image is cut and wherever its section
stands, it comes back whole or is refused, with both lengths or for its checksum; and whatever a record
declares, its payload is cut off exactly when it does not lie in the buffer. A refusal is told when the
numbers in its words can be written. -/
theorem unpack_exactly :
    (∀ (record : Section) data parts check, record.Stores data parts check →
      record.UnpacksStored data parts.flatten check) ∧
    (∀ (record : Section) data stage field place,
      record.extract data = .error (.fault (.truncated stage field place)) ↔ ¬record.Inside data ∧
        Writable record.index ∧ stage = .record ∧
          field = "section " ++ toString record.index ++ " payload" ∧ place = record.offset) ∧
    ∀ (record : Section) data, ¬record.Inside data → ¬Writable record.index →
      record.extract data = .error .tooManyDigits :=
  ⟨fun _ _ _ _ stores => unpacksStored stores, extract_truncated,
    fun _ _ outside long => extract_unwritten outside long⟩

/-- Three blocks, one of them empty, in front of a byte of no concern and between others. -/
def sampleBuffer (check : Bytes) : Bytes :=
  [7, 7] ++ (Deflate.storedStream [[1, 2], [], [3]] check ++ [0xFF]) ++ [9]

def sampleRecord (imageSize : Int) : Section := ⟨1, 4, 25, imageSize, 0, 2⟩

theorem stores_sampleBuffer (imageSize : Int) (check : Bytes) (four : check.length = 4) :
    (sampleRecord imageSize).Stores (sampleBuffer check) [[1, 2], [], [3]] check := by
  refine ⟨by decide, by decide, four, 2, [0xFF], ⟨[7, 7], [9], rfl, rfl⟩, rfl, ?_⟩
  simp only [sampleRecord, Deflate.storedStream, List.length_append, four]
  rfl

theorem unpack_exactly_sample :
    (sampleRecord 3).Stores (sampleBuffer [0, 13, 0, 7]) [[1, 2], [], [3]] [0, 13, 0, 7] ∧
      (sampleRecord 3).extract (sampleBuffer [0, 13, 0, 7]) = .ok [1, 2, 3] ∧
      (sampleRecord 4).extract (sampleBuffer [0, 13, 0, 7]) =
        .error (.fault (.corruptSection 1 "expected 4 bytes after inflating, got 3")) ∧
      (sampleRecord 3).extract (sampleBuffer [0, 7, 0, 13]) = .error (.fault (.corruptSection 1
        "inflate failed: Error -3 while decompressing data: incorrect data check")) ∧
      (sampleRecord 3).extract ((sampleBuffer [0, 13, 0, 7]).take 26) =
        .error (.fault (.truncated .record "section 1 payload" 2)) := by
  have one : Writable (sampleRecord 3).index := Numeral.writable_of_small (by decide)
  obtain ⟨stored, cut, _⟩ := unpack_exactly
  refine ⟨stores_sampleBuffer 3 _ rfl,
    (stored _ _ _ _ (stores_sampleBuffer 3 _ rfl)).whole (by decide +kernel) rfl, ?_, ?_,
    (cut _ _ _ _ _).mpr ⟨?_, one, rfl, rfl, rfl⟩⟩
  · have refused := (stored _ _ _ _ (stores_sampleBuffer 4 [0, 13, 0, 7] rfl)).mismatch (by decide +kernel) (by decide)
    rwa [if_pos ⟨Numeral.writable_of_small (by decide), one⟩] at refused
  · have refused := (stored _ _ _ _ (stores_sampleBuffer 3 [0, 7, 0, 13] rfl)).damaged (by decide +kernel)
    rwa [if_pos one] at refused
  · unfold Inside
    decide +kernel

/-- A stored image of another length than the declared one, which is refused without a report. -/
theorem unpack_unwritten :
    (sampleRecord Numeral.tooLong).Stores (sampleBuffer [0, 13, 0, 7])
        [[1, 2], [], [3]] [0, 13, 0, 7] ∧
      [0, 13, 0, 7] = Deflate.closing [1, 2, 3] ∧
      (sampleRecord Numeral.tooLong).extract (sampleBuffer [0, 13, 0, 7]) =
        .error .tooManyDigits ∧
      ¬∃ fault, Failure.tooManyDigits = .fault fault := by
  have right : [0, 13, 0, 7] = Deflate.closing [1, 2, 3] := by decide +kernel
  have stores := stores_sampleBuffer Numeral.tooLong [0, 13, 0, 7] rfl
  have other : (Numeral.tooLong : Int) ≠ ([1, 2, 3] : Bytes).length := by
    have long : 10 ^ 1 ≤ Numeral.tooLong := Numeral.pow_le_tooLong (by decide)
    have few : ([1, 2, 3] : Bytes).length = 3 := rfl
    omega
  refine ⟨stores, right, ?_, nofun⟩
  have refused := (unpacksStored stores).mismatch right other
  rwa [if_neg fun short => Numeral.not_writable_tooLong short.1] at refused

end PawnBytecode.Section
