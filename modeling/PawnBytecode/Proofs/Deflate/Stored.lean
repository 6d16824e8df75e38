import PawnBytecode.Deflate.Stream
import PawnBytecode.Proofs.Deflate.Bits

namespace PawnBytecode.Deflate

theorem bits_ofNat {width value : Nat} (small : value < 256 ^ width) (rest : Bytes) :
    bits (8 * width) ⟨[], Bytes.ofNat width value ++ rest⟩ = .ok (value, ⟨[], rest⟩) := by
  have taken := bits_bytes (Bytes.ofNat width value) rest
  rwa [Bytes.length_ofNat, Bytes.unsigned_ofNat, Nat.mod_eq_of_lt small] at taken

theorem demand_true {condition : Bool} (holds : condition = true) (defect : Defect) (reader : BitReader) :
    demand condition defect reader = .ok ((), reader) := by
  rw [demand, if_pos holds]
  rfl

theorem demand_false {condition : Bool} (fails : condition = false) (defect : Defect) (reader : BitReader) :
    demand condition defect reader = .error (.defect defect) := by
  rw [demand, if_neg (by simp [fails])]
  rfl

theorem appendList_append (out : Array UInt8) (first second : Bytes) :
    out.appendList (first ++ second) = (out.appendList first).appendList second := by
  apply Array.toList_inj.mp
  simp

/-- A stored block may begin inside a byte; its lengths do not. -/
theorem stored_bytes {bytes : Bytes} (short : bytes.length ≤ 0xFFFF) (held : List Bool)
    (out : Array UInt8) (rest : Bytes) :
    stored out ⟨held, Bytes.ofNat 2 bytes.length ++ (Bytes.ofNat 2 (0xFFFF - bytes.length) ++ (bytes ++ rest))⟩ =
      .ok (out.appendList bytes, ⟨[], rest⟩) := by
  have length : bytes.length < 256 ^ 2 := by omega
  have inverse : 0xFFFF - bytes.length < 256 ^ 2 := by omega
  have agree : (bytes.length + (0xFFFF - bytes.length) == 0xFFFF) = true := by
    rw [Nat.add_sub_cancel' short]
    rfl
  have aligned (rest : Bytes) : align ⟨held, rest⟩ = .ok ((), ⟨[], rest⟩) := rfl
  rw [stored, run_bind_of_ok (aligned _), run_bind_of_ok (bits_ofNat length _),
    run_bind_of_ok (bits_ofNat inverse _), run_bind_of_ok (demand_true agree ..),
    run_bind_of_ok (takeBytes_append ..)]
  rfl

theorem block_storedBlock {bytes : Bytes} (short : bytes.length ≤ 0xFFFF) (last : Bool)
    (out : Array UInt8) (rest : Bytes) :
    block out ⟨[], storedBlock last bytes ++ rest⟩ = .ok ((last, out.appendList bytes), ⟨[], rest⟩) := by
  have marked (rest : Bytes) : bits 3 ⟨[], UInt8.ofNat last.toNat :: rest⟩ =
      .ok (last.toNat, ⟨List.replicate 5 false, rest⟩) := by
    cases last <;> rfl
  have kind : last.toNat / 2 = 0 := by cases last <;> rfl
  have flag : (last.toNat % 2 == 1) = last := by cases last <;> rfl
  simp only [storedBlock, List.cons_append, List.append_assoc]
  rw [block, run_bind_of_ok (marked _), run_bind_of_ok (get_reader _)]
  simp only [kind, flag]
  rw [run_bind_of_ok (stored_bytes short ..)]
  rfl

/-- Blocks add their bytes one after another, up to the one that is marked. -/
theorem blocks_storedBlocks {parts : List Bytes} (nonempty : parts ≠ [])
    (short : ∀ part ∈ parts, part.length ≤ 0xFFFF) {rounds : Nat} (enough : parts.length ≤ rounds)
    (out : Array UInt8) (rest : Bytes) :
    blocks rounds out ⟨[], storedBlocks parts ++ rest⟩ =
      .ok (out.appendList parts.flatten, ⟨[], rest⟩) := by
  -- The rounds left and the bytes so far change with every block, so both are left open.
  induction parts generalizing rounds out with
  | nil => exact absurd rfl nonempty
  | cons part parts ih =>
    have first := short part List.mem_cons_self
    cases rounds with
    | zero => exact absurd enough (Nat.not_succ_le_zero parts.length)
    | succ rounds =>
      cases parts with
      | nil =>
        rw [blocks, storedBlocks, run_bind_of_ok (block_storedBlock first ..), List.flatten_singleton]
        rfl
      | cons next parts =>
        have others := ih (List.cons_ne_nil next parts)
          (fun part member => short part (List.mem_cons_of_mem _ member)) (Nat.le_of_succ_le_succ enough)
          (out.appendList part)
        have cut : storedBlocks (part :: next :: parts) = storedBlock false part ++ storedBlocks (next :: parts) :=
          rfl
        rw [blocks, cut, List.append_assoc, run_bind_of_ok (block_storedBlock first ..),
          List.flatten_cons, appendList_append]
        exact others

theorem length_le_storedBlocks (parts : List Bytes) : parts.length ≤ (storedBlocks parts).length := by
  fun_induction storedBlocks parts with
  | case1 => exact Nat.le_refl 0
  | case2 bytes => simp [storedBlock]
  | case3 bytes rest _ ih =>
    simp only [storedBlock, List.length_append, List.length_cons] at ih ⊢
    omega

theorem header_standard (rest : Bytes) : header ⟨[], 0x78 :: 0x01 :: rest⟩ = .ok ((), ⟨[], rest⟩) := rfl

theorem checksum_lt (bytes : Bytes) : checksum bytes < 256 ^ 4 := by
  have small (sums : Nat × Nat) (below : sums.1 < checksumBase ∧ sums.2 < checksumBase) :
      (bytes.foldl checksumStep sums).1 < checksumBase ∧ (bytes.foldl checksumStep sums).2 < checksumBase := by
    induction bytes generalizing sums with
    | nil => exact below
    | cons byte bytes ih =>
      exact ih _ ⟨Nat.mod_lt _ (by decide), Nat.mod_lt _ (by decide)⟩
  have bounds := small (1, 0) (by decide)
  simp only [checksumBase] at bounds
  simp only [checksum]
  omega

/-- The checksum of an image as a stream has it, highest byte first. -/
def closing (image : Bytes) : Bytes := (Bytes.ofNat 4 (checksum image)).reverse

/-- Four bytes spell the checksum of an image exactly when they are the ones that close its stream. -/
theorem unsigned_reverse_eq_checksum {check : Bytes} (four : check.length = 4) (image : Bytes) :
    Bytes.unsigned check.reverse = checksum image ↔ check = closing image := by
  constructor
  · intro same
    have written := Bytes.ofNat_unsigned check.reverse
    rw [List.length_reverse, four, same] at written
    rw [closing, written, List.reverse_reverse]
  · rintro rfl
    rw [closing, List.reverse_reverse, Bytes.unsigned_ofNat, Nat.mod_eq_of_lt (checksum_lt image)]

theorem trailer_bytes {check : Bytes} (four : check.length = 4) (image : Bytes) (held : List Bool)
    (rest : Bytes) :
    trailer image ⟨held, check ++ rest⟩ =
      if check = closing image then .ok ((), ⟨[], rest⟩) else .error (.defect .checksum) := by
  have aligned : align ⟨held, check ++ rest⟩ = .ok ((), ⟨[], check ++ rest⟩) := rfl
  have taken := takeBytes_append [] check rest
  rw [four] at taken
  rw [trailer, run_bind_of_ok aligned, run_bind_of_ok taken]
  by_cases same : check = closing image
  · rw [if_pos same, demand_true]
    exact beq_iff_eq.mpr ((unsigned_reverse_eq_checksum four image).mpr same)
  · rw [if_neg same, demand_false]
    exact beq_eq_false_iff_ne.mpr fun equal => same ((unsigned_reverse_eq_checksum four image).mp equal)

def storedStream (parts : List Bytes) (check : Bytes) : Bytes :=
  [0x78, 0x01] ++ storedBlocks parts ++ check

variable {parts : List Bytes} {check : Bytes}

/-- The blocks are taken up to the marked one, then the checksum; what follows is left over. -/
theorem stream_storedStream (nonempty : parts ≠ []) (short : ∀ part ∈ parts, part.length ≤ 0xFFFF)
    (four : check.length = 4) (behind : Bytes) :
    stream (.ofBytes (storedStream parts check ++ behind)) =
      if check = closing parts.flatten then .ok (parts.flatten, ⟨[], behind⟩)
      else .error (.defect .checksum) := by
  have inflated := fun (rounds : Nat) (enough : parts.length ≤ rounds) =>
    blocks_storedBlocks nonempty short enough #[] (check ++ behind)
  have closed := trailer_bytes four parts.flatten [] behind
  have image : (#[].appendList parts.flatten).toList = parts.flatten := by simp
  simp only [storedStream, BitReader.ofBytes, List.cons_append, List.nil_append, List.append_assoc]
  rw [stream, run_bind_of_ok (header_standard _), run_bind_of_ok (get_reader _),
    run_bind_of_ok (inflated _ ?_)]
  · rw [image]
    by_cases same : check = closing parts.flatten
    · rw [if_pos same] at closed ⊢
      rw [run_bind_of_ok closed]
      rfl
    · rw [if_neg same] at closed ⊢
      rw [run_bind_of_error closed]
  · have least := length_le_storedBlocks parts
    simp only [BitReader.remaining, List.length_append]
    omega

theorem decompress_storedStream (nonempty : parts ≠ []) (short : ∀ part ∈ parts, part.length ≤ 0xFFFF)
    (four : check.length = 4) (behind : Bytes) :
    decompress (storedStream parts check ++ behind) =
      if check = closing parts.flatten then .ok parts.flatten else .error (.defect .checksum) := by
  rw [decompress, stream_storedStream nonempty short four]
  split <;> rfl

end PawnBytecode.Deflate
