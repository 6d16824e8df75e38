import Mathlib.Data.List.Forall2
import PawnBytecode.Module.Assemble
import PawnBytecode.Proofs.Bytes.Region
import PawnBytecode.Proofs.Module.Header
import PawnBytecode.Proofs.Traversal

namespace PawnBytecode

/-- A text that was encoded is decoded to itself. -/
theorem Latin1.decode_of_encode? {text : String} {bytes : Bytes} (encoded : encode? text = some bytes) :
    decode bytes = text := by
  have chars : ∀ {chars : List Char} {bytes : Bytes},
      chars.mapM (fun char => if char.toNat < 256 then some (UInt8.ofNat char.toNat) else none) =
        some bytes → bytes.map (fun byte => Char.ofNat byte.toNat) = chars := by
    intro chars
    induction chars with
    | nil =>
      intro bytes encoded
      obtain rfl := Option.some.inj encoded
      rfl
    | cons char chars ih =>
      intro bytes encoded
      rw [List.mapM_cons] at encoded
      obtain ⟨byte, first, encoded⟩ := Option.bind_eq_some_iff.mp encoded
      obtain ⟨others, rest, encoded⟩ := Option.bind_eq_some_iff.mp encoded
      obtain rfl := Option.some.inj encoded
      obtain ⟨small, spelled⟩ := Option.ite_none_right_eq_some.mp first
      obtain rfl := Option.some.inj spelled
      have same : Char.ofNat (UInt8.ofNat char.toNat).toNat = char := by
        rw [UInt8.toNat_ofNat_of_lt' small, Char.ofNat_toNat]
      rw [List.map_cons, ih rest, same]
  rw [decode, chars encoded, String.ofList_toList]

namespace Module

namespace Parts

/-- Every number of the parts fits its field, and no name holds a zero. -/
structure Fits (parts : Parts) : Prop where
  flags : parts.flags < 2 ^ 16
  definitionSize : parts.definitionSize < 2 ^ 16
  stack : parts.stack < 2 ^ 32
  entry : parts.entry < 2 ^ 32
  length : parts.length < 2 ^ 32
  named : ∀ symbol ∈ parts.publics ++ parts.natives, 0 ∉ symbol.1 ∧ symbol.2 < 2 ^ 32

def symbol (entry : Bytes × Nat) : Symbol := ⟨Latin1.decode entry.1, entry.2⟩

def symbols (parts : Parts) : SymbolTable :=
  ⟨parts.publics.map symbol, parts.natives.map symbol⟩

def Spells (entry : Bytes × Nat) (symbol : Symbol) : Prop :=
  Latin1.encode? symbol.name = some entry.1 ∧ symbol.address = entry.2

theorem symbol_of_spells {entry : Bytes × Nat} {found : Symbol} (spells : Spells entry found) :
    symbol entry = found := by
  obtain ⟨name, address⟩ := spells
  rw [symbol, Latin1.decode_of_encode? name, ← address]

/-- The tables of the parts spell the symbols in table order. -/
structure SpellsAll (parts : Parts) (symbols : SymbolTable) : Prop where
  publics : List.Forall₂ Spells parts.publics symbols.publics
  natives : List.Forall₂ Spells parts.natives symbols.natives

theorem SpellsAll.symbols_eq {parts : Parts} {symbols : SymbolTable} (spells : parts.SpellsAll symbols) :
    parts.symbols = symbols := by
  have each : ∀ {entries : List (Bytes × Nat)} {found : List Symbol},
      List.Forall₂ Spells entries found → entries.map symbol = found := by
    intro entries found all
    induction all with
    | nil => rfl
    | cons first _ ih => rw [List.map_cons, symbol_of_spells first, ih]
  rw [Parts.symbols, each spells.publics, each spells.natives]

/-- Where the regions of an image stand. -/
structure Layout (parts : Parts) (image : Bytes) : Prop where
  publics : image.HoldsAt parts.publicsStart (recordsFrom parts.publicNamesStart parts.publics)
  natives : image.HoldsAt parts.nativesStart (recordsFrom parts.nativeNamesStart parts.natives)
  publicNames : image.HoldsAt parts.publicNamesStart (namesOf parts.publics)
  nativeNames : image.HoldsAt parts.nativeNamesStart (namesOf parts.natives)
  code : image.HoldsAt parts.codeStart parts.code
  data : image.HoldsAt parts.dataStart parts.data

theorem length_recordsFrom (offset : Nat) (entries : List (Bytes × Nat)) :
    (recordsFrom offset entries).length = recordLength * entries.length := by
  induction entries generalizing offset with
  | nil => rfl
  | cons entry entries ih =>
    simp only [recordsFrom, List.length_append, Bytes.length_ofNat, ih, List.length_cons, recordLength]
    omega

theorem image_eq (parts : Parts) :
    parts.image = parts.header.encode ++ (recordsFrom parts.publicNamesStart parts.publics ++
      (recordsFrom parts.nativeNamesStart parts.natives ++ (longestName ++ (namesOf parts.publics ++
        (namesOf parts.natives ++ (parts.code ++ parts.data)))))) := by
  simp only [image, List.append_assoc]

theorem layout (parts : Parts) : parts.Layout parts.image := by
  have header := parts.image.holdsAt_self
  conv at header =>
    arg 3
    rw [image_eq]
  have publics := header.right
  rw [Header.length_encode, Nat.zero_add] at publics
  have natives := publics.right
  rw [length_recordsFrom] at natives
  have longest := natives.right
  rw [length_recordsFrom] at longest
  exact ⟨publics.left, natives.left, longest.right.left, longest.right.right.left,
    longest.right.right.right.left, longest.right.right.right.right⟩

theorem length_image (parts : Parts) : parts.image.length = parts.length := by
  rw [image_eq]
  simp only [List.length_append, Header.length_encode, length_recordsFrom, length, dataStart, codeStart,
    nativeNamesStart, publicNamesStart, namesStart, nativesStart, publicsStart]
  omega

theorem Fits.header {parts : Parts} (fits : parts.Fits) : parts.header.Fits := by
  have bound := fits.length
  have ordered : parts.publicsStart ≤ parts.nativesStart ∧ parts.nativesStart ≤ parts.namesStart ∧
      parts.namesStart ≤ parts.codeStart ∧ parts.codeStart ≤ parts.dataStart ∧
      parts.dataStart ≤ parts.length := by
    simp only [Parts.length, dataStart, codeStart, nativeNamesStart, publicNamesStart, namesStart,
      nativesStart]
    omega
  refine ⟨bound, fits.flags, fits.definitionSize, fun offset member => ?_⟩
  have stack := fits.stack
  have entry := fits.entry
  simp only [Header.offsets, Parts.header, List.mem_cons, List.not_mem_nil, or_false] at member
  omega

theorem holdsAt_record {entries : List (Bytes × Nat)} {index : Nat} {entry : Bytes × Nat}
    (found : entries[index]? = some entry) (offset : Nat) :
    (recordsFrom offset entries).HoldsAt (recordLength * index)
      (Bytes.ofNat 4 entry.2 ++ Bytes.ofNat 4 (offset + (namesOf (entries.take index)).length)) := by
  induction entries generalizing index offset with
  | nil => cases found
  | cons first entries ih =>
    cases index with
    | zero =>
      obtain rfl := Option.some.inj found
      exact (Bytes.holdsAt_self _).left
    | succ index =>
      have record := (Bytes.holdsAt_self (recordsFrom offset (first :: entries))).right.trans
        (ih found (offset + (terminated first.1).length))
      have start : 0 + (Bytes.ofNat 4 first.2 ++ Bytes.ofNat 4 offset).length + recordLength * index =
          recordLength * (index + 1) := by
        simp only [List.length_append, Bytes.length_ofNat, recordLength]
        omega
      have name : offset + (terminated first.1).length + (namesOf (entries.take index)).length =
          offset + (namesOf ((first :: entries).take (index + 1))).length := by
        simp only [List.take_succ_cons, namesOf, List.flatMap_cons, List.length_append]
        omega
      rwa [start, name] at record

theorem holdsAt_name {entries : List (Bytes × Nat)} {index : Nat} {entry : Bytes × Nat}
    (found : entries[index]? = some entry) :
    (namesOf entries).HoldsAt (namesOf (entries.take index)).length (terminated entry.1) :=
  Bytes.holdsAt_flatMap found

end Parts

open Parts

/-- A record whose fields and name stand in the image is read as its entry. -/
theorem symbolAt_of_holdsAt {self : Module} {entry : Bytes × Nat} {start index offset : Nat}
    (record : self.image.HoldsAt (start + recordLength * index)
      (Bytes.ofNat 4 entry.2 ++ Bytes.ofNat 4 offset))
    (name : self.image.HoldsAt offset (terminated entry.1)) (zeroFree : 0 ∉ entry.1)
    (address : entry.2 < 2 ^ 32) (length : self.image.length < 2 ^ 32) (table : String) :
    self.symbolAt table start index = .ok (symbol entry) := by
  have bound := name.bound
  obtain ⟨after, sought⟩ := record.seek .image
  rw [List.append_assoc] at sought
  have place : ((start : Int) + recordLength * index) = ((start + recordLength * index : Nat) : Int) := by
    simp
  have string := name.stringAt zeroFree .image (table ++ " record " ++ toString index ++ " name")
  simp only [symbolAt, place, sought, Cursor.u32_ofNat address, bind, Except.bind,
    Cursor.u32_ofNat (show offset < 2 ^ 32 by omega), string, pure, Except.pure, symbol]

/-- A table whose records and names stand in the image is read as its entries. -/
theorem symbolsIn_of_holdsAt {self : Module} {entries : List (Bytes × Nat)} {start offset : Nat}
    (records : self.image.HoldsAt start (recordsFrom offset entries))
    (names : self.image.HoldsAt offset (namesOf entries))
    (named : ∀ entry ∈ entries, 0 ∉ entry.1 ∧ entry.2 < 2 ^ 32)
    (length : self.image.length < 2 ^ 32) (table : String) :
    self.symbolsIn table start (start + recordLength * entries.length) =
      .ok (entries.map symbol) := by
  have region := records.slice?
  have each : (List.range (entries.map symbol).length).mapM (self.symbolAt table start) =
      .ok (entries.map symbol) := by
    refine Traversal.mapM_range fun index value found => ?_
    obtain ⟨entry, present, rfl⟩ := Option.map_eq_some_iff.mp (List.getElem?_map ▸ found)
    obtain ⟨zeroFree, address⟩ := named entry (List.mem_of_getElem? present)
    exact symbolAt_of_holdsAt (records.trans (holdsAt_record present offset))
      (names.trans (holdsAt_name present)) zeroFree address length table
  have count : (recordsFrom offset entries).length / recordLength = (entries.map symbol).length := by
    rw [length_recordsFrom, List.length_map, recordLength, Nat.mul_div_cancel_left _ (by decide)]
  have whole : (recordsFrom offset entries).length % recordLength = 0 := by
    rw [length_recordsFrom, Nat.mul_mod_right]
  rw [length_recordsFrom] at region
  simp only [symbolsIn, segment, region, bind, Except.bind, count, each, whole, ↓reduceIte, pure,
    Except.pure]

theorem instructions_of_compact {self : Module} (flagged : self.header.flags &&& 0x04 ≠ 0) :
    self.instructions = .error (.compactCode self.header.flags) := by
  have compact : self.header.isCompact = true := by
    simpa [Header.isCompact, Header.compactFlag] using flagged
  rw [instructions_eq, if_pos compact]

theorem instructions_of_fixed {self : Module} (fixed : self.header.flags &&& 0x04 = 0) :
    self.instructions = self.codeSegment >>= Code.decode self.cellSize := by
  have plain : ¬self.header.isCompact = true := by
    simpa [Header.isCompact, Header.compactFlag] using fixed
  rw [instructions_eq, if_neg plain]

namespace Parts

def assembled (parts : Parts) : Module := ⟨parts.header, parts.cellSize, parts.image⟩

variable {parts : Parts}

theorem Fits.parse (fits : parts.Fits) :
    Module.parse parts.image parts.cellSize.bytes = .ok parts.assembled := by
  rw [assembled, image_eq]
  exact parse_encode fits.header parts.cellSize _

theorem Fits.length_assembled (fits : parts.Fits) : parts.assembled.image.length < 2 ^ 32 :=
  Nat.lt_of_le_of_lt (Nat.le_of_eq parts.length_image) fits.length

theorem Fits.publics (fits : parts.Fits) :
    parts.assembled.publics = .ok (parts.publics.map symbol) := by
  have records : parts.assembled.image.HoldsAt parts.publicsStart
      (recordsFrom parts.publicNamesStart parts.publics) := parts.layout.publics
  have names : parts.assembled.image.HoldsAt parts.publicNamesStart (namesOf parts.publics) :=
    parts.layout.publicNames
  have named := fun entry member => fits.named entry (List.mem_append_left _ member)
  exact symbolsIn_of_holdsAt records names named fits.length_assembled "public table"

theorem Fits.natives (fits : parts.Fits) :
    parts.assembled.natives = .ok (parts.natives.map symbol) := by
  have records : parts.assembled.image.HoldsAt parts.nativesStart
      (recordsFrom parts.nativeNamesStart parts.natives) := parts.layout.natives
  have names : parts.assembled.image.HoldsAt parts.nativeNamesStart (namesOf parts.natives) :=
    parts.layout.nativeNames
  have named := fun entry member => fits.named entry (List.mem_append_right _ member)
  exact symbolsIn_of_holdsAt records names named fits.length_assembled "native table"

theorem codeSegment_assembled (parts : Parts) : parts.assembled.codeSegment = .ok parts.code := by
  have region := parts.layout.code.slice?
  simp only [codeSegment, segment, assembled, header, dataStart, region]

theorem instructions_assembled (fixed : parts.flags &&& 0x04 = 0) :
    parts.assembled.instructions = Code.decode parts.cellSize parts.code := by
  rw [instructions_of_fixed fixed, codeSegment_assembled]
  rfl

end Parts

end Module

end PawnBytecode
