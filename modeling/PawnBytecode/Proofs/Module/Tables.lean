import Mathlib.Data.Nat.Find
import PawnBytecode.Proofs.Bytes.Numbers
import PawnBytecode.Proofs.Bytes.Strings
import PawnBytecode.Proofs.Module.Layout

namespace PawnBytecode

namespace Latin1

theorem toNat_ofNat (byte : UInt8) : (Char.ofNat byte.toNat).toNat = byte.toNat := by
  have small := byte.toNat_lt
  have valid : Nat.isValidChar byte.toNat := .inl (by omega)
  rw [Char.ofNat, dif_pos valid]
  rfl

/-- Every buffer comes back from its text. -/
theorem encode?_decode (bytes : Bytes) : encode? (decode bytes) = some bytes := by
  rw [encode?, decode, String.toList_ofList]
  induction bytes with
  | nil => rfl
  | cons byte bytes ih =>
    have small : (Char.ofNat byte.toNat).toNat < 256 := by
      rw [toNat_ofNat]
      exact byte.toNat_lt
    rw [List.map_cons, List.mapM_cons, ih, if_pos small, toNat_ofNat, UInt8.ofNat_toNat]
    rfl

/-- Only a zero is decoded to the character of number zero. -/
theorem nul_not_mem_decode {bytes : Bytes} (zeroFree : 0 ∉ bytes) :
    '\x00' ∉ (decode bytes).toList := by
  rw [decode, String.toList_ofList]
  intro present
  obtain ⟨byte, member, same⟩ := List.mem_map.mp present
  have zero : byte.toNat = (0 : UInt8).toNat := by
    rw [← toNat_ofNat, same]
    rfl
  exact zeroFree (UInt8.toNat_inj.mp zero ▸ member)

end Latin1

namespace Module

variable {image : Bytes} {table : String} {start stop index : Nat}

def addressAt (image : Bytes) (start index : Nat) : Nat :=
  image.numberAt 4 (start + recordLength * index)

def nameOffset (image : Bytes) (start index : Nat) : Nat :=
  image.numberAt 4 (start + recordLength * index + 4)

def recordName (table : String) (index : Nat) : String := table ++ " record " ++ toString index

/-- The symbol has the address of the record, and as its name the text of the bytes from the name
offset up to the first zero. -/
structure EntryAt (image : Bytes) (start index : Nat) (symbol : Symbol) : Prop where
  address : symbol.address = addressAt image start index
  name : ∃ string, 0 ∉ string ∧ image.HoldsAt (nameOffset image start index) (string ++ [0]) ∧
    symbol.name = Latin1.decode string

/-- What reading the table in `[start, stop)` of an image gives: an invalid range comes before all
else, the fault of a record before those of later ones, and a partial record at the end is met last. -/
inductive ReadsTable (image : Bytes) (table : String) (start stop : Nat) :
    Except Fault (List Symbol) → Prop where
  | range (invalid : ¬(start ≤ stop ∧ stop ≤ image.length)) :
      ReadsTable image table start stop (.error (.segmentRange table start stop image.length))
  | name {index : Nat} {fault : Fault} (valid : start ≤ stop ∧ stop ≤ image.length)
      (full : index < (stop - start) / recordLength)
      (earlier : ∀ before < index, ∃ symbol, EntryAt image start before symbol)
      (missing : Bytes.StringFault .image (recordName table index ++ " name") image
        (nameOffset image start index) fault) :
      ReadsTable image table start stop (.error fault)
  | ragged (valid : start ≤ stop ∧ stop ≤ image.length)
      (good : ∀ index < (stop - start) / recordLength, ∃ symbol, EntryAt image start index symbol)
      (partly : ¬recordLength ∣ stop - start) :
      ReadsTable image table start stop
        (.error (.truncated .image (recordName table ((stop - start) / recordLength))
          (start + recordLength * ((stop - start) / recordLength) : Nat)))
  | entries {symbols : List Symbol} (valid : start ≤ stop ∧ stop ≤ image.length)
      (whole : recordLength ∣ stop - start)
      (count : symbols.length = (stop - start) / recordLength)
      (each : ∀ index symbol, symbols[index]? = some symbol → EntryAt image start index symbol) :
      ReadsTable image table start stop (.ok symbols)

theorem entry_or_fault (image : Bytes) (what : String) (start index : Nat) :
    (∃ symbol, EntryAt image start index symbol) ∨
      ∃ fault, Bytes.StringFault .image what image (nameOffset image start index) fault := by
  cases read : Bytes.stringAt .image what image (nameOffset image start index) with
  | ok string =>
    obtain ⟨zeroFree, holds⟩ := Bytes.stringAt_eq_ok.mp read
    exact .inl ⟨⟨Latin1.decode string, addressAt image start index⟩, rfl, string, zeroFree, holds, rfl⟩
  | error fault => exact .inr ⟨fault, Bytes.stringAt_eq_error.mp read⟩

/-- Where every record has an entry, there is a list of them. -/
theorem exists_entries {count : Nat}
    (good : ∀ index < count, ∃ symbol, EntryAt image start index symbol) :
    ∃ symbols : List Symbol, symbols.length = count ∧
      ∀ index symbol, symbols[index]? = some symbol → EntryAt image start index symbol := by
  have : Nonempty Symbol := ⟨"", 0⟩
  choose! entry each using good
  refine ⟨(List.range count).map entry, by simp, fun index symbol found => ?_⟩
  rw [List.getElem?_map] at found
  obtain ⟨position, inside, rfl⟩ := Option.map_eq_some_iff.mp found
  obtain ⟨bound, rfl⟩ := List.getElem?_eq_some_iff.mp inside
  rw [List.getElem_range]
  exact each index (by simpa using bound)

/-- Reading a table has an outcome. -/
theorem exists_readsTable (image : Bytes) (table : String) (start stop : Nat) :
    ∃ result, ReadsTable image table start stop result := by
  classical
  by_cases valid : start ≤ stop ∧ stop ≤ image.length
  · by_cases bad : ∃ index, index < (stop - start) / recordLength ∧
        ¬∃ symbol, EntryAt image start index symbol
    · obtain ⟨full, noEntry⟩ := Nat.find_spec bad
      have earlier : ∀ before < Nat.find bad, ∃ symbol, EntryAt image start before symbol := by
        intro before less
        have good := Nat.find_min bad less
        exact not_not.mp fun missing => good ⟨Nat.lt_trans less full, missing⟩
      obtain ⟨fault, missing⟩ := (entry_or_fault image (recordName table (Nat.find bad) ++ " name")
        start (Nat.find bad)).resolve_left noEntry
      exact ⟨_, .name valid full earlier missing⟩
    · have good : ∀ index < (stop - start) / recordLength,
          ∃ symbol, EntryAt image start index symbol :=
        fun index full => not_not.mp fun missing => bad ⟨index, full, missing⟩
      by_cases whole : recordLength ∣ stop - start
      · obtain ⟨symbols, count, each⟩ := exists_entries good
        exact ⟨_, .entries valid whole count each⟩
      · exact ⟨_, .ragged valid good whole⟩
  · exact ⟨_, .range valid⟩

variable {self : Module}

theorem segment_eq_error {name : String} (invalid : ¬(start ≤ stop ∧ stop ≤ self.image.length)) :
    self.segment name start stop = .error (.segmentRange name start stop self.image.length) := by
  rw [segment, Bytes.slice?, if_neg (by omega)]

/-- A record inside the image is its address and what stands at its name offset. -/
theorem symbolAt_eq (inside : start + recordLength * index + recordLength ≤ self.image.length) :
    self.symbolAt table start index =
      (Bytes.stringAt .image (recordName table index ++ " name") self.image
        (nameOffset self.image start index)).map fun name =>
          ⟨Latin1.decode name, addressAt self.image start index⟩ := by
  have first : start + recordLength * index + 4 ≤ self.image.length :=
    Nat.le_trans (by simp [recordLength]) inside
  have second : start + recordLength * index + 4 + 4 ≤ self.image.length := inside
  have place : ((start : Int) + recordLength * index) = (start + recordLength * index : Nat) := by simp
  simp only [symbolAt, place, Cursor.u32, bind, Except.bind, Cursor.number_seek first,
    Cursor.number_seek second, recordName, nameOffset]
  cases Bytes.stringAt .image (table ++ " record " ++ toString index ++ " name") self.image
    (self.image.numberAt 4 (start + recordLength * index + 4)) <;> rfl

theorem symbolAt_of_entryAt {symbol : Symbol} (entry : EntryAt self.image start index symbol)
    (inside : start + recordLength * index + recordLength ≤ self.image.length) :
    self.symbolAt table start index = .ok symbol := by
  obtain ⟨string, zeroFree, holds, name⟩ := entry.name
  rw [symbolAt_eq inside, Bytes.stringAt_eq_ok.mpr ⟨zeroFree, holds⟩, Except.map, ← name,
    ← entry.address]

/-- A valid range is read record by record. -/
theorem symbolsIn_eq (valid : start ≤ stop ∧ stop ≤ self.image.length) :
    self.symbolsIn table start stop =
      ((List.range ((stop - start) / recordLength)).mapM (self.symbolAt table start)).bind
        fun symbols => if recordLength ∣ stop - start then .ok symbols else
          .error (.truncated .image (recordName table ((stop - start) / recordLength))
            (start + recordLength * ((stop - start) / recordLength) : Nat)) := by
  have inside : (0 : Int) ≤ start ∧ (start : Int) ≤ stop ∧ (stop : Int) ≤ self.image.length := by omega
  have width : ((self.image.drop start).take (stop - start)).length = stop - start := by
    rw [List.length_take, List.length_drop]
    omega
  have difference : ((stop : Int) - start).toNat = stop - start := by omega
  simp only [symbolsIn, segment, Bytes.slice?, if_pos inside, Int.toNat_natCast, difference, width,
    bind, Except.bind, Nat.dvd_iff_mod_eq_zero]
  cases (List.range ((stop - start) / recordLength)).mapM (self.symbolAt table start) with
  | error fault => rfl
  | ok symbols => rfl

theorem record_inside (valid : start ≤ stop ∧ stop ≤ image.length)
    (full : index < (stop - start) / recordLength) :
    start + recordLength * index + recordLength ≤ image.length := by
  have below := Nat.div_mul_le_self (stop - start) recordLength
  have further := Nat.mul_le_mul_right recordLength (Nat.succ_le_of_lt full)
  rw [Nat.succ_mul, Nat.mul_comm index] at further
  omega

theorem mapM_symbolAt (valid : start ≤ stop ∧ stop ≤ self.image.length) {symbols : List Symbol}
    (count : symbols.length = (stop - start) / recordLength)
    (each : ∀ index symbol, symbols[index]? = some symbol → EntryAt self.image start index symbol) :
    (List.range ((stop - start) / recordLength)).mapM (self.symbolAt table start) = .ok symbols := by
  rw [← count]
  refine Traversal.mapM_range fun index symbol found => ?_
  have bound := (List.getElem?_eq_some_iff.mp found).1
  exact symbolAt_of_entryAt (each index symbol found) (record_inside valid (count ▸ bound))

theorem symbolsIn_of_readsTable {result : Except Fault (List Symbol)}
    (reads : ReadsTable self.image table start stop result) :
    self.symbolsIn table start stop = result := by
  cases reads with
  | range invalid =>
    rw [symbolsIn, segment_eq_error invalid]
    rfl
  | @name index fault valid full earlier missing =>
    have failed : self.symbolAt table start index = .error fault := by
      rw [symbolAt_eq (record_inside valid full), Bytes.stringAt_eq_error.mpr missing]
      rfl
    have before : ∀ other < index, ∃ symbol, self.symbolAt table start other = .ok symbol := by
      intro other less
      obtain ⟨symbol, entry⟩ := earlier other less
      exact ⟨symbol, symbolAt_of_entryAt entry (record_inside valid (Nat.lt_trans less full))⟩
    rw [symbolsIn_eq valid, Traversal.mapM_range_of_first full failed before]
    rfl
  | ragged valid good partly =>
    obtain ⟨symbols, count, each⟩ := exists_entries good
    rw [symbolsIn_eq valid, mapM_symbolAt valid count each, Except.bind, if_neg partly]
  | entries valid whole count each =>
    rw [symbolsIn_eq valid, mapM_symbolAt valid count each, Except.bind, if_pos whole]

theorem symbolsIn_eq_iff {result : Except Fault (List Symbol)} :
    self.symbolsIn table start stop = result ↔ ReadsTable self.image table start stop result := by
  refine ⟨fun same => ?_, symbolsIn_of_readsTable⟩
  obtain ⟨other, reads⟩ := exists_readsTable self.image table start stop
  rw [symbolsIn_of_readsTable reads] at same
  exact same ▸ reads

/-- The range of a table is refused exactly when it is inverted or leaves the image. -/
theorem ReadsTable.range_iff {result : Except Fault (List Symbol)}
    (reads : ReadsTable image table start stop result) :
    (∃ name first last total, result = .error (.segmentRange name first last total)) ↔
      ¬(start ≤ stop ∧ stop ≤ image.length) := by
  constructor
  · rintro ⟨name, first, last, total, rfl⟩ valid
    cases reads with
    | range invalid => exact invalid valid
    | name _ _ _ missing => cases missing
  · intro invalid
    cases reads with
    | range _ => exact ⟨_, _, _, _, rfl⟩
    | name valid _ _ _ | ragged valid _ _ | entries valid _ _ _ => exact absurd valid invalid

theorem EntryAt.name_spelled {symbol : Symbol} (entry : EntryAt image start index symbol) :
    '\x00' ∉ symbol.name.toList ∧ ∃ string, Latin1.encode? symbol.name = some string ∧
      image.HoldsAt (nameOffset image start index) (string ++ [0]) := by
  obtain ⟨string, zeroFree, holds, name⟩ := entry.name
  rw [name]
  exact ⟨Latin1.nul_not_mem_decode zeroFree, string, Latin1.encode?_decode string, holds⟩

/-- A table that is read exactly: the outcome is the one that the bytes say, its range is refused only
where it is invalid, and every name is the text of the bytes that stand at its offset. -/
structure ReadExactly (image : Bytes) (table : String) (start stop : Nat)
    (found : Except Fault (List Symbol)) : Prop where
  outcome : ∀ result, found = result ↔ ReadsTable image table start stop result
  range : (∃ name first last total, found = .error (.segmentRange name first last total)) ↔
    ¬(start ≤ stop ∧ stop ≤ image.length)
  names : ∀ symbols, found = .ok symbols → ∀ (index : Nat) symbol, symbols[index]? = some symbol →
    '\x00' ∉ symbol.name.toList ∧ ∃ string, Latin1.encode? symbol.name = some string ∧
      image.HoldsAt (nameOffset image start index) (string ++ [0])

theorem symbolsIn_readExactly (self : Module) (table : String) (start stop : Nat) :
    ReadExactly self.image table start stop (self.symbolsIn table start stop) := by
  refine ⟨fun result => symbolsIn_eq_iff, (symbolsIn_eq_iff.mp rfl).range_iff, ?_⟩
  intro symbols read index symbol found
  cases symbolsIn_eq_iff.mp read with
  | entries _ _ _ each => exact (each index symbol found).name_spelled

/-- Both symbol tables are read exactly, up to the first fault of each. -/
theorem tables_readExactly (self : Module) :
    ReadExactly self.image "public table" self.header.publics self.header.natives self.publics ∧
      ReadExactly self.image "native table" self.header.natives self.header.libraries self.natives :=
  ⟨symbolsIn_readExactly .., symbolsIn_readExactly ..⟩

end Module

end PawnBytecode
