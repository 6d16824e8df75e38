import PawnBytecode.Proofs.Listing.Plain
import PawnBytecode.Proofs.Text.Words

namespace PawnBytecode

open Text (ofString)
open Numeral (isWord_address isWord_digits isWord_hex)

/-- Two modules with one header line: all that a header says about the code. -/
structure Module.SameHeader (first second : Module) : Prop where
  cellSize : first.cellSize = second.cellSize
  flags : first.header.flags = second.header.flags
  definitionSize : first.header.definitionSize = second.header.definitionSize
  code : first.header.code = second.header.code
  data : first.header.data = second.header.data
  heap : first.header.heap = second.header.heap
  stack : first.header.stack = second.header.stack
  entryPoint : first.header.entryPoint = second.header.entryPoint

namespace SymbolTable

variable {table : SymbolTable}

/-- No name of a table leaves its line. -/
def OneLined (table : SymbolTable) : Prop := ∀ symbol ∈ table.publics ++ table.natives, OneLine symbol.name

theorem OneLined.publicName (named : table.OneLined) {address : Int} {name : String}
    (found : table.publicName address = some name) : OneLine name := by
  obtain ⟨symbol, present, rfl⟩ := Option.map_eq_some_iff.mp found
  exact named symbol (List.mem_append_left _ (List.mem_of_find?_eq_some present))

theorem OneLined.nativeName (named : table.OneLined) {index : Int} {name : String}
    (found : table.nativeName index = some name) : OneLine name := by
  unfold SymbolTable.nativeName at found
  split at found
  · obtain ⟨symbol, present, rfl⟩ := Option.map_eq_some_iff.mp found
    exact named symbol (List.mem_append_right _ (List.mem_of_getElem? present))
  · cases found

theorem OneLined.functionName (named : table.OneLined) (address : Int) :
    OneLine (table.functionName address) := by
  rw [SymbolTable.functionName]
  cases found : table.publicName address with
  | none =>
    have front : OneLine "sub_" := by decide
    exact oneLine_append.mpr ⟨front, (Numeral.isWord_smallHex 4 address).oneLine⟩
  | some name => exact named.publicName found

theorem OneLined.callee (named : table.OneLined) {instruction : Instruction} {callee : String}
    (found : table.callee instruction = some callee) : OneLine callee := by
  unfold SymbolTable.callee annotate at found
  split at found
  · split at found
    · obtain ⟨name, present, rfl⟩ := Option.map_eq_some_iff.mp found
      exact oneLine_append.mpr ⟨named.nativeName present, by decide⟩
    · cases found
  · split at found
    · split at found
      · obtain rfl := Option.some.inj found
        exact oneLine_append.mpr ⟨named.functionName _, by decide⟩
      · cases found
    · cases found

end SymbolTable

namespace Listing

def entryText : Option Nat → String
  | none => "none"
  | some offset => Numeral.address offset

theorem entryText_inj {first second : Option Nat} (same : entryText first = entryText second) :
    first = second := by
  have apart : ∀ offset : Nat, "none" ≠ Numeral.address offset := by
    intro offset spelled
    have heads := congrArg (fun text => text.toList.head?) spelled
    simp [Numeral.address] at heads
  cases first with
  | none =>
    cases second with
    | none => rfl
    | some offset => exact absurd same (apart offset)
  | some offset =>
    cases second with
    | none => exact absurd same.symm (apart offset)
    | some other => exact congrArg some (Int.ofNat.inj (Numeral.address_inj.mp same))

theorem headerLines_inj {first second : Module} (same : headerLines first = headerLines second) :
    first.SameHeader second := by
  obtain ⟨layout, rest⟩ := List.cons.inj same
  obtain ⟨segments, _⟩ := List.cons.inj rest
  have layoutChars := congrArg String.toList layout
  have segmentChars := congrArg String.toList segments
  simp only [String.toList_append, List.append_assoc] at layoutChars segmentChars
  obtain ⟨size, layoutChars⟩ :=
    (isWord_digits _).field_inj (isWord_digits _) rfl (List.append_cancel_left layoutChars)
  obtain ⟨flags, layoutChars⟩ := (isWord_address _).field_inj (isWord_address _) rfl layoutChars
  obtain ⟨code, segmentChars⟩ :=
    (isWord_hex 0 _).field_inj (isWord_hex 0 _) rfl (List.append_cancel_left segmentChars)
  obtain ⟨data, segmentChars⟩ := (isWord_hex 0 _).field_inj (isWord_hex 0 _) rfl segmentChars
  obtain ⟨heap, segmentChars⟩ := (isWord_hex 0 _).field_inj (isWord_hex 0 _) rfl segmentChars
  obtain ⟨stack, segmentChars⟩ := (isWord_hex 0 _).field_inj (isWord_hex 0 _) rfl segmentChars
  have entry : entryText first.header.entryPoint = entryText second.header.entryPoint :=
    String.toList_inj.mp segmentChars
  have bytes : first.cellSize.bytes = second.cellSize.bytes := Numeral.digits_inj.mp size
  constructor
  case cellSize =>
    revert bytes
    cases first.cellSize <;> cases second.cellSize <;> decide
  case flags => exact Int.ofNat.inj (Numeral.address_inj.mp flags)
  case definitionSize => exact Numeral.digits_inj.mp (String.toList_inj.mp layoutChars)
  case code => exact Int.ofNat.inj (Numeral.hex_inj.mp code)
  case data => exact Int.ofNat.inj (Numeral.hex_inj.mp data)
  case heap => exact Int.ofNat.inj (Numeral.hex_inj.mp heap)
  case stack => exact Int.ofNat.inj (Numeral.hex_inj.mp stack)
  case entryPoint => exact entryText_inj entry

def nativeLine (entry : Symbol × Nat) : String := ";   [" ++ toString entry.2 ++ "] " ++ entry.1.name

def publicLine (symbol : Symbol) : String :=
  ";   " ++ Numeral.address symbol.address ++ " " ++ symbol.name

theorem symbolLines_eq (symbols : SymbolTable) :
    symbolLines symbols =
      ("; natives (" ++ toString symbols.natives.length ++ ")") ::
        (symbols.natives.zipIdx.map nativeLine ++
          ("; publics (" ++ toString symbols.publics.length ++ ")") ::
            symbols.publics.map publicLine) := by
  rw [symbolLines, List.append_assoc, List.append_assoc]
  rfl

theorem nativeLines_inj {natives others : List Symbol} {start : Nat}
    (same : (natives.zipIdx start).map nativeLine = (others.zipIdx start).map nativeLine) :
    natives.map Symbol.name = others.map Symbol.name := by
  induction natives generalizing others start with
  | nil =>
    cases others with
    | nil => rfl
    | cons other others => cases same
  | cons native natives ih =>
    cases others with
    | nil => cases same
    | cons other others =>
      obtain ⟨line, lines⟩ := List.cons.inj same
      have name : native.name = other.name := by simpa [nativeLine] using line
      rw [List.map_cons, List.map_cons, name, ih lines]

theorem publicLine_inj {symbol other : Symbol} (same : publicLine symbol = publicLine other) :
    symbol = other := by
  have chars := congrArg String.toList same
  simp only [publicLine, String.toList_append, List.append_assoc] at chars
  obtain ⟨address, name⟩ :=
    (isWord_address _).field_inj (isWord_address _) rfl (List.append_cancel_left chars)
  obtain ⟨name, address⟩ : symbol.name = other.name ∧ symbol.address = other.address :=
    ⟨String.toList_inj.mp name, Numeral.address_inj.mp address⟩
  cases symbol
  cases other
  exact congrArg₂ Symbol.mk name address

theorem countLine_inj {label : String} {first second : Nat}
    (same : label ++ toString first ++ ")" = label ++ toString second ++ ")") : first = second := by
  have chars := congrArg String.toList same
  simp only [String.toList_append, List.append_assoc] at chars
  have digits := List.append_cancel_right (List.append_cancel_left chars)
  exact Numeral.digits_inj.mp (String.toList_inj.mp digits)

theorem map_ofString_inj {first second : List String} (same : first.map ofString = second.map ofString) :
    first = second :=
  List.map_injective_iff.mpr (fun _ _ => Text.ofString_inj.mp) same

/-- The counts say where the names end. -/
theorem symbolLines_inj {symbols others : SymbolTable} {rest other : List Text}
    (same : (symbolLines symbols).map ofString ++ rest = (symbolLines others).map ofString ++ other) :
    symbols.natives.map Symbol.name = others.natives.map Symbol.name ∧
      symbols.publics = others.publics ∧ rest = other := by
  rw [symbolLines_eq, symbolLines_eq] at same
  simp only [List.map_cons, List.map_append, List.cons_append, List.append_assoc, List.cons.injEq,
    Text.ofString_inj] at same
  obtain ⟨nativeCount, lines⟩ := same
  have natives := countLine_inj nativeCount
  obtain ⟨nativeLines, lines⟩ := List.append_inj lines (by simpa using natives)
  obtain ⟨publicCount, lines⟩ := List.cons.inj lines
  have publics := countLine_inj (Text.ofString_inj.mp publicCount)
  obtain ⟨publicLines, rests⟩ := List.append_inj lines (by simpa using publics)
  refine ⟨nativeLines_inj (map_ofString_inj nativeLines), ?_, rests⟩
  exact List.map_injective_iff.mpr (fun _ _ => publicLine_inj) (map_ofString_inj publicLines)

theorem oneLine_headerLines (module : Module) : ∀ line ∈ headerLines module, OneLine line := by
  have digits := fun value => (isWord_digits value).oneLine
  have address := fun value => (isWord_address value).oneLine
  have hex := fun value => (isWord_hex 0 value).oneLine
  have entry : OneLine (entryText module.header.entryPoint) := by
    cases module.header.entryPoint with
    | none => decide
    | some offset => exact address offset
  intro line member
  simp only [headerLines, List.mem_cons, List.not_mem_nil, or_false] at member
  rcases member with rfl | rfl | rfl
  · simp only [oneLine_append, digits, address, and_true]
    decide
  · simp only [oneLine_append, hex, and_true]
    exact ⟨by decide, entry⟩
  · decide

theorem oneLine_symbolLines {symbols : SymbolTable} (named : symbols.OneLined) :
    ∀ line ∈ symbolLines symbols, OneLine line := by
  have digits := fun value => (isWord_digits value).oneLine
  have address := fun value => (isWord_address value).oneLine
  intro line member
  simp only [symbolLines_eq, List.mem_cons, List.mem_append, List.mem_map] at member
  rcases member with rfl | ⟨⟨native, index⟩, inside, rfl⟩ | rfl | ⟨symbol, inside, rfl⟩
  · simp only [oneLine_append, digits, and_true]
    decide
  · have name := named native (List.mem_append_right _ (List.fst_mem_of_mem_zipIdx inside))
    simp only [nativeLine, oneLine_append, digits, name, and_true]
    decide
  · simp only [oneLine_append, digits, and_true]
    decide
  · have name := named symbol (List.mem_append_left _ inside)
    simp only [publicLine, oneLine_append, address, name, and_true]
    decide

theorem oneLine_labelLines {symbols : SymbolTable} (named : symbols.OneLined) (instruction : Instruction) :
    ∀ line ∈ labelLines symbols instruction, OneLine line := by
  have empty : OneLine "" := by decide
  intro line member
  unfold labelLines at member
  split at member
  · split at member
    · rename_i name found
      split at member
      · obtain rfl := List.mem_singleton.mp member
        exact empty
      · simp only [List.mem_cons, List.not_mem_nil, or_false] at member
        rcases member with rfl | rfl
        · exact empty
        · simp only [oneLine_append, named.publicName found, and_true]
          decide
    · obtain rfl := List.mem_singleton.mp member
      exact empty
  · cases member

end Listing

end PawnBytecode
