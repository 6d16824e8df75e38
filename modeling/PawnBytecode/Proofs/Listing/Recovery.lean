import PawnBytecode.Proofs.Acceptance
import PawnBytecode.Proofs.Code.Wording
import PawnBytecode.Proofs.Listing.Heading

/-! A listing read back. The line of an instruction is cut into its fields in one way, so two modules
with one listing have the same code under the same names. -/
namespace PawnBytecode

open Text (ofString)
open Numeral (isWord_hex)

namespace Listing

def columnGap (opcode : Opcode) : Nat := mnemonicWidth - opcode.mnemonic.length

def codeChars (symbols : SymbolTable) (instruction : Instruction) (operands : String) : List Char :=
  Fields.remarked
    ((Numeral.hex 8 instruction.offset).toList ++
      (": ".toList ++ instruction.worded columnGap operands))
    [' '] ';' ((symbols.callee instruction).map fun callee => ' ' :: callee.toList)

theorem trimEnd_column {opcode : Opcode} {values : List Int} {operands : String}
    (worded : Wording opcode values operands) (gap : Nat) :
    (ofString (padEnd gap "" ++ " " ++ operands)).trimEnd = (spaced gap operands).map .char := by
  have column : ofString (padEnd gap "" ++ " ") = (List.replicate (gap + 1) ' ').map .char := by
    simp [padEnd, ofString, List.replicate_succ']
  rw [Text.ofString_append, column]
  by_cases empty : operands = ""
  · subst empty
    have blank : Text.trimEnd ((List.replicate (gap + 1) ' ').map .char) = [] := by
      apply Text.trimEnd_of_blank
      intro point member
      obtain ⟨char, inside, rfl⟩ := List.mem_map.mp member
      rw [List.eq_of_mem_replicate inside]
      rfl
    simpa [spaced, ofString] using blank
  · obtain ⟨front, word, same, some, isWord⟩ := worded.ends empty
    have solid := (isWord.solid (by simpa using some)).append (front.map .char)
    have text : ofString operands = front.map .char ++ ofString word := by
      simp [ofString, same]
    rw [text, (solid.append _).trimEnd, ← text]
    simp [spaced, empty, ofString]

theorem plainLine_eq {symbols : SymbolTable} {instruction : Instruction} {operands : String}
    (shown : instruction.operandText = .ok operands) :
    plainLine symbols instruction = (codeChars symbols instruction operands).map .char := by
  rw [plainLine_of_shown shown, shownLine_eq, trimEnd_column (Instruction.wording shown)]
  have column : 12 - instruction.opcode.mnemonic.length = columnGap instruction.opcode := rfl
  cases callee : symbols.callee instruction <;>
    simp [codeChars, Fields.remarked, Instruction.worded, Instruction.mnemonic, Tree.lineOf, callee,
      lineStart, commentText, ofString, column]

theorem not_mem_codeFront {instruction : Instruction} {operands : String}
    (shown : instruction.operandText = .ok operands) {char : Char} (strange : isCodeChar char = false)
    (apart : char ≠ ':') :
    char ∉ (Numeral.hex 8 instruction.offset).toList ++
      (": ".toList ++ instruction.worded columnGap operands) := by
  intro member
  have code : isCodeChar char = true := by
    rcases List.mem_append.mp member with digits | member
    · exact (isWord_hex 8 _).isCodeChar digits
    · rcases List.mem_append.mp member with colon | member
      · have each : ": ".toList.all (fun char => char == ':' || isCodeChar char) = true := by decide
        have colonOrCode := List.all_eq_true.mp each char colon
        simpa [apart] using colonOrCode
      · exact Instruction.isCodeChar_of_mem_worded shown member
  rw [strange] at code
  cases code

/-- The line of an instruction tells the instruction. -/
theorem plainLine_inj {symbols others : SymbolTable} {first second : Instruction}
    (firstCounted : first.Counted) (secondCounted : second.Counted)
    (same : plainLine symbols first = plainLine others second) : first = second := by
  obtain ⟨operands, shown⟩ := firstCounted.operandText
  obtain ⟨otherOperands, again⟩ := secondCounted.operandText
  rw [plainLine_eq shown, plainLine_eq again] at same
  have chars := List.map_injective_iff.mpr (fun _ _ => CodePoint.char.inj) same
  obtain ⟨fronts, _⟩ := Fields.remarked_inj (not_mem_codeFront shown rfl (by decide))
    (not_mem_codeFront again rfl (by decide)) (by decide) chars
  have colon : ∀ rest : List Char, ∀ char ∈ (": ".toList ++ rest).head?, isWordChar char = false := by
    intro rest char head
    obtain rfl : char = ':' := by simpa using head.symm
    rfl
  obtain ⟨offsets, codes⟩ := (isWord_hex 8 _).append_inj (isWord_hex 8 _) (colon _) (colon _) fronts
  obtain ⟨opcode, operandsSame⟩ := Instruction.agree_of_worded shown again (List.append_cancel_left codes)
  have offset := Numeral.hex_inj.mp offsets
  cases first
  cases second
  exact Instruction.mk.injEq .. ▸ ⟨offset, opcode, operandsSame⟩

theorem newline_not_mem_plainLine {symbols : SymbolTable} (named : symbols.OneLined)
    {instruction : Instruction} (counted : instruction.Counted) :
    CodePoint.char '\n' ∉ plainLine symbols instruction := by
  obtain ⟨operands, shown⟩ := counted.operandText
  rw [plainLine_eq shown, List.mem_map_of_injective fun _ _ => CodePoint.char.inj]
  intro newline
  rcases List.mem_append.mp newline with front | remark
  · exact not_mem_codeFront shown rfl (by decide) front
  · cases found : symbols.callee instruction with
    | none => simp [found] at remark
    | some callee =>
      have inside : '\n' ∈ callee.toList := by simpa [found] using remark
      exact named.callee found inside

theorem newline_not_mem_plainListing {symbols : SymbolTable} (named : symbols.OneLined)
    {instructions : List Instruction} (counted : ∀ instruction ∈ instructions, instruction.Counted)
    (module : Module) :
    ∀ line ∈ plainListing module symbols instructions, CodePoint.char '\n' ∉ line := by
  have free : ∀ {lines : List String}, (∀ line ∈ lines, OneLine line) →
      ∀ line ∈ lines.map ofString, CodePoint.char '\n' ∉ line := by
    intro lines each text member
    obtain ⟨line, inside, rfl⟩ := List.mem_map.mp member
    rw [ofString, List.mem_map_of_injective fun _ _ => CodePoint.char.inj]
    exact each line inside
  intro line member
  simp only [plainListing, plainLines, List.map_append, List.mem_append, List.mem_flatMap,
    List.mem_singleton] at member
  rcases member with (header | table) | ⟨instruction, inside, label | same⟩
  · exact free (oneLine_headerLines module) line header
  · exact free (oneLine_symbolLines named) line table
  · exact free (oneLine_labelLines named instruction) line label
  · rw [same]
    exact newline_not_mem_plainLine named (counted instruction inside)

def isNumbered (line : Text) : Bool := (line.dropWhile CodePoint.isHexDigit).head? == some (.char ':')

/-- The numbered lines of a listing are those of its instructions. -/
theorem filter_isNumbered {symbols : SymbolTable} {instructions : List Instruction}
    (ordered : Code.Ordered instructions) (module : Module) :
    (plainListing module symbols instructions).filter isNumbered =
      instructions.map (plainLine symbols) := by
  have numbered : ∀ instruction ∈ instructions, isNumbered (plainLine symbols instruction) = true := by
    intro instruction member
    obtain ⟨position, place⟩ := ordered.position instruction member
    obtain ⟨rest, same⟩ := plainLine_start symbols instruction
    rw [isNumbered, same, place, dropWhile_lineStart]
    rfl
  have unnumbered : ∀ line, Unnumbered line → isNumbered line = false :=
    fun line head => beq_eq_false_iff_ne.mpr head
  rw [filter_plainListing unnumbered, List.filter_eq_self.mpr numbered]

/-- A listing tells its instructions. -/
theorem plainListing_inj {first second : Module} {symbols others : SymbolTable}
    {instructions otherInstructions : List Instruction} (firstOrdered : Code.Ordered instructions)
    (secondOrdered : Code.Ordered otherInstructions)
    (same : plainListing first symbols instructions = plainListing second others otherInstructions) :
    first.SameHeader second ∧ symbols.natives.map Symbol.name = others.natives.map Symbol.name ∧
      symbols.publics = others.publics ∧ instructions = otherInstructions := by
  have lines : instructions.map (plainLine symbols) = otherInstructions.map (plainLine others) := by
    rw [← filter_isNumbered firstOrdered first, same, filter_isNumbered secondOrdered]
  have alike := Fields.forall₂_of_map_eq (fun instruction member other inside =>
    plainLine_inj (firstOrdered.counted instruction member) (secondOrdered.counted other inside)) lines
  simp only [plainListing, List.map_append, List.append_assoc] at same
  obtain ⟨headers, rest⟩ := List.append_inj same (by simp [headerLines])
  obtain ⟨natives, publics, _⟩ := symbolLines_inj rest
  exact ⟨headerLines_inj (map_ofString_inj headers), natives, publics,
    List.forall₂_eq_eq_eq ▸ alike⟩

end Listing

namespace Module

/-- Two modules with one listing. -/
structure ListedAlike (first second : Module) : Prop extends first.SameHeader second where
  parts : ∃ symbols others instructions, first.Reads symbols instructions ∧
    second.Reads others instructions ∧ symbols.publics = others.publics ∧
    symbols.natives.map Symbol.name = others.natives.map Symbol.name

def NamesOneLine (self : Module) : Prop :=
  ∀ symbols, self.symbols = .ok symbols → symbols.OneLined

theorem Reads.plainText {self : Module} {symbols : SymbolTable} {instructions : List Instruction}
    (reads : self.Reads symbols instructions) :
    Listing.plain.text self =
      .ok (Fields.ended (.char '\n') (Listing.plainListing self symbols instructions)) := by
  have counted := reads.counted
  obtain ⟨natives, publics, decoded⟩ := reads
  rw [Listing.text, Listing.lines_plain natives publics decoded counted]
  rfl

theorem Reads.symbols {self : Module} {symbols : SymbolTable} {instructions : List Instruction}
    (reads : self.Reads symbols instructions) : self.symbols = .ok symbols := by
  obtain ⟨natives, publics, _⟩ := reads
  rw [Module.symbols, publics, natives]
  rfl

theorem exists_plainListing {self : Module} {text : Text} (named : self.NamesOneLine)
    (listed : Listing.plain.text self = .ok text) :
    ∃ symbols instructions, self.Reads symbols instructions ∧
      text = Fields.ended (.char '\n') (Listing.plainListing self symbols instructions) ∧
      ∀ line ∈ Listing.plainListing self symbols instructions, CodePoint.char '\n' ∉ line := by
  obtain ⟨symbols, instructions, reads⟩ := exists_reads_of_text listed
  rw [reads.plainText] at listed
  refine ⟨symbols, instructions, reads, (Except.ok.inj listed).symm, ?_⟩
  exact Listing.newline_not_mem_plainListing (named symbols reads.symbols) reads.counted self

/-- A listing loses no information about the code. -/
theorem listedAlike_of_text {first second : Module} {text : Text}
    (firstNamed : first.NamesOneLine) (secondNamed : second.NamesOneLine)
    (firstListed : Listing.plain.text first = .ok text)
    (secondListed : Listing.plain.text second = .ok text) : first.ListedAlike second := by
  obtain ⟨symbols, instructions, reads, shown, free⟩ := exists_plainListing firstNamed firstListed
  obtain ⟨others, otherInstructions, otherReads, again, otherFree⟩ :=
    exists_plainListing secondNamed secondListed
  have lines := Fields.ended_inj free otherFree (shown.symm.trans again)
  obtain ⟨header, natives, publics, rfl⟩ := Listing.plainListing_inj
    (ordered_of_instructions reads.2.2) (ordered_of_instructions otherReads.2.2) lines
  exact ⟨header, symbols, others, instructions, reads, otherReads, publics, natives⟩

def calledItems : List Code.Item :=
  [.plain .proc [], .plain .sysreqC [0], .caseTable 16 [(-1, 24)], .plain .retn []]

/-- A module with a name that looks like a remark, and with data that no listing shows. -/
def dataParts (data : Bytes) : Parts where
  cellSize := .eight
  flags := 0x10
  definitionSize := 8
  stack := 0x4000
  entry := 0
  publics := [([0x3B, 0x20], 16), ([], 16)]
  natives := [([0x70, 0x75, 0x74], 0)]
  code := Code.encode .eight (List.replicate 16 0) calledItems
  data := data

def dataSymbols : SymbolTable := ⟨[⟨"; ", 16⟩, ⟨"", 16⟩], [⟨"put", 0⟩]⟩

theorem listedAlike_of_text_data :
    ∃ text, Listing.plain.text (dataParts [1]).assembled = .ok text ∧
      Listing.plain.text (dataParts [2]).assembled = .ok text ∧
      (dataParts [1]).assembled ≠ (dataParts [2]).assembled ∧
      (dataParts [1]).assembled.ListedAlike (dataParts [2]).assembled := by
  have one : (dataParts [1]).Fits := by
    refine ⟨?_, ?_, ?_, ?_, ?_, ?_⟩ <;> decide
  have two : (dataParts [2]).Fits := by
    refine ⟨?_, ?_, ?_, ?_, ?_, ?_⟩ <;> decide
  have valid : ∀ item ∈ calledItems, item.Valid .eight := by
    intro item member
    simp only [calledItems, List.mem_cons, List.not_mem_nil, or_false] at member
    rcases member with rfl | rfl | rfl | rfl
    · exact ⟨.plain (by decide) (by decide) rfl (by decide), trivial⟩
    · exact ⟨.plain (by decide) (by decide) rfl (by decide), trivial⟩
    · exact ⟨.caseTable (by decide) (by decide), show 1 < 2 ^ 64 by decide⟩
    · exact ⟨.plain (by decide) (by decide) rfl (by decide), trivial⟩
  have reads : ∀ {data}, (dataParts data).Fits →
      (dataParts data).assembled.Reads dataSymbols (Code.instructionsAt .eight 16 calledItems) := by
    intro data fits
    refine ⟨fits.natives, fits.publics, ?_⟩
    rw [Parts.instructions_assembled (show 0x10 &&& 0x04 = 0 by decide)]
    exact Code.decode_of_items rfl valid
  have named : ∀ {data}, (dataParts data).Fits → (dataParts data).assembled.NamesOneLine := by
    intro data fits symbols read
    rw [(reads fits).symbols] at read
    obtain rfl := Except.ok.inj read
    show ∀ symbol ∈ dataSymbols.publics ++ dataSymbols.natives, OneLine symbol.name
    decide
  have headers : Listing.headerLines (dataParts [1]).assembled =
      Listing.headerLines (dataParts [2]).assembled := rfl
  have first := (reads one).plainText
  have second := (reads two).plainText
  rw [Listing.plainListing, ← headers] at second
  refine ⟨_, first, second, ?_, listedAlike_of_text (named one) (named two) first second⟩
  intro same
  have last := congrArg (fun module => module.image.getLast?) same
  simp [Parts.assembled, Parts.image, dataParts] at last

end Module

end PawnBytecode
