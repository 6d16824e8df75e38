import PawnBytecode.Proofs.Listing.Limits

/-! What notes add to a listing. A note stands behind what the line shows without it, and cutting the white
space at the end afterwards stops at the mark before the note. -/
namespace PawnBytecode

open Text (ofString)

namespace Listing

/-- What stands before a note: a mark of its own where the callee is shown already. -/
def noteMark : Option String → Text
  | none => ofString " ; "
  | some _ => ofString " | "

theorem prefix_trimEnd_mark (line : Text) (callee : Option String) (summary : Text) :
    line <+: Text.trimEnd (line ++ noteMark callee ++ summary) := by
  have marked : ∃ mark : Text, mark.Solid ∧ noteMark callee = mark ++ ofString " " := by
    cases callee with
    | none => exact ⟨ofString " ;", ⟨_, rfl, rfl⟩, rfl⟩
    | some _ => exact ⟨ofString " |", ⟨_, rfl, rfl⟩, rfl⟩
  obtain ⟨mark, solid, same⟩ := marked
  rw [same, ← List.append_assoc, List.append_assoc, (solid.append line).trimEnd_append, List.append_assoc]
  exact List.prefix_append ..

/-- A note is one more comment, or the first one. -/
theorem withComments_note (text : Text) (callee : Option String) (summary : Text) :
    withComments text (callee.toList.map ofString ++ [summary]) =
      Text.trimEnd (text.trimEnd ++ commentText callee ++ noteMark callee ++ summary) := by
  cases callee <;> simp [withComments, commentText, noteMark]

def notedLine (knowledge : KnowledgeBase) (symbols : SymbolTable) (instruction : Instruction) : Text :=
  (instructionLine ⟨knowledge, none⟩ symbols instruction).toOption.getD []

/-- The line of an instruction with its note, beside the line without. -/
structure Appended (knowledge : KnowledgeBase) (symbols : SymbolTable) (instruction : Instruction)
    (line noted : Text) : Prop where
  kept : line <+: noted
  silent : (∀ note, knowledge.lookup (ofString instruction.mnemonic) = some note →
    note.summary.isPresent = false) → noted = line
  told : ∀ note summary, knowledge.lookup (ofString instruction.mnemonic) = some note →
    note.summary.isPresent = true → note.summary = .string summary →
    noted = Text.trimEnd (line ++ noteMark (symbols.callee instruction) ++ summary)

variable {knowledge : KnowledgeBase} {symbols : SymbolTable} {instruction : Instruction}

/-- The comments of a note are appended to the line. -/
theorem appended_of_noted {operands : String} {comments : List Text}
    (shown : instruction.operandText = .ok operands)
    (noted : knowledge.Noted (ofString instruction.mnemonic) comments) :
    Appended knowledge symbols instruction (plainLine symbols instruction)
      (withComments (codeText instruction operands)
        ((symbols.callee instruction).toList.map ofString ++ comments)) := by
  have plain : plainLine symbols instruction =
      (codeText instruction operands).trimEnd ++ commentText (symbols.callee instruction) :=
    plainLine_of_shown shown symbols
  cases noted with
  | silent absent =>
    rw [withComments_callee _ fun callee found => SymbolTable.exists_callee_eq found, ← plain]
    refine ⟨List.prefix_rfl, fun _ => rfl, fun note summary found present _ => ?_⟩
    rw [absent note found] at present
    cases present
  | @told note summary found present text =>
    rw [withComments_note, ← plain]
    refine ⟨prefix_trimEnd_mark .., fun absent => ?_, fun other again same _ written => ?_⟩
    · rw [absent note found] at present
      cases present
    · obtain rfl := Option.some.inj (found.symm.trans same)
      obtain rfl := Json.string.inj (text.symm.trans written)
      rfl

theorem instructionLine_noted (textual : knowledge.Textual) (counted : instruction.Counted)
    (limit : Option Int) (symbols : SymbolTable) :
    instructionLine ⟨knowledge, limit⟩ symbols instruction = .ok (notedLine knowledge symbols instruction) ∧
      Appended knowledge symbols instruction (plainLine symbols instruction)
        (notedLine knowledge symbols instruction) := by
  obtain ⟨operands, shown⟩ := counted.operandText
  obtain ⟨comments, found, noted⟩ := textual.exists_noted (ofString instruction.mnemonic)
  have line : ∀ limit, instructionLine ⟨knowledge, limit⟩ symbols instruction = _ :=
    fun limit => instructionLine_of_noted counted shown found symbols
  rw [notedLine, line, line]
  exact ⟨rfl, appended_of_noted shown noted⟩

theorem length_framed (module : Module) (symbols : SymbolTable) (limit : Option Int)
    (instructions : List Instruction) (line other : Instruction → Text) :
    (framed module symbols limit instructions line).length =
      (framed module symbols limit instructions other).length := by
  simp only [framed, List.length_append, List.length_flatMap, List.length_singleton]

end Listing

namespace Module

open Listing (framed notedLine plainLine)

/-- A listing with notes beside the one without. Both have the same frame of header, symbols, labels and
cut, and in it the line of each instruction begins with what it is without the note. -/
structure NotesAppended (module : Module) (knowledge : KnowledgeBase) (limit : Option Int)
    (symbols : SymbolTable) (instructions : List Instruction) : Prop where
  reads : module.Reads symbols instructions
  plain : Listing.lines ⟨.empty, limit⟩ module =
    .ok (framed module symbols limit instructions (plainLine symbols))
  noted : Listing.lines ⟨knowledge, limit⟩ module =
    .ok (framed module symbols limit instructions (notedLine knowledge symbols))
  text : Listing.text ⟨knowledge, limit⟩ module =
    .ok ((framed module symbols limit instructions (notedLine knowledge symbols)).flatMap (· ++ Text.newline))
  count : (framed module symbols limit instructions (notedLine knowledge symbols)).length =
    (framed module symbols limit instructions (plainLine symbols)).length
  each : ∀ instruction ∈ instructions,
    Listing.instructionLine ⟨.empty, limit⟩ symbols instruction = .ok (plainLine symbols instruction) ∧
    Listing.instructionLine ⟨knowledge, limit⟩ symbols instruction =
      .ok (notedLine knowledge symbols instruction) ∧
    Listing.Appended knowledge symbols instruction (plainLine symbols instruction)
      (notedLine knowledge symbols instruction)

/-- Notes change the lines of instructions only, and only behind their end. -/
theorem notes_appended {module : Module} {knowledge : KnowledgeBase} (textual : knowledge.Textual)
    {other : Option Int} {text : Text} (listed : Listing.text ⟨.empty, other⟩ module = .ok text)
    (limit : Option Int) :
    ∃ symbols instructions, module.NotesAppended knowledge limit symbols instructions := by
  obtain ⟨symbols, instructions, reads⟩ := exists_reads_of_text listed
  have counted := reads.counted
  have each := fun instruction member =>
    Listing.instructionLine_noted textual (counted instruction member) limit symbols
  have noted : Listing.lines ⟨knowledge, limit⟩ module =
      .ok (framed module symbols limit instructions (notedLine knowledge symbols)) :=
    Listing.lines_framed reads.1 reads.2.1 reads.2.2 fun instruction member => (each instruction member).1
  refine ⟨symbols, instructions, ?_⟩
  constructor
  case reads => exact reads
  case plain => exact Listing.lines_of_counted reads.1 reads.2.1 reads.2.2 counted limit
  case noted => exact noted
  case text =>
    rw [Listing.text, noted]
    rfl
  case count => exact Listing.length_framed ..
  case each =>
    exact fun instruction member => ⟨Listing.instructionLine_of_counted (counted instruction member) limit
      symbols, each instruction member⟩

def remarkedItems : List Code.Item :=
  [.plain .proc [], .plain .sysreqC [0], .plain .constPri [5], .plain .retn []]

def remarkedParts : Parts where
  cellSize := .four
  flags := 0
  definitionSize := 8
  stack := 0x4000
  entry := 8
  publics := []
  natives := [([0x70, 0x75, 0x74], 0)]
  code := Code.encode .four (List.replicate 8 0) remarkedItems
  data := []

/-- A note that ends in white space, one that holds nothing else, and one without a summary. -/
def remarks : KnowledgeBase :=
  ⟨[(ofString "sysreq.c", ⟨ofString "sysreq.c", .string (ofString "calls\u3000"), .null, []⟩),
    (ofString "const.pri", ⟨ofString "const.pri", .string (ofString " "), .null, []⟩),
    (ofString "retn", ⟨ofString "retn", .whole 0, .null, []⟩)]⟩

theorem notes_appended_blank :
    remarks.Textual ∧ (∃ text, Listing.plain.text remarkedParts.assembled = .ok text) ∧
      remarkedParts.assembled.NotesAppended remarks none remarkedParts.symbols
        (Code.instructionsAt .four 8 remarkedItems) ∧
      notedLine remarks remarkedParts.symbols ⟨12, .sysreqC, [0]⟩ =
        ofString "0000000C: sysreq.c     0 ; put() | calls" ∧
      notedLine remarks remarkedParts.symbols ⟨20, .constPri, [5]⟩ = ofString "00000014: const.pri    5 ;" ∧
      notedLine remarks remarkedParts.symbols ⟨28, .retn, []⟩ = ofString "0000001C: retn" := by
  have textual : remarks.Textual := by
    intro named member present
    simp only [remarks, List.mem_cons, List.not_mem_nil, or_false] at member
    rcases member with rfl | rfl | rfl
    · exact ⟨_, rfl⟩
    · exact ⟨_, rfl⟩
    · cases present
  have fits : remarkedParts.Fits := by
    refine ⟨?_, ?_, ?_, ?_, ?_, ?_⟩ <;> decide
  have reads := fits.reads rfl rfl rfl (by decide : ∀ item ∈ remarkedItems, item.Valid .four)
  obtain ⟨text, listed⟩ := reads.text none
  obtain ⟨symbols, instructions, appended⟩ := notes_appended textual listed none
  obtain ⟨rfl, rfl⟩ := reads.unique appended.reads
  refine ⟨textual, ⟨text, listed⟩, appended, ?_, ?_, ?_⟩
  · exact ((appended.each ⟨12, .sysreqC, [0]⟩ (by decide)).2.2.told _ _ rfl rfl rfl).trans (by decide)
  · exact ((appended.each ⟨20, .constPri, [5]⟩ (by decide)).2.2.told _ _ rfl rfl rfl).trans (by decide)
  · exact ((appended.each ⟨28, .retn, []⟩ (by decide)).2.2.silent (by rintro _ ⟨⟩; rfl)).trans (by decide)

end Module

end PawnBytecode
