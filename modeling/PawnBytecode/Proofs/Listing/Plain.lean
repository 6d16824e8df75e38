import PawnBytecode.Proofs.Listing.Lines
import PawnBytecode.Proofs.Traversal

namespace PawnBytecode

open Text (ofString)

namespace SymbolTable

theorem exists_callee_eq {table : SymbolTable} {instruction : Instruction} {comment : String}
    (found : table.callee instruction = some comment) : ∃ name, comment = name ++ "()" := by
  unfold callee annotate at found
  split at found
  · split at found
    · obtain ⟨name, _, rfl⟩ := Option.map_eq_some_iff.mp found
      exact ⟨name, rfl⟩
    · cases found
  · split at found
    · split at found
      · exact ⟨_, (Option.some.inj found).symm⟩
      · cases found
    · cases found

end SymbolTable

namespace Listing

def plainLine (symbols : SymbolTable) (instruction : Instruction) : Text :=
  shownLine (Tree.lineOf symbols instruction) (instruction.operandText.toOption.getD "")

theorem plainLine_of_shown {instruction : Instruction} {operands : String}
    (shown : instruction.operandText = .ok operands) (symbols : SymbolTable) :
    plainLine symbols instruction = shownLine (Tree.lineOf symbols instruction) operands := by
  rw [plainLine, shown]
  rfl

theorem withComments_callee (text : Text) {comment : Option String}
    (closed : ∀ callee ∈ comment, ∃ name, callee = name ++ "()") :
    withComments text (comment.toList.map ofString ++ []) = text.trimEnd ++ commentText comment := by
  cases comment with
  | none => exact (List.append_nil _).symm
  | some callee =>
    obtain ⟨name, rfl⟩ := closed callee rfl
    have bracket : (ofString "()").Solid := ⟨_, rfl, rfl⟩
    have solid := bracket.append (text.trimEnd ++ (ofString " ; " ++ ofString name))
    simpa [withComments, commentText] using solid.trimEnd

theorem instructionLine_of_counted {instruction : Instruction} (counted : instruction.Counted)
    (limit : Option Int) (symbols : SymbolTable) :
    instructionLine ⟨.empty, limit⟩ symbols instruction = .ok (plainLine symbols instruction) := by
  obtain ⟨operands, shown⟩ := counted.operandText
  have noNote : noteComment (KnowledgeBase.empty.lookup (ofString instruction.mnemonic)) = .ok [] := rfl
  rw [instructionLine, shown, symbols.annotate_of_counted counted, noNote, plainLine_of_shown shown]
  exact congrArg Except.ok (withComments_callee _ fun callee found => SymbolTable.exists_callee_eq found)

theorem shownLine_eq (line : Tree.Annotated) (operands : String) :
    shownLine line operands =
      lineStart line.instruction.offset ++ ofString line.instruction.opcode.mnemonic ++
        (ofString (padEnd (12 - line.instruction.opcode.mnemonic.length) "" ++ " " ++ operands)).trimEnd ++
        commentText line.comment := by
  have solid := line.instruction.opcode.solid_mnemonic.append (lineStart line.instruction.offset)
  rw [← solid.trimEnd_append]
  simp [shownLine, padEnd, lineStart, Instruction.mnemonic]

theorem plainLine_start (symbols : SymbolTable) (instruction : Instruction) :
    ∃ rest, plainLine symbols instruction =
      lineStart instruction.offset ++ (ofString instruction.opcode.mnemonic ++ rest) := by
  rw [plainLine, shownLine_eq]
  simp only [Tree.lineOf, List.append_assoc]
  exact ⟨_, rfl⟩

theorem plainLine_entry {instruction : Instruction} (counted : instruction.Counted)
    (opens : instruction.opcode.opensFunction = true) (symbols : SymbolTable) :
    plainLine symbols instruction = entryLine instruction.offset := by
  obtain ⟨offset, opcode, operands⟩ := instruction
  obtain rfl : opcode = .proc := eq_of_beq opens
  obtain rfl : operands = [] := List.eq_nil_of_length_eq_zero counted
  have blank : (ofString (padEnd (12 - Opcode.proc.mnemonic.length) "" ++ " " ++ "")).trimEnd = [] := rfl
  have shown : Instruction.operandText ⟨offset, .proc, []⟩ = .ok "" := rfl
  have noCallee : symbols.callee ⟨offset, .proc, []⟩ = none := rfl
  rw [plainLine_of_shown shown, shownLine_eq, Tree.lineOf, noCallee, blank, entryLine]
  simp only [commentText, List.append_nil]
  rfl

theorem isEntryLine_plainLine {instruction : Instruction} (counted : instruction.Counted)
    {position : Nat} (place : instruction.offset = position) (symbols : SymbolTable) :
    isEntryLine (plainLine symbols instruction) = instruction.opcode.opensFunction := by
  obtain ⟨rest, same⟩ := plainLine_start symbols instruction
  cases opens : instruction.opcode.opensFunction with
  | true =>
    rw [plainLine_entry counted opens, isEntryLine, entryLine, place, dropWhile_lineStart]
    rfl
  | false =>
    -- Such a line would begin with a mnemonic that the entry's own mnemonic begins with.
    rw [isEntryLine, same, place, dropWhile_lineStart, beq_eq_false_iff_ne]
    intro entry
    have shorter : (ofString instruction.opcode.mnemonic).isPrefixOf (ofString "proc") = true :=
      List.isPrefixOf_iff_prefix.mpr ⟨rest, List.append_cancel_left entry⟩
    rw [Opcode.isPrefixOf_entry, opens] at shorter
    cases shorter

theorem isPrefixOf_plainLine {instruction : Instruction} {position : Nat}
    (place : instruction.offset = position) (symbols : SymbolTable) (other : Nat) :
    (lineStart other).isPrefixOf (plainLine symbols instruction) = (instruction.offset == other) := by
  obtain ⟨rest, same⟩ := plainLine_start symbols instruction
  rw [same, place, isPrefixOf_lineStart]

theorem mem_of_mem_shown {listing : Listing} {instructions : List Instruction}
    {instruction : Instruction} (member : instruction ∈ listing.shownInstructions instructions) :
    instruction ∈ instructions := by
  unfold shownInstructions at member
  split at member
  · exact member
  · exact List.mem_of_mem_take member

def plainLines (symbols : SymbolTable) (instruction : Instruction) : List Text :=
  (labelLines symbols instruction).map ofString ++ [plainLine symbols instruction]

theorem lines_of_body {listing : Listing} {module : Module} {symbols : SymbolTable}
    {instructions : List Instruction} {blocks : List (List Text)}
    (natives : module.natives = .ok symbols.natives) (publics : module.publics = .ok symbols.publics)
    (decoded : module.instructions = .ok instructions)
    (body : (listing.shownInstructions instructions).mapM (listing.instructionLines symbols) = .ok blocks) :
    listing.lines module = .ok ((headerLines module ++ symbolLines symbols).map ofString ++ blocks.flatten ++
      (listing.cutLines instructions).map ofString) := by
  simp only [lines, natives, publics, decoded, Failure.lift, bind, Except.bind, body]
  rfl

/-- The lines of a listing with one line for each instruction that the limit lets through. -/
def framed (module : Module) (symbols : SymbolTable) (limit : Option Int) (instructions : List Instruction)
    (line : Instruction → Text) : List Text :=
  (headerLines module ++ symbolLines symbols).map ofString ++
    (shownInstructions ⟨.empty, limit⟩ instructions).flatMap (fun instruction =>
      (labelLines symbols instruction).map ofString ++ [line instruction]) ++
    (cutLines ⟨.empty, limit⟩ instructions).map ofString

/-- A listing whose instructions have their lines, whatever the notes are. -/
theorem lines_framed {module : Module} {symbols : SymbolTable} {instructions : List Instruction}
    {knowledge : KnowledgeBase} {limit : Option Int} {line : Instruction → Text}
    (natives : module.natives = .ok symbols.natives) (publics : module.publics = .ok symbols.publics)
    (decoded : module.instructions = .ok instructions)
    (each : ∀ instruction ∈ instructions,
      instructionLine ⟨knowledge, limit⟩ symbols instruction = .ok (line instruction)) :
    lines ⟨knowledge, limit⟩ module = .ok (framed module symbols limit instructions line) := by
  have body : (shownInstructions ⟨knowledge, limit⟩ instructions).mapM
        (instructionLines ⟨knowledge, limit⟩ symbols) =
      .ok ((shownInstructions ⟨knowledge, limit⟩ instructions).map fun instruction =>
        (labelLines symbols instruction).map ofString ++ [line instruction]) := by
    refine Traversal.mapM_of_forall fun instruction member => ?_
    rw [instructionLines, each instruction (mem_of_mem_shown member)]
    rfl
  rw [lines_of_body natives publics decoded body, framed, List.flatMap_def]
  rfl

theorem lines_of_counted {module : Module} {symbols : SymbolTable} {instructions : List Instruction}
    (natives : module.natives = .ok symbols.natives) (publics : module.publics = .ok symbols.publics)
    (decoded : module.instructions = .ok instructions)
    (counted : ∀ instruction ∈ instructions, instruction.Counted) (limit : Option Int) :
    lines ⟨.empty, limit⟩ module = .ok (framed module symbols limit instructions (plainLine symbols)) :=
  lines_framed natives publics decoded fun instruction member =>
    instructionLine_of_counted (counted instruction member) limit symbols

def plainListing (module : Module) (symbols : SymbolTable) (instructions : List Instruction) : List Text :=
  (headerLines module ++ symbolLines symbols).map ofString ++ instructions.flatMap (plainLines symbols)

theorem lines_plain {module : Module} {symbols : SymbolTable} {instructions : List Instruction}
    (natives : module.natives = .ok symbols.natives) (publics : module.publics = .ok symbols.publics)
    (decoded : module.instructions = .ok instructions)
    (counted : ∀ instruction ∈ instructions, instruction.Counted) :
    plain.lines module = .ok (plainListing module symbols instructions) := by
  have whole : shownInstructions ⟨.empty, none⟩ instructions = instructions := rfl
  have noCut : cutLines ⟨.empty, none⟩ instructions = [] := by simp [cutLines, whole]
  rw [plain, lines_of_counted natives publics decoded counted, framed, whole, noCut, List.map_nil,
    List.append_nil]
  rfl

variable {symbols : SymbolTable}

/-- A test that only numbered lines pass selects lines of instructions. -/
theorem filter_plainLines {found : Text → Bool}
    (numbered : ∀ line, Unnumbered line → found line = false) (instructions : List Instruction) :
    (instructions.flatMap (plainLines symbols)).filter found =
      (instructions.filter fun instruction => found (plainLine symbols instruction)).map
        (plainLine symbols) := by
  induction instructions with
  | nil => rfl
  | cons instruction instructions ih =>
    rw [List.flatMap_cons, List.filter_append, ih, plainLines, List.filter_append,
      filter_unnumbered numbered fun _ => unnumbered_labelLines]
    by_cases passes : found (plainLine symbols instruction) <;> simp [passes]

theorem filter_plainListing {found : Text → Bool}
    (numbered : ∀ line, Unnumbered line → found line = false) (module : Module)
    (instructions : List Instruction) :
    (plainListing module symbols instructions).filter found =
      (instructions.filter fun instruction => found (plainLine symbols instruction)).map
        (plainLine symbols) := by
  rw [plainListing, List.filter_append, List.map_append, List.filter_append,
    filter_unnumbered numbered fun _ => unnumbered_headerLines,
    filter_unnumbered numbered fun _ => unnumbered_symbolLines, filter_plainLines numbered]
  rfl

/-- A public with a name stands directly before its entry. -/
theorem getLast?_labelLines {instruction : Instruction}
    (opens : instruction.opcode.opensFunction = true) (front : List Text) (name : Text) :
    (front ++ (labelLines symbols instruction).map ofString).getLast? = some (labelLine name) ↔
      ∃ label, symbols.publicName instruction.offset = some label ∧ label ≠ "" ∧
        name = ofString label := by
  have empty : ¬[] = labelLine name := by simp [labelLine, ofString]
  cases found : symbols.publicName instruction.offset with
  | none => simp [labelLines, opens, found, empty, ofString]
  | some label =>
    by_cases unnamed : label = ""
    · subst unnamed
      simp [labelLines, opens, found, empty, ofString]
    · have same : ofString label = name ↔ name = ofString label := eq_comm
      simpa [labelLines, opens, found, unnamed, labelLine] using same

end Listing
end PawnBytecode
