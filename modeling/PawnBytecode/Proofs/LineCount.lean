import PawnBytecode.Proofs.Listing.Recovery
import PawnBytecode.Proofs.Text.Newlines
import PawnBytecode.Proofs.Tree.Source

/-! The lines of the texts, counted. Functions and instructions have a number of lines of their own,
and every end of a line inside a name from the file stands in the text as it is. -/
namespace PawnBytecode

open Numeral (isWord_address isWord_digits)

namespace Tree

def Function.pasted (function : Function) : List String :=
  function.name :: function.body.flatMap fun line => line.comment.toList

namespace Plugin

/-- The header and the empty line, and for every function its body and four lines around it. -/
def lineCount (plugin : Plugin) : Nat :=
  2 + (plugin.functions.map fun function => 4 + function.body.length).sum

def pasted (plugin : Plugin) : List String := plugin.functions.flatMap Function.pasted

end Plugin

theorem Annotated.newlines_shown {line : Annotated}
    (rendered : line.toNode.render = .ok line.toNode.shown) :
    newlines line.toNode.shown = breaks line.comment.toList := by
  obtain ⟨instruction, comment⟩ := line
  obtain ⟨text, shown, same⟩ := exists_of_bind rendered
  obtain ⟨operands, worded, chars⟩ := Instruction.exists_worded_of_text shown
  have code : OneLine text := by
    intro newline
    rw [chars] at newline
    cases Instruction.isCodeChar_of_mem_worded worded newline
  cases comment with
  | none =>
    rw [← Except.ok.inj same]
    exact code.newlines
  | some comment =>
    by_cases empty : comment.isEmpty = true
    · obtain rfl := String.isEmpty_iff.mp empty
      rw [← Except.ok.inj same]
      exact code.newlines
    · have strokes : OneLine " // " := by decide
      have commented : (if comment.isEmpty = true then text else text ++ " // " ++ comment) = _ :=
        Except.ok.inj same
      rw [← commented, if_neg empty, newlines_append, newlines_append, code.newlines, strokes.newlines]
      simp [breaks]

theorem Node.newlines_signature (name : String) (address : Int) (isPublic : Bool) :
    newlines (signature name address isPublic) = newlines name := by
  have kind : OneLine (if isPublic then "public " else "stock ") := by
    cases isPublic <;> decide
  have behind : OneLine ("() // " ++ Numeral.address address) :=
    oneLine_append.mpr ⟨by decide, (isWord_address address).oneLine⟩
  rw [signature, String.append_assoc]
  exact newlines_around kind behind name

theorem Function.breaks_lines {function : Function}
    (rendered : ∀ line ∈ function.body, line.toNode.render = .ok line.toNode.shown) :
    breaks function.lines = breaks function.pasted := by
  have body : ∀ line ∈ function.body,
      newlines (indent ++ line.toNode.shown) = breaks line.comment.toList := by
    intro line member
    have space : OneLine indent := by decide
    rw [newlines_append, space.newlines, Nat.zero_add]
    exact Annotated.newlines_shown (rendered line member)
  have brace : newlines "\x7b" = 0 := rfl
  have closed : breaks closing = 0 := rfl
  rw [lines, breaks_append, breaks_append, breaks_flatMap body, closed, breaks_cons, breaks_cons, brace,
    Node.newlines_signature, pasted, breaks_cons]
  rfl

theorem Function.newlines_shown {function : Function}
    (rendered : function.toNode.render = .ok function.toNode.shown) :
    newlines function.toNode.shown = 4 + function.body.length + breaks function.pasted := by
  obtain ⟨chars, body⟩ := Function.toList_of_render rendered
  have length : function.lines.length = 4 + function.body.length := by
    simp only [lines, closing, List.length_append, List.length_cons, List.length_nil, List.length_map]
    omega
  rw [newlines, chars, Fields.count_linesText, length, breaks_lines body]

theorem Plugin.newlines_render {plugin : Plugin} {text : String} (rendered : plugin.render = .ok text) :
    newlines text = plugin.lineCount + breaks plugin.pasted := by
  obtain ⟨texts, functions, same⟩ := exists_of_bind rendered
  obtain ⟨rfl, each⟩ := Node.renderAll_eq functions
  have header : newlines pluginHeader = 2 := by decide
  have shown : ∀ function ∈ plugin.functions,
      newlines function.toNode.shown = 4 + function.body.length + breaks function.pasted :=
    fun function member => function.newlines_shown (each function.toNode (List.mem_map_of_mem member))
  rw [← Except.ok.inj same, newlines_append, header, newlines_join, List.map_map, lineCount, Nat.add_assoc]
  exact congrArg (2 + ·) (breaks_map shown)

end Tree

namespace Listing

open Text (ofString)

/-- The name on the label before an instruction, where there is one. -/
def entryLabel (symbols : SymbolTable) (instruction : Instruction) : Option String :=
  if instruction.opcode.opensFunction then
    (symbols.publicName instruction.offset).filter fun name => !name.isEmpty
  else none

/-- Three lines of the header and two counts, a line for every name and every instruction, and before
the entry of a function an empty line and perhaps a label. -/
def lineCount (symbols : SymbolTable) (instructions : List Instruction) : Nat :=
  5 + symbols.natives.length + symbols.publics.length + instructions.length +
    instructions.countP (·.opcode.opensFunction) + (instructions.filterMap (entryLabel symbols)).length

def pastedNames (symbols : SymbolTable) (instruction : Instruction) : List String :=
  (entryLabel symbols instruction).toList ++ (symbols.callee instruction).toList

def pasted (symbols : SymbolTable) (instructions : List Instruction) : List String :=
  symbols.natives.map Symbol.name ++ symbols.publics.map Symbol.name ++
    instructions.flatMap (pastedNames symbols)

variable {symbols : SymbolTable}

theorem labelLines_eq (symbols : SymbolTable) (instruction : Instruction) :
    labelLines symbols instruction = (if instruction.opcode.opensFunction then [""] else []) ++
      (entryLabel symbols instruction).toList.map fun name => "public " ++ name ++ ":" := by
  unfold labelLines entryLabel
  split
  · cases symbols.publicName instruction.offset with
    | none => rfl
    | some name =>
      by_cases empty : name = ""
      · subst empty
        rfl
      · simp [Option.filter_some, empty]
  · rfl

theorem breaks_labelLines (symbols : SymbolTable) (instruction : Instruction) :
    breaks (labelLines symbols instruction) = breaks (entryLabel symbols instruction).toList := by
  have front : breaks (if instruction.opcode.opensFunction then [""] else []) = 0 := by
    split <;> rfl
  have label : ∀ name ∈ (entryLabel symbols instruction).toList,
      newlines ("public " ++ name ++ ":") = newlines name :=
    fun name _ => newlines_around (by decide) (by decide) name
  rw [labelLines_eq, breaks_append, front, Nat.zero_add, breaks_congr label, List.map_id']

theorem newlines_plainLine {instruction : Instruction} (counted : instruction.Counted) :
    Text.newlines (plainLine symbols instruction) = breaks (symbols.callee instruction).toList := by
  obtain ⟨operands, shown⟩ := counted.operandText
  have front := not_mem_codeFront shown (show isCodeChar '\n' = false from rfl) (by decide)
  have chars := Text.newlines_ofString (.ofList (codeChars symbols instruction operands))
  rw [ofString, String.toList_ofList, ← plainLine_eq shown, newlines, String.toList_ofList] at chars
  rw [chars, codeChars, Fields.remarked, List.count_append, List.count_eq_zero.mpr front]
  cases symbols.callee instruction with
  | none => rfl
  | some callee => simp [breaks, newlines]

theorem plainLines_count (symbols : SymbolTable) {instructions : List Instruction}
    (counted : ∀ instruction ∈ instructions, instruction.Counted) :
    (instructions.flatMap (plainLines symbols)).length = instructions.length +
        instructions.countP (·.opcode.opensFunction) +
        (instructions.filterMap (entryLabel symbols)).length ∧
      Text.breaks (instructions.flatMap (plainLines symbols)) =
        breaks (instructions.flatMap (pastedNames symbols)) := by
  induction instructions with
  | nil => exact ⟨rfl, rfl⟩
  | cons instruction instructions ih =>
    obtain ⟨head, tail⟩ := List.forall_mem_cons.mp counted
    obtain ⟨lengths, inside⟩ := ih tail
    have own : Text.breaks (plainLines symbols instruction) = breaks (pastedNames symbols instruction) := by
      rw [plainLines, Text.breaks_append, Text.breaks_map_ofString, breaks_labelLines, pastedNames,
        breaks_append, ← newlines_plainLine head]
      simp [Text.breaks]
    constructor
    · rw [List.flatMap_cons, List.length_append, lengths, plainLines, labelLines_eq, List.filterMap_cons,
        List.countP_cons]
      cases entryLabel symbols instruction <;> cases instruction.opcode.opensFunction <;>
        simp <;> omega
    · rw [List.flatMap_cons, Text.breaks_append, own, inside, List.flatMap_cons, breaks_append]

theorem breaks_symbolLines (symbols : SymbolTable) :
    breaks (symbolLines symbols) =
      breaks (symbols.natives.map Symbol.name) + breaks (symbols.publics.map Symbol.name) := by
  have count : ∀ (label : String) (value : Nat), OneLine label → newlines (label ++ toString value ++ ")") = 0 :=
    fun label value front =>
      (newlines_around front (by decide) _).trans (isWord_digits value).oneLine.newlines
  have natives : breaks (symbols.natives.zipIdx.map nativeLine) =
      breaks (symbols.natives.map Symbol.name) := by
    have each : ∀ entry ∈ symbols.natives.zipIdx, newlines (nativeLine entry) = newlines entry.1.name := by
      intro entry _
      have front : OneLine (";   [" ++ toString entry.2 ++ "] ") := by
        simp only [oneLine_append, (isWord_digits entry.2).oneLine, and_true]
        decide
      rw [nativeLine, newlines_append, front.newlines, Nat.zero_add]
    rw [breaks_congr each]
    conv => rhs; rw [← List.zipIdx_map_fst 0 symbols.natives, List.map_map]
    rfl
  have publics : breaks (symbols.publics.map publicLine) = breaks (symbols.publics.map Symbol.name) := by
    refine breaks_congr fun symbol _ => ?_
    have front : OneLine (";   " ++ Numeral.address symbol.address ++ " ") := by
      simp only [oneLine_append, (isWord_address symbol.address).oneLine, and_true]
      decide
    rw [publicLine, newlines_append, front.newlines, Nat.zero_add]
  rw [symbolLines_eq, breaks_cons, breaks_append, breaks_cons, natives, publics,
    count "; natives (" _ (by decide), count "; publics (" _ (by decide)]
  omega

theorem length_symbolLines (symbols : SymbolTable) :
    (symbolLines symbols).length = 2 + symbols.natives.length + symbols.publics.length := by
  rw [symbolLines_eq]
  simp only [List.length_cons, List.length_append, List.length_map, List.length_zipIdx]
  omega

/-- A whole listing has its lines, and the ends that the names bring along. -/
theorem newlines_plainListing {instructions : List Instruction}
    (counted : ∀ instruction ∈ instructions, instruction.Counted) (module : Module) :
    Text.newlines (Fields.ended (.char '\n') (plainListing module symbols instructions)) =
      lineCount symbols instructions + breaks (pasted symbols instructions) := by
  obtain ⟨lengths, inside⟩ := plainLines_count symbols counted
  have header : breaks (headerLines module) = 0 := breaks_eq_zero.mpr (oneLine_headerLines module)
  have three : (headerLines module).length = 3 := rfl
  rw [Text.newlines_ended, plainListing, List.length_append, List.length_map, List.length_append, lengths,
    Text.breaks_append, Text.breaks_map_ofString, breaks_append, header, breaks_symbolLines, inside, three,
    length_symbolLines, lineCount, pasted, breaks_append, breaks_append]
  omega

end Listing

namespace SymbolTable.OneLined

variable {symbols : SymbolTable}

theorem pasted_listing (named : symbols.OneLined) (instructions : List Instruction) :
    ∀ name ∈ Listing.pasted symbols instructions, OneLine name := by
  intro name member
  simp only [Listing.pasted, Listing.pastedNames, List.mem_append, List.mem_flatMap, List.mem_map,
    Option.mem_toList] at member
  rcases member with (⟨symbol, inside, rfl⟩ | ⟨symbol, inside, rfl⟩) | ⟨instruction, _, label | callee⟩
  · exact named symbol (List.mem_append_right _ inside)
  · exact named symbol (List.mem_append_left _ inside)
  · unfold Listing.entryLabel at label
    split at label
    · exact named.publicName (Option.filter_eq_some_iff.mp label).1
    · cases label
  · exact named.callee callee

theorem pasted_rebuilt (named : symbols.OneLined) {instructions : List Instruction}
    {rebuilt : Tree.Rebuilt} (counted : ∀ instruction ∈ instructions, instruction.Counted)
    (built : Tree.rebuild symbols instructions = .ok rebuilt) :
    ∀ name ∈ rebuilt.plugin.pasted, OneLine name := by
  intro name member
  rw [Tree.Plugin.pasted, Tree.functions_of_rebuild
    (fun instruction inside => (counted instruction inside).namesCallee) built] at member
  obtain ⟨function, inside, member⟩ := List.mem_flatMap.mp member
  obtain ⟨stretch, _, rfl⟩ := List.mem_map.mp inside
  rcases List.mem_cons.mp member with rfl | member
  · exact named.functionName _
  · obtain ⟨line, within, member⟩ := List.mem_flatMap.mp member
    obtain ⟨instruction, _, rfl⟩ := List.mem_map.mp within
    exact named.callee (Option.mem_toList.mp member)

end SymbolTable.OneLined

namespace Module

/-- How many lines the texts of a module have. -/
structure LinesCounted (self : Module) : Prop where
  rendered : ∀ rebuilt, self.rebuild = .ok rebuilt → ∃ text, rebuilt.plugin.render = .ok text ∧
    newlines text = rebuilt.plugin.lineCount + breaks rebuilt.plugin.pasted
  listed : ∀ text, Listing.plain.text self = .ok text → ∃ symbols instructions,
    self.Reads symbols instructions ∧
      Text.newlines text = Listing.lineCount symbols instructions + breaks (Listing.pasted symbols instructions)
  rebuiltNames : self.NamesOneLine → ∀ rebuilt, self.rebuild = .ok rebuilt →
    breaks rebuilt.plugin.pasted = 0
  listedNames : self.NamesOneLine → ∀ symbols instructions, self.Reads symbols instructions →
    breaks (Listing.pasted symbols instructions) = 0

/-- Every function and every instruction has its lines. A name is pasted as it is, so the texts have
one more line for each end of a line inside a name, and only then. -/
theorem linesCounted (self : Module) : self.LinesCounted := by
  constructor
  case rendered =>
    intro rebuilt built
    obtain ⟨text, rendered⟩ := exists_render_of_rebuild built
    exact ⟨text, rendered, Tree.Plugin.newlines_render rendered⟩
  case listed =>
    intro text listed
    obtain ⟨symbols, instructions, reads⟩ := exists_reads_of_text listed
    have shown := reads.plainText.symm.trans listed
    refine ⟨symbols, instructions, reads, ?_⟩
    rw [← Except.ok.inj shown]
    exact Listing.newlines_plainListing reads.counted self
  case rebuiltNames =>
    intro named rebuilt built
    obtain ⟨symbols, instructions, natives, publics, decoded, grouped⟩ := reads_of_rebuild built
    have reads : self.Reads symbols instructions := ⟨natives, publics, decoded⟩
    exact breaks_eq_zero.mpr ((named symbols reads.symbols).pasted_rebuilt reads.counted grouped)
  case listedNames =>
    intro named symbols instructions reads
    exact breaks_eq_zero.mpr ((named symbols reads.symbols).pasted_listing instructions)

def brokenParts : Parts where
  cellSize := .four
  flags := 0
  definitionSize := 8
  stack := 0x4000
  entry := 0xFFFFFFFF
  publics := []
  natives := [([0x61, 0x0A, 0x62], 0)]
  code := Code.encode .four (List.replicate 8 0) [.plain .proc [], .plain .sysreqC [0], .plain .retn []]
  data := []

/-- The end of a line in one name makes eight lines of seven, and twelve of ten. -/
theorem newlines_broken :
    load brokenParts.image 0 none = .ok brokenParts.assembled ∧
      ∃ rebuilt source listing symbols instructions,
        brokenParts.assembled.rebuild = .ok rebuilt ∧ rebuilt.plugin.render = .ok source ∧
          Listing.plain.text brokenParts.assembled = .ok listing ∧
          brokenParts.assembled.Reads symbols instructions ∧
          newlines source = 8 ∧ rebuilt.plugin.lineCount = 7 ∧
          Text.newlines listing = 12 ∧ Listing.lineCount symbols instructions = 10 := by
  have fits : brokenParts.Fits := by
    refine ⟨?_, ?_, ?_, ?_, ?_, ?_⟩ <;> decide
  have unmarked : ¬Container.isContainer brokenParts.image = true := by decide +kernel
  have loaded : load brokenParts.image 0 none = .ok brokenParts.assembled := by
    rw [load, if_neg unmarked]
    exact fits.parse
  have valid : ∀ item ∈ [Code.Item.plain .proc [], .plain .sysreqC [0], .plain .retn []],
      item.Valid .four := by
    intro item member
    simp only [List.mem_cons, List.not_mem_nil, or_false] at member
    rcases member with rfl | rfl | rfl <;>
      exact ⟨.plain (by decide) (by decide) rfl (by decide), trivial⟩
  have reads : brokenParts.assembled.Reads ⟨[], [⟨"a\nb", 0⟩]⟩
      [⟨8, .proc, []⟩, ⟨12, .sysreqC, [0]⟩, ⟨20, .retn, []⟩] := by
    have name : Parts.symbol ([0x61, 0x0A, 0x62], 0) = ⟨"a\nb", 0⟩ :=
      Parts.symbol_of_spells ⟨by decide, rfl⟩
    refine ⟨?_, fits.publics, ?_⟩
    · rw [fits.natives, ← name]
      rfl
    · rw [Parts.instructions_assembled (show 0 &&& 0x04 = 0 by decide)]
      exact Code.decode_of_items rfl valid
  have rebuilt : brokenParts.assembled.rebuild =
      .ok ⟨⟨[⟨"sub_0008", 8, false, [⟨⟨12, .sysreqC, [0]⟩, some "a\nb()"⟩]⟩]⟩, []⟩ := by
    rw [reads.rebuild]
    decide +kernel
  have source : Tree.Plugin.render
        ⟨[⟨"sub_0008", 8, false, [⟨⟨12, .sysreqC, [0]⟩, some "a\nb()"⟩]⟩]⟩ =
      .ok ("// Plugin source approximation starts here\n\nstock sub_0008() // 0x0008\n\x7b\n" ++
        "    sysreq.c 0 // a\nb()\n\x7d\n\n") := by
    decide +kernel
  refine ⟨loaded, _, _, _, _, _, rebuilt, source, reads.plainText, reads, by decide, rfl, ?_, rfl⟩
  rw [Listing.newlines_plainListing reads.counted]
  rfl

end Module

end PawnBytecode
