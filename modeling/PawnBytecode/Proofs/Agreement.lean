import PawnBytecode.Proofs.Listing.Plain
import PawnBytecode.Proofs.Module.Layout
import PawnBytecode.Proofs.Stages
import PawnBytecode.Proofs.Tree.Regrouping

namespace PawnBytecode

open Text (ofString)

namespace Module

theorem ordered_of_instructions {module : Module} {instructions : List Instruction}
    (read : module.instructions = .ok instructions) : Code.Ordered instructions := by
  rw [Module.instructions_eq] at read
  split at read
  · cases read
  · obtain ⟨code, _, decoded⟩ := exists_of_bind read
    exact Code.ordered_of_decode decoded

theorem reads_of_rebuild {module : Module} {rebuilt : Tree.Rebuilt}
    (built : module.rebuild = .ok rebuilt) :
    ∃ symbols instructions, module.natives = .ok symbols.natives ∧
      module.publics = .ok symbols.publics ∧ module.instructions = .ok instructions ∧
      Tree.rebuild symbols instructions = .ok rebuilt := by
  obtain ⟨instructions, read, built⟩ := exists_of_bind built
  obtain ⟨publics, publicsRead, built⟩ := exists_of_bind built
  obtain ⟨natives, nativesRead, built⟩ := exists_of_bind built
  exact ⟨⟨publics, natives⟩, instructions, Failure.eq_ok_of_lift nativesRead,
    Failure.eq_ok_of_lift publicsRead, Failure.eq_ok_of_lift read, built⟩

end Module

namespace Listing

variable {module : Module} {symbols : SymbolTable} {instructions : List Instruction}

/-- The entry lines of a listing are those of its entries. -/
theorem filter_isEntryLine (ordered : Code.Ordered instructions) :
    (plainListing module symbols instructions).filter isEntryLine =
      (instructions.filter (·.opcode.opensFunction)).map fun entry => entryLine entry.offset := by
  have entries : instructions.filter (fun instruction => isEntryLine (plainLine symbols instruction)) =
      instructions.filter (·.opcode.opensFunction) := by
    apply List.filter_congr
    intro instruction member
    obtain ⟨position, place⟩ := ordered.position instruction member
    exact isEntryLine_plainLine (ordered.counted instruction member) place symbols
  rw [filter_plainListing (fun _ unnumbered => unnumbered.isEntryLine), entries]
  apply List.map_congr_left
  intro entry member
  obtain ⟨inside, opens⟩ := List.mem_filter.mp member
  exact plainLine_entry (ordered.counted entry inside) opens symbols

theorem filter_lineStart (ordered : Code.Ordered instructions) {instruction : Instruction}
    (member : instruction ∈ instructions) :
    (plainListing module symbols instructions).filter
        (fun shown => (lineStart instruction.offset).isPrefixOf shown) =
      [plainLine symbols instruction] := by
  obtain ⟨position, place⟩ := ordered.position instruction member
  have own : instructions.filter (fun other =>
        (lineStart instruction.offset).isPrefixOf (plainLine symbols other)) =
      instructions.filter (·.offset == instruction.offset) := by
    apply List.filter_congr
    intro other inside
    obtain ⟨otherPosition, otherPlace⟩ := ordered.position other inside
    rw [place, isPrefixOf_plainLine otherPlace]
  rw [filter_plainListing (fun _ unnumbered => place ▸ unnumbered.isPrefixOf position), own,
    ordered.filter_offset member]
  rfl

/-- Every function has its entry line, behind as many others as there are functions before it, and
the label of its public name directly before it. -/
theorem plainListing_entry (ordered : Code.Ordered instructions) {index : Nat}
    {stretch : Tree.Stretch} (found : (Tree.Stretch.cut instructions).2[index]? = some stretch) :
    ∃ before after,
      plainListing module symbols instructions = before ++ entryLine stretch.entry.offset :: after ∧
      before.countP isEntryLine = index ∧
      ∀ name, before.getLast? = some (labelLine name) ↔
        ∃ label, symbols.publicName stretch.entry.offset = some label ∧ label ≠ "" ∧
          name = ofString label := by
  have opens := ((Tree.Stretch.cut_single instructions).2 stretch (List.mem_of_getElem? found)).entry
  obtain ⟨prior, later, rfl, count⟩ := Tree.Stretch.split_at_entry found
  have counted := ordered.counted stretch.entry (by simp)
  refine ⟨plainListing module symbols prior ++ (labelLines symbols stretch.entry).map ofString,
    later.flatMap (plainLines symbols), ?_, ?_, getLast?_labelLines opens _⟩
  · rw [← plainLine_entry counted opens symbols]
    simp [plainListing, plainLines]
  · rw [List.countP_eq_length_filter, List.filter_append, filter_isEntryLine ordered.front,
      filter_unnumbered (fun _ unnumbered => unnumbered.isEntryLine) fun _ => unnumbered_labelLines,
      List.append_nil, List.length_map, ← List.countP_eq_length_filter, count]

end Listing

namespace Tree

variable {symbols : SymbolTable}

theorem Stretch.label_function (stretch : Stretch) (name : Text) :
    (∃ label, symbols.publicName stretch.entry.offset = some label ∧ label ≠ "" ∧
        name = ofString label) ↔
      (stretch.function symbols).isPublic ∧ (stretch.function symbols).name ≠ "" ∧
        name = ofString (stretch.function symbols).name := by
  cases found : symbols.findPublic stretch.entry.offset with
  | none => simp [SymbolTable.publicName, found, Stretch.function, Progress.entry]
  | some symbol =>
    simp [SymbolTable.publicName, SymbolTable.functionName, found, Stretch.function, Progress.entry]

theorem Stretch.lineOf_function {instructions : List Instruction} {stretch : Stretch}
    (present : stretch ∈ (cut instructions).2) {line : Annotated}
    (member : line ∈ (stretch.function symbols).body) :
    line.instruction ∈ instructions ∧ line = lineOf symbols line.instruction := by
  obtain ⟨instruction, inside, rfl⟩ := List.mem_map.mp member
  exact ⟨mem_of_mem_body present (stretch.kept_sublist.subset inside), rfl⟩

end Tree

namespace Module

open Listing (entryLine isEntryLine labelLine lineStart shownLine)

/-- Listing and functions tell the same story. The entry lines are those of the functions in order,
a label stands before the entry of a public function that has a name, and every instruction of a body
has one line, with the comment that the body gives it. -/
theorem rebuild_listed {module : Module} {rebuilt : Tree.Rebuilt}
    (built : module.rebuild = .ok rebuilt) :
    ∃ lines, Listing.plain.lines module = .ok lines ∧
      lines.filter isEntryLine =
        rebuilt.plugin.functions.map (fun function => entryLine function.address) ∧
      (∀ index function, rebuilt.plugin.functions[index]? = some function →
        ∃ before after, lines = before ++ entryLine function.address :: after ∧
          before.countP isEntryLine = index ∧
          ∀ name, before.getLast? = some (labelLine name) ↔
            function.isPublic ∧ function.name ≠ "" ∧ name = ofString function.name) ∧
      ∀ function ∈ rebuilt.plugin.functions, ∀ line ∈ function.body, ∃ operands,
        line.instruction.operandText = .ok operands ∧
        lines.filter (fun shown => (lineStart line.instruction.offset).isPrefixOf shown) =
          [shownLine line operands] := by
  obtain ⟨symbols, instructions, natives, publics, read, grouped⟩ := reads_of_rebuild built
  have ordered := ordered_of_instructions read
  have functions := Tree.functions_of_rebuild
    (fun instruction member => (ordered.counted instruction member).namesCallee) grouped
  refine ⟨_, Listing.lines_plain natives publics read ordered.counted, ?_, ?_, ?_⟩
  · rw [Listing.filter_isEntryLine ordered, functions, ← Tree.Stretch.map_entry_cut, List.map_map,
      List.map_map]
    rfl
  · intro index function found
    rw [functions, List.getElem?_map] at found
    obtain ⟨stretch, present, rfl⟩ := Option.map_eq_some_iff.mp found
    obtain ⟨before, after, same, count, label⟩ := Listing.plainListing_entry ordered present
    exact ⟨before, after, same, count, fun name => (label name).trans (stretch.label_function name)⟩
  · intro function present line member
    rw [functions] at present
    obtain ⟨stretch, inside, rfl⟩ := List.mem_map.mp present
    obtain ⟨within, same⟩ := Tree.Stretch.lineOf_function inside member
    obtain ⟨operands, shown⟩ := (ordered.counted line.instruction within).operandText
    refine ⟨operands, shown, ?_⟩
    rw [Listing.filter_lineStart ordered within, Listing.plainLine_of_shown shown, ← same]

/-- A public function with a second name that calls a native, a missing native and itself, then a
public function without a name. -/
def listedItems : List Code.Item :=
  [.plain .proc [], .plain .sysreqC [0], .plain .sysreqC [5], .plain .call [8], .plain .retn [],
    .plain .proc [], .plain .constPri [-1], .plain .retn []]

def listedParts : Parts where
  cellSize := .four
  flags := 0
  definitionSize := 8
  stack := 0x4000
  entry := 0xFFFFFFFF
  publics := [([0x6D, 0x61, 0x69, 0x6E], 8), ([0x61], 8), ([], 40)]
  natives := [([0x70, 0x75, 0x74], 0)]
  code := Code.encode .four (List.replicate 8 0) listedItems
  data := []

def listedFunctions : List Tree.Function :=
  [⟨"main", 8, true, [⟨⟨12, .sysreqC, [0]⟩, some "put()"⟩, ⟨⟨20, .sysreqC, [5]⟩, none⟩,
      ⟨⟨28, .call, [8]⟩, some "main()"⟩]⟩,
    ⟨"", 40, true, [⟨⟨44, .constPri, [-1]⟩, none⟩]⟩]

theorem rebuild_listed_sample :
    listedParts.assembled.rebuild = .ok ⟨⟨listedFunctions⟩, []⟩ ∧
      ∃ lines, Listing.plain.lines listedParts.assembled = .ok lines ∧
        lines.filter isEntryLine = [ofString "00000008: proc", ofString "00000028: proc"] ∧
        (∃ before after, lines = before ++ ofString "00000008: proc" :: after ∧
          before.getLast? = some (ofString "public main:")) ∧
        (∃ before after, lines = before ++ ofString "00000028: proc" :: after ∧
          ∀ name, before.getLast? ≠ some (labelLine name)) ∧
        lines.filter (fun shown => (lineStart 12).isPrefixOf shown) =
          [ofString "0000000C: sysreq.c     0 ; put()"] ∧
        lines.filter (fun shown => (lineStart 20).isPrefixOf shown) =
          [ofString "00000014: sysreq.c     5"] := by
  have fits : listedParts.Fits := by
    refine ⟨?_, ?_, ?_, ?_, ?_, ?_⟩ <;> decide
  have valid : ∀ item ∈ listedItems, item.Valid .four := by
    intro item member
    simp only [listedItems, List.mem_cons, List.not_mem_nil, or_false] at member
    rcases member with rfl | rfl | rfl | rfl | rfl | rfl | rfl | rfl <;>
      exact ⟨.plain (by decide) (by decide) rfl (by decide), trivial⟩
  have decoded : listedParts.assembled.instructions =
      .ok (Code.instructionsAt .four 8 listedItems) := by
    rw [Parts.instructions_assembled (by decide)]
    exact Code.decode_of_items rfl valid
  have built : listedParts.assembled.rebuild = .ok ⟨⟨listedFunctions⟩, []⟩ := by
    rw [rebuild, decoded, fits.publics, fits.natives]
    rfl
  obtain ⟨lines, listed, entries, labels, shown⟩ := rebuild_listed built
  refine ⟨built, lines, listed, entries, ?_, ?_, ?_, ?_⟩
  · obtain ⟨before, after, same, _, label⟩ := labels 0 _ rfl
    exact ⟨before, after, same, (label (ofString "main")).mpr ⟨rfl, by decide, rfl⟩⟩
  · obtain ⟨before, after, same, _, label⟩ := labels 1 _ rfl
    exact ⟨before, after, same, fun name found => ((label name).mp found).2.1 rfl⟩
  · obtain ⟨operands, text, line⟩ := shown _ List.mem_cons_self _ List.mem_cons_self
    obtain rfl := Except.ok.inj text
    exact line
  · obtain ⟨operands, text, line⟩ := shown _ List.mem_cons_self _
      (List.mem_cons_of_mem _ List.mem_cons_self)
    obtain rfl := Except.ok.inj text
    exact line

end Module

end PawnBytecode
