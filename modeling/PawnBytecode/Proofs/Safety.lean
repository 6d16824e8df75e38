import PawnBytecode.Proofs.Agreement
import PawnBytecode.Proofs.Listing.Notes
import PawnBytecode.Proofs.Reports
import PawnBytecode.Proofs.Tree.Grouping
import PawnBytecode.Proofs.Tree.Nesting

/-! Nothing but faults of the file. Decoded instructions have their operands, and these are cells, so
showing, grouping and rendering them never meets an instruction that it cannot handle. -/
namespace PawnBytecode

open Numeral (Writable)

/-- A fault of one of the stages, which can be put into words when the length of the image can. -/
def Failure.From (module : Module) (stages : List Stage) (failure : Failure) : Prop :=
  ∃ fault, failure = .fault fault ∧ fault.From stages ∧ (Writable module.image.length → fault.Brief)

theorem Failure.From.mono {module : Module} {stages more : List Stage} {failure : Failure}
    (origin : failure.From module stages) (within : ∀ stage ∈ stages, stage ∈ more) :
    failure.From module more := by
  obtain ⟨fault, same, ⟨stage, cellSize⟩, brief⟩ := origin
  exact ⟨fault, same, ⟨within _ stage, cellSize⟩, brief⟩

theorem Ends.lift_from {α : Type} {module : Module} {stages : List Stage} {good : α → Prop}
    {result : Except Fault α} (ends : Ends good (Fault.From stages) result)
    (brief : Writable module.image.length → Briefly result) :
    Ends good (Failure.From module stages) (Failure.lift result) := by
  cases result with
  | ok value => exact ends
  | error fault => exact ⟨fault, rfl, ends, brief⟩

def readStages : List Stage := [.image, .decoder]

def rebuildStages : List Stage := [.image, .decoder, .reconstruction]

namespace Module

theorem publics_ends (self : Module) :
    Ends (fun _ => True) (Failure.From self readStages) (Failure.lift self.publics) :=
  ((symbolsIn_faultsAt ..).from_stage (by decide) (by decide)).lift_from fun short =>
    symbolsIn_brief short ..

theorem natives_ends (self : Module) :
    Ends (fun _ => True) (Failure.From self readStages) (Failure.lift self.natives) :=
  ((symbolsIn_faultsAt ..).from_stage (by decide) (by decide)).lift_from fun short =>
    symbolsIn_brief short ..

theorem lifted_instructions_ends (self : Module) :
    Ends (fun instructions => ∀ instruction ∈ instructions, instruction.Counted)
      (Failure.From self readStages) (Failure.lift self.instructions) :=
  self.instructions_ends.lift_from instructions_brief

end Module

namespace Instruction

variable {instruction : Instruction} {size : CellSize}

theorem Counted.not_misshapen (counted : instruction.Counted) : ¬instruction.Misshapen := by
  rintro ⟨form, count⟩
  apply count
  rw [counted]
  rcases form with table | record
  · rw [table]
    rfl
  · rw [record]
    rfl

theorem Ranged.short (ranged : instruction.Ranged size) : instruction.Short := by
  have small : ∀ operand ∈ instruction.operands, Writable operand := by
    intro operand member
    obtain ⟨index, found⟩ := List.mem_iff_getElem?.mp member
    have bounds := ranged index operand found
    apply Numeral.writable_of_small
    split at bounds
    · cases size <;> simp only [CellSize.bytes] at bounds <;> omega
    · cases size <;> simp only [CellSize.Holds, CellSize.bytes] at bounds <;> omega
  intro number shown
  cases shown with
  | first _ operands => exact small number (by rw [operands]; exact List.mem_cons_self)
  | plain _ _ _ member => exact small number member

theorem Counted.exists_format (counted : instruction.Counted) (ranged : instruction.Ranged size) :
    ∃ text, instruction.format = .ok text := by
  rw [← failed?_eq_none, failed?_format, if_neg counted.not_misshapen, if_pos ranged.short]

end Instruction

namespace Listing

/-- With notes in words, listing fails at the stages of reading only, and what it shows has bytes. -/
theorem lines_ends {listing : Listing} (worded : listing.knowledge.Worded) (module : Module) :
    Ends (fun lines => ∀ line ∈ lines, line.Whole) (Failure.From module readStages) (listing.lines module) := by
  have strings : ∀ strings : List String, ∀ line ∈ strings.map Text.ofString, line.Whole := by
    intro strings line member
    obtain ⟨string, _, rfl⟩ := List.mem_map.mp member
    exact Text.whole_ofString string
  unfold lines
  apply module.natives_ends.bind
  intro natives _
  apply module.publics_ends.bind
  intro publics _
  apply module.lifted_instructions_ends.bind
  intro instructions counted
  have body : Ends (fun blocks => ∀ block ∈ blocks, ∀ line ∈ block, line.Whole) (Failure.From module readStages)
      ((listing.shownInstructions instructions).mapM (listing.instructionLines ⟨publics, natives⟩)) := by
    apply Ends.mapM
    intro instruction member
    obtain ⟨block, shown, whole⟩ :=
      exists_instructionLines worded (counted instruction (mem_of_mem_shown member)) ⟨publics, natives⟩
    rw [shown]
    exact whole
  apply body.bind
  intro blocks whole line member
  rcases List.mem_append.mp member with front | cut
  · rcases List.mem_append.mp front with heading | code
    · exact strings _ line heading
    · obtain ⟨block, inside, member⟩ := List.mem_flatten.mp code
      exact whole block inside line member
  · exact strings _ line cut

theorem text_ends_of_worded {listing : Listing} (worded : listing.knowledge.Worded) (module : Module) :
    Ends Text.Whole (Failure.From module readStages) (listing.text module) :=
  (lines_ends worded module).bind fun _ whole =>
    Text.whole_flatMap fun line member => (whole line member).append (Text.whole_ofString "\n")

theorem text_ends (limit : Option Int) (module : Module) :
    Ends (fun _ => True) (Failure.From module readStages) (text ⟨.empty, limit⟩ module) :=
  (text_ends_of_worded KnowledgeBase.worded_empty module).mono (fun _ _ => trivial) fun _ origin => origin

end Listing

namespace Tree

/-- Grouping is refused only at a closing instruction before any function. -/
theorem rebuild_ends {symbols : SymbolTable} {instructions : List Instruction}
    (counted : ∀ instruction ∈ instructions, instruction.Counted) :
    Ends (fun _ => True) (fun failure => ∃ instruction ∈ instructions, failure = Progress.orphan instruction)
      (rebuild symbols instructions) := by
  have named : ∀ instruction ∈ instructions, instruction.NamesCallee := fun instruction member =>
    (counted instruction member).namesCallee
  rw [rebuild_eq_regroup named]
  cases found : (Stretch.cut instructions).1.find? Stretch.closes with
  | some orphan =>
    rw [regroup_eq_error found]
    have member : orphan ∈ instructions := by
      rw [← Stretch.cut_join instructions]
      exact List.mem_append_left _ (List.mem_of_find?_eq_some found)
    exact ⟨orphan, member, rfl⟩
  | none =>
    rw [regroup_eq_ok named found]
    trivial

/-- What is asked of a plugin node by node, asked of its lines. -/
theorem Plugin.sound_of_lines {plugin : Plugin}
    (sound : ∀ function ∈ plugin.functions, ∀ line ∈ function.body, line.toNode.Sound) :
    ∀ part ∈ plugin.toNode.nodes, part.Sound := by
  intro part member
  rcases Node.mem_nodes.mp member with rfl | ⟨child, within, member⟩
  · trivial
  · obtain ⟨function, present, rfl⟩ := List.mem_map.mp within
    rcases Node.mem_nodes.mp member with rfl | ⟨child, within, member⟩
    · trivial
    · obtain ⟨line, inside, rfl⟩ := List.mem_map.mp within
      obtain rfl := List.mem_singleton.mp member
      exact sound function present line inside

theorem Plugin.depth_toNode (plugin : Plugin) : plugin.toNode.depth ≤ 9 := by
  refine Node.depth_le_iff.mpr ⟨Nat.le_of_ble_eq_true rfl, fun child within => ?_⟩
  obtain ⟨function, _, rfl⟩ := List.mem_map.mp within
  refine Node.depth_le_iff.mpr ⟨Nat.le_of_ble_eq_true rfl, fun child within => ?_⟩
  obtain ⟨line, _, rfl⟩ := List.mem_map.mp within
  exact Nat.le_refl _

end Tree

namespace Module

theorem stream_of_instructions {module : Module} {instructions : List Instruction}
    (read : module.instructions = .ok instructions) : Code.Stream module.cellSize instructions := by
  rw [instructions_eq] at read
  split at read
  · cases read
  · obtain ⟨code, _, decoded⟩ := exists_of_bind read
    exact Code.stream_of_decode decoded

theorem rebuild_ends (self : Module) :
    Ends (fun _ => True) (Failure.From self rebuildStages) self.rebuild := by
  have wider : ∀ stage ∈ readStages, stage ∈ rebuildStages := by decide
  unfold rebuild
  apply (self.lifted_instructions_ends.mono (fun _ counted => counted) fun _ origin => origin.mono wider).bind
  intro instructions counted
  apply (self.publics_ends.mono (fun _ _ => trivial) fun _ origin => origin.mono wider).bind
  intro publics _
  apply (self.natives_ends.mono (fun _ _ => trivial) fun _ origin => origin.mono wider).bind
  intro natives _
  apply (Tree.rebuild_ends counted).mono fun _ functions => functions
  intro failure orphan
  obtain ⟨instruction, _, rfl⟩ := orphan
  exact ⟨_, rfl, .of_stage (rfl : _ = Stage.reconstruction) (by decide) (by decide),
    fun _ => List.forall_mem_nil _⟩

theorem renderWithin_of_rebuild {module : Module} {rebuilt : Tree.Rebuilt}
    (built : module.rebuild = .ok rebuilt) {calls : Nat} (enough : 9 ≤ calls) :
    ∃ text, rebuilt.plugin.toNode.renderWithin calls = .ok text := by
  obtain ⟨symbols, instructions, _, _, read, grouped⟩ := reads_of_rebuild built
  have stream := stream_of_instructions read
  have functions := Tree.functions_of_rebuild
    (fun instruction member => (stream.counted instruction member).namesCallee) grouped
  have sound : ∀ function ∈ rebuilt.plugin.functions, ∀ line ∈ function.body, line.toNode.Sound := by
    intro function present line member
    rw [functions] at present
    obtain ⟨stretch, inside, rfl⟩ := List.mem_map.mp present
    obtain ⟨within, _⟩ := Tree.Stretch.lineOf_function inside member
    exact ⟨(stream.counted _ within).not_misshapen, (stream.ranged _ within).short⟩
  exact Tree.Node.exists_renderWithin_iff.mpr
    ⟨Tree.Plugin.sound_of_lines sound, Nat.le_trans rebuilt.plugin.depth_toNode enough⟩

theorem exists_render_of_rebuild {module : Module} {rebuilt : Tree.Rebuilt}
    (built : module.rebuild = .ok rebuilt) : ∃ text, rebuilt.plugin.render = .ok text := by
  obtain ⟨text, within⟩ := renderWithin_of_rebuild built (Nat.le_refl 9)
  exact ⟨text, Tree.Node.render_of_within within⟩

/-- What a module is used for, whatever its bytes are. -/
structure Usable (module : Module) : Prop where
  decoder : ∃ decode, Code.decoder module.cellSize.bytes = .ok decode
  listing : ∀ limit failure, Listing.text ⟨.empty, limit⟩ module = .error failure →
    failure.From module [.image, .decoder]
  rebuilding : ∀ failure, module.rebuild = .error failure →
    failure.From module [.image, .decoder, .reconstruction]
  rendering : ∀ rebuilt, module.rebuild = .ok rebuilt → ∀ calls, 9 ≤ calls →
    ∃ text, rebuilt.plugin.toNode.renderWithin calls = .ok text
  constants : ∀ address fault, module.constant address = .error fault →
    fault.stage = .image ∧ (Writable module.image.length → fault.Brief)
  instructions : ∀ instructions, module.instructions = .ok instructions →
    ∀ instruction ∈ instructions, (∃ text, instruction.format = .ok text) ∧
      ∀ symbols : SymbolTable, ∃ comment, symbols.annotate instruction = .ok comment

theorem usable (module : Module) : module.Usable where
  decoder := ⟨_, Code.decoder_bytes module.cellSize⟩
  listing limit _ := (Listing.text_ends limit module).of_error
  rebuilding _ := module.rebuild_ends.of_error
  rendering _ built _ := renderWithin_of_rebuild built
  constants address _ failed :=
    ⟨(constant_faultsAt address).of_error failed, fun short => (constant_brief short address).of_error failed⟩
  instructions _ read instruction member :=
    have stream := stream_of_instructions read
    ⟨(stream.counted instruction member).exists_format (stream.ranged instruction member), fun symbols =>
      ⟨_, symbols.annotate_of_counted (stream.counted instruction member)⟩⟩

/-- Whatever the bytes are, loading fails at its own stages, unless a number that was asked for is too
long to be reported, and a loaded module can be used. -/
theorem load_safe (data : Bytes) (index : Int) (cellSize : Option Int) :
    (Failure.report (load data index cellSize) = .error .tooManyDigits ↔ Unwritten data index cellSize) ∧
      (∀ failure, Failure.report (load data index cellSize) = .error failure → failure ≠ .tooManyDigits →
        ∃ fault, failure = .fault fault ∧ fault.stage ∈ [Stage.container, .record, .image]) ∧
      ∀ module, Failure.report (load data index cellSize) = .ok module → module.Usable := by
  refine ⟨report_load_eq_tooManyDigits, fun failure failed short => ?_, fun module _ => module.usable⟩
  obtain ⟨fault, rfl, refused⟩ := Failure.exists_fault_of_report failed short
  exact ⟨fault, rfl, ((load_ends data index cellSize).of_error refused).stage⟩

/-- A cell size that is refused, but not with a report. -/
theorem load_unwritten :
    Failure.report (load [] 0 (some Numeral.tooLong)) = .error .tooManyDigits ∧
      ¬∃ fault, Failure.tooManyDigits = .fault fault :=
  ⟨report_load_eq_tooManyDigits.mpr (.cellSize rfl Numeral.not_writable_tooLong), nofun⟩

/-- A header over no tables and no data, and code that closes a stretch before any function. -/
def orphanModule : Module where
  header := ⟨80, 0, 8, 56, 80, 80, 80, 0xFFFFFFFF, 56, 56, 56, 56, 56, 56⟩
  cellSize := .eight
  image := Header.encode ⟨80, 0, 8, 56, 80, 80, 80, 0xFFFFFFFF, 56, 56, 56, 56, 56, 56⟩ ++
    CellSize.eight.encode [0, 0, 0x30]

theorem load_safe_orphan :
    load orphanModule.image 0 (some 8) = .ok orphanModule ∧
      orphanModule.rebuild =
        .error (.fault (.malformedCode "retn encountered before any proc" (some 16))) ∧
      (Failure.fault (.malformedCode "retn encountered before any proc" (some 16))).From orphanModule
        [.image, .decoder, .reconstruction] := by
  have loaded : load orphanModule.image 0 (some 8) = .ok orphanModule := rfl
  have valid : ∀ item ∈ [Code.Item.plain .retn []], item.Valid .eight := by
    intro item member
    obtain rfl := List.mem_singleton.mp member
    exact ⟨.plain (by decide) (by decide) rfl (by decide), trivial⟩
  have decoded : orphanModule.instructions = .ok [⟨16, .retn, []⟩] := by
    have length : (CellSize.eight.encode [0, 0]).length = 2 * CellSize.eight.bytes := rfl
    exact Code.decode_of_items length valid
  have refused : orphanModule.rebuild =
      .error (.fault (.malformedCode "retn encountered before any proc" (some 16))) := by
    rw [rebuild, decoded]
    rfl
  have usable := (load_safe orphanModule.image 0 (some 8)).2.2 orphanModule (by rw [loaded]; rfl)
  exact ⟨loaded, refused, usable.rebuilding _ refused⟩

end Module

end PawnBytecode
