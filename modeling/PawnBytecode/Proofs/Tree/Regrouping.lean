import Mathlib.Data.List.Flatten
import PawnBytecode.Proofs.Tree.Stretches

/-! The pass as a cut of the stream. What the pass arrives at instruction by instruction is what
cutting the stream at its entries gives, and a closing instruction before the first entry is the
only thing that either refuses. -/
namespace PawnBytecode.Tree

variable {symbols : SymbolTable}

theorem regroup_eq_error {instructions : List Instruction} {orphan : Instruction}
    (found : (Stretch.cut instructions).1.find? Stretch.closes = some orphan) :
    regroup symbols instructions = .error (Progress.orphan orphan) := by
  simp only [regroup, found]
  rfl

theorem regroup_eq_ok {instructions : List Instruction}
    (named : ∀ instruction ∈ instructions, instruction.NamesCallee)
    (found : (Stretch.cut instructions).1.find? Stretch.closes = none) :
    regroup symbols instructions =
      .ok ⟨⟨(Stretch.cut instructions).2.map (Stretch.function symbols)⟩,
        Stretch.drops (Stretch.cut instructions).1 (Stretch.cut instructions).2⟩ := by
  have functions : (Stretch.cut instructions).2.mapM (Stretch.toFunction symbols) =
      .ok ((Stretch.cut instructions).2.map (Stretch.function symbols)) := by
    refine Traversal.mapM_of_forall fun stretch present => Stretch.toFunction_of_named ?_
    exact fun instruction member => named instruction (Stretch.mem_of_mem_body present member)
  simp only [regroup, found, functions]
  rfl

def Function.inOrder (function : Function) : Function :=
  { function with body := function.body.reverse }

namespace Progress

theorem foldlM_orphan {lead : List Instruction} {orphan : Instruction}
    (opens : ∀ instruction ∈ lead, instruction.opcode.opensFunction = false)
    (closes : ∀ instruction ∈ lead, instruction.opcode.closesStretch = false)
    (ends : orphan.opcode.closesStretch = true) (rest : List Instruction) :
    (lead ++ orphan :: rest).foldlM (step symbols) start = .error (Progress.orphan orphan) := by
  have refused : ∀ waiting drops, step symbols ⟨[], waiting, drops⟩ orphan =
      .error (Progress.orphan orphan) := by
    intro waiting drops
    simp [step, Opcode.opensFunction_of_closes ends, ends, close]
  rw [List.foldlM_append, foldlM_waiting opens closes, start]
  simp [bind, Except.bind, refused]

/-- The open function takes what its closing instructions cover; the open part of its stretch is
left waiting. -/
theorem foldlM_body {body : List Instruction}
    (single : ∀ instruction ∈ body, instruction.opcode.opensFunction = false)
    (named : ∀ instruction ∈ body, instruction.NamesCallee) (entry : Instruction)
    (current : Function) (closed : List Function) (drops : List Drop) :
    body.foldlM (step symbols) ⟨current :: closed, [], drops⟩ =
      .ok ⟨current.extend symbols (⟨entry, body⟩ : Stretch).kept :: closed,
        (Stretch.openPart body).reverse, drops⟩ := by
  -- What a closing instruction adds is known from what stands before it, so the stream is taken
  -- from its end.
  induction body using List.reverseRecOn with
  | nil => rfl
  | append_singleton body last ih =>
    have before := ih (fun instruction member => single instruction (by simp [member]))
      (fun instruction member => named instruction (by simp [member]))
    have opens := single last (by simp)
    rw [List.foldlM_append, before]
    by_cases closes : Stretch.closes last = true
    · have waiting : ∀ line ∈ Stretch.openPart body, line.NamesCallee := fun line member =>
        named line (List.mem_append_left _ (Stretch.mem_of_mem_openPart member))
      rw [Stretch.kept_snoc_closing body closes, Stretch.openPart_snoc, if_pos closes]
      simp [bind, Except.bind, step_closing opens closes waiting, Function.extend_append, pure,
        Except.pure]
    · have waits : last.opcode.closesStretch = false := by simpa [Stretch.closes] using closes
      rw [Stretch.kept_snoc_open body waits, Stretch.openPart_snoc, if_neg closes]
      simp [bind, Except.bind, step, opens, waits, pure, Except.pure]

theorem foldlM_stretches {stretches : List Stretch}
    (single : ∀ stretch ∈ stretches, stretch.Single)
    (named : ∀ stretch ∈ stretches, ∀ instruction ∈ stretch.body, instruction.NamesCallee)
    (symbols : SymbolTable) (functions : List Function) (body : List Instruction)
    (drops : List Drop) :
    ∃ final, (stretches.flatMap Stretch.instructions).foldlM (step symbols)
        ⟨functions, (Stretch.openPart body).reverse, drops⟩ = .ok final ∧
      final.finish = ⟨⟨(functions.map Function.inOrder).reverse ++
        stretches.map (Stretch.function symbols)⟩, drops.reverse ++ Stretch.drops body stretches⟩ := by
  -- `body` is the stretch before: its open part is all that the pass remembers of it.
  induction stretches generalizing functions body drops with
  | nil =>
    refine ⟨_, rfl, ?_⟩
    by_cases empty : Stretch.openPart body = []
    · simp [finish, Stretch.drops, empty, Function.inOrder]
    · simp [finish, Stretch.drops, empty, Function.inOrder]
  | cons stretch stretches ih =>
    have first := single stretch List.mem_cons_self
    have opened : step symbols ⟨functions, (Stretch.openPart body).reverse, drops⟩ stretch.entry =
        .ok ⟨entry symbols stretch.entry.offset :: functions, [],
          if (Stretch.openPart body).isEmpty then drops
          else .beforeEntry (Stretch.openPart body).length stretch.entry.offset :: drops⟩ := by
      simp [step, first.entry, openFunction]
    obtain ⟨final, run, finished⟩ := ih (fun stretch member => single stretch (List.mem_cons_of_mem _ member))
      (fun stretch member => named stretch (List.mem_cons_of_mem _ member))
      ((entry symbols stretch.entry.offset).extend symbols stretch.kept :: functions) stretch.body
      (if (Stretch.openPart body).isEmpty then drops
        else .beforeEntry (Stretch.openPart body).length stretch.entry.offset :: drops)
    refine ⟨final, ?_, ?_⟩
    · rw [List.flatMap_cons, Stretch.instructions, List.cons_append, List.foldlM_cons, opened]
      simp only [bind, Except.bind]
      rw [List.foldlM_append, foldlM_body first.body (named stretch List.mem_cons_self) stretch.entry]
      exact run
    · have same : ((entry symbols stretch.entry.offset).extend symbols stretch.kept).inOrder =
          stretch.function symbols := by
        simp [Function.inOrder, Function.extend, entry, Stretch.function]
      rw [finished, List.map_cons, same]
      by_cases empty : Stretch.openPart body = []
      · simp [Stretch.drops, empty]
      · simp [Stretch.drops, empty]

end Progress

/-- The pass and the cut of the stream agree, in what they refuse and in what they drop as well. -/
theorem rebuild_eq_regroup {instructions : List Instruction}
    (named : ∀ instruction ∈ instructions, instruction.NamesCallee) (symbols : SymbolTable) :
    rebuild symbols instructions = regroup symbols instructions := by
  have join := Stretch.cut_join instructions
  obtain ⟨opens, single⟩ := Stretch.cut_single instructions
  match found : (Stretch.cut instructions).1.find? Stretch.closes with
  | some orphan =>
    obtain ⟨ends, before, after, same, closes⟩ := List.find?_eq_some_iff_append.mp found
    have single : ∀ instruction ∈ before, instruction.opcode.opensFunction = false :=
      fun instruction member => opens instruction (by simp [same, member])
    have waits : ∀ instruction ∈ before, instruction.opcode.closesStretch = false := by
      simpa [Stretch.closes] using closes
    rw [regroup_eq_error found, rebuild]
    conv => lhs; rw [← join, same, List.append_assoc, List.cons_append,
      Progress.foldlM_orphan single waits ends]
    rfl
  | none =>
    have closes : ∀ instruction ∈ (Stretch.cut instructions).1,
        instruction.opcode.closesStretch = false := by
      simpa [Stretch.closes] using List.find?_eq_none.mp found
    obtain ⟨final, run, finished⟩ := Progress.foldlM_stretches single
      (fun stretch present instruction member =>
        named instruction (Stretch.mem_of_mem_body present member)) symbols []
      (Stretch.cut instructions).1 []
    have waiting := Progress.foldlM_waiting opens closes symbols .start
    rw [regroup_eq_ok named found, rebuild]
    conv => lhs; rw [← join, List.foldlM_append, waiting]
    rw [Stretch.openPart_of_open closes] at run
    simp only [Progress.start, List.append_nil, bind, Except.bind, run, finished]
    rfl

/-- The functions that the pass gives are those of the stretches. -/
theorem functions_of_rebuild {instructions : List Instruction} {rebuilt : Rebuilt}
    (named : ∀ instruction ∈ instructions, instruction.NamesCallee)
    (built : rebuild symbols instructions = .ok rebuilt) :
    rebuilt.plugin.functions = (Stretch.cut instructions).2.map (Stretch.function symbols) := by
  rw [rebuild_eq_regroup named] at built
  cases found : (Stretch.cut instructions).1.find? Stretch.closes with
  | some orphan =>
    rw [regroup_eq_error found] at built
    cases built
  | none =>
    rw [regroup_eq_ok named found] at built
    cases built
    rfl

/-- A closing instruction that no entry stands before. -/
def Orphaned (instructions : List Instruction) : Prop :=
  ∃ before closing after, instructions = before ++ closing :: after ∧
    closing.opcode.closesStretch = true ∧
    ∀ instruction ∈ before, instruction.opcode.opensFunction = false

theorem orphaned_iff (instructions : List Instruction) :
    Orphaned instructions ↔ (Stretch.cut instructions).1.find? Stretch.closes ≠ none := by
  constructor
  · rintro ⟨before, closing, after, rfl, closes, single⟩ none
    have opens := Opcode.opensFunction_of_closes closes
    rw [Stretch.cut_append_single single, Stretch.cut_cons, opens] at none
    have open_ := List.find?_eq_none.mp none closing (by simp)
    exact open_ closes
  · intro found
    obtain ⟨orphan, found⟩ := Option.ne_none_iff_exists'.mp found
    obtain ⟨closes, before, after, same, _⟩ := List.find?_eq_some_iff_append.mp found
    have join := Stretch.cut_join instructions
    rw [same, List.append_assoc, List.cons_append] at join
    refine ⟨before, orphan, _, join.symm, closes, fun instruction member => ?_⟩
    exact (Stretch.cut_single instructions).1 instruction (by simp [same, member])

/-- The function that an entry and the instructions up to the next one stand for. -/
structure Grouped (symbols : SymbolTable) (entry : Instruction) (body : List Instruction)
    (function : Function) : Prop where
  address : function.address = entry.offset
  isPublic : function.isPublic ↔ ∃ symbol ∈ symbols.publics, symbol.address = entry.offset
  named : ∀ before symbol after, symbols.publics = before ++ symbol :: after →
    symbol.address = entry.offset → (∀ other ∈ before, other.address ≠ entry.offset) →
    function.name = symbol.name
  unnamed : (∀ symbol ∈ symbols.publics, symbol.address ≠ entry.offset) →
    function.name = "sub_" ++ Numeral.smallHex 4 entry.offset
  covered : ∀ covered closing rest, body = covered ++ closing :: rest →
    closing.opcode.closesStretch = true →
    (∀ instruction ∈ rest, instruction.opcode.closesStretch = false) →
    function.body.map Annotated.instruction =
      covered.filter fun instruction => !instruction.opcode.closesStretch
  uncovered : (∀ instruction ∈ body, instruction.opcode.closesStretch = false) → function.body = []
  comments : ∀ line ∈ function.body, symbols.Comments line.instruction line.comment

theorem instructions_function (stretch : Stretch) :
    (stretch.function symbols).body.map Annotated.instruction = stretch.kept := by
  simp [Stretch.function, lineOf, Function.comp_def]

theorem grouped_function (stretch : Stretch)
    (named : ∀ instruction ∈ stretch.body, instruction.NamesCallee) (symbols : SymbolTable) :
    Grouped symbols stretch.entry stretch.body (stretch.function symbols) := by
  constructor
  · rfl
  · simp [Stretch.function, Progress.entry, SymbolTable.findPublic]
  · intro before symbol after publics address earlier
    have found : symbols.findPublic stretch.entry.offset = some symbol := by
      apply List.find?_eq_some_iff_append.mpr
      exact ⟨by simp [address], before, after, publics, by simpa using earlier⟩
    simp [Stretch.function, Progress.entry, SymbolTable.functionName, SymbolTable.publicName, found]
  · intro absent
    have missing : symbols.findPublic stretch.entry.offset = none := by
      simpa [SymbolTable.findPublic] using absent
    simp [Stretch.function, Progress.entry, SymbolTable.functionName, SymbolTable.publicName, missing,
      SymbolTable.syntheticName]
  · intro covered closing rest same ends opened
    obtain ⟨entry, body⟩ := stretch
    obtain rfl : body = covered ++ closing :: rest := same
    rw [instructions_function, Stretch.kept_of_last ends opened]
  · intro opened
    rw [Stretch.function, Stretch.kept_of_open opened]
    rfl
  · intro line member
    obtain ⟨instruction, inside, rfl⟩ := List.mem_map.mp member
    exact SymbolTable.comments_iff.mpr (symbols.annotate_of_namesCallee
      (named instruction (stretch.kept_sublist.subset inside)))

/-- Grouping says of every stream what becomes of it. The first closing instruction is refused when
no entry stands before it. Otherwise every entry opens one function, in order, which takes what
stands before the last closing instruction up to the next entry. -/
theorem rebuild_grouped {instructions : List Instruction}
    (named : ∀ instruction ∈ instructions, instruction.NamesCallee) (symbols : SymbolTable) :
    (Orphaned instructions → ∃ lead orphan rest, instructions = lead ++ orphan :: rest ∧
      orphan.opcode.closesStretch = true ∧
      (∀ instruction ∈ lead, instruction.opcode.opensFunction = false ∧
        instruction.opcode.closesStretch = false) ∧
      rebuild symbols instructions = .error (.fault (.malformedCode
        (orphan.mnemonic ++ " encountered before any proc") (some orphan.offset)))) ∧
    (¬Orphaned instructions → ∃ functions drops,
      rebuild symbols instructions = .ok ⟨⟨functions⟩, drops⟩ ∧
      functions.length = instructions.countP (·.opcode.opensFunction) ∧
      (functions.flatMap fun function => function.body.map Annotated.instruction).Sublist instructions ∧
      ∀ before entry body after, instructions = before ++ entry :: (body ++ after) →
        entry.opcode.opensFunction = true →
        (∀ instruction ∈ body, instruction.opcode.opensFunction = false) →
        (∀ instruction ∈ after.head?, instruction.opcode.opensFunction = true) →
        ∃ function, functions[before.countP (·.opcode.opensFunction)]? = some function ∧
          Grouped symbols entry body function) := by
  rw [rebuild_eq_regroup named, orphaned_iff]
  have join := Stretch.cut_join instructions
  constructor
  · intro orphaned
    obtain ⟨orphan, found⟩ := Option.ne_none_iff_exists'.mp orphaned
    obtain ⟨ends, lead, rest, same, closes⟩ := List.find?_eq_some_iff_append.mp found
    rw [same, List.append_assoc, List.cons_append] at join
    refine ⟨lead, orphan, _, join.symm, ends, fun instruction member => ⟨?_, ?_⟩, regroup_eq_error found⟩
    · exact (Stretch.cut_single instructions).1 instruction (by simp [same, member])
    · simpa [Stretch.closes] using closes instruction member
  · intro found
    refine ⟨_, _, regroup_eq_ok named (not_not.mp found), ?_, ?_, ?_⟩
    · rw [List.length_map, Stretch.length_cut]
    · have bodies : ∀ stretch ∈ (Stretch.cut instructions).2,
          ((stretch.function symbols).body.map Annotated.instruction).Sublist stretch.instructions := by
        intro stretch _
        rw [instructions_function]
        exact stretch.kept_sublist.cons _
      have all := List.Sublist.flatMap_right _ bodies
      conv => rhs; rw [← join]
      rw [List.flatMap_map]
      exact all.trans (List.sublist_append_right ..)
    · intro before entry body after same opens single ends
      have present : (Stretch.cut instructions).2[before.countP (·.opcode.opensFunction)]? =
          some ⟨entry, body⟩ := by
        rw [same, Stretch.cut_append_entry opens, Stretch.cut_append_single single,
          Stretch.lead_of_head ends, ← Stretch.length_cut]
        simp
      have grouped := grouped_function ⟨entry, body⟩
        (fun instruction member => named instruction (by simp [same, member])) symbols
      exact ⟨_, by rw [List.getElem?_map, present]; rfl, grouped⟩

/-- A public function with two exits and a dropped instruction before the next entry, then a
function that nothing closes. -/
def sampleStream : List Instruction :=
  [⟨8, .nop, []⟩, ⟨12, .proc, []⟩, ⟨16, .call, [12]⟩, ⟨24, .breakpoint, []⟩, ⟨28, .sysreqC, [0]⟩,
    ⟨36, .retn, []⟩, ⟨40, .xchg, []⟩, ⟨44, .proc, []⟩, ⟨48, .nop, []⟩]

def sampleTable : SymbolTable := ⟨[⟨"first", 12⟩, ⟨"second", 12⟩], [⟨"print", 0⟩]⟩

theorem rebuild_grouped_sample :
    (∀ instruction ∈ sampleStream, instruction.NamesCallee) ∧ ¬Orphaned sampleStream ∧
      (∃ functions drops, rebuild sampleTable sampleStream = .ok ⟨⟨functions⟩, drops⟩ ∧
        functions.length = 2 ∧ ∃ function, functions[0]? = some function ∧
          Grouped sampleTable ⟨12, .proc, []⟩ [⟨16, .call, [12]⟩, ⟨24, .breakpoint, []⟩,
            ⟨28, .sysreqC, [0]⟩, ⟨36, .retn, []⟩, ⟨40, .xchg, []⟩] function) ∧
      Orphaned (⟨4, .retn, []⟩ :: sampleStream) ∧
      rebuild sampleTable (⟨4, .retn, []⟩ :: sampleStream) =
        .error (.fault (.malformedCode "retn encountered before any proc" (some 4))) := by
  have named : ∀ instruction ∈ sampleStream, instruction.NamesCallee := by decide
  have opened : ¬Orphaned sampleStream := fun orphaned => (orphaned_iff _).mp orphaned rfl
  obtain ⟨functions, drops, built, length, _, each⟩ := (rebuild_grouped named sampleTable).2 opened
  have function := each [⟨8, .nop, []⟩] ⟨12, .proc, []⟩ [⟨16, .call, [12]⟩, ⟨24, .breakpoint, []⟩,
    ⟨28, .sysreqC, [0]⟩, ⟨36, .retn, []⟩, ⟨40, .xchg, []⟩] [⟨44, .proc, []⟩, ⟨48, .nop, []⟩] rfl rfl
    (by decide) (by decide)
  have orphaned : Orphaned (⟨4, .retn, []⟩ :: sampleStream) :=
    ⟨[], ⟨4, .retn, []⟩, sampleStream, rfl, rfl, List.forall_mem_nil _⟩
  have others : ∀ instruction ∈ ⟨4, .retn, []⟩ :: sampleStream, instruction.NamesCallee := by decide
  obtain ⟨lead, orphan, rest, same, ends, single, refused⟩ :=
    (rebuild_grouped others sampleTable).1 orphaned
  refine ⟨named, opened, ⟨functions, drops, built, length, function⟩, orphaned, ?_⟩
  cases lead with
  | nil =>
    obtain ⟨rfl, _⟩ := List.cons.inj same
    exact refused
  | cons instruction lead =>
    obtain ⟨rfl, _⟩ := List.cons.inj same
    cases (single _ List.mem_cons_self).2

end PawnBytecode.Tree
