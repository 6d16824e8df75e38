import PawnBytecode.Proofs.Acceptance

namespace PawnBytecode

namespace SymbolTable

variable {symbols : SymbolTable} {instructions : List Instruction}

theorem syntheticName_inj {first second : Int} :
    syntheticName first = syntheticName second ↔ first = second := by
  rw [← @Numeral.smallHex_inj 4, syntheticName, syntheticName]
  simp

/-- No name stands for two entries: not one of the table, and not one that is made up for an entry
without a public. -/
structure NamesApart (symbols : SymbolTable) (instructions : List Instruction) : Prop where
  publics : ∀ first ∈ symbols.publics, ∀ second ∈ symbols.publics, first.name = second.name →
    first.address = second.address
  synthetic : ∀ entry ∈ instructions, entry.opcode = .proc →
    (∀ symbol ∈ symbols.publics, symbol.address ≠ entry.offset) →
    ∀ symbol ∈ symbols.publics, symbol.name ≠ syntheticName entry.offset

theorem functionName_cases (symbols : SymbolTable) (address : Int) :
    (∃ symbol ∈ symbols.publics, symbol.address = address ∧ symbols.functionName address = symbol.name) ∨
      (∀ symbol ∈ symbols.publics, symbol.address ≠ address) ∧
        symbols.functionName address = syntheticName address := by
  cases found : symbols.findPublic address with
  | some symbol =>
    refine .inl ⟨symbol, List.mem_of_find?_eq_some found, ?_, ?_⟩
    · simpa using List.find?_some found
    · simp [functionName, publicName, found]
  | none =>
    have absent : ∀ symbol ∈ symbols.publics, symbol.address ≠ address := by simpa [findPublic] using found
    exact .inr ⟨absent, functionName_of_absent absent⟩

theorem NamesApart.functionName_inj (apart : symbols.NamesApart instructions) {first second : Instruction}
    (inside : first ∈ instructions) (opens : first.opcode = .proc) (also : second ∈ instructions)
    (alsoOpens : second.opcode = .proc)
    (same : symbols.functionName first.offset = symbols.functionName second.offset) :
    first.offset = second.offset := by
  rcases symbols.functionName_cases first.offset with ⟨symbol, member, place, name⟩ | ⟨absent, name⟩ <;>
    rcases symbols.functionName_cases second.offset with
      ⟨other, otherMember, otherPlace, otherName⟩ | ⟨otherAbsent, otherName⟩ <;>
    rw [name, otherName] at same
  · rw [← place, ← otherPlace]
    exact apart.publics symbol member other otherMember same
  · exact absurd same (apart.synthetic second also alsoOpens otherAbsent symbol member)
  · exact absurd same.symm (apart.synthetic first inside opens absent other otherMember)
  · exact syntheticName_inj.mp same

end SymbolTable

namespace Tree

/-- Finding by name: the lowest function of a name is found, and nothing where there is none. -/
structure Plugin.FindsLowest (plugin : Plugin) : Prop where
  missing : ∀ name, plugin.functionNamed name = none ↔ ∀ function ∈ plugin.functions, function.name ≠ name
  found : ∀ name function, plugin.functionNamed name = some function ↔
    function ∈ plugin.functions ∧ function.name = name ∧
      ∀ other ∈ plugin.functions, other.name = name → function.address ≤ other.address

/-- Functions at growing addresses: the first of a name is the lowest. -/
theorem Plugin.findsLowest {plugin : Plugin}
    (ascending : plugin.functions.Pairwise fun first second => first.address < second.address) :
    plugin.FindsLowest := by
  constructor
  · intro name
    simp [functionNamed]
  · intro name function
    have least := Traversal.first_iff_least (fun _ _ => Int.lt_asymm) ascending function
      fun other => other.name = name
    simp only [Int.not_lt] at least
    rw [functionNamed, List.find?_eq_some_iff_append, beq_iff_eq, and_left_comm, ← least]
    simp

variable {symbols : SymbolTable} {instructions : List Instruction}

theorem ascending_functions (ordered : Code.Ordered instructions) (symbols : SymbolTable) :
    ((Stretch.cut instructions).2.map (Stretch.function symbols)).Pairwise
      fun first second => first.address < second.address := by
  have entries := ordered.ascending.filter (·.opcode.opensFunction)
  rw [← Stretch.map_entry_cut] at entries
  rw [List.pairwise_map] at entries ⊢
  exact entries

theorem exists_entry_of_function {function : Function}
    (member : function ∈ (Stretch.cut instructions).2.map (Stretch.function symbols)) :
    ∃ entry ∈ instructions, entry.opcode = .proc ∧ function.address = entry.offset ∧
      function.name = symbols.functionName entry.offset := by
  obtain ⟨stretch, present, rfl⟩ := List.mem_map.mp member
  have opened : stretch.entry ∈ instructions.filter (·.opcode.opensFunction) := by
    rw [← Stretch.map_entry_cut]
    exact List.mem_map_of_mem present
  obtain ⟨inside, opens⟩ := List.mem_filter.mp opened
  exact ⟨stretch.entry, inside, eq_of_beq opens, rfl, rfl⟩

end Tree

namespace Module

/-- Functions are found by name. Of those that share a name the lowest is found; where no name stands
for two entries, every function has a name of its own and is found by it. -/
theorem rebuild_named {module : Module} {symbols : SymbolTable} {instructions : List Instruction}
    {rebuilt : Tree.Rebuilt} (reads : module.Reads symbols instructions)
    (built : module.rebuild = .ok rebuilt) :
    rebuilt.plugin.FindsLowest ∧
      (symbols.NamesApart instructions →
        rebuilt.plugin.functions.Pairwise (fun first second => first.name ≠ second.name) ∧
        ∀ function ∈ rebuilt.plugin.functions,
          rebuilt.plugin.functionNamed function.name = some function) := by
  have ordered := ordered_of_instructions reads.2.2
  rw [reads.rebuild] at built
  have functions := Tree.functions_of_rebuild
    (fun instruction member => (ordered.counted instruction member).namesCallee) built
  have ascending := Tree.ascending_functions ordered symbols
  rw [← functions] at ascending
  have lowest := Tree.Plugin.findsLowest ascending
  refine ⟨lowest, fun apart => ?_⟩
  have own : ∀ first ∈ rebuilt.plugin.functions, ∀ second ∈ rebuilt.plugin.functions,
      first.name = second.name → first.address = second.address := by
    intro first member second also same
    rw [functions] at member also
    obtain ⟨entry, inside, opens, place, name⟩ := Tree.exists_entry_of_function member
    obtain ⟨other, otherInside, otherOpens, otherPlace, otherName⟩ := Tree.exists_entry_of_function also
    rw [place, otherPlace]
    exact apart.functionName_inj inside opens otherInside otherOpens (name ▸ otherName ▸ same)
  constructor
  · refine ascending.imp_of_mem fun member also below same => ?_
    exact Int.ne_of_lt below (own _ member _ also same)
  · intro function member
    refine (lowest.found _ _).mpr ⟨member, rfl, fun other also same => ?_⟩
    exact Int.le_of_eq (own _ member _ also same.symm)

def twinItems : List Code.Item := [.plain .proc [], .plain .retn [], .plain .proc [], .plain .retn []]

def twinParts (publics : List (Bytes × Nat)) : Parts where
  cellSize := .four
  flags := 0
  definitionSize := 8
  stack := 0x4000
  entry := 8
  publics := publics
  natives := []
  code := Code.encode .four (List.replicate 8 0) twinItems
  data := []

/-- A public of the first function, which leaves both names apart, and one of the second function under
the name that is made up for the first. -/
theorem rebuild_named_twins :
    (∃ rebuilt symbols instructions, (twinParts [([0x66], 8)]).assembled.rebuild = .ok rebuilt ∧
      (twinParts [([0x66], 8)]).assembled.Reads symbols instructions ∧ symbols.NamesApart instructions ∧
      rebuilt.plugin.functions = [⟨"f", 8, true, []⟩, ⟨"sub_0010", 16, false, []⟩] ∧
      rebuilt.plugin.functionNamed "sub_0010" = some ⟨"sub_0010", 16, false, []⟩) ∧
    ∃ rebuilt symbols instructions,
      (twinParts [([0x73, 0x75, 0x62, 0x5F, 0x30, 0x30, 0x30, 0x38], 16)]).assembled.rebuild = .ok rebuilt ∧
      (twinParts [([0x73, 0x75, 0x62, 0x5F, 0x30, 0x30, 0x30, 0x38], 16)]).assembled.Reads symbols
        instructions ∧
      rebuilt.plugin.functions = [⟨"sub_0008", 8, false, []⟩, ⟨"sub_0008", 16, true, []⟩] ∧
      rebuilt.plugin.functionNamed "sub_0008" = some ⟨"sub_0008", 8, false, []⟩ := by
  have reads : ∀ publics, (twinParts publics).Fits → (twinParts publics).assembled.Reads
      (twinParts publics).symbols (Code.instructionsAt .four 8 twinItems) := by
    intro publics fits
    exact fits.reads (show 0 &&& 0x04 = 0 from rfl) rfl rfl (by decide : ∀ item ∈ twinItems, item.Valid .four)
  constructor
  · have read := reads [([0x66], 8)] ⟨by decide, by decide, by decide, by decide, by decide, by decide⟩
    have apart : (twinParts [([0x66], 8)]).symbols.NamesApart (Code.instructionsAt .four 8 twinItems) :=
      ⟨by decide, by decide⟩
    have built := read.rebuild.trans (rfl : _ = Except.ok _)
    have named := (rebuild_named read built).2 apart
    exact ⟨_, _, _, built, read, apart, rfl, named.2 ⟨"sub_0010", 16, false, []⟩ (by decide)⟩
  · have read := reads [([0x73, 0x75, 0x62, 0x5F, 0x30, 0x30, 0x30, 0x38], 16)]
      ⟨by decide, by decide, by decide, by decide, by decide, by decide⟩
    have built := read.rebuild.trans (rfl : _ = Except.ok _)
    have lowest := (rebuild_named read built).1
    exact ⟨_, _, _, built, read, rfl, (lowest.found _ _).mpr ⟨by decide, rfl, by decide⟩⟩

end Module

end PawnBytecode
