import PawnBytecode.Proofs.Agreement
import PawnBytecode.Proofs.Safety

/-! Listing and rebuilding one module. Both read the same three parts, in different orders, so they
refuse a module for the same faults, and only a closing instruction before any function tells them
apart. -/
namespace PawnBytecode

def faultsOf : Except Fault α → List Fault
  | .ok _ => []
  | .error fault => [fault]

/-- A sequence that begins with a part fails with the first fault among the part's and the others. -/
theorem bind_of_fault {part : Except Fault α} {next : α → Except Failure β} {others : List Fault}
    {fault : Fault} (first : (faultsOf part ++ others).head? = some fault)
    (behind : ∀ value, others.head? = some fault → next value = .error (.fault fault)) :
    Failure.lift part >>= next = .error (.fault fault) := by
  cases part with
  | error found =>
    obtain rfl := Option.some.inj first
    rfl
  | ok value => exact behind value first

theorem bind_of_last {part : Except Fault α} {fault : Fault}
    (first : (faultsOf part).head? = some fault) (next : α → Except Failure β) :
    Failure.lift part >>= next = .error (.fault fault) := by
  rw [← List.append_nil (faultsOf part)] at first
  exact bind_of_fault first fun _ none => by cases none

namespace Module

def Reads (self : Module) (symbols : SymbolTable) (instructions : List Instruction) : Prop :=
  self.natives = .ok symbols.natives ∧ self.publics = .ok symbols.publics ∧
    self.instructions = .ok instructions

/-- The faults of the parts, in the order of the listing. -/
def listingFaults (self : Module) : List Fault :=
  faultsOf self.natives ++ (faultsOf self.publics ++ faultsOf self.instructions)

def rebuildFaults (self : Module) : List Fault :=
  faultsOf self.instructions ++ (faultsOf self.publics ++ faultsOf self.natives)

variable {self : Module} {symbols : SymbolTable} {instructions : List Instruction}

theorem listingFaults_perm (self : Module) : self.listingFaults.Perm self.rebuildFaults := by
  rw [listingFaults, rebuildFaults, ← List.append_assoc]
  exact List.perm_append_comm.trans (List.perm_append_comm.append_left _)

/-- A module whose parts cannot all be read has a first fault. -/
theorem reads_or_fault (self : Module) :
    (∃ symbols instructions, self.Reads symbols instructions) ∨
      ∃ fault, self.listingFaults.head? = some fault := by
  cases natives : self.natives with
  | error fault => exact .inr ⟨fault, by rw [Module.listingFaults, natives]; rfl⟩
  | ok nativeSymbols =>
    cases publics : self.publics with
    | error fault => exact .inr ⟨fault, by rw [Module.listingFaults, natives, publics]; rfl⟩
    | ok publicSymbols =>
      cases decoded : self.instructions with
      | error fault => exact .inr ⟨fault, by rw [Module.listingFaults, natives, publics, decoded]; rfl⟩
      | ok found => exact .inl ⟨⟨publicSymbols, nativeSymbols⟩, found, natives, publics, decoded⟩

theorem Reads.counted (reads : self.Reads symbols instructions) :
    ∀ instruction ∈ instructions, instruction.Counted :=
  self.instructions_ends.of_ok reads.2.2

theorem Reads.unique {others : SymbolTable} {otherInstructions : List Instruction}
    (reads : self.Reads symbols instructions) (again : self.Reads others otherInstructions) :
    symbols = others ∧ instructions = otherInstructions := by
  obtain ⟨publics, natives⟩ := symbols
  obtain ⟨otherPublics, otherNatives⟩ := others
  obtain rfl : natives = otherNatives := Except.ok.inj (reads.1.symm.trans again.1)
  obtain rfl : publics = otherPublics := Except.ok.inj (reads.2.1.symm.trans again.2.1)
  exact ⟨rfl, Except.ok.inj (reads.2.2.symm.trans again.2.2)⟩

theorem Parts.Fits.reads {parts : Parts} (fits : parts.Fits) (fixed : parts.flags &&& 0x04 = 0)
    {prolog : Bytes} {items : List Code.Item} (code : parts.code = Code.encode parts.cellSize prolog items)
    (length : prolog.length = 2 * parts.cellSize.bytes) (valid : ∀ item ∈ items, item.Valid parts.cellSize) :
    parts.assembled.Reads parts.symbols
      (Code.instructionsAt parts.cellSize (2 * parts.cellSize.bytes) items) := by
  refine ⟨fits.natives, fits.publics, ?_⟩
  rw [Parts.instructions_assembled fixed, code]
  exact Code.decode_of_items length valid

/-- No limit and no instruction keeps a readable module from being listed. -/
theorem Reads.text (reads : self.Reads symbols instructions) (limit : Option Int) :
    ∃ text, Listing.text ⟨.empty, limit⟩ self = .ok text := by
  rw [Listing.text, Listing.lines_of_counted reads.1 reads.2.1 reads.2.2 reads.counted limit]
  exact ⟨_, rfl⟩

/-- A faulty part is reported with whatever notes and limit. -/
theorem text_of_fault {fault : Fault} (first : self.listingFaults.head? = some fault)
    (listing : Listing) : listing.text self = .error (.fault fault) := by
  have lines : listing.lines self = .error (.fault fault) := by
    refine bind_of_fault first fun natives first => ?_
    refine bind_of_fault first fun publics first => ?_
    exact bind_of_last first _
  rw [Listing.text, lines]
  rfl

/-- A module that is listed can be read, and every instruction that is shown has its lines. -/
theorem exists_body_of_text {listing : Listing} {text : Text} (listed : listing.text self = .ok text) :
    ∃ symbols instructions blocks, self.Reads symbols instructions ∧
      (listing.shownInstructions instructions).mapM (listing.instructionLines symbols) = .ok blocks := by
  obtain ⟨lines, shown, _⟩ := exists_of_bind listed
  obtain ⟨natives, nativesRead, shown⟩ := exists_of_bind shown
  obtain ⟨publics, publicsRead, shown⟩ := exists_of_bind shown
  obtain ⟨instructions, decoded, shown⟩ := exists_of_bind shown
  obtain ⟨blocks, body, _⟩ := exists_of_bind shown
  exact ⟨⟨publics, natives⟩, instructions, blocks, ⟨Failure.eq_ok_of_lift nativesRead,
    Failure.eq_ok_of_lift publicsRead, Failure.eq_ok_of_lift decoded⟩, body⟩

theorem exists_reads_of_text {listing : Listing} {text : Text} (listed : listing.text self = .ok text) :
    ∃ symbols instructions, self.Reads symbols instructions := by
  obtain ⟨symbols, instructions, _, reads, _⟩ := exists_body_of_text listed
  exact ⟨symbols, instructions, reads⟩

theorem rebuild_of_fault {fault : Fault} (first : self.rebuildFaults.head? = some fault) :
    self.rebuild = .error (.fault fault) := by
  refine bind_of_fault first fun instructions first => ?_
  refine bind_of_fault first fun publics first => ?_
  exact bind_of_last first _

theorem Reads.rebuild (reads : self.Reads symbols instructions) :
    self.rebuild = Tree.rebuild symbols instructions := by
  obtain ⟨natives, publics, decoded⟩ := reads
  rw [Module.rebuild, natives, publics, decoded]
  rfl

end Module

namespace Tree

variable {symbols : SymbolTable} {instructions : List Instruction}

/-- Instructions with their operands are grouped unless one closes a stretch before any function. -/
theorem exists_rebuild_iff (counted : ∀ instruction ∈ instructions, instruction.Counted) :
    (∃ rebuilt, rebuild symbols instructions = .ok rebuilt) ↔ ¬Orphaned instructions := by
  have named : ∀ instruction ∈ instructions, instruction.NamesCallee :=
    fun instruction member => (counted instruction member).namesCallee
  rw [rebuild_eq_regroup named, orphaned_iff, not_not]
  cases found : (Stretch.cut instructions).1.find? Stretch.closes with
  | some orphan => simp [regroup_eq_error found]
  | none => simp [regroup_eq_ok named found]

end Tree

namespace Module

/-- Listing and rebuilding agree on a module, up to the one fault of grouping. -/
structure ReadAlike (self : Module) : Prop where
  listing : ∀ limit, (∃ text, Listing.text ⟨.empty, limit⟩ self = .ok text) ↔
    ∃ symbols instructions, self.Reads symbols instructions
  rebuild : (∃ rebuilt, self.rebuild = .ok rebuilt) ↔
    ∃ symbols instructions, self.Reads symbols instructions ∧ ¬Tree.Orphaned instructions
  /-- A listed module fails to be rebuilt for its grouping only. -/
  grouping : ∀ limit text failure, Listing.text ⟨.empty, limit⟩ self = .ok text →
    self.rebuild = .error failure →
    ∃ message offset, failure = .fault (.malformedCode message offset)
  /-- A rebuilt module is listed, whatever the limit is. -/
  listed : ∀ rebuilt limit, self.rebuild = .ok rebuilt →
    ∃ text, Listing.text ⟨.empty, limit⟩ self = .ok text
  listingFault : ∀ limit failure, Listing.text ⟨.empty, limit⟩ self = .error failure ↔
    ∃ fault, self.listingFaults.head? = some fault ∧ failure = .fault fault
  rebuildFault : ∀ fault, self.rebuildFaults.head? = some fault → self.rebuild = .error (.fault fault)
  /-- One fault alone is what both report. -/
  single : ∀ fault, self.listingFaults = [fault] →
    (∀ limit, Listing.text ⟨.empty, limit⟩ self = .error (.fault fault)) ∧
      self.rebuild = .error (.fault fault)
  /-- Another encoding is reported before the range of the code is looked at. -/
  compact : self.header.flags &&& 0x04 ≠ 0 → self.instructions = .error (.compactCode self.header.flags)
  range : self.header.flags &&& 0x04 = 0 →
    ∀ fault, self.codeSegment = .error fault → self.instructions = .error fault

/-- Listing and rebuild accept the same modules, up to the fault of grouping, and each refuses a
module for the first faulty part in its own order. -/
theorem readAlike (self : Module) : self.ReadAlike := by
  constructor
  case listing =>
    intro limit
    constructor
    · rintro ⟨text, listed⟩
      exact exists_reads_of_text listed
    · rintro ⟨symbols, instructions, reads⟩
      exact reads.text limit
  case rebuild =>
    constructor
    · rintro ⟨rebuilt, built⟩
      obtain ⟨symbols, instructions, natives, publics, decoded, grouped⟩ := reads_of_rebuild built
      have reads : self.Reads symbols instructions := ⟨natives, publics, decoded⟩
      exact ⟨symbols, instructions, reads, (Tree.exists_rebuild_iff reads.counted).mp ⟨rebuilt, grouped⟩⟩
    · rintro ⟨symbols, instructions, reads, opened⟩
      rw [reads.rebuild]
      exact (Tree.exists_rebuild_iff reads.counted).mpr opened
  case grouping =>
    intro limit text failure listed failed
    obtain ⟨symbols, instructions, reads⟩ := exists_reads_of_text listed
    rw [reads.rebuild] at failed
    obtain ⟨orphan, _, rfl⟩ := (Tree.rebuild_ends reads.counted).of_error failed
    exact ⟨_, _, rfl⟩
  case listed =>
    intro rebuilt limit built
    obtain ⟨symbols, instructions, natives, publics, decoded, _⟩ := reads_of_rebuild built
    exact Reads.text ⟨natives, publics, decoded⟩ limit
  case listingFault =>
    intro limit failure
    constructor
    · intro failed
      rcases self.reads_or_fault with ⟨symbols, instructions, reads⟩ | ⟨fault, first⟩
      · obtain ⟨text, listed⟩ := reads.text limit
        rw [listed] at failed
        cases failed
      · rw [text_of_fault first] at failed
        exact ⟨fault, first, (Except.error.inj failed).symm⟩
    · rintro ⟨fault, first, rfl⟩
      exact text_of_fault first _
  case rebuildFault => exact fun fault first => rebuild_of_fault first
  case single =>
    intro fault alone
    have rebuildAlone : self.rebuildFaults = [fault] := by
      apply List.perm_singleton.mp
      rw [← alone]
      exact self.listingFaults_perm.symm
    refine ⟨fun limit => text_of_fault ?_ _, rebuild_of_fault ?_⟩
    · rw [alone]
      rfl
    · rw [rebuildAlone]
      rfl
  case compact => exact instructions_of_compact
  case range =>
    intro fixed fault outside
    rw [instructions_of_fixed fixed, outside]
    rfl

-- The listing meets the table first, the rebuild the encoding of the code.
example :
    let faulty : Module := ⟨⟨0, 4, 8, 0, 0, 0, 0, 0, 0, 0, 9, 0, 0, 0⟩, .four, []⟩
    Listing.plain.text faulty = .error (.fault (.segmentRange "native table" 0 9 0)) ∧
      faulty.rebuild = .error (.fault (.compactCode 4)) :=
  ⟨rfl, rfl⟩

end Module

end PawnBytecode
