import PawnBytecode.Proofs.Acceptance
import PawnBytecode.Proofs.CommandLine.Running
import PawnBytecode.Proofs.Isolation

/-! What a run leaves behind. The order of loading, listing, rebuilding and rendering decides which
files are there when a fault ends the run, whatever files the outputs replace. -/
namespace PawnBytecode.CommandLine

/-- The input and the notes can be read, both outputs can be written, and nothing is traced. -/
structure Start (options : Options) (files : FileSet) (data : Bytes) (knowledge : KnowledgeBase)
    (listingPlace treePlace : Location) : Prop where
  input : files.entry options.input = .ok (.file data)
  notes : ((loadKnowledge options.knowledgePath).run ⟨[], "", files⟩).1 = .ok knowledge
  worded : knowledge.Worded
  quiet : options.verbose = false
  listing : files.Writable options.listingFile listingPlace
  tree : files.Writable options.treeFile treePlace
  distinct : listingPlace ≠ treePlace

/-- How far a run gets. -/
inductive Course where
  | refused (fault : Fault)
  | listed (listing : Text) (fault : Fault)
  | finished (listing : Text) (source : String)

namespace Course

/-- What is loaded, listed, rebuilt and rendered decides the course. -/
inductive Taken (knowledge : KnowledgeBase) (loaded : Except Fault Module) : Course → Prop
  | unloaded {fault} (failed : loaded = .error fault) : Taken knowledge loaded (.refused fault)
  | unlisted {module fault} (found : loaded = .ok module)
      (failed : Listing.text ⟨knowledge, none⟩ module = .error (.fault fault)) :
      Taken knowledge loaded (.refused fault)
  | listed {module listing fault} (found : loaded = .ok module)
      (shown : Listing.text ⟨knowledge, none⟩ module = .ok listing)
      (failed : module.rebuild = .error (.fault fault)) : Taken knowledge loaded (.listed listing fault)
  | finished {module listing rebuilt source} (found : loaded = .ok module)
      (shown : Listing.text ⟨knowledge, none⟩ module = .ok listing)
      (built : module.rebuild = .ok rebuilt) (rendered : rebuilt.plugin.render = .ok source) :
      Taken knowledge loaded (.finished listing source)

def reportOf (fault : Fault) : String := "error: " ++ fault.describe ++ "\n"

/-- What a run leaves at the end of each course. -/
def Leaves (options : Options) (files : FileSet) (listingPlace treePlace : Location) (outcome : Outcome) :
    Course → Prop
  | refused fault => outcome = ⟨.exit 1, [], reportOf fault, files⟩
  | listed listing fault => ∃ content after, listing.utf8? = some content ∧
      files.Changes [(listingPlace, content)] after ∧
      (∃ message offset, fault = .malformedCode message (some offset)) ∧
      outcome = ⟨.exit 1, [], reportOf fault, after⟩
  | finished listing source => ∃ content after, listing.utf8? = some content ∧
      files.Changes [(treePlace, source.toUTF8.toList), (listingPlace, content)] after ∧
      outcome = ⟨.exit 0, [.text ("listing written to " ++ options.listingFile.text),
        .text ("ast written to " ++ options.treeFile.text), .totalTime], "", after⟩

theorem Taken.unique {knowledge : KnowledgeBase} {loaded : Except Fault Module} {first second : Course}
    (taken : Taken knowledge loaded first) (again : Taken knowledge loaded second) : first = second := by
  cases taken with
  | unloaded failed => cases again <;> simp_all
  | unlisted found failed => cases again <;> simp_all
  | listed found shown failed => cases again <;> simp_all
  | finished found shown built rendered => cases again <;> simp_all

end Course

variable {arguments : List String} {options : Options} {files : FileSet} {data : Bytes}
  {knowledge : KnowledgeBase} {listingPlace treePlace : Location}

/-- Two dashes for the section, and a container that opens. -/
def Withdrawn (options : Options) (data : Bytes) : Prop :=
  options.sectionIndex = none ∧ ∃ container, Container.parse data = .ok container

theorem loadModule_withdrawn (quiet : options.verbose = false) (withdrawn : Withdrawn options data)
    (before : Run) :
    (loadModule options data).run before = (.error (.abort (.withdrawn .sectionIndex)), before) := by
  obtain ⟨none, container, parsed⟩ := withdrawn
  rw [loadModule, none, Container.isContainer_of_parse parsed, parsed, quiet]
  rfl

/-- Otherwise the module is loaded, and a fault ends the run. -/
theorem loadModule_kept (quiet : options.verbose = false) (kept : ¬Withdrawn options data) (before : Run) :
    (loadModule options data).run before =
      (Running.orRefuse (Module.load data (options.sectionIndex.getD 0) options.cellSize)).run before := by
  unfold loadModule
  split
  · rename_i none marked
    cases parsed : Container.parse data with
    | error fault =>
      rw [none, Module.load, if_pos marked, parsed]
      rfl
    | ok container => exact absurd ⟨none, container, parsed⟩ kept
  · rw [quiet]
    rfl

namespace Start

variable (start : Start options files data knowledge listingPlace treePlace)

include start

theorem disassemble_eq : (disassemble options).run ⟨[], "", files⟩ =
    (loadModule options data >>= writeTexts options knowledge).run ⟨[], "", files⟩ := by
  have notes : (loadKnowledge options.knowledgePath).run ⟨[], "", files⟩ =
      (.ok knowledge, ⟨[], "", files⟩) :=
    Prod.ext start.notes (loadKnowledge_looks options.knowledgePath ⟨[], "", files⟩)
  have present : ¬Entry.file data = .missing := nofun
  rw [disassemble, Running.bind_of_ok (Running.run_entry [] "" start.input)]
  simp only [if_neg present]
  rw [Running.bind_of_ok notes, Running.bind_of_ok (Running.run_readFile [] "" start.input)]

/-- A module that is loaded takes one of the courses, and leaves what the course says. -/
theorem exists_course_of_module {loaded : Except Fault Module} {module : Module}
    (found : loaded = .ok module) : ∃ course : Course, course.Taken knowledge loaded ∧
      course.Leaves options files listingPlace treePlace
        (.ofSteps ((writeTexts options knowledge module).run ⟨[], "", files⟩)) := by
  have listingEnds : Ends Text.Whole (Failure.From module readStages) (Listing.text ⟨knowledge, none⟩ module) :=
    Listing.text_ends_of_worded start.worded module
  rw [writeTexts]
  cases shown : Listing.text ⟨knowledge, none⟩ module with
  | error failure =>
    obtain ⟨fault, rfl, _⟩ := listingEnds.of_error shown
    refine ⟨.refused fault, .unlisted found shown, ?_⟩
    rw [Running.bind_of_error (Running.run_orFail_fault rfl)]
    rfl
  | ok listing =>
    obtain ⟨content, spelled⟩ := (listingEnds.of_ok shown).exists_utf8?
    obtain ⟨middle, wrote, changes⟩ := Running.exists_writeFile [] "" start.listing spelled
    rw [Running.bind_of_ok (Running.run_orFail_ok rfl), Running.bind_of_ok wrote]
    cases built : module.rebuild with
    | error failure =>
      -- The parts were read for the listing, so only the grouping can fail.
      obtain ⟨symbols, instructions, reads⟩ := Module.exists_reads_of_text shown
      obtain ⟨orphan, _, rfl⟩ := (Tree.rebuild_ends reads.counted).of_error (reads.rebuild.symm.trans built)
      refine ⟨.listed listing _, .listed found shown built, content, middle, spelled, changes, ⟨_, _, rfl⟩, ?_⟩
      rw [Tree.Progress.orphan, Running.bind_of_error (Running.run_orFail_fault rfl)]
      rfl
    | ok rebuilt =>
      obtain ⟨source, rendered⟩ := Module.exists_render_of_rebuild built
      have apart : [(listingPlace, content)].lookup treePlace = none := by
        rw [Entries.lookup_cons, if_neg start.distinct.symm]
        rfl
      obtain ⟨last, wroteTree, treeChanges⟩ := Running.exists_writeFile
        ([] ++ [.text ("listing written to " ++ options.listingFile.text)]) ""
        (start.tree.of_changes changes apart) (Text.utf8?_ofString source)
      refine ⟨.finished listing source, .finished found shown built rendered, content, last, spelled,
        changes.trans treeChanges, ?_⟩
      rw [Running.bind_of_ok (Running.run_orFail_ok rfl), start.quiet,
        Running.bind_of_ok (Running.run_trace_quiet _), Running.bind_of_ok (Running.run_say ..), rendered,
        Running.bind_of_ok (Running.run_orFail_ok rfl), Running.bind_of_ok wroteTree]
      rfl

theorem run_withdrawn (given : Options.ofArguments arguments = .ok options)
    (withdrawn : Withdrawn options data) :
    run arguments files = ⟨.abort (.withdrawn .sectionIndex), [], "", files⟩ := by
  rw [run, given]
  simp only [start.disassemble_eq, Running.bind_of_error (loadModule_withdrawn start.quiet withdrawn _)]
  rfl

theorem exists_course (given : Options.ofArguments arguments = .ok options)
    (kept : ¬Withdrawn options data) :
    ∃ course : Course, course.Taken knowledge
        (Module.load data (options.sectionIndex.getD 0) options.cellSize) ∧
      course.Leaves options files listingPlace treePlace (run arguments files) := by
  have loading := loadModule_kept start.quiet kept ⟨[], "", files⟩
  rw [run, given]
  simp only [start.disassemble_eq]
  cases found : Module.load data (options.sectionIndex.getD 0) options.cellSize with
  | error fault =>
    rw [found] at loading
    refine ⟨.refused fault, .unloaded rfl, ?_⟩
    rw [Running.bind_of_error (loading.trans (Running.run_refuse fault))]
    rfl
  | ok module =>
    rw [found] at loading
    have step : (loadModule options data).run ⟨[], "", files⟩ = (.ok module, ⟨[], "", files⟩) := loading
    rw [Running.bind_of_ok step]
    exact start.exists_course_of_module rfl

end Start

/-- A run that takes a course has an exit code. -/
theorem Course.Leaves.exists_exit {course : Course} {outcome : Outcome}
    (leaves : course.Leaves options files listingPlace treePlace outcome) :
    ∃ code, outcome.ending = .exit code := by
  cases course with
  | refused fault =>
    rw [Leaves] at leaves
    exact ⟨1, by rw [leaves]⟩
  | listed listing fault =>
    obtain ⟨_, _, _, _, _, rfl⟩ := leaves
    exact ⟨1, rfl⟩
  | finished listing source =>
    obtain ⟨_, _, _, _, rfl⟩ := leaves
    exact ⟨0, rfl⟩

/-- A run is refused with all files as they were, stops behind the listing, or finishes with both texts,
whatever files it replaces. It takes exactly one of these courses unless the section is withdrawn. -/
theorem run_takes_one_course (given : Options.ofArguments arguments = .ok options)
    (start : Start options files data knowledge listingPlace treePlace) :
    (∃! course : Course, course.Taken knowledge
        (Module.load data (options.sectionIndex.getD 0) options.cellSize) ∧
      course.Leaves options files listingPlace treePlace (run arguments files)) ↔
    ¬Withdrawn options data := by
  constructor
  · rintro ⟨course, ⟨_, leaves⟩, _⟩ withdrawn
    obtain ⟨code, exits⟩ := leaves.exists_exit
    rw [start.run_withdrawn given withdrawn] at exits
    cases exits
  · intro kept
    obtain ⟨course, taken, leaves⟩ := start.exists_course given kept
    exact ⟨course, ⟨taken, leaves⟩, fun other again => again.1.unique taken⟩

def replacing : Options where
  input := ⟨"", ["m.amx"]⟩
  sectionIndex := some 0
  cellSize := some 8
  listingPath := some ⟨"", ["m.amx"]⟩
  treePath := none
  knowledgePath := some ⟨"", ["knowledge", "opcode_annotations.json"]⟩
  verbose := false

def orphanFiles : FileSet := ⟨[(["m.amx"], Module.orphanModule.image)], []⟩

theorem run_takes_one_course_replacing :
    Start replacing orphanFiles Module.orphanModule.image .empty ["m.amx"] ["m.ast.txt"] ∧
      ∃! course : Course,
        course.Taken .empty (Module.load Module.orphanModule.image 0 (some 8)) ∧
          course.Leaves replacing orphanFiles ["m.amx"] ["m.ast.txt"]
            (run ["m.amx", "--cell-size=8", "--listing-out", "./m.amx"] orphanFiles) := by
  have given : Options.ofArguments ["m.amx", "--cell-size=8", "--listing-out", "./m.amx"] =
      .ok replacing := by decide +kernel
  have start : Start replacing orphanFiles Module.orphanModule.image .empty ["m.amx"] ["m.ast.txt"] := by
    constructor
    case input => decide +kernel
    case notes => exact congrArg Prod.fst (loadKnowledge_missing [] "" (by decide +kernel))
    case worded => exact KnowledgeBase.worded_empty
    case quiet => rfl
    case listing => exact ⟨by decide +kernel, by decide +kernel⟩
    case tree => exact ⟨by decide +kernel, by decide +kernel⟩
    case distinct => decide
  have kept : ¬Withdrawn replacing Module.orphanModule.image := fun withdrawn => by cases withdrawn.1
  exact ⟨start, (run_takes_one_course given start).mpr kept⟩

/-- A container with one section and no record, for which no section is asked. -/
def withdrawing : Options where
  input := ⟨"", ["c.amxx"]⟩
  sectionIndex := none
  cellSize := none
  listingPath := none
  treePath := none
  knowledgePath := some ⟨"", ["knowledge", "opcode_annotations.json"]⟩
  verbose := false

def recordless : Bytes := Container.encodeHeader 1

def recordlessFiles : FileSet := ⟨[(["c.amxx"], recordless)], []⟩

/-- Such a run neither reports a fault nor finishes. -/
theorem run_takes_no_course :
    Options.ofArguments ["c.amxx", "--section=--"] = .ok withdrawing ∧
      Start withdrawing recordlessFiles recordless .empty ["c.asm.txt"] ["c.ast.txt"] ∧
      run ["c.amxx", "--section=--"] recordlessFiles =
        ⟨.abort (.withdrawn .sectionIndex), [], "", recordlessFiles⟩ ∧
      ∀ course : Course, ¬course.Leaves withdrawing recordlessFiles ["c.asm.txt"] ["c.ast.txt"]
        (run ["c.amxx", "--section=--"] recordlessFiles) := by
  have given : Options.ofArguments ["c.amxx", "--section=--"] = .ok withdrawing := by decide +kernel
  have start : Start withdrawing recordlessFiles recordless .empty ["c.asm.txt"] ["c.ast.txt"] := by
    constructor
    case input => decide +kernel
    case notes => exact congrArg Prod.fst (loadKnowledge_missing [] "" (by decide +kernel))
    case worded => exact KnowledgeBase.worded_empty
    case quiet => rfl
    case listing => exact ⟨by decide +kernel, by decide +kernel⟩
    case tree => exact ⟨by decide +kernel, by decide +kernel⟩
    case distinct => decide
  have parsed : Container.parse recordless = .ok ⟨1, recordless⟩ := by decide +kernel
  have outcome := start.run_withdrawn given ⟨rfl, _, parsed⟩
  refine ⟨given, start, outcome, fun course leaves => ?_⟩
  obtain ⟨code, exits⟩ := leaves.exists_exit
  rw [outcome] at exits
  cases exits

end PawnBytecode.CommandLine
