import PawnBytecode.CommandLine.Session
import PawnBytecode.Proofs.CommandLine.Files
import PawnBytecode.Proofs.Failing

namespace PawnBytecode.CommandLine.Running

variable {α β ε : Type} {first : Running α} {next : α → Running β} {before after : Run} {value : α}

theorem bind_of_ok (done : first.run before = (.ok value, after)) :
    (first >>= next).run before = (next value).run after := by
  rw [ExceptT.run_bind]
  simp only [bind, StateT.bind, done]

theorem bind_of_error {ending : Ending} (ended : first.run before = (.error ending, after)) :
    (first >>= next).run before = (.error ending, after) := by
  rw [ExceptT.run_bind]
  simp only [bind, StateT.bind, ended]
  rfl

theorem run_say (line : OutputLine) (output : List OutputLine) (errors : String) (files : FileSet) :
    (say line).run ⟨output, errors, files⟩ = (.ok (), ⟨output ++ [line], errors, files⟩) := rfl

theorem run_refuse (fault : Fault) :
    (refuse fault : Running α).run before =
      (.error (.exit 1), { before with errors := before.errors ++ ("error: " ++ fault.describe) ++ "\n" }) :=
  rfl

theorem run_orFail_ok {result : Except Failure α} (done : result = .ok value) :
    (orFail result).run before = (.ok value, before) := by
  rw [done]
  rfl

theorem run_orFail_fault {result : Except Failure α} {fault : Fault}
    (failed : result = .error (.fault fault)) :
    (orFail result).run before =
      (.error (.exit 1), { before with errors := before.errors ++ ("error: " ++ fault.describe) ++ "\n" }) := by
  rw [failed]
  exact run_refuse fault

theorem run_trace_quiet (lines : List TraceLine) : (trace false lines).run before = (.ok (), before) := rfl

section Files

variable {files : FileSet} {path : Path} (output : List OutputLine) (errors : String)

theorem run_entry {entry : Entry} (found : files.entry path = .ok entry) :
    (Running.entry path).run ⟨output, errors, files⟩ = (.ok entry, ⟨output, errors, files⟩) := by
  have looked : (Running.entry path).run ⟨output, errors, files⟩ =
      (orAbort .access (files.entry path)).run ⟨output, errors, files⟩ := rfl
  rw [looked, found]
  rfl

theorem run_readFile {content : Bytes} (found : files.entry path = .ok (.file content)) :
    (readFile path).run ⟨output, errors, files⟩ = (.ok content, ⟨output, errors, files⟩) := by
  have looked : (readFile path).run ⟨output, errors, files⟩ =
      (orAbort .access (files.read path)).run ⟨output, errors, files⟩ := rfl
  rw [looked, FileSet.read_of_entry found]
  rfl

theorem exists_writeFile {place : Location} {text : Text} {content : Bytes}
    (writable : files.Writable path place) (spelled : text.utf8? = some content) :
    ∃ after, (writeFile path text).run ⟨output, errors, files⟩ = (.ok (), ⟨output, errors, after⟩) ∧
      files.Changes [(place, content)] after := by
  obtain ⟨after, written, changes⟩ := FileSet.exists_write writable content
  refine ⟨after, ?_, changes⟩
  have put : (putFile path content).run ⟨output, errors, files⟩ =
      (orAbort .access (files.write path content) >>=
        fun files => set (Run.mk output errors files) : Running Unit).run ⟨output, errors, files⟩ := rfl
  rw [writeFile, spelled]
  simp only [put, written]
  rfl

end Files

/-- A step that prints and writes nothing, whether it ends the run or not. -/
def Looks (step : Running α) : Prop := ∀ before, (step.run before).2 = before

namespace Looks

theorem pure (value : α) : Looks (Pure.pure value) := fun _ => rfl

theorem throw (ending : Ending) : Looks (MonadExcept.throw ending : Running α) := fun _ => rfl

theorem orAbort (wrap : ε → Abort) (result : Except ε α) : Looks (Running.orAbort wrap result) := by
  cases result with
  | ok value => exact pure value
  | error cause => exact throw _

theorem entry (path : Path) : Looks (Running.entry path) :=
  fun before => orAbort .access (before.files.entry path) before

theorem readFile (path : Path) : Looks (Running.readFile path) :=
  fun before => orAbort .access (before.files.read path) before

theorem bind (looks : Looks first) (nextLooks : ∀ value, Looks (next value)) : Looks (first >>= next) := by
  intro before
  have same := looks before
  match result : first.run before with
  | (.ok value, after) =>
    rw [result] at same
    rw [bind_of_ok result, nextLooks value after]
    exact same
  | (.error ending, after) =>
    rw [result] at same
    rw [bind_of_error result]
    exact same

end Looks

end Running

theorem loadKnowledge_looks (path : Option Path) : Running.Looks (loadKnowledge path) := by
  cases path with
  | none => exact .throw _
  | some path =>
    refine (Running.Looks.entry path).bind fun entry => ?_
    refine (Running.Looks.entry _).bind fun present => ?_
    split
    · exact .pure _
    · exact (Running.Looks.readFile _).bind fun content => .orAbort _ _

theorem loadKnowledge_missing {files : FileSet} {path : Path} (output : List OutputLine) (errors : String)
    (absent : files.entry path = .ok .missing) :
    (loadKnowledge (some path)).run ⟨output, errors, files⟩ = (.ok .empty, ⟨output, errors, files⟩) := by
  have noDirectory : ¬Entry.missing = .directory := nofun
  rw [loadKnowledge, Running.bind_of_ok (Running.run_entry output errors absent)]
  simp only [if_neg noDirectory]
  rw [Running.bind_of_ok (Running.run_entry output errors absent)]
  rfl

end PawnBytecode.CommandLine
