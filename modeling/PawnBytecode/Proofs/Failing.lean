import PawnBytecode.Bytes.Cursor
import PawnBytecode.Failure
import PawnBytecode.Proofs.Text.Numeral

namespace PawnBytecode

/-- A result that is a good value, or fails with an allowed error. -/
def Ends (good : α → Prop) (allowed : ε → Prop) : Except ε α → Prop
  | .ok value => good value
  | .error cause => allowed cause

namespace Ends

variable {ε α β σ : Type} {good : α → Prop} {allowed : ε → Prop}

theorem of_ok {result : Except ε α} {value : α} (ends : Ends good allowed result)
    (found : result = .ok value) : good value := by
  rw [found] at ends
  exact ends

theorem of_error {result : Except ε α} {cause : ε} (ends : Ends good allowed result)
    (failed : result = .error cause) : allowed cause := by
  rw [failed] at ends
  exact ends

theorem mono {better : α → Prop} {other : ε → Prop} {result : Except ε α}
    (ends : Ends good allowed result) (value : ∀ value, good value → better value)
    (error : ∀ cause, allowed cause → other cause) : Ends better other result := by
  cases result with
  | ok found => exact value found ends
  | error cause => exact error cause ends

theorem bind {next : α → Except ε β} {better : β → Prop} {first : Except ε α}
    (firstEnds : Ends good allowed first)
    (nextEnds : ∀ value, good value → Ends better allowed (next value)) :
    Ends better allowed (first >>= next) := by
  cases first with
  | error cause => exact firstEnds
  | ok value => exact nextEnds value firstEnds

theorem mapM {visit : β → Except ε α} {items : List β}
    (ends : ∀ item ∈ items, Ends good allowed (visit item)) :
    Ends (fun values => ∀ value ∈ values, good value) allowed (items.mapM visit) := by
  induction items with
  | nil =>
    intro value member
    cases member
  | cons item items ih =>
    rw [List.mapM_cons]
    apply bind (ends item List.mem_cons_self)
    intro value first
    apply bind (ih fun item member => ends item (List.mem_cons_of_mem _ member))
    intro values others found member
    rcases List.mem_cons.mp member with rfl | member
    · exact first
    · exact others found member

/-- What every step keeps holds at the end of a pass. -/
theorem foldlM {step : σ → β → Except ε σ} {kept : σ → Prop} {items : List β}
    (ends : ∀ item ∈ items, ∀ state, kept state → Ends kept allowed (step state item)) {start : σ}
    (first : kept start) : Ends kept allowed (items.foldlM step start) := by
  induction items generalizing start with
  | nil => exact first
  | cons item items ih =>
    rw [List.foldlM_cons]
    apply bind (ends item List.mem_cons_self start first)
    intro state middle
    exact ih (fun item member => ends item (List.mem_cons_of_mem _ member)) middle

end Ends

theorem exists_of_bind {ε α β : Type} {first : Except ε α} {next : α → Except ε β} {value : β}
    (done : first >>= next = .ok value) : ∃ middle, first = .ok middle ∧ next middle = .ok value := by
  cases first with
  | error cause => cases done
  | ok middle => exact ⟨middle, rfl, done⟩

def failed? {ε α : Type} : Except ε α → Option ε
  | .ok _ => none
  | .error cause => some cause

theorem failed?_eq_none {ε α : Type} {result : Except ε α} :
    failed? result = none ↔ ∃ value, result = .ok value := by
  cases result <;> simp [failed?]

theorem failed?_bind {ε α β : Type} {first : Except ε α} {next : α → Except ε β}
    (total : ∀ value, failed? (next value) = none) : failed? (first >>= next) = failed? first := by
  cases first with
  | error cause => rfl
  | ok value => exact total value

theorem run_bind_of_ok {ε σ α β : Type} {first : StateT σ (Except ε) α} {next : α → StateT σ (Except ε) β}
    {state after : σ} {value : α} (done : first state = .ok (value, after)) :
    (first >>= next) state = next value after := by
  simp only [bind, StateT.bind, done, Except.bind]

theorem run_bind_of_error {ε σ α β : Type} {first : StateT σ (Except ε) α}
    {next : α → StateT σ (Except ε) β} {state : σ} {cause : ε} (failed : first state = .error cause) :
    (first >>= next) state = .error cause := by
  simp only [bind, StateT.bind, failed, Except.bind]

theorem Failure.eq_ok_of_lift {α : Type} {result : Except Fault α} {value : α}
    (lifted : lift result = .ok value) : result = .ok value := by
  cases result with
  | error cause => cases lifted
  | ok found => exact congrArg _ (Except.ok.inj lifted)

open Numeral (Writable)

/-- A fault whose words can be written. -/
def Fault.Brief (fault : Fault) : Prop := ∀ number ∈ fault.decimals, Writable number

instance (fault : Fault) : Decidable fault.Brief := inferInstanceAs (Decidable (∀ _ ∈ _, _))

theorem Fault.brief_of_single {fault : Fault} {number : Int} (single : fault.decimals = [number]) :
    fault.Brief ↔ Writable number := by
  rw [Brief, single, List.forall_mem_singleton]

theorem Fault.brief_of_pair {fault : Fault} {first second : Int} (pair : fault.decimals = [first, second])
    (firstShort : Writable first) (secondShort : Writable second) : fault.Brief := by
  rw [Brief, pair, List.forall_mem_cons, List.forall_mem_singleton]
  exact ⟨firstShort, secondShort⟩

theorem Fault.brief_sectionIndex {index : Int} {count : Nat} (few : count < 2 ^ 64) :
    (Fault.sectionIndex index count).Brief ↔ Writable index := by
  simp [Brief, decimals, Numeral.writable_natCast few]

abbrev Briefly {α : Type} (result : Except Fault α) : Prop := Ends (fun _ => True) Fault.Brief result

namespace Failure

variable {α : Type} {numbers : List Int} {result : Except Failure α}

theorem writing_of_short (short : ∀ number ∈ numbers, Writable number) : writing numbers result = result :=
  if_pos short

theorem report_of_brief {fault : Fault} (brief : fault.Brief) :
    report (.error fault : Except Fault α) = .error (.fault fault) := if_pos brief

theorem report_of_long {fault : Fault} (long : ¬fault.Brief) :
    report (.error fault : Except Fault α) = .error .tooManyDigits := if_neg long

/-- Nothing is lost in a report that can be put into words. -/
theorem report_of_briefly {result : Except Fault α} (brief : Briefly result) : report result = lift result := by
  cases result with
  | ok value => rfl
  | error fault => exact report_of_brief brief

theorem exists_fault_of_report {result : Except Fault α} {failure : Failure}
    (reported : report result = .error failure) (short : failure ≠ .tooManyDigits) :
    ∃ fault, failure = .fault fault ∧ result = .error fault := by
  cases result with
  | ok value => cases reported
  | error fault =>
    by_cases brief : fault.Brief
    · rw [report_of_brief brief] at reported
      cases reported
      exact ⟨fault, rfl, rfl⟩
    · rw [report_of_long brief] at reported
      cases reported
      exact absurd rfl short

theorem report_eq_tooManyDigits {result : Except Fault α} :
    report result = .error .tooManyDigits ↔ ¬Briefly result := by
  cases result with
  | ok value => exact ⟨nofun, fun long => absurd trivial long⟩
  | error cause =>
    by_cases brief : cause.Brief
    · rw [report_of_brief brief]
      exact ⟨nofun, fun long => absurd brief long⟩
    · rw [report_of_long brief]
      exact ⟨fun _ => brief, fun _ => rfl⟩

end Failure

namespace Reading

variable {α β : Type} {stage : Stage}

/-- From a cursor of the stage, a reading stays at the stage or fails there. -/
def StaysAt (stage : Stage) (reading : Reading α) : Prop :=
  ∀ cursor, cursor.stage = stage →
    Ends (fun read => read.2.stage = stage) (fun fault => fault.stage = stage) (reading cursor)

theorem StaysAt.pure (value : α) : StaysAt stage (Pure.pure value : Reading α) := by
  intro cursor same
  exact same

theorem StaysAt.bind {first : Reading α} {next : α → Reading β} (firstStays : StaysAt stage first)
    (nextStays : ∀ value, StaysAt stage (next value)) : StaysAt stage (first >>= next) := by
  intro cursor same
  apply (firstStays cursor same).bind
  intro read stays
  exact nextStays read.1 read.2 stays

theorem StaysAt.throw {fault : Fault} (same : fault.stage = stage) :
    StaysAt stage (MonadExcept.throw fault : Reading α) := by
  intro cursor _
  exact same

theorem StaysAt.lift {result : Except Fault α}
    (ends : Ends (fun _ => True) (fun fault => fault.stage = stage) result) :
    StaysAt stage (liftM result : Reading α) := by
  intro cursor same
  cases result with
  | error cause => exact ends
  | ok found => exact same

end Reading

namespace Cursor

variable {stage : Stage}

theorem take_staysAt (field : String) (size : Int) : Reading.StaysAt stage (take field size) := by
  intro cursor same
  unfold take
  cases cursor.rest with
  | none => exact same
  | some rest =>
    by_cases enough : 0 ≤ size ∧ (rest.take size.toNat).length = size.toNat
    · simp only [if_pos enough]
      exact same
    · simp only [if_neg enough]
      exact same

theorem number_staysAt (field : String) (width : Nat) : Reading.StaysAt stage (number field width) :=
  (take_staysAt field width).bind fun _ => .pure _

theorem u8_staysAt (field : String) : Reading.StaysAt stage (u8 field) := number_staysAt field 1

theorem u16_staysAt (field : String) : Reading.StaysAt stage (u16 field) := number_staysAt field 2

theorem u32_staysAt (field : String) : Reading.StaysAt stage (u32 field) := number_staysAt field 4

end Cursor

end PawnBytecode
