import PawnBytecode.Proofs.Bytes.Numbers

/-! Packed records. The fields of a record stand one behind the other; reading them in turn gives
their numbers, or stops at the first field that is cut off or holds a number it refuses. -/
namespace PawnBytecode

/-- A field of a record: where it stands, and the fault of a number that it refuses. -/
structure Field where
  name : String
  start : Nat
  width : Nat
  refuses : Nat → Option Fault

namespace Field

def free (name : String) (start width : Nat) : Field := ⟨name, start, width, fun _ => none⟩

def only (wrong : Int → Int → Fault) (expected actual : Nat) : Option Fault :=
  if actual = expected then none else some (wrong expected actual)

def number (data : Bytes) (field : Field) : Nat := data.numberAt field.width field.start

/-- The bytes of the field are all there, and spell a number that it may hold. -/
def Good (data : Bytes) (field : Field) : Prop :=
  field.start + field.width ≤ data.length ∧ field.refuses (field.number data) = none

inductive FaultAt (stage : Stage) (data : Bytes) (field : Field) : Fault → Prop where
  | cut (short : data.length < field.start + field.width) :
      FaultAt stage data field (.truncated stage field.name field.start)
  | refused {fault : Fault} (complete : field.start + field.width ≤ data.length)
      (found : field.refuses (field.number data) = some fault) : FaultAt stage data field fault

/-- The fault of the first field, in the order of the record, that is not good. -/
def FirstFault (stage : Stage) (data : Bytes) (fields : List Field) (fault : Fault) : Prop :=
  ∃ before field after, fields = before ++ field :: after ∧
    (∀ earlier ∈ before, earlier.Good data) ∧ field.FaultAt stage data fault

def fault? (stage : Stage) (data : Bytes) (field : Field) : Option Fault :=
  if field.start + field.width ≤ data.length then field.refuses (field.number data)
  else some (.truncated stage field.name field.start)

variable {stage : Stage} {data : Bytes} {field : Field} {fields : List Field} {fault : Fault}

theorem good_iff : field.Good data ↔ field.fault? stage data = none := by
  unfold Good fault?
  split
  · rename_i complete
    simp [complete]
  · rename_i short
    simp [short]

theorem faultAt_iff : field.FaultAt stage data fault ↔ field.fault? stage data = some fault := by
  constructor
  · intro wrong
    cases wrong with
    | cut short => rw [fault?, if_neg (Nat.not_le_of_lt short)]
    | refused complete found => rw [fault?, if_pos complete, found]
  · intro found
    unfold fault? at found
    split at found
    · rename_i complete
      exact .refused complete found
    · rename_i short
      obtain rfl := Option.some.inj found
      exact .cut (Nat.lt_of_not_le short)

theorem firstFault_iff :
    FirstFault stage data fields fault ↔ fields.findSome? (fault? stage data) = some fault := by
  rw [List.findSome?_eq_some_iff]
  constructor
  · rintro ⟨before, field, after, same, earlier, wrong⟩
    exact ⟨before, field, after, same, faultAt_iff.mp wrong,
      fun other member => good_iff.mp (earlier other member)⟩
  · rintro ⟨before, field, after, same, wrong, earlier⟩
    exact ⟨before, field, after, same, fun other member => good_iff.mpr (earlier other member),
      faultAt_iff.mpr wrong⟩

/-- What reading the fields of a record gives: the first fault, or else a value. -/
def outcome (stage : Stage) (data : Bytes) (fields : List Field) (value : α) : Except Fault α :=
  match fields.findSome? (fault? stage data) with
  | some fault => .error fault
  | none => .ok value

variable {α β : Type} {value found : α}

theorem outcome_eq_ok : outcome stage data fields value = .ok found ↔
    (∀ field ∈ fields, field.Good data) ∧ value = found := by
  unfold outcome
  split
  · rename_i fault failed
    simp only [reduceCtorEq, false_iff, not_and]
    intro good
    obtain ⟨field, member, wrong⟩ := List.exists_of_findSome?_eq_some failed
    rw [good_iff.mp (good field member)] at wrong
    cases wrong
  · rename_i passed
    rw [List.findSome?_eq_none_iff] at passed
    simp only [Except.ok.injEq, iff_and_self]
    intro _ field member
    exact good_iff.mpr (passed field member)

theorem outcome_eq_error :
    outcome stage data fields value = .error fault ↔ FirstFault stage data fields fault := by
  rw [firstFault_iff]
  unfold outcome
  split
  · rename_i found
    simp [found]
  · rename_i passed
    simp [passed]

theorem outcome_cons_of_good (good : field.Good data) :
    outcome stage data (field :: fields) value = outcome stage data fields value := by
  rw [outcome, outcome, List.findSome?_cons, good_iff.mp good]

theorem outcome_bind {change : α → Except Fault β} {changed : β} (same : change value = .ok changed) :
    outcome stage data fields value >>= change = outcome stage data fields changed := by
  unfold outcome
  split
  · rfl
  · exact same

variable {next : Nat → Reading α} {after : α × Cursor} {name : String} {start width : Nat}

/-- A field is taken, its number is judged, and the other fields follow. -/
theorem read_checked {refuses : Nat → Option Fault}
    (refused : ∀ fault, refuses (data.numberAt width start) = some fault →
      next (data.numberAt width start) (Cursor.seek stage data (start + width : Nat)) = .error fault)
    (allowed : refuses (data.numberAt width start) = none →
      next (data.numberAt width start) (Cursor.seek stage data (start + width : Nat)) =
        outcome stage data fields after) :
    (Cursor.number name width >>= next) (Cursor.seek stage data start) =
      outcome stage data (⟨name, start, width, refuses⟩ :: fields) after := by
  rw [outcome, List.findSome?_cons]
  by_cases complete : start + width ≤ data.length
  · have judged : fault? stage data ⟨name, start, width, refuses⟩ =
        refuses (data.numberAt width start) := if_pos complete
    rw [Reading.bind_of_ok (Cursor.number_seek complete name stage), judged]
    cases found : refuses (data.numberAt width start) with
    | some fault => exact refused fault found
    | none => exact allowed found
  · have cut : fault? stage data ⟨name, start, width, refuses⟩ = some (.truncated stage name start) :=
      if_neg complete
    rw [cut, Reading.bind_of_error (Cursor.number_seek_short (Nat.lt_of_not_le complete) name stage)]

/-- A field that may hold any number is taken, and the other fields follow. -/
theorem read_free (others : next (data.numberAt width start) (Cursor.seek stage data (start + width : Nat)) =
      outcome stage data fields after) :
    (Cursor.number name width >>= next) (Cursor.seek stage data start) =
      outcome stage data (free name start width :: fields) after := by
  refine read_checked ?_ fun _ => others
  intro fault found
  cases found

/-- A mark is taken and compared, and the other fields follow. -/
theorem read_only {wrong : Int → Int → Fault} {expected : Nat}
    (refused : ∀ actual : Nat, actual ≠ expected →
      next actual (Cursor.seek stage data (start + width : Nat)) = .error (wrong expected actual))
    (others : next expected (Cursor.seek stage data (start + width : Nat)) =
      outcome stage data fields after) :
    (Cursor.number name width >>= next) (Cursor.seek stage data start) =
      outcome stage data (⟨name, start, width, only wrong expected⟩ :: fields) after := by
  refine read_checked (fun fault found => ?_) fun found => ?_
  · obtain ⟨other, same⟩ := Option.ite_none_left_eq_some.mp found
    obtain rfl := Option.some.inj same
    exact refused _ other
  · have same : data.numberAt width start = expected := by
      simpa [only] using found
    rw [same]
    exact others

/-- The fields stand one behind the other from one place to another. -/
def Rows : Nat → List Field → Nat → Prop
  | start, [], stop => start = stop
  | start, field :: fields, stop => field.start = start ∧ Rows (start + field.width) fields stop

theorem Rows.le {start stop : Nat} (rows : Rows start fields stop) : start ≤ stop := by
  induction fields generalizing start with
  | nil => exact Nat.le_of_eq rows
  | cons field fields ih => exact Nat.le_trans (Nat.le_add_right ..) (ih rows.2)

/-- The numbers of the fields, written in their widths, are the bytes they were read from. -/
theorem Rows.flatMap_ofNat {start stop : Nat} (rows : Rows start fields stop)
    (complete : stop ≤ data.length) :
    fields.flatMap (fun field => Bytes.ofNat field.width (field.number data)) =
      (data.drop start).take (stop - start) := by
  induction fields generalizing start with
  | nil =>
    obtain rfl : start = stop := rows
    simp
  | cons field fields ih =>
    obtain ⟨rfl, rest⟩ := rows
    have within := rest.le
    have width : ((data.drop field.start).take field.width).length = field.width := by
      rw [List.length_take, List.length_drop]
      omega
    have own : Bytes.ofNat field.width (field.number data) = (data.drop field.start).take field.width := by
      have written := Bytes.ofNat_unsigned ((data.drop field.start).take field.width)
      rwa [width] at written
    have split : stop - field.start = field.width + (stop - (field.start + field.width)) := by omega
    rw [List.flatMap_cons, own, ih rest, split, List.take_add, List.drop_drop]

end Field

end PawnBytecode
