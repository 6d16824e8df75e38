import PawnBytecode.Proofs.Bytes.Numbers

/-! Runs of requests to a cursor. A request takes exactly the bytes it asks for or moves nothing, so the
answers of a run spell, one behind the other, the bytes between its start and where the cursor stands. -/
namespace PawnBytecode

namespace Bytes

variable {data : Bytes} {start middle stop : Int}

/-- The place of a bound: counted from the end of the buffer when negative, and never outside. -/
def place (data : Bytes) (bound : Int) : Nat :=
  if bound < 0 then (data.length + bound).toNat else min bound.toNat data.length

/-- The bytes from one bound up to another, none when the first is behind the second. -/
def between (data : Bytes) (start stop : Int) : Bytes :=
  (data.drop (data.place start)).take (data.place stop - data.place start)

theorem between_self (data : Bytes) (bound : Int) : data.between bound bound = [] := by
  simp [between]

theorem place_of_inside (positive : 0 ≤ start) (inside : start ≤ data.length) :
    data.place start = start.toNat := by
  rw [place, if_neg (by omega), Nat.min_eq_left (by omega)]

theorem between_of_inside (positive : 0 ≤ start) (ordered : start ≤ stop) (inside : stop ≤ data.length) :
    data.between start stop = (data.drop start.toNat).take (stop - start).toNat := by
  have width : stop.toNat - start.toNat = (stop - start).toNat := by omega
  rw [between, place_of_inside positive (Int.le_trans ordered inside),
    place_of_inside (Int.le_trans positive ordered) inside, width]

theorem place_le_place (positive : 0 ≤ start) (ordered : start ≤ stop) :
    data.place start ≤ data.place stop := by
  rw [place, place, if_neg (by omega), if_neg (by omega)]
  omega

/-- Two ranges that meet are one. -/
theorem between_append (positive : 0 ≤ start) (first : start ≤ middle) (second : middle ≤ stop) :
    data.between start middle ++ data.between middle stop = data.between start stop := by
  have lower : data.place start ≤ data.place middle := place_le_place positive first
  have upper : data.place middle ≤ data.place stop := place_le_place (Int.le_trans positive first) second
  have width : data.place stop - data.place start =
      (data.place middle - data.place start) + (data.place stop - data.place middle) := by omega
  rw [between, between, between, width, List.take_add, List.drop_drop, Nat.add_sub_cancel' lower]

/-- The numbers that `width` bytes spell, in two's complement when signed. -/
def Spells (width : Nat) (isSigned : Bool) (value : Int) : Prop :=
  if isSigned then -256 ^ width ≤ 2 * value ∧ 2 * value < 256 ^ width
  else 0 ≤ value ∧ value < 256 ^ width

theorem spells_unsigned (bytes : Bytes) : Spells bytes.length false (unsigned bytes) := by
  have bound := Int.ofNat_lt.mpr (unsigned_lt bytes)
  rw [Int.natCast_pow] at bound
  exact ⟨Int.natCast_nonneg _, bound⟩

theorem spells_signed (bytes : Bytes) : Spells bytes.length true (signed bytes) := by
  have positive : 0 < 256 ^ bytes.length := Nat.pow_pos (by decide)
  have lower := @Int.le_bmod (unsigned bytes) _ positive
  have upper := @Int.bmod_lt (unsigned bytes) _ positive
  have same : ((256 ^ bytes.length : Nat) : Int) = 256 ^ bytes.length := Int.natCast_pow 256 _
  rw [← signed_eq, same] at lower upper
  rw [Spells, if_pos rfl]
  omega

end Bytes

namespace Cursor

def Step.field? : Step → Option String
  | .atEnd => none
  | .u8 field | .u16 field | .u32 field | .bytes field _ | .cell field _ _ => some field

/-- A request for bytes: the field that it names, and what it makes of the bytes. -/
inductive Step.Asks : Step → String → (Bytes → Answer) → Prop where
  | u8 (field : String) : Asks (.u8 field) field fun bytes => .number (Bytes.unsigned bytes)
  | u16 (field : String) : Asks (.u16 field) field fun bytes => .number (Bytes.unsigned bytes)
  | u32 (field : String) : Asks (.u32 field) field fun bytes => .number (Bytes.unsigned bytes)
  | bytes (field : String) (size : Int) : Asks (.bytes field size) field .bytes
  | cell (field : String) (size : Int) (isSigned : Bool) : Asks (.cell field size isSigned) field
      fun bytes => .number (if isSigned then Bytes.signed bytes else Bytes.unsigned bytes)

/-- The answers that a request can get. -/
def Step.Admits : Step → Answer → Prop
  | .atEnd, .flag _ => True
  | .u8 _, .number value => Bytes.Spells 1 false value
  | .u16 _, .number value => Bytes.Spells 2 false value
  | .u32 _, .number value => Bytes.Spells 4 false value
  | .bytes _ size, .bytes value => value.length = size
  | .cell _ size isSigned, .number value => Bytes.Spells size.toNat isSigned value
  | _, _ => False

def Step.taken (step : Step) : Except Fault Answer → Bytes
  | .ok answer => answer.spelled step.size
  | .error _ => []

namespace Step.Asks

variable {step : Step} {field : String} {reply : Bytes → Answer} {bytes : Bytes}

theorem field?_eq (asks : step.Asks field reply) : step.field? = some field := by
  cases asks <;> rfl

theorem run_eq (asks : step.Asks field reply) :
    step.run = do return reply (← take field step.size) := by
  cases asks <;> simp [Step.run, Cursor.u8, Cursor.u16, Cursor.u32, Cursor.cell, number, Step.size]

/-- An answer spells the bytes it was made of. -/
theorem spelled_eq (asks : step.Asks field reply) (length : (bytes.length : Int) = step.size) :
    (reply bytes).spelled step.size = bytes := by
  have width : step.size.toNat = bytes.length := by omega
  have unsigned : Bytes.ofInt bytes.length (Bytes.unsigned bytes) = bytes := by
    rw [Bytes.ofInt_natCast (Bytes.unsigned_lt bytes), Bytes.ofNat_unsigned]
  cases asks with
  | bytes field size => rfl
  | cell field size isSigned =>
    rw [Answer.spelled, width]
    cases isSigned with
    | false => exact unsigned
    | true => exact Bytes.ofInt_signed bytes
  | u8 | u16 | u32 =>
    rw [Answer.spelled, width]
    exact unsigned

theorem admits (asks : step.Asks field reply) (length : (bytes.length : Int) = step.size) :
    step.Admits (reply bytes) := by
  have width : step.size.toNat = bytes.length := by omega
  have unsigned := Bytes.spells_unsigned bytes
  rw [← width] at unsigned
  cases asks with
  | bytes field size => exact length
  | cell field size isSigned =>
    cases isSigned with
    | false => exact unsigned
    | true =>
      have signed := Bytes.spells_signed bytes
      rwa [← width] at signed
  | u8 | u16 | u32 => exact unsigned

end Step.Asks

theorem Step.eq_atEnd_or_asks (step : Step) : step = .atEnd ∨ ∃ field reply, step.Asks field reply := by
  cases step with
  | atEnd => exact .inl rfl
  | u8 field => exact .inr ⟨_, _, .u8 field⟩
  | u16 field => exact .inr ⟨_, _, .u16 field⟩
  | u32 field => exact .inr ⟨_, _, .u32 field⟩
  | bytes field size => exact .inr ⟨_, _, .bytes field size⟩
  | cell field size isSigned => exact .inr ⟨_, _, .cell field size isSigned⟩

section Seek

variable {data : Bytes} {offset size : Int} (stage : Stage) (field : String)

theorem take_seek (positive : 0 ≤ size) (inside : 0 ≤ offset) (complete : offset + size ≤ data.length) :
    take field size (seek stage data offset) =
      .ok (data.between offset (offset + size), seek stage data (offset + size)) := by
  have extent : offset + size - offset = size := by omega
  rw [Bytes.between_of_inside inside (by omega) complete, extent]
  obtain ⟨width, rfl⟩ := Int.eq_ofNat_of_zero_le positive
  obtain ⟨place, rfl⟩ := Int.eq_ofNat_of_zero_le inside
  have enough : width ≤ (data.drop place).length := by
    rw [List.length_drop]
    omega
  rw [← Int.natCast_add, seek_of_le (by omega), seek_of_le (by omega), take_inside stage field place enough,
    List.drop_drop]
  rfl

theorem take_seek_short (missing : ¬(0 ≤ size ∧ 0 ≤ offset ∧ offset + size ≤ data.length)) :
    take field size (seek stage data offset) = .error (.truncated stage field offset) := by
  by_cases inside : 0 ≤ offset ∧ offset ≤ data.length
  · have lacks : ¬(0 ≤ size ∧ ((data.drop offset.toNat).take size.toNat).length = size.toNat) := by
      rw [List.length_take, List.length_drop]
      omega
    rw [seek, if_pos inside]
    exact if_neg lacks
  · rw [seek, if_neg inside]
    rfl

theorem atEnd_seek (data : Bytes) (offset : Int) :
    (seek stage data offset).atEnd = decide (data.length ≤ offset) := by
  by_cases inside : 0 ≤ offset ∧ offset ≤ data.length
  · rw [seek, if_pos inside, atEnd, Bool.eq_iff_iff, List.isEmpty_iff_length_eq_zero, decide_eq_true_iff,
      List.length_drop]
    omega
  · have past : 0 ≤ offset ↔ data.length ≤ offset := by omega
    rw [seek, if_neg inside]
    exact decide_eq_decide.mpr past

end Seek

/-- What comes of a request at an offset of a buffer, and the offset behind it. -/
structure Served (stage : Stage) (data : Bytes) (step : Step) (offset : Int)
    (result : Except Fault Answer) (after : Int) : Prop where
  asked : step = .atEnd → result = .ok (.flag (decide (data.length ≤ offset)))
  succeeds : ∀ field, step.field? = some field → ((∃ answer, result = .ok answer) ↔
    0 ≤ step.size ∧ 0 ≤ offset ∧ offset + step.size ≤ data.length)
  /-- A failure tells the field and the offset, and moves nothing. -/
  fails : ∀ fault, result = .error fault → after = offset ∧
    ∃ field, step.field? = some field ∧ fault = .truncated stage field offset
  /-- An answer spells the bytes that the cursor moves past. -/
  answers : ∀ answer, result = .ok answer → after = offset + step.size ∧ step.Admits answer ∧
    answer.spelled step.size = data.between offset after

namespace Served

variable {stage : Stage} {data : Bytes} {step : Step} {offset after : Int} {field : String}
  {reply : Bytes → Answer} {result : Except Fault Answer}

theorem of_atEnd (stage : Stage) (data : Bytes) (offset : Int) :
    Served stage data .atEnd offset (.ok (.flag (decide (data.length ≤ offset)))) offset where
  asked _ := rfl
  succeeds field named := by cases named
  fails fault failed := by cases failed
  answers answer given := by
    obtain rfl := Except.ok.inj given
    exact ⟨(Int.add_zero offset).symm, trivial, (data.between_self offset).symm⟩

theorem of_there (asks : step.Asks field reply)
    (there : 0 ≤ step.size ∧ 0 ≤ offset ∧ offset + step.size ≤ data.length) :
    Served stage data step offset (.ok (reply (data.between offset (offset + step.size))))
      (offset + step.size) := by
  obtain ⟨positive, inside, complete⟩ := there
  have length : ((data.between offset (offset + step.size)).length : Int) = step.size := by
    rw [Bytes.between_of_inside inside (by omega) complete, List.length_take, List.length_drop]
    omega
  constructor
  case asked =>
    rintro rfl
    cases asks
  case succeeds => exact fun _ _ => ⟨fun _ => ⟨positive, inside, complete⟩, fun _ => ⟨_, rfl⟩⟩
  case fails =>
    intro fault failed
    cases failed
  case answers =>
    intro answer given
    obtain rfl := Except.ok.inj given
    exact ⟨rfl, asks.admits length, asks.spelled_eq length⟩

theorem of_missing (asks : step.Asks field reply)
    (missing : ¬(0 ≤ step.size ∧ 0 ≤ offset ∧ offset + step.size ≤ data.length)) :
    Served stage data step offset (.error (.truncated stage field offset)) offset where
  asked same := by
    subst same
    cases asks
  succeeds _ _ := by simp [missing]
  fails fault failed := by
    obtain rfl := Except.error.inj failed
    exact ⟨rfl, field, asks.field?_eq, rfl⟩
  answers answer given := by cases given

theorem moved (served : Served stage data step offset result after) :
    after = offset ∨ 0 ≤ offset ∧ offset ≤ after ∧ after ≤ data.length := by
  cases result with
  | error fault => exact .inl (served.fails fault rfl).1
  | ok answer =>
    have past := (served.answers answer rfl).1
    rcases step.eq_atEnd_or_asks with rfl | ⟨field, reply, asks⟩
    · exact .inl (past.trans (Int.add_zero offset))
    · have there := (served.succeeds field asks.field?_eq).mp ⟨answer, rfl⟩
      omega

theorem forward (served : Served stage data step offset result after) : offset ≤ after := by
  have moved := served.moved
  omega

/-- The bytes that a request takes stand between where it finds the cursor and where it leaves it. -/
theorem taken_eq (served : Served stage data step offset result after) :
    step.taken result = data.between offset after := by
  cases result with
  | error fault =>
    rw [(served.fails fault rfl).1, data.between_self]
    rfl
  | ok answer => exact (served.answers answer rfl).2.2

end Served

/-- A request finds the cursor at an offset of a buffer and leaves it at another one of the same buffer. -/
theorem exists_served (stage : Stage) (data : Bytes) (step : Step) (offset : Int) :
    ∃ result after, Served stage data step offset result after ∧
      ∀ steps, run (step :: steps) (seek stage data offset) =
        (result, seek stage data after) :: run steps (seek stage data after) := by
  rcases step.eq_atEnd_or_asks with rfl | ⟨field, reply, asks⟩
  · refine ⟨_, _, .of_atEnd stage data offset, fun steps => ?_⟩
    rw [← atEnd_seek]
    rfl
  · by_cases there : 0 ≤ step.size ∧ 0 ≤ offset ∧ offset + step.size ≤ data.length
    · have done : step.run (seek stage data offset) =
          .ok (reply (data.between offset (offset + step.size)), seek stage data (offset + step.size)) := by
        rw [asks.run_eq, Reading.bind_of_ok (take_seek stage field there.1 there.2.1 there.2.2)]
        rfl
      refine ⟨_, _, .of_there asks there, fun steps => ?_⟩
      rw [run, done]
    · have failed : step.run (seek stage data offset) = .error (.truncated stage field offset) := by
        rw [asks.run_eq, Reading.bind_of_error (take_seek_short stage field there)]
      refine ⟨_, _, .of_missing asks there, fun steps => ?_⟩
      rw [run, failed]

def taken (steps : List Step) (outcomes : List (Except Fault Answer × Cursor)) : Bytes :=
  (List.zipWith (fun step outcome => step.taken outcome.1) steps outcomes).flatten

/-- Where the cursor stands before the first request and behind each of them. -/
def offsets (steps : List Step) (cursor : Cursor) : List Int :=
  cursor.offset :: (run steps cursor).map (·.2.offset)

def stop (steps : List Step) (cursor : Cursor) : Int :=
  ((run steps cursor).map (·.2.offset)).getLastD cursor.offset

theorem taken_cons (step : Step) (steps : List Step) (result : Except Fault Answer) (cursor : Cursor)
    (outcomes : List (Except Fault Answer × Cursor)) :
    taken (step :: steps) ((result, cursor) :: outcomes) = step.taken result ++ taken steps outcomes := rfl

theorem stop_cons {step : Step} {steps : List Step} {cursor next : Cursor} {result : Except Fault Answer}
    (runs : run (step :: steps) cursor = (result, next) :: run steps next) :
    stop (step :: steps) cursor = stop steps next := by
  rw [stop, runs, List.map_cons, List.getLastD_cons]
  rfl

/-- The account of a run of requests that starts anywhere, inside the buffer or not. -/
structure Accounts (stage : Stage) (data : Bytes) (start : Int) (steps : List Step) : Prop where
  length : (run steps (seek stage data start)).length = steps.length
  forward : (offsets steps (seek stage data start)).Pairwise (· ≤ ·)
  /-- Each request is served where the ones before it have left the cursor. -/
  served : ∀ (index : Nat) step, steps[index]? = some step → ∃ offset result after,
    (offsets steps (seek stage data start))[index]? = some offset ∧
      (run steps (seek stage data start))[index]? = some (result, seek stage data after) ∧
      Served stage data step offset result after
  spelled : taken steps (run steps (seek stage data start)) =
    data.between start (stop steps (seek stage data start))
  /-- From a start outside the buffer, every request for bytes fails there. -/
  outside : start < 0 ∨ data.length < start → ∀ (index : Nat) step field, steps[index]? = some step →
    step.field? = some field → (run steps (seek stage data start))[index]? =
      some (.error (.truncated stage field start), seek stage data start)

section Run

variable {stage : Stage} {data : Bytes} {start : Int} {steps : List Step}

theorem length_run (stage : Stage) (data : Bytes) (start : Int) (steps : List Step) :
    (run steps (seek stage data start)).length = steps.length := by
  induction steps generalizing start with
  | nil => rfl
  | cons step steps ih =>
    obtain ⟨result, after, _, runs⟩ := exists_served stage data step start
    rw [runs, List.length_cons, ih, List.length_cons]

theorem pairwise_offsets (stage : Stage) (data : Bytes) (start : Int) (steps : List Step) :
    (offsets steps (seek stage data start)).Pairwise (· ≤ ·) := by
  induction steps generalizing start with
  | nil => exact List.pairwise_singleton ..
  | cons step steps ih =>
    obtain ⟨result, after, served, runs⟩ := exists_served stage data step start
    rw [offsets, runs]
    refine .cons (fun offset member => Int.le_trans served.forward ?_) (ih after)
    rcases List.mem_cons.mp member with rfl | later
    · exact Int.le_refl _
    · exact List.rel_of_pairwise_cons (ih after) later

theorem le_stop (stage : Stage) (data : Bytes) (start : Int) (steps : List Step) :
    start ≤ stop steps (seek stage data start) := by
  induction steps generalizing start with
  | nil => exact Int.le_refl start
  | cons step steps ih =>
    obtain ⟨result, after, served, runs⟩ := exists_served stage data step start
    rw [stop_cons (runs steps)]
    exact Int.le_trans served.forward (ih after)

theorem exists_served_of_getElem? {index : Nat} {step : Step} (found : steps[index]? = some step) :
    ∃ offset result after, (offsets steps (seek stage data start))[index]? = some offset ∧
      (run steps (seek stage data start))[index]? = some (result, seek stage data after) ∧
      Served stage data step offset result after := by
  induction steps generalizing start index with
  | nil => cases found
  | cons first steps ih =>
    obtain ⟨result, after, served, runs⟩ := exists_served stage data first start
    rw [offsets, runs]
    cases index with
    | zero =>
      obtain rfl := Option.some.inj found
      exact ⟨start, result, after, rfl, rfl, served⟩
    | succ index => exact ih found

theorem taken_run (stage : Stage) (data : Bytes) (start : Int) (steps : List Step) :
    taken steps (run steps (seek stage data start)) =
      data.between start (stop steps (seek stage data start)) := by
  induction steps generalizing start with
  | nil => exact (data.between_self start).symm
  | cons step steps ih =>
    obtain ⟨result, after, served, runs⟩ := exists_served stage data step start
    rw [stop_cons (runs steps), runs, taken_cons, served.taken_eq, ih]
    -- A cursor outside the buffer stays where it is, and nothing stands between a bound and itself.
    rcases served.moved with rfl | ⟨inside, further, _⟩
    · rw [data.between_self, List.nil_append]
    · exact Bytes.between_append inside further (le_stop stage data after steps)

theorem run_outside (outside : start < 0 ∨ data.length < start) {index : Nat} {step : Step}
    {field : String} (found : steps[index]? = some step) (named : step.field? = some field) :
    (run steps (seek stage data start))[index]? =
      some (.error (.truncated stage field start), seek stage data start) := by
  induction steps generalizing index with
  | nil => cases found
  | cons first steps ih =>
    obtain ⟨result, after, served, runs⟩ := exists_served stage data first start
    obtain rfl : after = start := by
      have moved := served.moved
      omega
    rw [runs]
    cases index with
    | zero =>
      obtain rfl := Option.some.inj found
      cases result with
      | ok answer =>
        have there := (served.succeeds field named).mp ⟨answer, rfl⟩
        omega
      | error fault =>
        obtain ⟨_, other, again, rfl⟩ := served.fails fault rfl
        obtain rfl := Option.some.inj (named.symm.trans again)
        rfl
    | succ index => exact ih found

end Run

/-- A cursor accounts for every byte. -/
theorem run_accounts (stage : Stage) (data : Bytes) (start : Int) (steps : List Step) :
    Accounts stage data start steps where
  length := length_run stage data start steps
  forward := pairwise_offsets stage data start steps
  served _ _ := exists_served_of_getElem?
  spelled := taken_run stage data start steps
  outside outside _ _ _ := run_outside outside

/-- Reads that fail between others, of a byte, of no byte at all and of one more than are left. -/
example : (run [.u8 "a", .u32 "b", .cell "c" 0 true, .bytes "d" (-1), .cell "e" 2 true, .atEnd]
    (seek .image [1, 0xFE, 0xFF] 0)).map (·.1) =
      [.ok (.number 1), .error (.truncated .image "b" 1), .ok (.number 0),
        .error (.truncated .image "d" 1), .ok (.number (-2)), .ok (.flag true)] := by cbv

end Cursor

end PawnBytecode
