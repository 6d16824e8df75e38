import Mathlib.Algebra.GroupWithZero.Nat
import Mathlib.Data.List.Forall2
import PawnBytecode.Proofs.Failing
import PawnBytecode.Proofs.Tree.Regrouping

/-! Instructions accounted for. Every instruction of a stream opens a function, closes a stretch, stands in
a body, or is told to be dropped where the next function opens or the stream ends. -/
namespace PawnBytecode

def Instruction.IsBoundary (instruction : Instruction) : Prop :=
  instruction.opcode.opensFunction = true ∨ instruction.opcode.closesStretch = true

namespace Tree

def Drop.count : Drop → Nat
  | beforeEntry count _ => count
  | trailing count => count

/-- Instructions that have waited since the last boundary before them, or since the start. -/
structure WaitsBehind (before waiting : List Instruction) : Prop where
  bounded : ∀ last ∈ before.getLast?, last.IsBoundary
  inner : ∀ instruction ∈ waiting, ¬instruction.IsBoundary

/-- What is dropped at a place of a stream: all that waits there, when a function opens or the stream ends. -/
inductive DroppedAt (instructions : List Instruction) : Nat → Drop → Prop where
  | entry {before waiting after : List Instruction} {entry : Instruction}
      (stream : instructions = before ++ waiting ++ entry :: after) (waits : WaitsBehind before waiting)
      (opens : entry.opcode.opensFunction = true) :
      DroppedAt instructions (before ++ waiting).length (.beforeEntry waiting.length entry.offset)
  | finish {before waiting : List Instruction} (stream : instructions = before ++ waiting)
      (waits : WaitsBehind before waiting) :
      DroppedAt instructions instructions.length (.trailing waiting.length)

/-- Drops of a stream in the order of their places, no place twice and all of them below a bound. -/
def ToldBelow (bound : Nat) (instructions : List Instruction) (drops : List Drop) : Prop :=
  ∃ places : List Nat, places.Pairwise (· < ·) ∧ (∀ place ∈ places, place < bound) ∧
    List.Forall₂ (DroppedAt instructions) places drops

variable {symbols : SymbolTable} {prior : List Instruction} {instruction : Instruction} {drops : List Drop}

theorem DroppedAt.append {place : Nat} {drop : Drop} (dropped : DroppedAt prior place drop)
    (inside : place < prior.length) (rest : List Instruction) : DroppedAt (prior ++ rest) place drop := by
  cases dropped with
  | @entry before waiting after entry stream waits opens =>
    have longer : prior ++ rest = before ++ waiting ++ entry :: (after ++ rest) := by
      rw [stream, List.append_assoc, List.cons_append]
    exact .entry longer waits opens
  | finish _ _ => exact absurd inside (Nat.lt_irrefl _)

theorem ToldBelow.append (told : ToldBelow prior.length prior drops) (rest : List Instruction) :
    ToldBelow prior.length (prior ++ rest) drops := by
  obtain ⟨places, ordered, below, dropped⟩ := told
  refine ⟨places, ordered, below, ?_⟩
  exact ((List.forall₂_and_left _ _).mpr ⟨below, dropped⟩).imp fun _ _ found =>
    found.2.append found.1 rest

/-- One more drop is told at a place behind all others. -/
theorem ToldBelow.snoc {place : Nat} {drop : Drop} (told : ToldBelow place prior drops)
    (dropped : DroppedAt prior place drop) : ToldBelow (place + 1) prior (drops ++ [drop]) := by
  obtain ⟨places, ordered, below, others⟩ := told
  refine ⟨places ++ [place], ?_, ?_, List.rel_append others (.cons dropped .nil)⟩
  · exact List.pairwise_append.mpr ⟨ordered, List.pairwise_singleton .., by simpa using below⟩
  · intro other member
    rcases List.mem_append.mp member with before | last
    · exact Nat.lt_succ_of_lt (below other before)
    · exact List.mem_singleton.mp last ▸ Nat.lt_succ_self place

theorem ToldBelow.mono {bound more : Nat} (told : ToldBelow bound prior drops) (le : bound ≤ more) :
    ToldBelow more prior drops := by
  obtain ⟨places, ordered, below, dropped⟩ := told
  exact ⟨places, ordered, fun place member => Nat.lt_of_lt_of_le (below place member) le, dropped⟩

/-- The drops after one more of what waits; where nothing waits, nothing is told. -/
def tell (waiting : List Instruction) (drop : Drop) (drops : List Drop) : List Drop :=
  if waiting.isEmpty then drops else drop :: drops

section Tell

variable {waiting : List Instruction} {drop : Drop}

theorem sum_tell (same : drop.count = waiting.length) (drops : List Drop) :
    ((tell waiting drop drops).map Drop.count).sum = (drops.map Drop.count).sum + waiting.length := by
  cases waiting with
  | nil => rfl
  | cons first rest =>
    rw [← same, Nat.add_comm]
    rfl

theorem positive_tell (same : drop.count = waiting.length) (positive : ∀ drop ∈ drops, 0 < drop.count) :
    ∀ told ∈ tell waiting drop drops, 0 < told.count := by
  cases waiting with
  | nil => exact positive
  | cons first rest =>
    have some : 0 < drop.count := by simp [same]
    exact List.forall_mem_cons.mpr ⟨some, positive⟩

theorem ToldBelow.tell {place : Nat} (told : ToldBelow place prior drops.reverse)
    (dropped : DroppedAt prior place drop) (waiting : List Instruction) :
    ToldBelow (place + 1) prior (tell waiting drop drops).reverse := by
  cases waiting with
  | nil => exact told.mono (Nat.le_succ place)
  | cons first rest =>
    rw [Tree.tell, List.isEmpty_cons, if_neg Bool.false_ne_true, List.reverse_cons]
    exact told.snoc dropped

end Tell

namespace Progress

def held (progress : Progress) : Nat :=
  (progress.functions.map (·.body.length)).sum + (progress.drops.map Drop.count).sum +
    progress.waiting.length

theorem drops_openFunction (progress : Progress) (symbols : SymbolTable) (offset : Int) :
    (progress.openFunction symbols offset).drops =
      tell progress.waiting (.beforeEntry progress.waiting.length offset) progress.drops := rfl

theorem drops_finish (progress : Progress) : progress.finish.drops =
    (tell progress.waiting (.trailing progress.waiting.length) progress.drops).reverse := rfl

theorem held_openFunction (progress : Progress) (symbols : SymbolTable) (offset : Int) :
    (progress.openFunction symbols offset).held = progress.held := by
  rw [held, drops_openFunction, sum_tell rfl]
  simp [openFunction, entry, held, Nat.add_assoc]

/-- The pass accounts for the instructions that it has taken. -/
structure Accounts (prior : List Instruction) (progress : Progress) : Prop where
  total : prior.length =
    prior.countP (·.opcode.opensFunction) + prior.countP (·.opcode.closesStretch) + progress.held
  waits : ∃ before, prior = before ++ progress.waiting.reverse ∧
    WaitsBehind before progress.waiting.reverse
  positive : ∀ drop ∈ progress.drops, 0 < drop.count
  told : ToldBelow prior.length prior progress.drops.reverse

theorem accounts_start : Accounts [] start := by
  refine ⟨rfl, ⟨[], rfl, ?_, ?_⟩, ?_, [], .nil, ?_, .nil⟩ <;> simp [start]

variable {progress next : Progress}

/-- What one instruction does to the pass. -/
theorem step_cases (done : step symbols progress instruction = .ok next) :
    (instruction.opcode.opensFunction = true ∧
      next = progress.openFunction symbols instruction.offset) ∨
    (instruction.opcode.closesStretch = true ∧ ∃ current closed lines,
      progress.functions = current :: closed ∧ lines.length = progress.waiting.length ∧
      next = ⟨{ current with body := lines ++ current.body } :: closed, [], progress.drops⟩) ∨
    (¬instruction.IsBoundary ∧ next = { progress with waiting := instruction :: progress.waiting }) := by
  unfold step at done
  split at done
  · rename_i opens
    exact .inl ⟨opens, (Except.ok.inj done).symm⟩
  · rename_i inner
    split at done
    · rename_i closes
      refine .inr (.inl ⟨closes, ?_⟩)
      unfold close at done
      split at done
      · cases done
      · rename_i current closed functions
        obtain ⟨lines, annotated, same⟩ := exists_of_bind done
        have length := Traversal.length_of_mapM annotated
        refine ⟨current, closed, lines.reverse, functions, ?_, (Except.ok.inj same).symm⟩
        rw [List.length_reverse, length, List.length_reverse]
    · rename_i waits
      exact .inr (.inr ⟨not_or.mpr ⟨inner, waits⟩, (Except.ok.inj done).symm⟩)

theorem waits_nil (boundary : instruction.IsBoundary) (prior : List Instruction) :
    ∃ before, prior ++ [instruction] = before ++ [] ∧ WaitsBehind before [] :=
  ⟨prior ++ [instruction], by simp, by simpa using boundary, by simp⟩

/-- An entry drops all that waits, and tells so. -/
theorem Accounts.openFunction (accounts : Accounts prior progress)
    (opens : instruction.opcode.opensFunction = true) :
    Accounts (prior ++ [instruction]) (progress.openFunction symbols instruction.offset) := by
  obtain ⟨total, ⟨before, stream, waits⟩, positive, told⟩ := accounts
  have longer : prior ++ [instruction] = before ++ progress.waiting.reverse ++ [instruction] := by
    rw [← stream]
  have dropped := DroppedAt.entry longer waits opens
  rw [← stream, List.length_reverse] at dropped
  constructor
  case total =>
    have inner : instruction.opcode.closesStretch = false := by
      simp [Opcode.closesStretch, eq_of_beq opens]
    simp only [held_openFunction, List.length_append, List.length_singleton, List.countP_append,
      List.countP_singleton, total, opens, inner, Bool.false_eq_true, ↓reduceIte]
    omega
  case waits => exact waits_nil (.inl opens) prior
  case positive =>
    rw [drops_openFunction]
    exact positive_tell rfl positive
  case told =>
    rw [drops_openFunction, List.length_append]
    exact (told.append [instruction]).tell dropped progress.waiting

/-- A closing instruction moves all that waits into the open function. -/
theorem Accounts.close {current : Function} {closed : List Function} {waiting : List Instruction}
    (accounts : Accounts prior ⟨current :: closed, waiting, drops⟩)
    (closes : instruction.opcode.closesStretch = true) {lines : List Annotated}
    (length : lines.length = waiting.length) :
    Accounts (prior ++ [instruction])
      ⟨{ current with body := lines ++ current.body } :: closed, [], drops⟩ := by
  obtain ⟨total, _, positive, told⟩ := accounts
  constructor
  case total =>
    have opens := Opcode.opensFunction_of_closes closes
    simp only [held, List.map_cons, List.sum_cons] at total
    simp only [held, List.map_cons, List.sum_cons, List.length_append, List.length_singleton,
      List.length_nil, List.countP_append, List.countP_singleton, length, opens, closes,
      Bool.false_eq_true, ↓reduceIte]
    omega
  case waits => exact waits_nil (.inr closes) prior
  case positive => exact positive
  case told =>
    rw [List.length_append]
    exact (told.append _).mono (Nat.le_succ _)

/-- Any other instruction waits. -/
theorem Accounts.wait (accounts : Accounts prior progress) (inner : ¬instruction.IsBoundary) :
    Accounts (prior ++ [instruction]) { progress with waiting := instruction :: progress.waiting } := by
  obtain ⟨total, ⟨before, stream, waits⟩, positive, told⟩ := accounts
  constructor
  case total =>
    obtain ⟨opens, closes⟩ := not_or.mp inner
    simp only [held] at total
    simp only [held, List.length_append, List.length_cons, List.length_nil, List.countP_append,
      List.countP_singleton, opens, closes, Bool.false_eq_true, ↓reduceIte]
    omega
  case waits =>
    refine ⟨before, by rw [List.reverse_cons, ← List.append_assoc, ← stream], waits.bounded, ?_⟩
    intro other member
    rw [List.reverse_cons, List.mem_append, List.mem_singleton] at member
    rcases member with earlier | rfl
    · exact waits.inner other earlier
    · exact inner
  case positive => exact positive
  case told =>
    rw [List.length_append]
    exact (told.append _).mono (Nat.le_succ _)

theorem Accounts.step (accounts : Accounts prior progress)
    (done : step symbols progress instruction = .ok next) : Accounts (prior ++ [instruction]) next := by
  rcases step_cases done with ⟨opens, rfl⟩ | ⟨closes, current, closed, lines, functions, length, rfl⟩ |
    ⟨inner, rfl⟩
  · exact accounts.openFunction opens
  · obtain ⟨_, waiting, drops⟩ := progress
    obtain rfl : _ = current :: closed := functions
    exact accounts.close closes length
  · exact accounts.wait inner

theorem Accounts.foldlM {instructions : List Instruction} (accounts : Accounts prior progress)
    (run : instructions.foldlM (Progress.step symbols) progress = .ok next) :
    Accounts (prior ++ instructions) next := by
  induction instructions generalizing prior progress with
  | nil =>
    obtain rfl := Except.ok.inj run
    rwa [List.append_nil]
  | cons instruction instructions ih =>
    rw [List.foldlM_cons] at run
    obtain ⟨middle, done, run⟩ := exists_of_bind run
    have further := ih (accounts.step done) run
    rwa [List.append_assoc, List.singleton_append] at further

end Progress

/-- What becomes of the instructions of a stream. -/
structure Accounted (instructions : List Instruction) (rebuilt : Rebuilt) : Prop where
  total : instructions.length =
    instructions.countP (·.opcode.opensFunction) + instructions.countP (·.opcode.closesStretch) +
      (rebuilt.plugin.functions.map (·.body.length)).sum + (rebuilt.drops.map Drop.count).sum
  positive : ∀ drop ∈ rebuilt.drops, 0 < drop.count
  /-- In the order of the stream, at most one drop for each entry and at most one for the end. -/
  told : ∃ places : List Nat, places.Pairwise (· < ·) ∧
    List.Forall₂ (DroppedAt instructions) places rebuilt.drops

/-- At the end what still waits is dropped. -/
theorem Progress.Accounts.finish {progress : Progress} (accounts : Accounts prior progress) :
    Accounted prior progress.finish := by
  obtain ⟨total, ⟨before, stream, waits⟩, positive, told⟩ := accounts
  have dropped := DroppedAt.finish stream waits
  rw [List.length_reverse] at dropped
  constructor
  case total =>
    rw [drops_finish, List.map_reverse, List.sum_reverse, sum_tell rfl, total, held]
    simp [Progress.finish, Function.comp_def, Nat.add_assoc]
  case positive =>
    intro drop member
    rw [drops_finish, List.mem_reverse] at member
    exact positive_tell rfl positive drop member
  case told =>
    obtain ⟨places, ordered, _, dropped⟩ := told.tell dropped progress.waiting
    exact ⟨places, ordered, dropped⟩

/-- No instruction is lost without being told. Those that open or close something, those in the bodies and
those told as dropped are all there are; and what is told at an entry, or at the end, is how many have waited
since the boundary before it. -/
theorem rebuild_accounted {instructions : List Instruction} {rebuilt : Rebuilt}
    (built : rebuild symbols instructions = .ok rebuilt) : Accounted instructions rebuilt := by
  obtain ⟨final, run, same⟩ := exists_of_bind built
  obtain rfl := Except.ok.inj same
  exact (Progress.accounts_start.foldlM run).finish

/-- A stream with a drop at each of its entries and at its end, and two exits of one function. -/
theorem rebuild_accounted_sample :
    ∃ functions, rebuild sampleTable sampleStream =
        .ok ⟨⟨functions⟩, [.beforeEntry 1 12, .beforeEntry 1 44, .trailing 1]⟩ ∧
      functions.map (·.body.length) = [2, 0] ∧
      Accounted sampleStream ⟨⟨functions⟩, [.beforeEntry 1 12, .beforeEntry 1 44, .trailing 1]⟩ := by
  have built : rebuild sampleTable sampleStream =
      .ok ⟨⟨_⟩, [.beforeEntry 1 12, .beforeEntry 1 44, .trailing 1]⟩ := rfl
  exact ⟨_, built, rfl, rebuild_accounted built⟩

end Tree

end PawnBytecode
