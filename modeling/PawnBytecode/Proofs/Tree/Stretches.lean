import Mathlib.Data.List.Induction
import Mathlib.Data.List.TakeWhile
import PawnBytecode.Proofs.Tree.Grouping
import PawnBytecode.Tree.Stretch

namespace PawnBytecode

/-- No instruction both opens a function and closes a stretch. -/
theorem Opcode.opensFunction_of_closes {opcode : Opcode} (closes : opcode.closesStretch = true) :
    opcode.opensFunction = false := by
  rcases Bool.or_eq_true_iff.mp closes with same | same
  · rw [eq_of_beq same]
    rfl
  · rw [eq_of_beq same]
    rfl

namespace Tree

variable {symbols : SymbolTable}

namespace Stretch

def instructions (stretch : Stretch) : List Instruction := stretch.entry :: stretch.body

/-- An entry with instructions that open nothing behind it. -/
structure Single (stretch : Stretch) : Prop where
  entry : stretch.entry.opcode.opensFunction = true
  body : ∀ instruction ∈ stretch.body, instruction.opcode.opensFunction = false

theorem cut_cons (instruction : Instruction) (rest : List Instruction) :
    cut (instruction :: rest) =
      if instruction.opcode.opensFunction then ([], ⟨instruction, (cut rest).1⟩ :: (cut rest).2)
      else (instruction :: (cut rest).1, (cut rest).2) := rfl

theorem cut_join (instructions : List Instruction) :
    (cut instructions).1 ++ (cut instructions).2.flatMap Stretch.instructions = instructions := by
  induction instructions with
  | nil => rfl
  | cons instruction rest ih =>
    rw [cut_cons]
    by_cases opens : instruction.opcode.opensFunction
    · simp [opens, Stretch.instructions, ih]
    · simp [opens, ih]

theorem cut_single (instructions : List Instruction) :
    (∀ instruction ∈ (cut instructions).1, instruction.opcode.opensFunction = false) ∧
      ∀ stretch ∈ (cut instructions).2, stretch.Single := by
  induction instructions with
  | nil => simp [cut]
  | cons instruction rest ih =>
    obtain ⟨lead, stretches⟩ := ih
    rw [cut_cons]
    by_cases opens : instruction.opcode.opensFunction
    · simp only [opens, ↓reduceIte]
      refine ⟨List.forall_mem_nil _, fun stretch member => ?_⟩
      rcases List.mem_cons.mp member with rfl | member
      · exact ⟨opens, lead⟩
      · exact stretches stretch member
    · simp only [opens, Bool.false_eq_true, ↓reduceIte]
      refine ⟨fun other member => ?_, stretches⟩
      rcases List.mem_cons.mp member with rfl | member
      · simpa using opens
      · exact lead other member

theorem mem_of_mem_body {instructions : List Instruction} {stretch : Stretch}
    (present : stretch ∈ (cut instructions).2) {instruction : Instruction}
    (member : instruction ∈ stretch.body) : instruction ∈ instructions := by
  rw [← cut_join instructions]
  apply List.mem_append_right
  exact List.mem_flatMap.mpr ⟨stretch, present, List.mem_cons_of_mem _ member⟩

theorem map_entry_cut (instructions : List Instruction) :
    (cut instructions).2.map entry = instructions.filter (·.opcode.opensFunction) := by
  induction instructions with
  | nil => rfl
  | cons instruction rest ih =>
    rw [cut_cons]
    by_cases opens : instruction.opcode.opensFunction <;> simp [opens, ih]

theorem length_cut (instructions : List Instruction) :
    (cut instructions).2.length = instructions.countP (·.opcode.opensFunction) := by
  rw [List.countP_eq_length_filter, ← map_entry_cut, List.length_map]

theorem split_at_entry {instructions : List Instruction} {index : Nat} {stretch : Stretch}
    (found : (cut instructions).2[index]? = some stretch) :
    ∃ before after, instructions = before ++ stretch.entry :: after ∧
      before.countP (·.opcode.opensFunction) = index := by
  induction instructions generalizing index with
  | nil => cases found
  | cons instruction rest ih =>
    rw [cut_cons] at found
    by_cases opens : instruction.opcode.opensFunction
    · rw [if_pos opens] at found
      cases index with
      | zero =>
        obtain rfl := Option.some.inj found
        exact ⟨[], rest, rfl, rfl⟩
      | succ index =>
        obtain ⟨before, after, same, count⟩ := ih found
        exact ⟨instruction :: before, after, by rw [same]; rfl, by simp [opens, count]⟩
    · rw [if_neg opens] at found
      obtain ⟨before, after, same, count⟩ := ih found
      exact ⟨instruction :: before, after, by rw [same]; rfl, by simp [opens, count]⟩

theorem cut_append_entry {entry : Instruction} (opens : entry.opcode.opensFunction = true)
    (before rest : List Instruction) :
    cut (before ++ entry :: rest) =
      ((cut before).1, (cut before).2 ++ ⟨entry, (cut rest).1⟩ :: (cut rest).2) := by
  induction before with
  | nil => simp [cut_cons, opens, cut]
  | cons instruction before ih =>
    rw [List.cons_append, cut_cons, cut_cons, ih]
    by_cases first : instruction.opcode.opensFunction <;> simp [first]

theorem cut_append_single {body : List Instruction}
    (single : ∀ instruction ∈ body, instruction.opcode.opensFunction = false)
    (rest : List Instruction) : cut (body ++ rest) = (body ++ (cut rest).1, (cut rest).2) := by
  induction body with
  | nil => rfl
  | cons instruction body ih =>
    rw [List.cons_append, cut_cons, ih fun other member => single other (List.mem_cons_of_mem _ member)]
    simp [single instruction]

theorem lead_of_head {rest : List Instruction}
    (opens : ∀ instruction ∈ rest.head?, instruction.opcode.opensFunction = true) :
    (cut rest).1 = [] := by
  cases rest with
  | nil => rfl
  | cons instruction rest => simp [cut_cons, opens instruction rfl]

theorem closedPart_snoc (body : List Instruction) (last : Instruction) :
    closedPart (body ++ [last]) = if closes last then body ++ [last] else closedPart body := by
  by_cases ends : closes last <;> simp [closedPart, ends]

theorem openPart_snoc (body : List Instruction) (last : Instruction) :
    openPart (body ++ [last]) = if closes last then [] else openPart body ++ [last] := by
  by_cases ends : closes last <;> simp [openPart, ends]

theorem closedPart_append_openPart (body : List Instruction) :
    closedPart body ++ openPart body = body := by
  rw [closedPart, openPart, ← List.reverse_append, List.takeWhile_append_dropWhile, List.reverse_reverse]

theorem mem_of_mem_openPart {body : List Instruction} {instruction : Instruction}
    (member : instruction ∈ openPart body) : instruction ∈ body := by
  rw [← closedPart_append_openPart body]
  exact List.mem_append_right _ member

theorem openPart_open {body : List Instruction} {instruction : Instruction}
    (member : instruction ∈ openPart body) : instruction.opcode.closesStretch = false := by
  simpa [closes] using List.mem_takeWhile_imp (List.mem_reverse.mp member)

theorem openPart_of_open {body : List Instruction}
    (opened : ∀ instruction ∈ body, instruction.opcode.closesStretch = false) : openPart body = body := by
  have waits : ∀ instruction ∈ body.reverse, (!closes instruction) = true := by
    intro instruction member
    simpa [closes] using opened instruction (List.mem_reverse.mp member)
  rw [openPart, List.takeWhile_eq_self_iff.mpr waits, List.reverse_reverse]

theorem kept_of_open {stretch : Stretch}
    (opened : ∀ instruction ∈ stretch.body, instruction.opcode.closesStretch = false) :
    stretch.kept = [] := by
  have parts := closedPart_append_openPart stretch.body
  rw [openPart_of_open opened, List.append_left_eq_self] at parts
  rw [kept, parts]
  rfl

/-- What stands before the last closing instruction is kept, but for the closing ones. -/
theorem kept_of_last {entry closing : Instruction} {covered rest : List Instruction}
    (ends : closing.opcode.closesStretch = true)
    (opened : ∀ instruction ∈ rest, instruction.opcode.closesStretch = false) :
    (⟨entry, covered ++ closing :: rest⟩ : Stretch).kept =
      covered.filter fun instruction => !instruction.opcode.closesStretch := by
  have closed : closedPart (covered ++ closing :: rest) = covered ++ [closing] := by
    induction rest using List.reverseRecOn with
    | nil => simp [closedPart_snoc, closes, ends]
    | append_singleton rest last ih =>
      have waits : closes last = false := opened last (by simp)
      have same := closedPart_snoc (covered ++ closing :: rest) last
      rw [List.append_assoc, List.cons_append] at same
      rw [same, if_neg (by simp [waits])]
      exact ih fun instruction member => opened instruction (by simp [member])
  rw [kept, closed, List.filter_append]
  simp [closes, ends]

theorem kept_snoc_open {entry last : Instruction} (body : List Instruction)
    (opened : closes last = false) :
    (⟨entry, body ++ [last]⟩ : Stretch).kept = (⟨entry, body⟩ : Stretch).kept := by
  simp [kept, closedPart_snoc, opened]

theorem kept_snoc_closing {entry last : Instruction} (body : List Instruction)
    (ends : closes last = true) :
    (⟨entry, body ++ [last]⟩ : Stretch).kept = (⟨entry, body⟩ : Stretch).kept ++ openPart body := by
  have opened : (openPart body).filter (fun instruction => !closes instruction) = openPart body := by
    apply List.filter_eq_self.mpr
    intro instruction member
    simpa [closes] using openPart_open member
  have parts := congrArg (List.filter fun instruction => !closes instruction)
    (closedPart_append_openPart body)
  rw [List.filter_append, opened] at parts
  simp [kept, closedPart_snoc, ends, parts]

theorem kept_sublist (stretch : Stretch) : stretch.kept.Sublist stretch.body := by
  have closed : (closedPart stretch.body).Sublist stretch.body := by
    conv => rhs; rw [← closedPart_append_openPart stretch.body]
    exact List.sublist_append_left ..
  exact List.filter_sublist.trans closed

def function (symbols : SymbolTable) (stretch : Stretch) : Function :=
  { Progress.entry symbols stretch.entry.offset with body := stretch.kept.map (lineOf symbols) }

theorem toFunction_of_named {stretch : Stretch}
    (named : ∀ instruction ∈ stretch.body, instruction.NamesCallee) :
    stretch.toFunction symbols = .ok (stretch.function symbols) := by
  have lines := mapM_annotated
    (fun instruction member => named instruction (stretch.kept_sublist.subset member)) symbols
  rw [toFunction, lines]
  rfl

end Stretch

end Tree

end PawnBytecode
