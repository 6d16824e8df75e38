import PawnBytecode.Code.Instruction
import PawnBytecode.Proofs.Failing
import PawnBytecode.Proofs.Text.Words

/-! The text of an instruction read back. A mnemonic ends at the first space and belongs to one
instruction of the set, and the operands behind it are words between separators of their own, so a
text tells everything but the offset. -/
namespace PawnBytecode

namespace Opcode

theorem mem_all (opcode : Opcode) : opcode ∈ all := List.mem_of_find?_eq_some (ofNumber?_number opcode)

theorem mnemonic_inj {first second : Opcode} : first.mnemonic = second.mnemonic ↔ first = second := by
  have found : ∀ opcode ∈ all, all.find? (fun other => other.mnemonic == opcode.mnemonic) = some opcode := by
    decide +kernel
  constructor
  · intro same
    have alike := found first first.mem_all
    rw [same, found second second.mem_all] at alike
    exact (Option.some.inj alike).symm
  · rintro rfl
    rfl

theorem mnemonic_ne_empty (opcode : Opcode) : opcode.mnemonic ≠ "" := by
  have each : ∀ opcode ∈ all, opcode.mnemonic ≠ "" := by decide +kernel
  exact each opcode opcode.mem_all

theorem isWord_mnemonic (opcode : Opcode) : IsWord opcode.mnemonic := by
  have each : ∀ opcode ∈ all, IsWord opcode.mnemonic := by decide +kernel
  exact each opcode opcode.mem_all

end Opcode

namespace OperandKind

theorem text_inj {kind : OperandKind} {first second : Int} :
    kind.text first = kind.text second ↔ first = second := by
  cases kind with
  | address => exact Numeral.address_inj
  | value => exact Numeral.decimal_inj
  | native => exact Numeral.decimal_inj

theorem isWord_text (kind : OperandKind) (value : Int) : IsWord (kind.text value) := by
  cases kind with
  | address => exact Numeral.isWord_address value
  | value => exact Numeral.isWord_decimal value
  | native => exact Numeral.isWord_decimal value

theorem text_ne_nil (kind : OperandKind) (value : Int) : (kind.text value).toList ≠ [] := by
  cases kind with
  | address => exact Numeral.address_ne_nil value
  | value => exact Numeral.decimal_ne_nil value
  | native => exact Numeral.decimal_ne_nil value

end OperandKind

def isCodeChar (char : Char) : Bool := isWordChar char || char == ' ' || char == '>'

theorem IsWord.isCodeChar {text : String} (word : IsWord text) {char : Char}
    (member : char ∈ text.toList) : isCodeChar char = true := by
  simp [PawnBytecode.isCodeChar, word char member]

/-- The operands of an instruction with their wording. -/
inductive Wording : Opcode → List Int → String → Prop where
  | caseTable (count default : Int) :
    Wording .caseTable [count, default] (toString count ++ " default " ++ Numeral.address default)
  | caseRecord (value target : Int) :
    Wording .caseRecord [value, target] (toString value ++ " -> " ++ Numeral.address target)
  | words {opcode : Opcode} (operands : List Int) (table : opcode ≠ .caseTable)
    (record : opcode ≠ .caseRecord) :
    Wording opcode operands (" ".intercalate (operands.map opcode.kind.text))

theorem Instruction.wording {instruction : Instruction} {text : String}
    (shown : instruction.operandText = .ok text) :
    Wording instruction.opcode instruction.operands text := by
  obtain ⟨offset, opcode, operands⟩ := instruction
  unfold Instruction.operandText at shown
  split at shown
  · rename_i table
    obtain rfl : opcode = .caseTable := table
    split at shown
    · rename_i count default same
      obtain rfl : operands = [count, default] := same
      cases shown
      exact .caseTable count default
    · cases shown
  · rename_i table
    split at shown
    · rename_i record
      obtain rfl : opcode = .caseRecord := record
      split at shown
      · rename_i value target same
        obtain rfl : operands = [value, target] := same
        cases shown
        exact .caseRecord value target
      · cases shown
    · rename_i record
      cases shown
      exact .words operands table record

/-- An instruction of the two case forms whose operands are not two. -/
def Instruction.Misshapen (instruction : Instruction) : Prop :=
  (instruction.opcode = .caseTable ∨ instruction.opcode = .caseRecord) ∧ instruction.operands.length ≠ 2

instance (instruction : Instruction) : Decidable instruction.Misshapen :=
  inferInstanceAs (Decidable (_ ∧ _))

/-- A number that the text of an instruction has in decimal: the first operand of the two case forms,
and every operand of another instruction unless it is an address. -/
inductive Instruction.InDecimal (instruction : Instruction) (number : Int) : Prop where
  | first {rest : List Int} (form : instruction.opcode = .caseTable ∨ instruction.opcode = .caseRecord)
    (operands : instruction.operands = number :: rest) : InDecimal instruction number
  | plain (table : instruction.opcode ≠ .caseTable) (record : instruction.opcode ≠ .caseRecord)
    (value : instruction.opcode.kind ≠ .address) (member : number ∈ instruction.operands) :
    InDecimal instruction number

/-- All numbers that are shown in decimal can be. -/
def Instruction.Short (instruction : Instruction) : Prop :=
  ∀ number, instruction.InDecimal number → Numeral.Writable number

namespace Instruction

theorem mem_decimals {instruction : Instruction} {number : Int} :
    number ∈ instruction.decimals ↔ instruction.InDecimal number := by
  unfold decimals
  split
  · rename_i form
    have other : instruction.opcode = .caseTable ∨ instruction.opcode = .caseRecord := form
    constructor
    · intro member
      match same : instruction.operands with
      | [] => simp [same] at member
      | operand :: rest =>
        obtain rfl : number = operand := by simpa [same] using member
        exact .first form same
    · intro shown
      cases shown with
      | first _ operands => simp [operands]
      | plain table record => exact absurd form (by simp [table, record])
  · rename_i form
    obtain ⟨table, record⟩ := not_or.mp form
    split
    · rename_i address
      refine ⟨nofun, fun shown => ?_⟩
      cases shown with
      | first form => exact absurd form (not_or.mpr ⟨table, record⟩)
      | plain _ _ value => exact absurd address value
    · rename_i value
      refine ⟨fun member => .plain table record value member, fun shown => ?_⟩
      cases shown with
      | first form => exact absurd form (not_or.mpr ⟨table, record⟩)
      | plain _ _ _ member => exact member

theorem short_iff {instruction : Instruction} :
    (∀ number ∈ instruction.decimals, Numeral.Writable number) ↔ instruction.Short := by
  simp only [mem_decimals, Short]

instance (instruction : Instruction) : Decidable instruction.Short := decidable_of_iff _ short_iff

theorem failed?_operandText (instruction : Instruction) :
    failed? instruction.operandText = if instruction.Misshapen then some .caseOperands else none := by
  obtain ⟨offset, opcode, operands⟩ := instruction
  by_cases table : opcode = .caseTable
  · subst table
    match operands with
    | [count, default] => rfl
    | [] | [_] | _ :: _ :: _ :: _ => simp [operandText, failed?, Misshapen]
  · by_cases record : opcode = .caseRecord
    · subst record
      match operands with
      | [value, target] => rfl
      | [] | [_] | _ :: _ :: _ :: _ => simp [operandText, failed?, Misshapen]
    · simp [operandText, failed?, Misshapen, table, record]

theorem failed?_text (instruction : Instruction) :
    failed? instruction.text = if instruction.Misshapen then some .caseOperands else none := by
  rw [text, failed?_bind fun operands => rfl, failed?_operandText]

/-- Where there is a text, its numbers decide whether it is written. -/
theorem failed?_writing {instruction : Instruction} {result : Except Failure String}
    (failure : failed? result = if instruction.Misshapen then some .caseOperands else none) :
    failed? (result >>= fun text => Failure.writing instruction.decimals (.ok text)) =
      if instruction.Misshapen then some .caseOperands
      else if instruction.Short then none else some .tooManyDigits := by
  cases result with
  | error cause =>
    by_cases misshapen : instruction.Misshapen
    · rw [if_pos misshapen] at failure ⊢
      exact failure
    · rw [if_neg misshapen] at failure
      cases failure
  | ok text =>
    by_cases misshapen : instruction.Misshapen
    · rw [if_pos misshapen] at failure
      cases failure
    · rw [if_neg misshapen]
      by_cases short : instruction.Short
      · rw [if_pos short]
        exact congrArg failed? (Failure.writing_of_short (short_iff.mpr short))
      · rw [if_neg short]
        exact congrArg failed? (if_neg (short_iff.not.mpr short))

theorem failed?_formatOperands (instruction : Instruction) :
    failed? instruction.formatOperands =
      if instruction.Misshapen then some .caseOperands
      else if instruction.Short then none else some .tooManyDigits :=
  failed?_writing instruction.failed?_operandText

theorem failed?_format (instruction : Instruction) :
    failed? instruction.format =
      if instruction.Misshapen then some .caseOperands
      else if instruction.Short then none else some .tooManyDigits :=
  failed?_writing instruction.failed?_text

end Instruction

namespace Wording

variable {opcode : Opcode} {operands others : List Int} {text : String}

theorem pair_inj {first second firstTarget secondTarget : Int} {separator : String}
    (apart : separator.toList.head? = some ' ')
    (same : toString first ++ separator ++ Numeral.address firstTarget =
      toString second ++ separator ++ Numeral.address secondTarget) :
    first = second ∧ firstTarget = secondTarget := by
  have chars := congrArg String.toList same
  simp only [String.toList_append, List.append_assoc] at chars
  obtain ⟨numbers, targets⟩ :=
    (Numeral.isWord_decimal first).field_inj (Numeral.isWord_decimal second) apart chars
  exact ⟨Numeral.decimal_inj.mp numbers, Numeral.address_inj.mp (String.toList_inj.mp targets)⟩

theorem words_inj {kind : OperandKind}
    (same : " ".intercalate (operands.map kind.text) = " ".intercalate (others.map kind.text)) :
    operands = others := by
  have shown : ∀ values : List Int, ∀ field ∈ values.map fun value => (kind.text value).toList,
      field ≠ [] := by
    intro values field member
    obtain ⟨value, _, rfl⟩ := List.mem_map.mp member
    exact kind.text_ne_nil value
  have free : ∀ values : List Int, ∀ field ∈ values.map fun value => (kind.text value).toList,
      ' ' ∉ field := by
    intro values field member space
    obtain ⟨value, _, rfl⟩ := List.mem_map.mp member
    cases kind.isWord_text value ' ' space
  have fields : operands.map (fun value => (kind.text value).toList) =
      others.map fun value => (kind.text value).toList := by
    apply Fields.intercalate_inj (shown operands) (shown others) (free operands) (free others)
    simpa [String.toList_intercalate, Function.comp_def] using congrArg String.toList same
  refine List.map_injective_iff.mpr ?_ fields
  intro first second alike
  exact kind.text_inj.mp (String.toList_inj.mp alike)

/-- The wording of operands belongs to no others. -/
theorem inj {other : String} (worded : Wording opcode operands text)
    (again : Wording opcode others other) (same : text = other) : operands = others := by
  cases worded with
  | caseTable count default =>
    cases again with
    | caseTable otherCount otherDefault =>
      obtain ⟨rfl, rfl⟩ := pair_inj rfl same
      rfl
    | words _ table record => exact absurd rfl table
  | caseRecord value target =>
    cases again with
    | caseRecord otherValue otherTarget =>
      obtain ⟨rfl, rfl⟩ := pair_inj rfl same
      rfl
    | words _ table record => exact absurd rfl record
  | words _ table record =>
    cases again with
    | caseTable => exact absurd rfl table
    | caseRecord => exact absurd rfl record
    | words => exact words_inj same

theorem isCodeChar_of_mem (worded : Wording opcode operands text) {char : Char}
    (member : char ∈ text.toList) : isCodeChar char = true := by
  have pair : ∀ {first second : Int} {separator : String}, separator.toList.all isCodeChar = true →
      char ∈ (toString first ++ separator ++ Numeral.address second).toList → isCodeChar char = true := by
    intro first second separator plain inside
    simp only [String.toList_append, List.mem_append] at inside
    rcases inside with (number | between) | target
    · exact (Numeral.isWord_decimal first).isCodeChar number
    · exact List.all_eq_true.mp plain char between
    · exact (Numeral.isWord_address second).isCodeChar target
  cases worded with
  | caseTable count default => exact pair (by decide) member
  | caseRecord value target => exact pair (by decide) member
  | words operands table record =>
    rw [String.toList_intercalate] at member
    rcases Fields.eq_or_mem_of_mem_intercalate member with rfl | ⟨field, inside, within⟩
    · rfl
    · simp only [List.map_map, List.mem_map, Function.comp_apply] at inside
      obtain ⟨value, _, rfl⟩ := inside
      exact (OperandKind.isWord_text _ value).isCodeChar within

/-- Operands that have a text end in a word. -/
theorem ends (worded : Wording opcode operands text) (shown : text ≠ "") :
    ∃ front word, text.toList = front ++ word.toList ∧ word.toList ≠ [] ∧ IsWord word := by
  cases worded with
  | caseTable count default =>
    exact ⟨_, _, String.toList_append, Numeral.address_ne_nil default,
      Numeral.isWord_address default⟩
  | caseRecord value target =>
    exact ⟨_, _, String.toList_append, Numeral.address_ne_nil target,
      Numeral.isWord_address target⟩
  | words operands table record =>
    have present : (operands.map opcode.kind.text).map String.toList ≠ [] := by
      intro empty
      apply shown
      rw [List.map_eq_nil_iff.mp empty]
      rfl
    obtain ⟨front, last, member, same⟩ := Fields.exists_intercalate_eq ' ' present
    simp only [List.map_map, List.mem_map, Function.comp_apply] at member
    obtain ⟨value, _, rfl⟩ := member
    exact ⟨front, _, String.toList_intercalate.trans same, opcode.kind.text_ne_nil value,
      opcode.kind.isWord_text value⟩

end Wording

def spaced (gap : Nat) (operands : String) : List Char :=
  if operands = "" then [] else List.replicate (gap + 1) ' ' ++ operands.toList

theorem head?_spaced (gap : Nat) (operands : String) :
    ∀ char ∈ (spaced gap operands).head?, isWordChar char = false := by
  by_cases empty : operands = ""
  · simp [spaced, empty]
  · simp only [spaced, empty, ↓reduceIte, List.replicate_succ, List.cons_append, List.head?_cons]
    rintro char ⟨⟩
    rfl

theorem spaced_inj {gap : Nat} {first second : String} (same : spaced gap first = spaced gap second) :
    first = second := by
  by_cases empty : first = ""
  · by_cases blank : second = ""
    · rw [empty, blank]
    · simp [spaced, empty, blank] at same
  · by_cases blank : second = ""
    · simp [spaced, empty, blank] at same
    · simpa [spaced, empty, blank, String.toList_inj] using same

namespace Instruction

variable {first second instruction : Instruction} {operands others text : String}

def worded (gap : Opcode → Nat) (instruction : Instruction) (operands : String) : List Char :=
  instruction.mnemonic.toList ++ spaced (gap instruction.opcode) operands

theorem agree_of_worded {gap : Opcode → Nat} (shown : first.operandText = .ok operands)
    (again : second.operandText = .ok others)
    (same : first.worded gap operands = second.worded gap others) :
    first.opcode = second.opcode ∧ first.operands = second.operands := by
  obtain ⟨mnemonics, rests⟩ := first.opcode.isWord_mnemonic.append_inj second.opcode.isWord_mnemonic
    (head?_spaced _ _) (head?_spaced _ _) same
  have opcodes := Opcode.mnemonic_inj.mp mnemonics
  rw [opcodes] at rests
  have worded := wording shown
  rw [opcodes] at worded
  exact ⟨opcodes, worded.inj (wording again) (spaced_inj rests)⟩

theorem isCodeChar_of_mem_worded {gap : Opcode → Nat} (shown : instruction.operandText = .ok operands)
    {char : Char} (member : char ∈ instruction.worded gap operands) : isCodeChar char = true := by
  rcases List.mem_append.mp member with mnemonic | behind
  · exact instruction.opcode.isWord_mnemonic.isCodeChar mnemonic
  · unfold spaced at behind
    split at behind
    · cases behind
    · rcases List.mem_append.mp behind with space | inside
      · rw [List.eq_of_mem_replicate space]
        rfl
      · exact (wording shown).isCodeChar_of_mem inside

theorem exists_worded_of_text (shown : instruction.text = .ok text) :
    ∃ operands, instruction.operandText = .ok operands ∧
      text.toList = instruction.worded (fun _ => 0) operands := by
  obtain ⟨operands, worded, same⟩ := exists_of_bind shown
  obtain rfl := Except.ok.inj same
  refine ⟨operands, worded, ?_⟩
  by_cases empty : operands = "" <;> simp [Instruction.worded, spaced, empty]

/-- A case form has a text exactly with two operands, and every other instruction with any. -/
theorem exists_text_iff : (∃ text, instruction.text = .ok text) ↔
    (instruction.opcode = .caseTable ∨ instruction.opcode = .caseRecord → instruction.operands.length = 2) := by
  rw [← failed?_eq_none, failed?_text, ite_eq_right_iff]
  simp [Misshapen]

theorem text_congr (opcodes : first.opcode = second.opcode) (operands : first.operands = second.operands) :
    first.text = second.text := by
  obtain ⟨offset, opcode, values⟩ := first
  obtain rfl : opcode = second.opcode := opcodes
  obtain rfl : values = second.operands := operands
  rfl

theorem agree_of_text (shown : first.text = .ok text) (again : second.text = .ok text) :
    first.opcode = second.opcode ∧ first.operands = second.operands := by
  obtain ⟨operands, worded, chars⟩ := exists_worded_of_text shown
  obtain ⟨others, reworded, same⟩ := exists_worded_of_text again
  exact agree_of_worded worded reworded (chars.symm.trans same)

/-- What the texts of two instructions tell of them. -/
structure ToldByText (first second : Instruction) : Prop where
  /-- Only a case form without its two operands has no text. -/
  defined : (∃ text, first.text = .ok text) ↔
    (first.opcode = .caseTable ∨ first.opcode = .caseRecord → first.operands.length = 2)
  told : ∀ text other, first.text = .ok text → second.text = .ok other →
    (text = other ↔ first.opcode = second.opcode ∧ first.operands = second.operands)
  /-- Behind one mnemonic, the case forms included, the operands are told by their own text. -/
  operands : first.opcode = second.opcode → ∀ text, first.operandText = .ok text →
    second.operandText = .ok text → first.operands = second.operands
  numbers : ∀ kind : OperandKind, Function.Injective kind.text

/-- The text of an instruction tells everything but where it stands. -/
theorem told_by_text (first second : Instruction) : first.ToldByText second where
  defined := exists_text_iff
  told text other shown again := by
    constructor
    · rintro rfl
      exact agree_of_text shown again
    · rintro ⟨opcodes, operands⟩
      rw [text_congr opcodes operands, again] at shown
      exact (Except.ok.inj shown).symm
  operands opcodes text shown again := by
    have worded := wording shown
    rw [opcodes] at worded
    exact worded.inj (wording again) rfl
  numbers _ _ _ := OperandKind.text_inj.mp

/-- A negative address has its sign among its four places; a value has no places to fill. -/
example : Instruction.text ⟨0, .call, [-4, 65536]⟩ = .ok "call 0x-004 0x10000" ∧
    Instruction.text ⟨0, .pushC, [-4, 65536]⟩ = .ok "push.c -4 65536" ∧
    Instruction.text ⟨0, .caseRecord, [-4, 65536]⟩ = .ok "case -4 -> 0x10000" := by decide +kernel

end Instruction

end PawnBytecode
