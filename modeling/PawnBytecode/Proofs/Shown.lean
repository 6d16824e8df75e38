import PawnBytecode.Proofs.Code.Stream
import PawnBytecode.SymbolTable

namespace PawnBytecode

theorem Opcode.eq_sysreqC_of_native {opcode : Opcode} (native : opcode.kind = .native) :
    opcode = .sysreqC := by
  cases opcode <;> first | exact absurd native (by decide) | rfl

namespace Instruction

variable {instruction : Instruction}

theorem Counted.operands_ne_nil (counted : instruction.Counted)
    (taken : instruction.opcode.operandCount ≠ 0) : instruction.operands ≠ [] := by
  intro empty
  apply taken
  rw [← counted, empty]
  rfl

/-- A call has the operand that names its callee. -/
def NamesCallee (instruction : Instruction) : Prop :=
  instruction.opcode = .call ∨ instruction.opcode = .sysreqC → instruction.operands ≠ []

instance (instruction : Instruction) : Decidable instruction.NamesCallee :=
  inferInstanceAs (Decidable (_ → _))

theorem Counted.namesCallee (counted : instruction.Counted) : instruction.NamesCallee := by
  intro calls
  apply counted.operands_ne_nil
  rcases calls with call | native
  · rw [call]
    decide
  · rw [native]
    decide

/-- An instruction of the two case forms has exactly two operands. -/
theorem Counted.operands_pair (counted : instruction.Counted)
    (two : instruction.opcode.operandCount = 2) :
    ∃ first second, instruction.operands = [first, second] := by
  rw [← counted] at two
  match same : instruction.operands with
  | [first, second] => exact ⟨first, second, rfl⟩
  | [] | [_] | _ :: _ :: _ :: _ =>
    rw [same] at two
    simp at two

theorem Counted.operandText (counted : instruction.Counted) :
    ∃ text, instruction.operandText = .ok text := by
  by_cases table : instruction.opcode = .caseTable
  · obtain ⟨count, default, same⟩ := counted.operands_pair (by rw [table]; rfl)
    exact ⟨_, by rw [Instruction.operandText, if_pos table, same]⟩
  · by_cases record : instruction.opcode = .caseRecord
    · obtain ⟨value, target, same⟩ := counted.operands_pair (by rw [record]; rfl)
      exact ⟨_, by rw [Instruction.operandText, if_neg table, if_pos record, same]⟩
    · exact ⟨_, by rw [Instruction.operandText, if_neg table, if_neg record]⟩

end Instruction

namespace SymbolTable

theorem functionName_of_first {table : SymbolTable} {before after : List Symbol} {symbol : Symbol}
    {address : Int} (publics : table.publics = before ++ symbol :: after) (place : symbol.address = address)
    (first : ∀ other ∈ before, other.address ≠ address) : table.functionName address = symbol.name := by
  have found : table.findPublic address = some symbol :=
    List.find?_eq_some_iff_append.mpr ⟨by simp [place], before, after, publics, by simpa using first⟩
  simp [functionName, publicName, found]

theorem functionName_of_absent {table : SymbolTable} {address : Int}
    (absent : ∀ symbol ∈ table.publics, symbol.address ≠ address) :
    table.functionName address = syntheticName address := by
  have missing : table.findPublic address = none := by simpa [findPublic] using absent
  simp [functionName, publicName, missing]

/-- What the function at an address is called: by the first public there, or by the address. -/
inductive Names (table : SymbolTable) (address : Int) : String → Prop where
  | first {before after : List Symbol} {symbol : Symbol} (publics : table.publics = before ++ symbol :: after)
    (place : symbol.address = address) (earlier : ∀ other ∈ before, other.address ≠ address) :
    Names table address symbol.name
  | absent (missing : ∀ symbol ∈ table.publics, symbol.address ≠ address) :
    Names table address ("sub_" ++ Numeral.smallHex 4 address)

/-- What is noted on an instruction: on a native call the native with its number, where there is one, on a
call the function at its target, and on others nothing. -/
inductive Comments (table : SymbolTable) (instruction : Instruction) : Option String → Prop where
  | native {index : Nat} {rest : List Int} {symbol : Symbol} (opcode : instruction.opcode = .sysreqC)
    (operands : instruction.operands = (index : Int) :: rest) (found : table.natives[index]? = some symbol) :
    Comments table instruction (some (symbol.name ++ "()"))
  | noNative {index : Int} {rest : List Int} (opcode : instruction.opcode = .sysreqC)
    (operands : instruction.operands = index :: rest)
    (outside : index < 0 ∨ table.natives.length ≤ index) : Comments table instruction none
  | call {target : Int} {rest : List Int} {name : String} (opcode : instruction.opcode = .call)
    (operands : instruction.operands = target :: rest) (named : table.Names target name) :
    Comments table instruction (some (name ++ "()"))
  | other (native : instruction.opcode ≠ .sysreqC) (call : instruction.opcode ≠ .call) :
    Comments table instruction none

theorem names_iff {table : SymbolTable} {address : Int} {name : String} :
    table.Names address name ↔ table.functionName address = name := by
  constructor
  · intro names
    cases names with
    | first publics place earlier => exact functionName_of_first publics place earlier
    | absent missing => exact functionName_of_absent missing
  · rintro rfl
    cases found : table.findPublic address with
    | none =>
      have missing : ∀ symbol ∈ table.publics, symbol.address ≠ address := by
        simpa [findPublic] using found
      rw [functionName_of_absent missing]
      exact .absent missing
    | some symbol =>
      obtain ⟨place, before, after, publics, earlier⟩ := List.find?_eq_some_iff_append.mp found
      have place : symbol.address = address := by simpa using place
      have earlier : ∀ other ∈ before, other.address ≠ address := by simpa using earlier
      rw [functionName_of_first publics place earlier]
      exact .first publics place earlier

theorem comments_of_native {table : SymbolTable} {instruction : Instruction} {index : Int} {rest : List Int}
    (opcode : instruction.opcode = .sysreqC) (operands : instruction.operands = index :: rest) :
    table.Comments instruction ((table.nativeName index).map (· ++ "()")) := by
  unfold nativeName
  by_cases positive : 0 ≤ index
  · obtain ⟨number, rfl⟩ := Int.eq_ofNat_of_zero_le positive
    rw [if_pos positive, Int.toNat_natCast]
    cases found : table.natives[number]? with
    | none => exact .noNative opcode operands (.inr (Int.ofNat_le.mpr (List.getElem?_eq_none_iff.mp found)))
    | some symbol => exact .native opcode operands found
  · rw [if_neg positive]
    exact .noNative opcode operands (.inl (Int.not_le.mp positive))

/-- What is noted on an instruction is its annotation. -/
theorem comments_iff {table : SymbolTable} {instruction : Instruction} {comment : Option String} :
    table.Comments instruction comment ↔ table.annotate instruction = .ok comment := by
  constructor
  · intro comments
    have native : Opcode.kind .sysreqC = .native := rfl
    cases comments with
    | native opcode operands found =>
      rw [annotate, opcode, if_pos native, operands]
      simp [nativeName, found]
    | @noNative index rest opcode operands outside =>
      have missing : table.nativeName index = none := by
        unfold nativeName
        split
        · rw [List.getElem?_eq_none (by omega), Option.map_none]
        · rfl
      rw [annotate, opcode, if_pos native, operands]
      simp [missing]
    | @call target rest name opcode operands named =>
      rw [annotate, opcode, if_neg (by decide), if_pos rfl, operands]
      simp [names_iff.mp named]
    | other plain call =>
      rw [annotate, if_neg fun native => plain (Opcode.eq_sysreqC_of_native native), if_neg call]
  · intro annotated
    unfold annotate at annotated
    split at annotated
    · rename_i native
      split at annotated
      · rename_i index rest operands
        obtain rfl := Except.ok.inj annotated
        exact comments_of_native (Opcode.eq_sysreqC_of_native native) operands
      · cases annotated
    · rename_i native
      have plain : instruction.opcode ≠ .sysreqC := fun same => native (same ▸ rfl)
      split at annotated
      · rename_i call
        split at annotated
        · rename_i target rest operands
          obtain rfl := Except.ok.inj annotated
          exact .call call operands (names_iff.mpr rfl)
        · cases annotated
      · rename_i call
        obtain rfl := Except.ok.inj annotated
        exact .other plain call

def callee (table : SymbolTable) (instruction : Instruction) : Option String :=
  (table.annotate instruction).toOption.join

/-- A call that names its callee is never refused. -/
theorem annotate_of_namesCallee {instruction : Instruction} (named : instruction.NamesCallee)
    (table : SymbolTable) : table.annotate instruction = .ok (table.callee instruction) := by
  have found : ∃ callee, table.annotate instruction = .ok callee := by
    by_cases native : instruction.opcode.kind = .native
    · have nonempty := named (.inr (Opcode.eq_sysreqC_of_native native))
      obtain ⟨index, rest, same⟩ := List.exists_cons_of_ne_nil nonempty
      exact ⟨_, by rw [annotate, if_pos native, same]⟩
    · by_cases call : instruction.opcode = .call
      · obtain ⟨target, rest, same⟩ := List.exists_cons_of_ne_nil (named (.inl call))
        exact ⟨_, by rw [annotate, if_neg native, if_pos call, same]⟩
      · exact ⟨none, by rw [annotate, if_neg native, if_neg call]⟩
  obtain ⟨callee, found⟩ := found
  rw [SymbolTable.callee, found]
  rfl

theorem annotate_of_counted {instruction : Instruction} (counted : instruction.Counted)
    (table : SymbolTable) : table.annotate instruction = .ok (table.callee instruction) :=
  annotate_of_namesCallee counted.namesCallee table

end SymbolTable

end PawnBytecode
