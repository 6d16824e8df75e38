import PawnBytecode.Listing
import PawnBytecode.Proofs.Code.Wording
import PawnBytecode.Proofs.Tree.Grouping

namespace PawnBytecode

open Text (ofString)

namespace Opcode

theorem isPrefixOf_entry (opcode : Opcode) :
    (ofString opcode.mnemonic).isPrefixOf (ofString "proc") = opcode.opensFunction := by
  have each : ∀ opcode ∈ all,
      (ofString opcode.mnemonic).isPrefixOf (ofString "proc") = opcode.opensFunction := by
    decide +kernel
  exact each opcode opcode.mem_all

theorem solid_mnemonic (opcode : Opcode) : (ofString opcode.mnemonic).Solid :=
  opcode.isWord_mnemonic.solid opcode.mnemonic_ne_empty

end Opcode

def CodePoint.isHexDigit : CodePoint → Bool
  | char value => Numeral.isUpperDigit value
  | half _ => false

namespace Listing

def lineStart (offset : Int) : Text := ofString (Numeral.hex 8 offset ++ ": ")

def entryLine (offset : Int) : Text := lineStart offset ++ ofString "proc"

def labelLine (name : Text) : Text := ofString "public " ++ name ++ ofString ":"

def isEntryLine (line : Text) : Bool := line.dropWhile CodePoint.isHexDigit == ofString ": proc"

def commentText : Option String → Text
  | none => []
  | some comment => ofString (" ; " ++ comment)

def shownLine (line : Tree.Annotated) (operands : String) : Text :=
  (ofString (Numeral.hex 8 line.instruction.offset ++ ": " ++ padEnd 12 line.instruction.mnemonic ++
    " " ++ operands)).trimEnd ++ commentText line.comment

theorem isHexDigit_of_mem_hex {width value : Nat} {point : CodePoint}
    (member : point ∈ ofString (Numeral.hex width value)) : point.isHexDigit = true := by
  obtain ⟨digit, inside, rfl⟩ := List.mem_map.mp member
  exact Numeral.isUpperDigit_of_mem_hex inside

theorem dropWhile_lineStart (position : Nat) (rest : Text) :
    (lineStart position ++ rest).dropWhile CodePoint.isHexDigit = ofString ": " ++ rest := by
  rw [lineStart, Text.ofString_append, List.append_assoc,
    List.dropWhile_append_of_pos fun point member => isHexDigit_of_mem_hex member]
  rfl

theorem takeWhile_lineStart (position : Nat) (rest : Text) :
    (lineStart position ++ rest).takeWhile CodePoint.isHexDigit = ofString (Numeral.hex 8 position) := by
  rw [lineStart, Text.ofString_append, List.append_assoc,
    List.takeWhile_append_of_pos fun point member => isHexDigit_of_mem_hex member]
  exact List.append_nil _

theorem isPrefixOf_lineStart (first second : Nat) (rest : Text) :
    (lineStart first).isPrefixOf (lineStart second ++ rest) = ((second : Int) == first) := by
  rw [Bool.eq_iff_iff, List.isPrefixOf_iff_prefix, beq_iff_eq]
  constructor
  · rintro ⟨other, same⟩
    -- Both numerals end at the colon, so neither is a part of the other.
    have digits := congrArg (List.takeWhile CodePoint.isHexDigit) same
    rw [takeWhile_lineStart, takeWhile_lineStart, Text.ofString_inj, Numeral.hex_inj] at digits
    exact digits.symm
  · intro same
    rw [same]
    exact List.prefix_append ..

def Unnumbered (line : Text) : Prop :=
  (line.dropWhile CodePoint.isHexDigit).head? ≠ some (.char ':')

namespace Unnumbered

variable {line : Text}

theorem isEntryLine (unnumbered : Unnumbered line) : isEntryLine line = false := by
  rw [Listing.isEntryLine, beq_eq_false_iff_ne]
  intro entry
  apply unnumbered
  rw [entry]
  rfl

theorem isPrefixOf (unnumbered : Unnumbered line) (position : Nat) :
    (lineStart position).isPrefixOf line = false := by
  rw [Bool.eq_false_iff, ne_eq, List.isPrefixOf_iff_prefix]
  rintro ⟨rest, rfl⟩
  apply unnumbered
  rw [dropWhile_lineStart]
  rfl

theorem of_head {line : String} (head : ∀ char ∈ line.toList.head?, char = ';' ∨ char = 'p') :
    Unnumbered (ofString line) := by
  rw [ofString]
  cases chars : line.toList with
  | nil => simp [Unnumbered]
  | cons first rest =>
    rw [chars] at head
    have ends : CodePoint.isHexDigit (.char first) = false ∧ first ≠ ':' := by
      rcases head first rfl with rfl | rfl <;> decide
    simp [Unnumbered, ends]

end Unnumbered

theorem unnumbered_headerLines {module : Module} {line : String} (member : line ∈ headerLines module) :
    Unnumbered (ofString line) := by
  apply Unnumbered.of_head
  simp only [headerLines, List.mem_cons, List.not_mem_nil, or_false] at member
  rcases member with rfl | rfl | rfl <;> simp [String.toList_append]

theorem unnumbered_symbolLines {symbols : SymbolTable} {line : String}
    (member : line ∈ symbolLines symbols) : Unnumbered (ofString line) := by
  apply Unnumbered.of_head
  simp only [symbolLines, List.mem_append, List.mem_singleton, List.mem_map] at member
  rcases member with ((rfl | ⟨native, _, rfl⟩) | rfl) | ⟨symbol, _, rfl⟩ <;>
    simp [String.toList_append]

theorem unnumbered_labelLines {symbols : SymbolTable} {instruction : Instruction} {line : String}
    (member : line ∈ labelLines symbols instruction) : Unnumbered (ofString line) := by
  apply Unnumbered.of_head
  unfold labelLines at member
  split at member
  · split at member
    · split at member
      · obtain rfl := List.mem_singleton.mp member
        simp
      · simp only [List.mem_cons, List.not_mem_nil, or_false] at member
        rcases member with rfl | rfl <;> simp [String.toList_append]
    · obtain rfl := List.mem_singleton.mp member
      simp
  · cases member

theorem filter_unnumbered {found : Text → Bool} (numbered : ∀ line, Unnumbered line → found line = false)
    {lines : List String} (unnumbered : ∀ line ∈ lines, Unnumbered (ofString line)) :
    (lines.map ofString).filter found = [] := by
  apply List.filter_eq_nil_iff.mpr
  intro text member
  obtain ⟨line, inside, rfl⟩ := List.mem_map.mp member
  simp [numbered _ (unnumbered line inside)]

end Listing

end PawnBytecode
