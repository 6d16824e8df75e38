import PawnBytecode.Proofs.Text.Fields
import PawnBytecode.Proofs.Text.Numeral
import PawnBytecode.Proofs.Text.Trimming

namespace PawnBytecode

open Fields (Cut)

def wordRanges : Ranges := [(0x2D, 0x2E), (0x30, 0x39), (0x41, 0x5A), (0x61, 0x7A)]

def isWordChar (char : Char) : Bool := wordRanges.contains char.toNat

/-- A numeral or a mnemonic, by its characters. -/
def IsWord (text : String) : Prop := ∀ char ∈ text.toList, isWordChar char = true

instance (text : String) : Decidable (IsWord text) :=
  decidable_of_iff (text.toList.all isWordChar = true) List.all_eq_true

theorem visible_of_isWordChar {char : Char} (word : isWordChar char = true) :
    0x20 < char.toNat ∧ char.toNat < 0x7F := by
  simp [isWordChar, Ranges.contains, wordRanges] at word
  omega

namespace IsWord

variable {first second : String} {rest other : List Char}

theorem oneLine (word : IsWord first) : OneLine first := by
  intro newline
  cases word _ newline

theorem solid (word : IsWord first) (some : first ≠ "") : (Text.ofString first).Solid := by
  have present : first.toList ≠ [] := by simpa using some
  have visible := visible_of_isWordChar (word _ (List.getLast_mem present))
  refine ⟨.char (first.toList.getLast present), ?_, CodePoint.isBlank_of_visible visible.1 visible.2⟩
  rw [Text.ofString, List.getLast?_map, List.getLast?_eq_some_getLast present]
  rfl

theorem append (front : IsWord first) (back : IsWord second) : IsWord (first ++ second) := by
  intro char member
  rw [String.toList_append] at member
  rcases List.mem_append.mp member with inside | inside
  · exact front char inside
  · exact back char inside

theorem append_inj (word : IsWord first) (again : IsWord second)
    (restApart : ∀ char ∈ rest.head?, isWordChar char = false)
    (otherApart : ∀ char ∈ other.head?, isWordChar char = false)
    (same : first.toList ++ rest = second.toList ++ other) : first = second ∧ rest = other := by
  obtain ⟨words, rests⟩ := Cut.inj ⟨word, restApart⟩ ⟨again, otherApart⟩ same
  exact ⟨String.toList_inj.mp words, rests⟩

theorem append_last_inj (word : IsWord first) (again : IsWord second)
    (restApart : ∀ char ∈ rest.getLast?, isWordChar char = false)
    (otherApart : ∀ char ∈ other.getLast?, isWordChar char = false)
    (same : rest ++ first.toList = other ++ second.toList) : rest = other ∧ first = second := by
  have turned : first.toList.reverse ++ rest.reverse = second.toList.reverse ++ other.reverse := by
    rw [← List.reverse_append, ← List.reverse_append, same]
  have cut : ∀ {text : String} {rest : List Char}, IsWord text →
      (∀ char ∈ rest.getLast?, isWordChar char = false) →
        Cut isWordChar text.toList.reverse rest.reverse := by
    intro text rest word apart
    constructor
    · exact fun char member => word char (List.mem_reverse.mp member)
    · exact fun char head => apart char (List.head?_reverse ▸ head)
  obtain ⟨words, rests⟩ := (cut word restApart).inj (cut again otherApart) turned
  exact ⟨List.reverse_injective rests, String.toList_inj.mp (List.reverse_injective words)⟩

/-- A word ends at a separator that begins with a space. -/
theorem field_inj {separator : String} (word : IsWord first) (again : IsWord second)
    (apart : separator.toList.head? = some ' ')
    (same : first.toList ++ (separator.toList ++ rest) = second.toList ++ (separator.toList ++ other)) :
    first = second ∧ rest = other := by
  have spaced : ∀ rest : List Char, ∀ char ∈ (separator.toList ++ rest).head?, isWordChar char = false := by
    intro rest char head
    rw [List.head?_append, apart] at head
    cases head
    rfl
  obtain ⟨words, rests⟩ := word.append_inj again (spaced rest) (spaced other) same
  exact ⟨words, List.append_cancel_left rests⟩

end IsWord

namespace Numeral

theorem isWordChar_of_isUpperDigit {digit : Char} (upper : isUpperDigit digit = true) :
    isWordChar digit = true := by
  have each : upperDigits.all isWordChar = true := by decide
  exact List.all_eq_true.mp each digit (List.contains_iff_mem.mp upper)

theorem isWordChar_of_mem_toDigits {base value : Nat} {digit : Char} (above : 1 < base)
    (within : base ≤ 16) (member : digit ∈ Nat.toDigits base value) : isWordChar digit = true := by
  obtain ⟨small, bound, rfl⟩ := exists_digitChar_eq above member
  have each : ∀ small : Fin 16, isWordChar small.val.digitChar = true := by decide
  exact each ⟨small, Nat.lt_of_lt_of_le bound within⟩

theorem isWord_padded {digits : Nat → List Char} {value : Int}
    (each : ∀ digit ∈ digits value.natAbs, isWordChar digit = true) (width : Nat) :
    IsWord (padded digits width value) := by
  intro char member
  simp only [padded, String.toList_ofList] at member
  rcases List.mem_append.mp member with front | digit
  · rcases List.mem_append.mp front with sign | zero
    · split at sign
      · obtain rfl := List.mem_singleton.mp sign
        rfl
      · cases sign
    · rw [List.eq_of_mem_replicate zero]
      rfl
  · exact each char digit

theorem isWord_hex (width : Nat) (value : Int) : IsWord (hex width value) :=
  isWord_padded (fun _ digit => isWordChar_of_isUpperDigit (isUpperDigit_of_mem digit)) width

theorem isWord_smallHex (width : Nat) (value : Int) : IsWord (smallHex width value) :=
  isWord_padded (fun _ => isWordChar_of_mem_toDigits (by decide) (by decide)) width

theorem isWord_address (value : Int) : IsWord (address value) := by
  have mark : IsWord "0x" := by decide
  exact mark.append (isWord_hex 4 value)

theorem isWord_digits (value : Nat) : IsWord (toString value) := by
  intro digit member
  rw [Nat.toString_eq_repr, Nat.toList_repr] at member
  exact isWordChar_of_mem_toDigits (by decide) (by decide) member

theorem isWord_decimal (value : Int) : IsWord (toString value) := by
  rw [Int.toString_eq_repr, Int.repr_eq_if]
  split
  · exact isWord_digits _
  · have sign : IsWord "-" := by decide
    exact sign.append (isWord_digits _)

end Numeral

end PawnBytecode
