import Mathlib.Data.Nat.Digits.Defs
import PawnBytecode.Text.Numeral

namespace PawnBytecode.Numeral

theorem tooLong_eq : tooLong = 10 ^ digitLimit := by
  unfold tooLong
  -- The number is not to be computed.
  generalize digitLimit = limit
  rfl

/-- What can be written are the numbers with few digits. -/
theorem writable_iff_length {value : Int} :
    Writable value ↔ (Nat.toDigits 10 value.natAbs).length ≤ digitLimit := by
  rw [Writable, tooLong_eq, Nat.length_toDigits_le_iff (by decide) (by decide)]

theorem pow_le_tooLong {places : Nat} (few : places ≤ digitLimit) : 10 ^ places ≤ tooLong := by
  rw [tooLong_eq]
  exact Nat.pow_le_pow_right (by decide) few

theorem writable_of_small {value : Int} (small : value.natAbs < 2 ^ 64) : Writable value :=
  Nat.lt_of_lt_of_le small (Nat.le_trans (by decide : 2 ^ 64 ≤ 10 ^ 20) (pow_le_tooLong (by decide)))

theorem writable_natCast {value : Nat} (small : value < 2 ^ 64) : Writable (value : Int) :=
  writable_of_small small

theorem not_writable_tooLong : ¬Writable tooLong := by
  rw [Writable, Int.natAbs_natCast]
  exact Nat.lt_irrefl _

def upperDigits : List Char := "0123456789ABCDEF".toList

def isUpperDigit (digit : Char) : Bool := upperDigits.contains digit

def upperDigit (value : Nat) : Char := value.digitChar.toUpper

theorem idxOf_upperDigit {value : Nat} (small : value < 16) :
    upperDigits.idxOf (upperDigit value) = value := by
  have each : ∀ value : Fin 16, upperDigits.idxOf (upperDigit value) = value := by decide
  exact each ⟨value, small⟩

theorem isUpperDigit_upperDigit {value : Nat} (small : value < 16) :
    isUpperDigit (upperDigit value) = true := by
  have each : ∀ value : Fin 16, isUpperDigit (upperDigit value) = true := by decide
  exact each ⟨value, small⟩

theorem upperHex_of_lt {value : Nat} (small : value < 16) : upperHex value = [upperDigit value] := by
  rw [upperHex, Nat.toDigits_of_lt_base small]
  rfl

theorem upperHex_of_le {value : Nat} (large : 16 ≤ value) :
    upperHex value = upperHex (value / 16) ++ [upperDigit (value % 16)] := by
  rw [upperHex, Nat.toDigits_of_base_le (by decide) large, List.map_append]
  rfl

theorem exists_digitChar_eq {base value : Nat} {digit : Char} (above : 1 < base)
    (member : digit ∈ Nat.toDigits base value) : ∃ small < base, digit = small.digitChar := by
  induction value using Nat.strongRecOn with
  | ind value ih =>
    by_cases small : value < base
    · rw [Nat.toDigits_of_lt_base small, List.mem_singleton] at member
      exact ⟨value, small, member⟩
    · have large := Nat.le_of_not_lt small
      rw [Nat.toDigits_of_base_le above large] at member
      rcases List.mem_append.mp member with front | last
      · exact ih _ (Nat.div_lt_self (by omega) above) front
      · exact ⟨value % base, Nat.mod_lt _ (by omega), List.mem_singleton.mp last⟩

theorem isUpperDigit_of_mem {value : Nat} {digit : Char} (member : digit ∈ upperHex value) :
    isUpperDigit digit = true := by
  obtain ⟨lower, inside, rfl⟩ := List.mem_map.mp member
  obtain ⟨small, bound, rfl⟩ := exists_digitChar_eq (by decide) inside
  exact isUpperDigit_upperDigit bound

def readUpperHex (digits : List Char) : Nat :=
  digits.foldl (fun value digit => 16 * value + upperDigits.idxOf digit) 0

theorem readUpperHex_upperHex (value : Nat) : readUpperHex (upperHex value) = value := by
  induction value using Nat.strongRecOn with
  | ind value ih =>
    by_cases small : value < 16
    · simp [upperHex_of_lt small, readUpperHex, idxOf_upperDigit small]
    · have front := ih _ (Nat.div_lt_self (show 0 < value by omega) (show 1 < 16 by decide))
      rw [readUpperHex] at front
      rw [upperHex_of_le (Nat.le_of_not_lt small), readUpperHex, List.foldl_append, front]
      simp only [List.foldl_cons, List.foldl_nil, idxOf_upperDigit (Nat.mod_lt value (show 16 > 0 by decide))]
      omega

theorem readUpperHex_zeros (count : Nat) (digits : List Char) :
    readUpperHex (List.replicate count '0' ++ digits) = readUpperHex digits := by
  induction count with
  | zero => rfl
  | succ count ih => exact ih

def readHex (chars : List Char) : Int :=
  if chars.head? = some '-' then -readUpperHex chars.tail else readUpperHex chars

theorem isUpperDigit_of_mem_zeros {count : Nat} {value : Nat} {digit : Char}
    (member : digit ∈ List.replicate count '0' ++ upperHex value) : isUpperDigit digit = true := by
  rcases List.mem_append.mp member with zero | digits
  · rw [List.eq_of_mem_replicate zero]
    rfl
  · exact isUpperDigit_of_mem digits

theorem readHex_hex (width : Nat) (value : Int) : readHex (hex width value).toList = value := by
  by_cases negative : value < 0
  · simp only [hex, padded, negative, ↓reduceIte, String.toList_ofList, List.cons_append,
      List.nil_append, readHex, List.head?_cons, List.tail_cons, readUpperHex_zeros,
      readUpperHex_upperHex]
    omega
  · -- No digit is a sign, so nothing is taken for a negative number.
    have digits : ∀ count, ¬(List.replicate count '0' ++ upperHex value.natAbs).head? = some '-' := by
      intro count sign
      cases isUpperDigit_of_mem_zeros (List.mem_of_mem_head? sign)
    simp only [hex, padded, negative, ↓reduceIte, String.toList_ofList, List.nil_append, readHex,
      digits, readUpperHex_zeros, readUpperHex_upperHex]
    omega

/-- A text of some width belongs to one number. -/
theorem hex_inj {width : Nat} {first second : Int} : hex width first = hex width second ↔ first = second := by
  constructor
  · intro same
    rw [← readHex_hex width first, same, readHex_hex]
  · rintro rfl
    rfl

theorem map_toUpper_smallHex (width : Nat) (value : Int) :
    (smallHex width value).toList.map Char.toUpper = (hex width value).toList := by
  have sign : (if value < 0 then ['-'] else []).map Char.toUpper = if value < 0 then ['-'] else [] := by
    split <;> rfl
  have zero : Char.toUpper '0' = '0' := rfl
  simp only [smallHex, hex, padded, String.toList_ofList, List.map_append, sign, List.map_replicate, zero,
    upperHex, lowerHex, List.length_map]

theorem smallHex_inj {width : Nat} {first second : Int} :
    smallHex width first = smallHex width second ↔ first = second := by
  constructor
  · intro same
    have capitals := map_toUpper_smallHex width first
    rw [same, map_toUpper_smallHex] at capitals
    exact hex_inj.mp (String.toList_inj.mp capitals.symm)
  · rintro rfl
    rfl

theorem isUpperDigit_of_mem_hex {width value : Nat} {digit : Char}
    (member : digit ∈ (hex width value).toList) : isUpperDigit digit = true := by
  have positive : ¬(value : Int) < 0 := by omega
  simp only [hex, padded, positive, ↓reduceIte, String.toList_ofList, List.nil_append] at member
  exact isUpperDigit_of_mem_zeros member

def readDecimal (chars : List Char) : Int :=
  if chars.head? = some '-' then -Nat.ofDigitChars 10 chars.tail 0 else Nat.ofDigitChars 10 chars 0

theorem readDecimal_decimal (value : Int) : readDecimal (toString value).toList = value := by
  rw [Int.toString_eq_repr, Int.repr_eq_if]
  by_cases positive : 0 ≤ value
  · have digits : ¬value.toNat.repr.toList.head? = some '-' := by
      intro sign
      rw [Nat.toList_repr] at sign
      cases Nat.isDigit_of_mem_toDigits (by decide) (by decide) (List.mem_of_mem_head? sign)
    rw [if_pos positive, readDecimal, if_neg digits, Nat.toList_repr, Nat.ofDigitChars_ten_toDigits]
    omega
  · have spelled : ("-" ++ (-value).toNat.repr).toList = '-' :: Nat.toDigits 10 (-value).toNat := by
      simp
    rw [if_neg positive, spelled, readDecimal, List.head?_cons, if_pos rfl, List.tail_cons,
      Nat.ofDigitChars_ten_toDigits]
    omega

theorem decimal_inj {first second : Int} : toString first = toString second ↔ first = second := by
  constructor
  · intro same
    rw [← readDecimal_decimal first, same, readDecimal_decimal]
  · rintro rfl
    rfl

theorem digits_inj {first second : Nat} : toString first = toString second ↔ first = second :=
  (@decimal_inj first second).trans Int.ofNat_inj

theorem address_inj {first second : Int} : address first = address second ↔ first = second := by
  rw [← @hex_inj 4]
  simp [address]

theorem address_ne_nil (value : Int) : (address value).toList ≠ [] := by
  simp [address]

theorem decimal_ne_nil (value : Int) : (toString value).toList ≠ [] := by
  rw [Int.toString_eq_repr, Int.repr_eq_if]
  split
  · rw [Nat.toList_repr]
    exact Nat.toDigits_ne_nil
  · simp

end PawnBytecode.Numeral
