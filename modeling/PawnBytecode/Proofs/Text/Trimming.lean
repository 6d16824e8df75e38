import Mathlib.Data.List.Induction
import Mathlib.Data.List.TakeWhile
import PawnBytecode.Text.Basic

namespace PawnBytecode

theorem CodePoint.isBlank_of_visible {point : CodePoint} (above : 0x20 < point.number)
    (below : point.number < 0x7F) : point.isBlank = false := by
  simp [isBlank, Ranges.contains, blankRanges]
  omega

namespace Text

/-- A text whose last place is no white space. -/
def Solid (text : Text) : Prop := ∃ last ∈ text.getLast?, last.isBlank = false

theorem trimEnd_snoc (front : Text) (last : CodePoint) :
    trimEnd (front ++ [last]) = if last.isBlank then front.trimEnd else front ++ [last] := by
  by_cases blank : last.isBlank <;> simp [trimEnd, blank]

theorem trimEnd_of_blank {text : Text} (blank : ∀ point ∈ text, point.isBlank = true) :
    text.trimEnd = [] := by
  rw [trimEnd, List.reverse_eq_nil_iff, List.dropWhile_eq_nil_iff]
  exact fun point member => blank point (List.mem_reverse.mp member)

theorem Solid.append {text : Text} (solid : text.Solid) (front : Text) : Solid (front ++ text) := by
  obtain ⟨last, found, printed⟩ := solid
  exact ⟨last, by simp [Option.mem_def.mp found], printed⟩

theorem Solid.trimEnd {text : Text} (solid : text.Solid) : text.trimEnd = text := by
  obtain ⟨last, found, printed⟩ := solid
  obtain ⟨front, rfl⟩ := List.getLast?_eq_some_iff.mp found
  simp [trimEnd_snoc, printed]

theorem Solid.trimEnd_append {text : Text} (solid : text.Solid) (rest : Text) :
    Text.trimEnd (text ++ rest) = text ++ rest.trimEnd := by
  induction rest using List.reverseRecOn with
  | nil => simpa [Text.trimEnd] using solid.trimEnd
  | append_singleton rest last ih =>
    rw [← List.append_assoc, trimEnd_snoc, trimEnd_snoc, ih]
    by_cases blank : last.isBlank <;> simp [blank]

end Text

end PawnBytecode
