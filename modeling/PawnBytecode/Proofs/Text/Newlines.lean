import Mathlib.Data.List.Count
import PawnBytecode.Proofs.Text.Words

namespace PawnBytecode

def newlines (text : String) : Nat := text.toList.count '\n'

def breaks (texts : List String) : Nat := (texts.map newlines).sum

def Text.newlines (text : Text) : Nat := text.count (.char '\n')

variable {first second : String} {texts others : List String}

theorem newlines_append (first second : String) :
    newlines (first ++ second) = newlines first + newlines second := by
  simp [newlines, List.count_append]

theorem newlines_eq_zero {text : String} : newlines text = 0 ↔ OneLine text := List.count_eq_zero

theorem OneLine.newlines {text : String} (oneLine : OneLine text) : newlines text = 0 :=
  newlines_eq_zero.mpr oneLine

theorem newlines_around (before : OneLine first) (after : OneLine second) (text : String) :
    newlines (first ++ text ++ second) = newlines text := by
  rw [newlines_append, newlines_append, before.newlines, after.newlines, Nat.zero_add, Nat.add_zero]

theorem breaks_append (texts others : List String) :
    breaks (texts ++ others) = breaks texts + breaks others := by
  simp [breaks]

theorem breaks_cons (text : String) (texts : List String) :
    breaks (text :: texts) = newlines text + breaks texts := by
  simp [breaks]

theorem breaks_eq_zero : breaks texts = 0 ↔ ∀ text ∈ texts, OneLine text := by
  induction texts with
  | nil => simp [breaks]
  | cons text texts ih =>
    rw [breaks_cons, Nat.add_eq_zero_iff, newlines_eq_zero, ih, List.forall_mem_cons]

theorem newlines_join (texts : List String) : newlines (String.join texts) = breaks texts := by
  induction texts with
  | nil => rfl
  | cons text texts ih => rw [String.join_cons, newlines_append, ih, breaks_cons]

section Pasted

variable {α : Type} {items : List α} {line : α → String}

/-- Texts with ends of their own, and with those of what is pasted into them. -/
theorem breaks_map {own : α → Nat} {pasted : α → List String}
    (each : ∀ item ∈ items, newlines (line item) = own item + breaks (pasted item)) :
    breaks (items.map line) = (items.map own).sum + breaks (items.flatMap pasted) := by
  induction items with
  | nil => rfl
  | cons item items ih =>
    have others := ih fun item member => each item (List.mem_cons_of_mem _ member)
    rw [List.map_cons, breaks_cons, List.map_cons, List.sum_cons, List.flatMap_cons, breaks_append,
      each item List.mem_cons_self, others]
    omega

theorem breaks_flatMap {pasted : α → List String}
    (each : ∀ item ∈ items, newlines (line item) = breaks (pasted item)) :
    breaks (items.map line) = breaks (items.flatMap pasted) := by
  have none : ∀ item ∈ items, newlines (line item) = 0 + breaks (pasted item) :=
    fun item member => by rw [each item member, Nat.zero_add]
  rw [breaks_map none]
  simp

theorem breaks_congr {name : α → String} (each : ∀ item ∈ items, newlines (line item) = newlines (name item)) :
    breaks (items.map line) = breaks (items.map name) := by
  rw [breaks, breaks, List.map_map, List.map_map]
  exact congrArg List.sum (List.map_congr_left each)

end Pasted

namespace Fields

theorem count_ended {α : Type} [BEq α] [LawfulBEq α] (mark : α) (lines : List (List α)) :
    (ended mark lines).count mark = lines.length + (lines.map (List.count mark)).sum := by
  induction lines with
  | nil => rfl
  | cons line lines ih =>
    rw [ended_cons, List.count_append, List.count_cons_self, ih, List.length_cons, List.map_cons,
      List.sum_cons]
    omega

theorem count_linesText (lines : List String) :
    (linesText lines).count '\n' = lines.length + breaks lines := by
  rw [linesText, count_ended, List.length_map, List.map_map]
  rfl

end Fields

namespace Text

def breaks (lines : List Text) : Nat := (lines.map newlines).sum

theorem breaks_append (lines others : List Text) : breaks (lines ++ others) = breaks lines + breaks others := by
  simp [breaks]

theorem newlines_ofString (text : String) : newlines (ofString text) = PawnBytecode.newlines text := by
  rw [newlines, ofString, List.count_map_of_injective text.toList CodePoint.char
    (fun _ _ => CodePoint.char.inj) '\n']
  rfl

theorem breaks_map_ofString (lines : List String) :
    breaks (lines.map ofString) = PawnBytecode.breaks lines := by
  rw [breaks, List.map_map, PawnBytecode.breaks]
  exact congrArg List.sum (List.map_congr_left fun line _ => newlines_ofString line)

theorem newlines_ended (lines : List Text) :
    newlines (Fields.ended (.char '\n') lines) = lines.length + breaks lines :=
  Fields.count_ended _ lines

end Text

end PawnBytecode
