import Mathlib.Data.List.Forall2
import PawnBytecode.Text.Basic

/-! Fields told apart. A field ends where its characters do, a remark begins at its mark and a line
ends at the next mark, so the whole determines the parts. -/
namespace PawnBytecode

/-- A text that does not leave its line. -/
def OneLine (line : String) : Prop := '\n' ∉ line.toList

instance (line : String) : Decidable (OneLine line) := inferInstanceAs (Decidable (_ ∉ _))

theorem oneLine_append {first second : String} :
    OneLine (first ++ second) ↔ OneLine first ∧ OneLine second := by
  simp [OneLine]

namespace Fields

variable {α : Type}

/-- A list cut at the first item that does not pass a test. -/
structure Cut (passes : α → Bool) (front rest : List α) : Prop where
  front : ∀ item ∈ front, passes item = true
  rest : ∀ item ∈ rest.head?, passes item = false

namespace Cut

variable {passes : α → Bool} {first second rest other : List α}

theorem takeWhile (cut : Cut passes first rest) : (first ++ rest).takeWhile passes = first := by
  rw [List.takeWhile_append_of_pos cut.front]
  cases rest with
  | nil => exact List.append_nil first
  | cons item rest => simp [cut.rest item rfl]

theorem inj (cut : Cut passes first rest) (again : Cut passes second other)
    (same : first ++ rest = second ++ other) : first = second ∧ rest = other := by
  have fronts : first = second := by rw [← cut.takeWhile, same, again.takeWhile]
  subst fronts
  exact ⟨rfl, List.append_cancel_left same⟩

end Cut

/-- Lists with equal images agree item by item, where equal images say so. -/
theorem forall₂_of_map_eq {β : Type} {image otherImage : α → β} {agree : α → α → Prop}
    {first second : List α}
    (told : ∀ item ∈ first, ∀ other ∈ second, image item = otherImage other → agree item other)
    (same : first.map image = second.map otherImage) : List.Forall₂ agree first second := by
  induction first generalizing second with
  | nil =>
    obtain rfl := List.map_eq_nil_iff.mp same.symm
    exact .nil
  | cons item first ih =>
    cases second with
    | nil => cases same
    | cons other second =>
      obtain ⟨head, tail⟩ := List.cons.inj same
      exact .cons (told item List.mem_cons_self other List.mem_cons_self head)
        (ih (fun item member other inside =>
          told item (List.mem_cons_of_mem _ member) other (List.mem_cons_of_mem _ inside)) tail)

variable {mark : α}

def remarked (text lead : List α) (mark : α) (remark : Option (List α)) : List α :=
  text ++ remark.elim [] fun remark => lead ++ mark :: remark

theorem mem_remarked {text lead remark : List α} : mark ∈ remarked text lead mark (some remark) := by
  simp [remarked]

def ended (mark : α) (lines : List (List α)) : List α := lines.flatMap (· ++ [mark])

theorem ended_cons (line : List α) (lines : List (List α)) :
    ended mark (line :: lines) = line ++ mark :: ended mark lines := by
  simp [ended]

theorem intercalate_append_mark {lines : List (List α)} (present : lines ≠ []) :
    [mark].intercalate lines ++ [mark] = ended mark lines := by
  induction lines with
  | nil => exact absurd rfl present
  | cons line lines ih =>
    cases lines with
    | nil => simp [ended]
    | cons next lines =>
      rw [ended_cons, ← ih (List.cons_ne_nil _ _)]
      simp [List.intercalate]

theorem eq_or_mem_of_mem_intercalate {lines : List (List α)} {item : α}
    (member : item ∈ [mark].intercalate lines) : item = mark ∨ ∃ line ∈ lines, item ∈ line := by
  have present : lines ≠ [] := by
    rintro rfl
    cases member
  have inside : item ∈ ended mark lines := by
    rw [← intercalate_append_mark present]
    exact List.mem_append_left _ member
  obtain ⟨line, found, inside⟩ := List.mem_flatMap.mp inside
  rcases List.mem_append.mp inside with field | single
  · exact .inr ⟨line, found, field⟩
  · exact .inl (List.mem_singleton.mp single)

theorem exists_intercalate_eq (mark : α) {lines : List (List α)} (present : lines ≠ []) :
    ∃ front, ∃ last ∈ lines, [mark].intercalate lines = front ++ last := by
  induction lines with
  | nil => exact absurd rfl present
  | cons line lines ih =>
    cases lines with
    | nil => exact ⟨[], line, List.mem_cons_self, by simp⟩
    | cons next lines =>
      obtain ⟨front, last, member, same⟩ := ih (List.cons_ne_nil _ _)
      refine ⟨line ++ [mark] ++ front, last, List.mem_cons_of_mem _ member, ?_⟩
      rw [List.intercalate_cons_cons, same, ← List.append_assoc]

theorem eq_nil_of_intercalate {fields : List (List α)} (shown : ∀ field ∈ fields, field ≠ [])
    (empty : [mark].intercalate fields = []) : fields = [] := by
  cases fields with
  | nil => rfl
  | cons field fields =>
    have front := shown field List.mem_cons_self
    cases fields <;> simp_all [List.intercalate]

section Marks

variable [DecidableEq α]

theorem cut_mark {front : List α} (free : mark ∉ front) (rest : List α) :
    Cut (· != mark) front (mark :: rest) where
  front item member := bne_iff_ne.mpr fun same => free (same ▸ member)
  rest item head := by
    obtain rfl := Option.some.inj head
    exact bne_self_eq_false mark

/-- The first mark begins the remark. -/
theorem remarked_inj {first second lead : List α} {remark other : Option (List α)}
    (firstFree : mark ∉ first) (secondFree : mark ∉ second) (leadFree : mark ∉ lead)
    (same : remarked first lead mark remark = remarked second lead mark other) :
    first = second ∧ remark = other := by
  cases remark with
  | none =>
    cases other with
    | none => exact ⟨by simpa [remarked] using same, rfl⟩
    | some other =>
      have marked : mark ∈ remarked first lead mark none := same ▸ mem_remarked
      exact absurd (by simpa [remarked] using marked) firstFree
  | some remark =>
    cases other with
    | none =>
      have marked : mark ∈ remarked second lead mark none := same ▸ mem_remarked
      exact absurd (by simpa [remarked] using marked) secondFree
    | some other =>
      have fronts : ∀ {text : List α}, mark ∉ text → mark ∉ text ++ lead := by
        intro text free
        simpa using ⟨free, leadFree⟩
      simp only [remarked, Option.elim_some, ← List.append_assoc] at same
      obtain ⟨texts, remarks⟩ :=
        (cut_mark (fronts firstFree) remark).inj (cut_mark (fronts secondFree) other) same
      exact ⟨List.append_cancel_right texts, congrArg some (List.cons.inj remarks).2⟩

theorem ended_inj {first second : List (List α)} (firstFree : ∀ line ∈ first, mark ∉ line)
    (secondFree : ∀ line ∈ second, mark ∉ line) (same : ended mark first = ended mark second) :
    first = second := by
  induction first generalizing second with
  | nil =>
    cases second with
    | nil => rfl
    | cons line second => simp [ended] at same
  | cons line first ih =>
    cases second with
    | nil => simp [ended] at same
    | cons other second =>
      obtain ⟨firstHead, firstTail⟩ := List.forall_mem_cons.mp firstFree
      obtain ⟨secondHead, secondTail⟩ := List.forall_mem_cons.mp secondFree
      rw [ended_cons, ended_cons] at same
      obtain ⟨rfl, rest⟩ := (cut_mark firstHead _).inj (cut_mark secondHead _) same
      rw [ih firstTail secondTail (List.cons.inj rest).2]

/-- Fields without the mark, and none of them empty, are told by the marks between them. -/
theorem intercalate_inj {first second : List (List α)}
    (firstShown : ∀ field ∈ first, field ≠ []) (secondShown : ∀ field ∈ second, field ≠ [])
    (firstFree : ∀ field ∈ first, mark ∉ field) (secondFree : ∀ field ∈ second, mark ∉ field)
    (same : [mark].intercalate first = [mark].intercalate second) : first = second := by
  by_cases empty : first = []
  · subst empty
    exact (eq_nil_of_intercalate secondShown same.symm).symm
  · have present : second ≠ [] := by
      rintro rfl
      exact empty (eq_nil_of_intercalate firstShown same)
    apply ended_inj firstFree secondFree
    rw [← intercalate_append_mark empty, ← intercalate_append_mark present, same]

end Marks

def linesText (lines : List String) : List Char := ended '\n' (lines.map String.toList)

theorem linesText_append (first second : List String) :
    linesText (first ++ second) = linesText first ++ linesText second := by
  simp [linesText, ended]

theorem linesText_flatMap {items : List α} (lines : α → List String) :
    linesText (items.flatMap lines) = items.flatMap fun item => linesText (lines item) := by
  induction items with
  | nil => rfl
  | cons item items ih => rw [List.flatMap_cons, linesText_append, ih, List.flatMap_cons]

/-- Joined lines with two more ends are followed by an empty line. -/
theorem toList_joined {lines : List String} (present : lines ≠ []) :
    ("\n".intercalate lines ++ "\n\n").toList = linesText (lines ++ [""]) := by
  have some : lines.map String.toList ≠ [] := fun empty => present (List.map_eq_nil_iff.mp empty)
  have joined := @intercalate_append_mark _ '\n' _ some
  rw [linesText_append, linesText, ← joined, String.toList_append, String.toList_intercalate]
  simp [linesText, ended]

/-- A text tells its lines. -/
theorem linesText_inj {first second : List String} (firstLines : ∀ line ∈ first, OneLine line)
    (secondLines : ∀ line ∈ second, OneLine line) (same : linesText first = linesText second) :
    first = second := by
  have free : ∀ {lines : List String}, (∀ line ∈ lines, OneLine line) →
      ∀ line ∈ lines.map String.toList, '\n' ∉ line := by
    intro lines each line member
    obtain ⟨text, inside, rfl⟩ := List.mem_map.mp member
    exact each text inside
  apply List.map_injective_iff.mpr ?_ (ended_inj (free firstLines) (free secondLines) same)
  exact fun line other => String.toList_inj.mp

end Fields

end PawnBytecode
