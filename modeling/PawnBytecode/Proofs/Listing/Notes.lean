import PawnBytecode.Listing
import PawnBytecode.Proofs.Shown

namespace PawnBytecode

namespace Text

/-- A text without half of a surrogate pair. -/
def Whole (text : Text) : Prop := ∀ point ∈ text, ∃ value, point = .char value

theorem whole_ofString (text : String) : (ofString text).Whole := by
  intro point member
  obtain ⟨value, _, rfl⟩ := List.mem_map.mp member
  exact ⟨value, rfl⟩

variable {text other : Text} {texts : List Text}

theorem Whole.append (whole : text.Whole) (behind : other.Whole) : Whole (text ++ other) := by
  intro point member
  rcases List.mem_append.mp member with inside | inside
  · exact whole point inside
  · exact behind point inside

theorem Whole.trimEnd (whole : text.Whole) : text.trimEnd.Whole := by
  intro point member
  have inside := (List.dropWhile_sublist CodePoint.isBlank).subset (List.mem_reverse.mp member)
  exact whole point (List.mem_reverse.mp inside)

theorem whole_flatMap {lines : List α} {write : α → Text} (whole : ∀ line ∈ lines, (write line).Whole) :
    Whole (lines.flatMap write) := by
  intro point member
  obtain ⟨line, inside, member⟩ := List.mem_flatMap.mp member
  exact whole line inside point member

theorem whole_intercalate (separator : other.Whole) (whole : ∀ text ∈ texts, text.Whole) :
    Whole (other.intercalate texts) := by
  induction texts with
  | nil => exact List.forall_mem_nil _
  | cons first texts ih =>
    obtain ⟨head, tail⟩ := List.forall_mem_cons.mp whole
    cases texts with
    | nil => simpa [List.intercalate] using head
    | cons second texts =>
      rw [List.intercalate_cons_cons]
      exact (head.append separator).append (ih tail)

theorem Whole.exists_ofString (whole : text.Whole) : ∃ string, text = ofString string := by
  induction text with
  | nil => exact ⟨"", rfl⟩
  | cons point text ih =>
    obtain ⟨⟨value, rfl⟩, rest⟩ := List.forall_mem_cons.mp whole
    obtain ⟨string, rfl⟩ := ih rest
    exact ⟨.ofList (value :: string.toList), by simp [ofString]⟩

theorem utf8?_ofString (string : String) : (ofString string).utf8? = some string.toUTF8.toList := by
  rw [utf8?, toString?_ofString]
  rfl

theorem Whole.exists_utf8? (whole : text.Whole) : ∃ content, text.utf8? = some content := by
  obtain ⟨string, rfl⟩ := whole.exists_ofString
  exact ⟨_, utf8?_ofString string⟩

end Text

namespace KnowledgeBase

def Textual (base : KnowledgeBase) : Prop :=
  ∀ named ∈ base.notes, named.2.summary.isPresent = true → ∃ summary, named.2.summary = .string summary

/-- Every summary that is present is a text of whole characters. -/
def Worded (base : KnowledgeBase) : Prop :=
  ∀ named ∈ base.notes, named.2.summary.isPresent = true →
    ∃ summary, named.2.summary = .string summary ∧ summary.Whole

theorem worded_empty : empty.Worded := List.forall_mem_nil _

theorem Worded.textual {base : KnowledgeBase} (worded : base.Worded) : base.Textual := by
  intro named member present
  obtain ⟨summary, text, _⟩ := worded named member present
  exact ⟨summary, text⟩

theorem mem_of_lookup {base : KnowledgeBase} {mnemonic : Text} {note : OpcodeNote}
    (found : base.lookup mnemonic = some note) : (mnemonic.lower, note) ∈ base.notes := by
  obtain ⟨front, rest, same, _⟩ := List.lookup_eq_some_iff.mp found
  simp [same]

/-- The comments of a mnemonic: the summary of its note where that is present, and no others. -/
inductive Noted (base : KnowledgeBase) (mnemonic : Text) : List Text → Prop where
  | silent (absent : ∀ note, base.lookup mnemonic = some note → note.summary.isPresent = false) :
      Noted base mnemonic []
  | told {note : OpcodeNote} {summary : Text} (found : base.lookup mnemonic = some note)
      (present : note.summary.isPresent = true) (text : note.summary = .string summary) :
      Noted base mnemonic [summary]

/-- Where summaries are texts, every mnemonic has its comments. -/
theorem Textual.exists_noted {base : KnowledgeBase} (textual : base.Textual) (mnemonic : Text) :
    ∃ comments, Listing.noteComment (base.lookup mnemonic) = .ok comments ∧
      base.Noted mnemonic comments := by
  cases found : base.lookup mnemonic with
  | none => exact ⟨[], rfl, .silent fun note other => by rw [found] at other; cases other⟩
  | some note =>
    by_cases present : note.summary.isPresent = true
    · obtain ⟨summary, text⟩ := textual _ (mem_of_lookup found) present
      refine ⟨[summary], ?_, .told found present text⟩
      simp only [Listing.noteComment, if_pos present]
      rw [text]
    · refine ⟨[], ?_, .silent fun other again => ?_⟩
      · simp only [Listing.noteComment, if_neg present]
      · obtain rfl := Option.some.inj (found.symm.trans again)
        exact Bool.eq_false_iff.mpr present

theorem Worded.exists_noteComment {base : KnowledgeBase} (worded : base.Worded) (mnemonic : Text) :
    ∃ comments, Listing.noteComment (base.lookup mnemonic) = .ok comments ∧
      ∀ comment ∈ comments, comment.Whole := by
  obtain ⟨comments, noted, told⟩ := worded.textual.exists_noted mnemonic
  refine ⟨comments, noted, ?_⟩
  cases told with
  | silent _ => exact List.forall_mem_nil _
  | told found present text =>
    obtain ⟨summary, again, whole⟩ := worded _ (mem_of_lookup found) present
    obtain rfl := Json.string.inj (text.symm.trans again)
    exact List.forall_mem_singleton.mpr whole

end KnowledgeBase

namespace Listing

variable {listing : Listing} {symbols : SymbolTable} {instruction : Instruction}

theorem whole_withComments {text : Text} {comments : List Text} (whole : text.Whole)
    (each : ∀ comment ∈ comments, comment.Whole) : (withComments text comments).Whole := by
  unfold withComments
  split
  · exact whole.trimEnd
  · have joined := Text.whole_intercalate (Text.whole_ofString " | ") each
    exact ((whole.trimEnd.append (Text.whole_ofString " ; ")).append joined).trimEnd

def codeText (instruction : Instruction) (operands : String) : Text :=
  .ofString (Numeral.hex 8 instruction.offset ++ ": " ++ padEnd mnemonicWidth instruction.mnemonic ++ " " ++
    operands)

theorem instructionLine_of_noted {operands : String} {notes : List Text} (counted : instruction.Counted)
    (shown : instruction.operandText = .ok operands)
    (noted : noteComment (listing.knowledge.lookup (.ofString instruction.mnemonic)) = .ok notes)
    (symbols : SymbolTable) :
    listing.instructionLine symbols instruction = .ok (withComments (codeText instruction operands)
      ((symbols.callee instruction).toList.map .ofString ++ notes)) := by
  rw [instructionLine, shown, symbols.annotate_of_counted counted, noted]
  rfl

theorem exists_instructionLines_of_textual (textual : listing.knowledge.Textual)
    (counted : instruction.Counted) (symbols : SymbolTable) :
    ∃ lines, listing.instructionLines symbols instruction = .ok lines := by
  obtain ⟨operands, shown⟩ := counted.operandText
  obtain ⟨notes, noted, _⟩ := textual.exists_noted (.ofString instruction.mnemonic)
  rw [instructionLines, instructionLine_of_noted counted shown noted symbols]
  exact ⟨_, rfl⟩

/-- An instruction with its operands has its lines, with a note behind it or without. -/
theorem exists_instructionLines (worded : listing.knowledge.Worded) (counted : instruction.Counted)
    (symbols : SymbolTable) : ∃ lines, listing.instructionLines symbols instruction = .ok lines ∧
      ∀ line ∈ lines, line.Whole := by
  obtain ⟨operands, shown⟩ := counted.operandText
  obtain ⟨notes, noted, whole⟩ := worded.exists_noteComment (.ofString instruction.mnemonic)
  have callee : ∀ comment ∈ (symbols.callee instruction).toList.map Text.ofString, comment.Whole := by
    intro comment member
    obtain ⟨name, _, rfl⟩ := List.mem_map.mp member
    exact Text.whole_ofString name
  have comments := List.forall_mem_append.mpr ⟨callee, whole⟩
  rw [instructionLines, instructionLine_of_noted counted shown noted symbols]
  refine ⟨_, rfl, fun line member => ?_⟩
  rcases List.mem_append.mp member with label | code
  · obtain ⟨name, _, rfl⟩ := List.mem_map.mp label
    exact Text.whole_ofString name
  · obtain rfl := List.mem_singleton.mp code
    exact whole_withComments (Text.whole_ofString _) comments

end Listing

end PawnBytecode
