import PawnBytecode.Proofs.Acceptance
import PawnBytecode.Proofs.Listing.Notes
import PawnBytecode.Proofs.Module.ReadBack

/-! Listings with a limit. Every instruction has a block of lines, and a limit keeps the first blocks as
they are, so the cut listings of one module are parts of each other and of the whole one. -/
namespace PawnBytecode

open Text (ofString)

namespace Listing

def shownText (module : Module) (symbols : SymbolTable) (blocks : List (List Text)) : Text :=
  ((headerLines module ++ symbolLines symbols).map ofString ++ blocks.flatten).flatMap (· ++ Text.newline)

theorem shownText_mono {first second : List (List Text)} (further : first <+: second) (module : Module)
    (symbols : SymbolTable) : shownText module symbols first <+: shownText module symbols second := by
  obtain ⟨rest, rfl⟩ := further
  refine ⟨rest.flatten.flatMap (· ++ Text.newline), ?_⟩
  simp only [shownText, List.flatten_append, List.flatMap_append, List.append_assoc]

variable {module : Module} {symbols : SymbolTable} {instructions : List Instruction}
  {blocks : List (List Text)} {knowledge : KnowledgeBase}

/-- A listing is the text of what it shows, and perhaps a line in place of the rest. -/
theorem text_of_blocks {listing : Listing} (reads : module.Reads symbols instructions)
    (body : (listing.shownInstructions instructions).mapM (listing.instructionLines symbols) = .ok blocks) :
    listing.text module = .ok (shownText module symbols blocks ++
      ((listing.cutLines instructions).map ofString).flatMap (· ++ Text.newline)) := by
  obtain ⟨natives, publics, decoded⟩ := reads
  rw [text, lines_of_body natives publics decoded body, shownText, ← List.flatMap_append]
  rfl

theorem text_uncut (reads : module.Reads symbols instructions)
    (body : instructions.mapM (instructionLines ⟨knowledge, none⟩ symbols) = .ok blocks) (limit : Option Int)
    (all : shownInstructions ⟨knowledge, limit⟩ instructions = instructions) :
    text ⟨knowledge, limit⟩ module = .ok (shownText module symbols blocks) := by
  have shown : (shownInstructions ⟨knowledge, limit⟩ instructions).mapM
      (instructionLines ⟨knowledge, limit⟩ symbols) = .ok blocks := all.symm ▸ body
  have noCut : cutLines ⟨knowledge, limit⟩ instructions = [] :=
    if_neg (by rw [all]; exact Nat.lt_irrefl _)
  rw [text_of_blocks reads shown, noCut, List.map_nil, List.flatMap_nil, List.append_nil]

/-- A limit that some instructions are beyond shows the first blocks, and that there are more. -/
theorem text_cut (reads : module.Reads symbols instructions)
    (body : instructions.mapM (instructionLines ⟨knowledge, none⟩ symbols) = .ok blocks) {limit : Int}
    (beyond : limit.toNat < instructions.length) :
    text ⟨knowledge, some limit⟩ module =
      .ok (shownText module symbols (blocks.take limit.toNat) ++ ofString "; ... truncated ...\n") := by
  have shown : (shownInstructions ⟨knowledge, some limit⟩ instructions).mapM
      (instructionLines ⟨knowledge, some limit⟩ symbols) = .ok (blocks.take limit.toNat) :=
    Traversal.mapM_take body limit.toNat
  have fewer : (shownInstructions ⟨knowledge, some limit⟩ instructions).length < instructions.length := by
    rw [shownInstructions, List.length_take]
    omega
  have cut : cutLines ⟨knowledge, some limit⟩ instructions = [truncationLine] := if_pos fewer
  rw [text_of_blocks reads shown, cut]
  rfl

theorem exists_blocks (counted : ∀ instruction ∈ instructions, instruction.Counted)
    (textual : knowledge.Textual) (symbols : SymbolTable) :
    ∃ blocks, instructions.mapM (instructionLines ⟨knowledge, none⟩ symbols) = .ok blocks :=
  Traversal.exists_mapM fun instruction member =>
    exists_instructionLines_of_textual textual (counted instruction member) symbols

end Listing

namespace Module

/-- The listings of a module, one for each limit. Every instruction has a block of lines, and what a limit
lets through is the text of the header, of both tables and of the first blocks. -/
structure LimitsCut (module : Module) (knowledge : KnowledgeBase) (whole : Text) (symbols : SymbolTable)
    (instructions : List Instruction) (blocks : List (List Text)) : Prop where
  reads : module.Reads symbols instructions
  lined : instructions.mapM (Listing.instructionLines ⟨knowledge, none⟩ symbols) = .ok blocks
  enough : ∀ limit : Int, instructions.length ≤ limit →
    Listing.text ⟨knowledge, some limit⟩ module = .ok whole
  /-- Without instructions there is nothing to be cut. -/
  vacant : instructions = [] → ∀ limit, Listing.text ⟨knowledge, some limit⟩ module = .ok whole
  cut : instructions ≠ [] → ∀ limit : Int, limit < instructions.length →
    Listing.text ⟨knowledge, some limit⟩ module =
      .ok (Listing.shownText module symbols (blocks.take limit.toNat) ++ ofString "; ... truncated ...\n")
  part : ∀ limit : Int, Listing.shownText module symbols (blocks.take limit.toNat) <+: whole
  grows : ∀ fewer more : Int, fewer ≤ more → Listing.shownText module symbols (blocks.take fewer.toNat) <+:
    Listing.shownText module symbols (blocks.take more.toNat)

theorem limitsCut {module : Module} {knowledge : KnowledgeBase} {whole : Text}
    (listed : Listing.text ⟨knowledge, none⟩ module = .ok whole) :
    ∃ symbols instructions blocks, module.LimitsCut knowledge whole symbols instructions blocks := by
  obtain ⟨symbols, instructions, blocks, reads, body⟩ := exists_body_of_text listed
  rw [Listing.text_uncut reads body none rfl] at listed
  obtain rfl := Except.ok.inj listed
  refine ⟨symbols, instructions, blocks, ?_⟩
  constructor
  case reads => exact reads
  case lined => exact body
  case enough =>
    intro limit enough
    exact Listing.text_uncut reads body (some limit) (List.take_of_length_le (by omega))
  case vacant =>
    rintro rfl limit
    exact Listing.text_uncut reads body (some limit) List.take_nil
  case cut =>
    intro nonempty limit beyond
    have some_ := List.length_pos_of_ne_nil nonempty
    exact Listing.text_cut reads body (by omega)
  case part =>
    intro limit
    exact Listing.shownText_mono (List.take_prefix ..) module symbols
  case grows =>
    intro fewer more less
    exact Listing.shownText_mono (List.take_prefix_take_left (Int.toNat_le_toNat less)) module symbols

/-- A limit decides about the length of a listing only. The listings of a module that is listed are parts of
the whole one, with a line in place of what is cut; and a module that is refused is refused with every
limit, for the same reason. -/
theorem limits_cut (module : Module) (knowledge : KnowledgeBase) :
    (∀ whole, Listing.text ⟨knowledge, none⟩ module = .ok whole →
      ∃ symbols instructions blocks, module.LimitsCut knowledge whole symbols instructions blocks) ∧
    (knowledge.Textual → ∀ failure, Listing.text ⟨knowledge, none⟩ module = .error failure →
      ∀ limit, Listing.text ⟨knowledge, limit⟩ module = .error failure) := by
  refine ⟨fun whole listed => limitsCut listed, fun textual failure failed limit => ?_⟩
  rcases module.reads_or_fault with ⟨symbols, instructions, reads⟩ | ⟨fault, first⟩
  · -- With texts as notes, no line of a module that can be read fails.
    obtain ⟨blocks, body⟩ := Listing.exists_blocks reads.counted textual symbols
    rw [Listing.text_uncut reads body none rfl] at failed
    cases failed
  · rw [← failed, text_of_fault first, text_of_fault first]

def limitedParts (items : List Code.Item) : Parts where
  cellSize := .four
  flags := 0
  definitionSize := 8
  stack := 0x4000
  entry := 8
  publics := [([0x6D, 0x61, 0x69, 0x6E], 8)]
  natives := []
  code := Code.encode .four (List.replicate 8 0) items
  data := []

theorem reads_limitedParts {items : List Code.Item} (fits : (limitedParts items).Fits)
    (valid : ∀ item ∈ items, item.Valid .four) : (limitedParts items).assembled.Reads
      ⟨(limitedParts items).publics.map Parts.symbol, []⟩ (Code.instructionsAt .four 8 items) :=
  fits.reads (show 0 &&& 0x04 = 0 from rfl) rfl rfl valid

def limitedNotes : KnowledgeBase :=
  ⟨[(ofString "retn", ⟨ofString "retn", .string (ofString "leaves"), .null, []⟩),
    (ofString "proc", ⟨ofString "proc", .whole 0, .null, []⟩)]⟩

def invertedModule : Module := ⟨⟨0, 0, 8, 0, 0, 0, 0, 0, 0, 9, 0, 0, 0, 0⟩, .four, []⟩

theorem limits_cut_noted :
    limitedNotes.Textual ∧
      (∃ whole shown,
        Listing.text ⟨limitedNotes, none⟩ (limitedParts [.plain .proc [], .plain .retn []]).assembled =
          .ok whole ∧
        Listing.text ⟨limitedNotes, some 2⟩ (limitedParts [.plain .proc [], .plain .retn []]).assembled =
          .ok whole ∧
        Listing.text ⟨limitedNotes, some 1⟩ (limitedParts [.plain .proc [], .plain .retn []]).assembled =
          .ok (shown ++ ofString "; ... truncated ...\n") ∧ shown <+: whole) ∧
      Listing.text ⟨limitedNotes, some 0⟩ invertedModule =
        .error (.fault (.segmentRange "native table" 9 0 0)) := by
  have textual : limitedNotes.Textual := by
    intro named member present
    simp only [limitedNotes, List.mem_cons, List.not_mem_nil, or_false] at member
    rcases member with rfl | rfl
    · exact ⟨_, rfl⟩
    · cases present
  have fits : (limitedParts [.plain .proc [], .plain .retn []]).Fits := by
    refine ⟨?_, ?_, ?_, ?_, ?_, ?_⟩ <;> decide
  have valid : ∀ item ∈ [Code.Item.plain .proc [], .plain .retn []], item.Valid .four := by
    intro item member
    simp only [List.mem_cons, List.not_mem_nil, or_false] at member
    rcases member with rfl | rfl <;> exact ⟨.plain (by decide) (by decide) rfl (by decide), trivial⟩
  have reads := reads_limitedParts fits valid
  obtain ⟨blocks, body⟩ := Listing.exists_blocks reads.counted textual _
  have listed := Listing.text_uncut reads body none rfl
  obtain ⟨symbols, instructions, others, cut⟩ := (limits_cut _ limitedNotes).1 _ listed
  obtain rfl := Except.ok.inj (reads.2.2.symm.trans cut.reads.2.2)
  refine ⟨textual, ⟨_, _, listed, cut.enough 2 (by decide), cut.cut (by decide) 1 (by decide), cut.part 1⟩, ?_⟩
  exact (limits_cut invertedModule limitedNotes).2 textual _ rfl (some 0)

/-- A listing without instructions is not marked as cut, even where the limit is below their number. -/
theorem vacant_uncut :
    (limitedParts []).assembled.instructions = .ok [] ∧ (-1 : Int) < ([] : List Instruction).length ∧
      (∃ whole, Listing.plain.text (limitedParts []).assembled = .ok whole) ∧
      ∀ shown, Listing.text ⟨.empty, some (-1)⟩ (limitedParts []).assembled ≠
        .ok (shown ++ ofString "; ... truncated ...\n") := by
  have fits : (limitedParts []).Fits := by
    refine ⟨?_, ?_, ?_, ?_, ?_, ?_⟩ <;> decide
  have reads := reads_limitedParts fits (List.forall_mem_nil _)
  have body : (Code.instructionsAt .four 8 []).mapM
      (Listing.instructionLines ⟨.empty, none⟩ ⟨(limitedParts []).publics.map Parts.symbol, []⟩) = .ok [] := rfl
  refine ⟨reads.2.2, by decide, ⟨_, Listing.text_uncut reads body none rfl⟩, fun shown marked => ?_⟩
  rw [Listing.text_uncut reads body (some (-1)) rfl] at marked
  -- The last line names the public.
  have ending : ¬ofString "; ... truncated ...\n" <:+ Listing.shownText (limitedParts []).assembled
      ⟨(limitedParts []).publics.map Parts.symbol, []⟩ [] := by
    decide +kernel
  exact ending ⟨shown, (Except.ok.inj marked).symm⟩

end Module

end PawnBytecode
