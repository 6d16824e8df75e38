import PawnBytecode.Proofs.Code.Wording
import PawnBytecode.Tree.Render

/-! Rendered source read back. A body is indented and its end is not, so the lines of a text fall into
functions in one way, and each line tells what it was made from. -/
namespace PawnBytecode.Tree

open Fields (Cut ended remarked)

/-- Two lines of a body that differ in their offsets only. -/
structure SameLine (first second : Annotated) : Prop where
  opcode : first.instruction.opcode = second.instruction.opcode
  operands : first.instruction.operands = second.instruction.operands
  comment : first.comment = second.comment

/-- Two functions that differ in the offsets of their lines only. -/
structure SameFunction (first second : Function) : Prop where
  isPublic : first.isPublic = second.isPublic
  name : first.name = second.name
  address : first.address = second.address
  body : List.Forall₂ SameLine first.body second.body

/-- A line with no comment, or with one that is not empty and does not leave the line. -/
def Annotated.Plain (line : Annotated) : Prop :=
  ∀ comment ∈ line.comment, OneLine comment ∧ comment ≠ ""

/-- A function whose name and comments do not leave their lines. -/
structure Function.Plain (function : Function) : Prop where
  name : OneLine function.name
  body : ∀ line ∈ function.body, line.Plain

namespace Node

def shown (node : Node) : String := node.render.toOption.getD ""

theorem shown_of_render {node : Node} {text : String} (rendered : node.render = .ok text) :
    node.shown = text := by
  rw [shown, rendered]
  rfl

theorem renderAll_eq {nodes : List Node} {texts : List String} (rendered : renderAll nodes = .ok texts) :
    texts = nodes.map shown ∧ ∀ node ∈ nodes, node.render = .ok node.shown := by
  induction nodes generalizing texts with
  | nil =>
    rw [renderAll] at rendered
    cases rendered
    exact ⟨rfl, fun node member => by cases member⟩
  | cons node nodes ih =>
    rw [renderAll] at rendered
    obtain ⟨text, first, rendered⟩ := exists_of_bind rendered
    obtain ⟨rest, others, same⟩ := exists_of_bind rendered
    obtain rfl := Except.ok.inj same
    obtain ⟨rfl, each⟩ := ih others
    obtain rfl := shown_of_render first
    refine ⟨rfl, fun other member => ?_⟩
    rcases List.mem_cons.mp member with rfl | member
    · exact first
    · exact each other member

theorem plugin_of_render {functions : List Node} {text : String}
    (rendered : (plugin functions).render = .ok text) :
    text = pluginHeader ++ String.join (functions.map shown) ∧
      ∀ node ∈ functions, node.render = .ok node.shown := by
  rw [render] at rendered
  obtain ⟨texts, inner, same⟩ := exists_of_bind rendered
  obtain ⟨rfl, each⟩ := renderAll_eq inner
  exact ⟨(Except.ok.inj same).symm, each⟩

theorem function_of_render {name : String} {address : Int} {isPublic : Bool} {body : List Node}
    {text : String} (rendered : (function name address isPublic body).render = .ok text) :
    text = functionText (signature name address isPublic) (body.map shown) ∧
      ∀ node ∈ body, node.render = .ok node.shown := by
  rw [render] at rendered
  obtain ⟨texts, inner, same⟩ := exists_of_bind rendered
  obtain ⟨rfl, each⟩ := renderAll_eq inner
  exact ⟨(Except.ok.inj same).symm, each⟩

end Node

/-- A line that has a text, from which it can be read back. -/
structure Annotated.Legible (line : Annotated) : Prop where
  plain : line.Plain
  rendered : line.toNode.render = .ok line.toNode.shown

namespace Annotated

variable {line first second : Annotated}

theorem Legible.exists_shown_eq (legible : line.Legible) :
    ∃ operands, line.instruction.operandText = .ok operands ∧
      line.toNode.shown.toList = remarked (line.instruction.worded (fun _ => 0) operands) [' '] '/'
        (line.comment.map fun comment => '/' :: ' ' :: comment.toList) := by
  obtain ⟨plain, rendered⟩ := legible
  obtain ⟨instruction, comment⟩ := line
  rw [toNode, Node.render] at rendered
  obtain ⟨text, shown, same⟩ := exists_of_bind rendered
  obtain ⟨operands, worded, chars⟩ := Instruction.exists_worded_of_text shown
  refine ⟨operands, worded, ?_⟩
  cases comment with
  | none =>
    rw [toNode, ← Except.ok.inj same, chars]
    exact (List.append_nil _).symm
  | some comment =>
    have some : comment.isEmpty = false := by simpa using (plain comment rfl).2
    simp only [some] at same
    rw [toNode, ← Except.ok.inj same]
    simp [chars, remarked]

theorem Legible.oneLine (legible : line.Legible) : OneLine line.toNode.shown := by
  obtain ⟨operands, worded, same⟩ := legible.exists_shown_eq
  rw [OneLine, same]
  intro newline
  rcases List.mem_append.mp newline with code | remark
  · cases Instruction.isCodeChar_of_mem_worded worded code
  · cases found : line.comment with
    | none => simp [found] at remark
    | some comment =>
      have inside : '\n' ∈ comment.toList := by simpa [found] using remark
      exact (legible.plain comment found).1 inside

theorem sameLine_of_shown (firstLegible : first.Legible) (secondLegible : second.Legible)
    (same : first.toNode.shown = second.toNode.shown) : SameLine first second := by
  obtain ⟨operands, worded, chars⟩ := firstLegible.exists_shown_eq
  obtain ⟨others, again, otherChars⟩ := secondLegible.exists_shown_eq
  rw [same, otherChars] at chars
  have free : ∀ {instruction : Instruction} {operands : String},
      instruction.operandText = .ok operands →
        '/' ∉ instruction.worded (fun _ => 0) operands := by
    intro instruction operands shown stroke
    cases Instruction.isCodeChar_of_mem_worded shown stroke
  obtain ⟨codes, remarks⟩ := Fields.remarked_inj (free again) (free worded) (by decide) chars
  obtain ⟨opcode, operandsSame⟩ := Instruction.agree_of_worded worded again codes.symm
  refine ⟨opcode, operandsSame, ?_⟩
  apply Option.map_injective ?_ remarks.symm
  intro comment other alike
  simpa [String.toList_inj] using alike

end Annotated

/-- A signature tells the kind of a function, its name and its address. -/
theorem Node.signature_inj {name other : String} {address otherAddress : Int} {kind otherKind : Bool}
    (same : signature name address kind = signature other otherAddress otherKind) :
    kind = otherKind ∧ name = other ∧ address = otherAddress := by
  have chars := congrArg String.toList same
  simp only [signature, String.toList_append] at chars
  have apart : ∀ front : List Char, ∀ char ∈ (front ++ "() // ".toList).getLast?, isWordChar char = false := by
    intro front char last
    obtain rfl : char = ' ' := by simpa using last.symm
    rfl
  obtain ⟨fronts, addresses⟩ :=
    (Numeral.isWord_address _).append_last_inj (Numeral.isWord_address _) (apart _) (apart _) chars
  have addressSame := Numeral.address_inj.mp addresses
  have names := List.append_cancel_right fronts
  cases kind <;> cases otherKind
  case false.false | true.true =>
    exact ⟨rfl, String.toList_inj.mp (List.append_cancel_left names), addressSame⟩
  all_goals simp at names

namespace Function

variable {function first second : Function}

/-- A function whose lines can be read back. -/
structure Legible (function : Function) : Prop where
  name : OneLine function.name
  body : ∀ line ∈ function.body, line.Legible

def closing : List String := ["\x7d", ""]

/-- The lines of a function: its signature, its body between braces and an empty line. -/
def lines (function : Function) : List String :=
  [Node.signature function.name function.address function.isPublic, "\x7b"] ++
    (function.body.map (fun line => indent ++ line.toNode.shown) ++ closing)

theorem toList_of_render {text : String} (rendered : function.toNode.render = .ok text) :
    text.toList = Fields.linesText function.lines ∧
      ∀ line ∈ function.body, line.toNode.render = .ok line.toNode.shown := by
  obtain ⟨same, each⟩ := Node.function_of_render rendered
  constructor
  · rw [same, Node.functionText, Fields.toList_joined (by simp)]
    simp [lines, closing, Function.comp_def]
  · exact fun line member => each line.toNode (List.mem_map_of_mem member)

theorem Plain.legible (plain : function.Plain) {text : String}
    (rendered : function.toNode.render = .ok text) :
    text.toList = Fields.linesText function.lines ∧ function.Legible := by
  obtain ⟨same, each⟩ := toList_of_render rendered
  exact ⟨same, plain.name, fun line member => ⟨plain.body line member, each line member⟩⟩

theorem Legible.oneLine (legible : function.Legible) : ∀ line ∈ function.lines, OneLine line := by
  have address := (Numeral.isWord_address function.address).oneLine
  intro line member
  simp only [lines, closing, List.mem_append, List.mem_cons, List.not_mem_nil, or_false,
    List.mem_map] at member
  rcases member with (rfl | rfl) | ⟨inner, inside, rfl⟩ | rfl | rfl
  · simp only [Node.signature, oneLine_append]
    refine ⟨⟨⟨?_, legible.name⟩, ?_⟩, address⟩
    · cases function.isPublic <;> decide
    · decide
  · decide
  · rw [oneLine_append]
    exact ⟨by decide, (legible.body inner inside).oneLine⟩
  · decide
  · decide

theorem lines_inj {rest other : List String} (firstLegible : first.Legible)
    (secondLegible : second.Legible)
    (same : first.lines ++ rest = second.lines ++ other) : SameFunction first second ∧ rest = other := by
  have cut : ∀ (body : List Annotated) (rest : List String),
      Cut (fun line => line.toList.head? == some ' ') (body.map fun line => indent ++ line.toNode.shown)
        (closing ++ rest) := by
    intro body rest
    constructor
    · intro line member
      obtain ⟨inner, _, rfl⟩ := List.mem_map.mp member
      simp [indent]
    · intro line head
      obtain rfl : line = "\x7d" := by simpa [closing] using head.symm
      rfl
  simp only [lines, List.append_assoc, List.cons_append, List.nil_append, List.cons.injEq] at same
  obtain ⟨signatures, _, bodies⟩ := same
  obtain ⟨kind, name, address⟩ := Node.signature_inj signatures
  obtain ⟨lines, rests⟩ := (cut first.body rest).inj (cut second.body other) bodies
  refine ⟨⟨kind, name, address, ?_⟩, List.append_cancel_left rests⟩
  apply Fields.forall₂_of_map_eq ?_ lines
  intro line member other inside shown
  apply Annotated.sameLine_of_shown (firstLegible.body line member) (secondLegible.body other inside)
  simpa [String.toList_inj] using congrArg String.toList shown

end Function

namespace Plugin

theorem exists_lines_of_render {plugin : Plugin} {text : String}
    (plain : ∀ function ∈ plugin.functions, function.Plain) (rendered : plugin.render = .ok text) :
    text.toList = pluginHeader.toList ++ Fields.linesText (plugin.functions.flatMap Function.lines) ∧
      ∀ function ∈ plugin.functions, function.Legible := by
  obtain ⟨same, each⟩ := Node.plugin_of_render rendered
  have shown : ∀ function ∈ plugin.functions,
      function.toNode.shown.toList = Fields.linesText function.lines ∧ function.Legible :=
    fun function member =>
      (plain function member).legible (each function.toNode (List.mem_map_of_mem member))
  constructor
  · rw [same, String.toList_append, String.toList_join, Fields.linesText_flatMap,
      List.map_map, List.flatMap_map]
    congr 1
    exact List.flatMap_congr fun function member => (shown function member).1
  · exact fun function member => (shown function member).2

theorem functions_inj {first second : List Function} (firstLegible : ∀ function ∈ first, function.Legible)
    (secondLegible : ∀ function ∈ second, function.Legible)
    (same : first.flatMap Function.lines = second.flatMap Function.lines) :
    List.Forall₂ SameFunction first second := by
  induction first generalizing second with
  | nil =>
    cases second with
    | nil => exact .nil
    | cons other second => cases same
  | cons function first ih =>
    cases second with
    | nil => cases same
    | cons other second =>
      obtain ⟨firstHead, firstTail⟩ := List.forall_mem_cons.mp firstLegible
      obtain ⟨secondHead, secondTail⟩ := List.forall_mem_cons.mp secondLegible
      obtain ⟨alike, rests⟩ := Function.lines_inj firstHead secondHead same
      exact .cons alike (ih firstTail secondTail rests)

/-- Rendered source is unambiguous. Names may hold brackets, braces, strokes and spaces. -/
theorem same_of_render {first second : Plugin} {text : String}
    (firstPlain : ∀ function ∈ first.functions, function.Plain)
    (secondPlain : ∀ function ∈ second.functions, function.Plain)
    (firstRendered : first.render = .ok text) (secondRendered : second.render = .ok text) :
    List.Forall₂ SameFunction first.functions second.functions := by
  have oneLine : ∀ {functions : List Function}, (∀ function ∈ functions, function.Legible) →
      ∀ line ∈ functions.flatMap Function.lines, OneLine line := by
    intro functions legible line member
    obtain ⟨function, inside, within⟩ := List.mem_flatMap.mp member
    exact (legible function inside).oneLine line within
  obtain ⟨chars, firstLegible⟩ := exists_lines_of_render firstPlain firstRendered
  obtain ⟨again, secondLegible⟩ := exists_lines_of_render secondPlain secondRendered
  have texts := List.append_cancel_left (chars.symm.trans again)
  have lines := Fields.linesText_inj (oneLine firstLegible) (oneLine secondLegible) texts
  exact functions_inj firstLegible secondLegible lines

/-- A plugin whose names and comments look like the lines around them. -/
def bracketed (offset : Int) : Plugin where
  functions :=
    [⟨"f() // 0x0000 \x7b", -8, true,
      [⟨⟨offset, .sysreqC, [0]⟩, some "g() // \x7d"⟩, ⟨⟨offset, .caseRecord, [-1, 16]⟩, none⟩,
        ⟨⟨offset, .nop, []⟩, some "/"⟩]⟩,
      ⟨"", 65536, false, []⟩]

def bracketedText : String :=
  "// Plugin source approximation starts here\n\n" ++
  "public f() // 0x0000 \x7b() // 0x-008\n\x7b\n    sysreq.c 0 // g() // \x7d\n" ++
  "    case -1 -> 0x0010\n    nop // /\n\x7d\n\n" ++
  "stock () // 0x10000\n\x7b\n\x7d\n\n"

theorem same_of_render_bracketed :
    (bracketed 0).render = .ok bracketedText ∧ (bracketed 4).render = .ok bracketedText ∧
      List.Forall₂ SameFunction (bracketed 0).functions (bracketed 4).functions := by
  have plain : ∀ offset, ∀ function ∈ (bracketed offset).functions, function.Plain := by
    intro offset function member
    simp only [bracketed, List.mem_cons, List.not_mem_nil, or_false] at member
    rcases member with rfl | rfl
    · constructor
      · simp [OneLine]
      · simp [Annotated.Plain, OneLine]
    · constructor
      · simp [OneLine]
      · simp
  have first : (bracketed 0).render = .ok bracketedText := by decide +kernel
  have second : (bracketed 4).render = .ok bracketedText := by decide +kernel
  exact ⟨first, second, same_of_render (plain 0) (plain 4) first second⟩

end Plugin

end PawnBytecode.Tree
