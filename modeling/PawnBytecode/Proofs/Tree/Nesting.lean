import PawnBytecode.Proofs.Tree.Source

/-! Nodes that stand in each other in any way and to any depth. A tree fails as its first node without a
text does, and otherwise its text holds the texts of all its nodes. -/
namespace PawnBytecode

/-- The characters of one text stand in a row in another. -/
def Occurs (part whole : String) : Prop := part.toList <:+: whole.toList

namespace Occurs

theorem refl (text : String) : Occurs text text := List.infix_refl _

theorem trans {part middle whole : String} (inner : Occurs part middle) (outer : Occurs middle whole) :
    Occurs part whole := List.IsInfix.trans inner outer

theorem append_left {part whole : String} (front : String) (occurs : Occurs part whole) :
    Occurs part (front ++ whole) := by
  rw [Occurs, String.toList_append]
  exact List.infix_append_of_infix_right occurs

theorem join {part : String} {texts : List String} (member : part ∈ texts) :
    Occurs part (String.join texts) := by
  rw [Occurs, String.toList_join, List.flatMap_def]
  exact List.infix_of_mem_flatten (List.mem_map_of_mem member)

end Occurs

namespace Tree.Node

def inner : Node → List Node
  | plugin functions => functions
  | function _ _ _ body => body
  | instruction _ _ | foreign => []

theorem sizeOf_lt_of_inner {node child : Node} (member : child ∈ node.inner) : sizeOf child < sizeOf node := by
  cases node with
  | plugin functions =>
    have smaller := List.sizeOf_lt_of_mem member
    simp only [inner, plugin.sizeOf_spec] at smaller ⊢
    omega
  | function name address isPublic body =>
    have smaller := List.sizeOf_lt_of_mem member
    simp only [inner, function.sizeOf_spec] at smaller ⊢
    omega
  | instruction item comment => cases member
  | foreign => cases member

theorem induction {motive : Node → Prop}
    (step : ∀ node : Node, (∀ child ∈ node.inner, motive child) → motive node) (node : Node) :
    motive node :=
  step node fun child _ => induction step child
termination_by sizeOf node
decreasing_by exact sizeOf_lt_of_inner ‹_›

mutual

/-- A node and all that stands in it, each before what stands in it. -/
def nodes : Node → List Node
  | plugin functions => plugin functions :: nodesOf functions
  | function name address isPublic body => function name address isPublic body :: nodesOf body
  | instruction item comment => [instruction item comment]
  | foreign => [foreign]

def nodesOf : List Node → List Node
  | [] => []
  | node :: others => node.nodes ++ nodesOf others

end

theorem nodes_eq (node : Node) : node.nodes = node :: nodesOf node.inner := by
  cases node <;> rfl

theorem nodesOf_eq (trees : List Node) : nodesOf trees = trees.flatMap nodes := by
  induction trees with
  | nil => rfl
  | cons node others ih => rw [nodesOf, ih, List.flatMap_cons]

theorem mem_nodes {part node : Node} :
    part ∈ node.nodes ↔ part = node ∨ ∃ child ∈ node.inner, part ∈ child.nodes := by
  rw [nodes_eq, List.mem_cons, nodesOf_eq, List.mem_flatMap]

mutual

/-- The nodes of a tree in the order in which they are looked at, each with the calls that are left
for it. -/
def visits (calls : Nat) : Node → List (Nat × Node)
  | plugin functions => (calls, plugin functions) :: visitsOf (calls - nestingCalls) functions
  | function name address isPublic body =>
    (calls, function name address isPublic body) :: visitsOf (calls - nestingCalls) body
  | instruction item comment => [(calls, instruction item comment)]
  | foreign => [(calls, foreign)]

def visitsOf (calls : Nat) : List Node → List (Nat × Node)
  | [] => []
  | node :: others => node.visits calls ++ visitsOf calls others

end

theorem visits_eq (calls : Nat) (node : Node) :
    node.visits calls = (calls, node) :: visitsOf (calls - nestingCalls) node.inner := by
  cases node <;> rfl

theorem visitsOf_eq (calls : Nat) (trees : List Node) : visitsOf calls trees = trees.flatMap (visits calls) := by
  induction trees with
  | nil => rfl
  | cons node others ih => rw [visitsOf, ih, List.flatMap_cons]

/-- The calls that are open while a node itself is looked at. -/
def ownCalls : Node → Nat
  | plugin _ | function _ _ _ _ => nestingCalls
  | instruction item _ => lineCalls item
  | foreign => 1

def offence? (calls : Nat) (node : Node) : Option Failure :=
  if calls < node.ownCalls then some .tooDeep
  else
    match node with
    | plugin _ | function _ _ _ _ => none
    | instruction item _ =>
      if item.Misshapen then some .caseOperands else if item.Short then none else some .tooManyDigits
    | foreign => some .foreignNode

theorem failed?_instructionLine (item : Instruction) (comment : Option String) :
    failed? (instructionLine item comment) =
      if item.Misshapen then some .caseOperands else none := by
  rw [instructionLine, failed?_bind, item.failed?_text]
  intro text
  cases comment <;> rfl

theorem failed?_renderWithin (calls : Nat) (node : Node) :
    failed? (node.renderWithin calls) =
      (node.offence? calls).or (failed? (renderAllWithin (calls - nestingCalls) node.inner)) := by
  cases node with
  | plugin functions | function name address isPublic body =>
    rw [renderWithin, offence?.eq_def, ownCalls, inner]
    split
    · rfl
    · rw [failed?_bind fun _ => rfl, Option.none_or]
  | instruction item comment =>
    rw [renderWithin, offence?.eq_def, ownCalls, inner, renderAllWithin]
    split
    · rfl
    · rw [Instruction.failed?_writing (failed?_instructionLine item comment)]
      exact Option.or_none.symm
  | foreign =>
    cases calls <;> rfl

/-- Of trees in a row the first failure counts. -/
theorem failed?_renderAllWithin {calls : Nat} {trees : List Node}
    (each : ∀ node ∈ trees, failed? (node.renderWithin calls) =
      (node.visits calls).findSome? fun visit => visit.2.offence? visit.1) :
    failed? (renderAllWithin calls trees) =
      (visitsOf calls trees).findSome? fun visit => visit.2.offence? visit.1 := by
  induction trees with
  | nil => rfl
  | cons node others ih =>
    have first := each node List.mem_cons_self
    have rest := ih fun other member => each other (List.mem_cons_of_mem _ member)
    rw [renderAllWithin, visitsOf, List.findSome?_append, ← first, ← rest]
    cases node.renderWithin calls with
    | error cause => rfl
    | ok text =>
      have total : failed? (renderAllWithin calls others >>= fun texts => pure (text :: texts)) =
          failed? (renderAllWithin calls others) := failed?_bind fun _ => rfl
      exact total

/-- A tree fails as the first of its nodes does that has no text. -/
theorem failed?_renderWithin_eq (calls : Nat) (node : Node) : failed? (node.renderWithin calls) =
    (node.visits calls).findSome? fun visit => visit.2.offence? visit.1 := by
  induction node using induction generalizing calls with
  | step node each =>
    rw [failed?_renderWithin, failed?_renderAllWithin fun child member => each child member _, visits_eq,
      List.findSome?_cons]
    cases node.offence? calls <;> rfl

/-- A node that has a text of its own when enough calls are left. -/
def Sound : Node → Prop
  | plugin _ | function _ _ _ _ => True
  | instruction item _ => ¬item.Misshapen ∧ item.Short
  | foreign => False

/-- The calls that a sound node takes without what stands in it. -/
def soundCalls : Node → Nat
  | plugin _ | function _ _ _ _ => 2
  | instruction _ _ => 5
  | foreign => 1

theorem lineCalls_of_sound {item : Instruction} (formed : ¬item.Misshapen) (short : item.Short) :
    lineCalls item = 5 := by
  have written := item.failed?_formatOperands
  rw [if_neg formed, if_pos short, failed?_eq_none] at written
  obtain ⟨text, written⟩ := written
  rw [lineCalls, written]

theorem offence?_eq_none_iff {calls : Nat} {node : Node} :
    node.offence? calls = none ↔ node.Sound ∧ node.soundCalls ≤ calls := by
  by_cases few : calls < node.ownCalls
  · rw [offence?.eq_def, if_pos few]
    refine ⟨nofun, fun ⟨sound, enough⟩ => absurd few (Nat.not_lt.mpr ?_)⟩
    cases node with
    | plugin | function => exact enough
    | instruction item comment =>
      rw [ownCalls, lineCalls_of_sound sound.1 sound.2]
      exact enough
    | foreign => cases sound
  · have enough := Nat.le_of_not_lt few
    rw [offence?.eq_def, if_neg few]
    cases node with
    | plugin | function => exact ⟨fun _ => ⟨trivial, enough⟩, fun _ => rfl⟩
    | instruction item comment =>
      by_cases misshapen : item.Misshapen
      · simp [Sound, misshapen]
      · by_cases short : item.Short
        · rw [ownCalls, lineCalls_of_sound misshapen short] at enough
          simp [Sound, soundCalls, misshapen, short, enough]
        · simp [Sound, misshapen, short]
    | foreign => simp [Sound]

mutual

/-- The calls that are open at most while the text of a tree is made. -/
def depth : Node → Nat
  | plugin functions => 2 + depthOf functions
  | function _ _ _ body => 2 + depthOf body
  | instruction _ _ => 5
  | foreign => 1

def depthOf : List Node → Nat
  | [] => 0
  | node :: others => max node.depth (depthOf others)

end

theorem depthOf_le_iff {trees : List Node} {calls : Nat} :
    depthOf trees ≤ calls ↔ ∀ node ∈ trees, node.depth ≤ calls := by
  induction trees with
  | nil => exact ⟨fun _ => nofun, fun _ => Nat.zero_le _⟩
  | cons node others ih => rw [depthOf, Nat.max_le, ih, List.forall_mem_cons]

theorem depth_le_iff {node : Node} {calls : Nat} :
    node.depth ≤ calls ↔
      node.soundCalls ≤ calls ∧ ∀ child ∈ node.inner, child.depth ≤ calls - nestingCalls := by
  rw [← depthOf_le_iff]
  cases node with
  | plugin | function =>
    simp only [depth, soundCalls, inner, nestingCalls]
    omega
  | instruction | foreign => simp [depth, soundCalls, inner, depthOf]

/-- No visit offends when every node is sound and the tree is not too deep. -/
theorem visits_inoffensive_iff {calls : Nat} {node : Node} :
    (∀ visit ∈ node.visits calls, visit.2.offence? visit.1 = none) ↔
      (∀ part ∈ node.nodes, part.Sound) ∧ node.depth ≤ calls := by
  induction node using induction generalizing calls with
  | step node each =>
    have within : (∀ visit ∈ visitsOf (calls - nestingCalls) node.inner, visit.2.offence? visit.1 = none) ↔
        ∀ child ∈ node.inner, (∀ part ∈ child.nodes, part.Sound) ∧ child.depth ≤ calls - nestingCalls := by
      rw [visitsOf_eq, List.forall_mem_flatMap]
      exact forall₂_congr fun child member => each child member
    rw [visits_eq, List.forall_mem_cons, offence?_eq_none_iff, within, depth_le_iff, nodes_eq,
      List.forall_mem_cons, nodesOf_eq, List.forall_mem_flatMap]
    simp only [forall₂_and]
    tauto

theorem exists_renderWithin_iff {calls : Nat} {node : Node} :
    (∃ text, node.renderWithin calls = .ok text) ↔
      (∀ part ∈ node.nodes, part.Sound) ∧ node.depth ≤ calls := by
  rw [← failed?_eq_none, failed?_renderWithin_eq, List.findSome?_eq_none_iff, visits_inoffensive_iff]

theorem renderAll_of_within {calls : Nat} {trees : List Node} {texts : List String}
    (each : ∀ node ∈ trees, ∀ text, node.renderWithin calls = .ok text → node.render = .ok text)
    (rendered : renderAllWithin calls trees = .ok texts) : renderAll trees = .ok texts := by
  induction trees generalizing texts with
  | nil =>
    rw [renderAllWithin] at rendered
    rw [renderAll, rendered]
  | cons node others ih =>
    rw [renderAllWithin] at rendered
    obtain ⟨text, first, rendered⟩ := exists_of_bind rendered
    obtain ⟨rest, others, same⟩ := exists_of_bind rendered
    have tail := ih (fun other member => each other (List.mem_cons_of_mem _ member)) others
    rw [renderAll, each node List.mem_cons_self text first, tail]
    exact same

/-- The text that is made within some calls is the text of the tree. -/
theorem render_of_within {calls : Nat} {node : Node} {text : String}
    (rendered : node.renderWithin calls = .ok text) : node.render = .ok text := by
  induction node using induction generalizing calls text with
  | step node each =>
    have within : ∀ texts, renderAllWithin (calls - nestingCalls) node.inner = .ok texts →
        renderAll node.inner = .ok texts := fun texts =>
      renderAll_of_within fun child member text => each child member
    cases node with
    | plugin functions | function name address isPublic body =>
      rw [renderWithin] at rendered
      split at rendered
      · cases rendered
      · obtain ⟨texts, inside, same⟩ := exists_of_bind rendered
        have all := within texts inside
        rw [inner] at all
        rw [render, all]
        exact same
    | instruction item comment =>
      rw [renderWithin] at rendered
      split at rendered
      · cases rendered
      · obtain ⟨line, shown, written⟩ := exists_of_bind rendered
        rw [render, shown]
        unfold Failure.writing at written
        split at written
        · exact written
        · cases written
    | foreign => cases rendered

end Tree.Node

end PawnBytecode
