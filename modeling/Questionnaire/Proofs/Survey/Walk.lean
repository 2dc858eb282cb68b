import Questionnaire.Survey.Walk
import Mathlib.Data.List.Forall2

/-!
This module contains the order of the walk through a survey. The positions of nodes are compared from
the top down, so that a container comes before the nodes inside it, and these before the next sibling.
-/

namespace Questionnaire

namespace Node

/--
The node at a position among siblings that stand in the container at `path`. Each number of the
position counts the siblings in front, first at the top and last where the node is.
-/
inductive StandsAt : NodePath → List Node → List Nat → LocatedNode → Prop
  | here {path : NodePath} {nodes : List Node} {index : Nat} {node : Node}
      (hnode : nodes[index]? = some node) :
      StandsAt path nodes [index] ⟨NodePath.child path node.name, node⟩
  | inside {path : NodePath} {nodes : List Node} {index : Nat} {node : Node} {position : List Nat}
      {located : LocatedNode} (hnode : nodes[index]? = some node)
      (hinner : StandsAt (NodePath.child path node.name) node.children position located) :
      StandsAt path nodes (index :: position) located

def nextSibling : List Nat → List Nat
  | [] => []
  | index :: position => (index + 1) :: position

mutual

def positions : Node → List (List Nat)
  | question _ => [[0]]
  | container _ _ children => [0] :: (positionsAll children).map (0 :: ·)

def positionsAll : List Node → List (List Nat)
  | [] => []
  | node :: nodes => positions node ++ (positionsAll nodes).map nextSibling

end

theorem positions_eq (node : Node) :
    positions node = [0] :: (positionsAll node.children).map (0 :: ·) := by
  cases node <;> rfl

theorem located_eq (path : NodePath) (node : Node) :
    node.located path = ⟨NodePath.child path node.name, node⟩ ::
      locatedAll (NodePath.child path node.name) node.children := by
  cases node <;> rfl

theorem StandsAt.next {path : NodePath} {nodes : List Node} {position : List Nat}
    {located : LocatedNode} (h : StandsAt path nodes position located) (node : Node) :
    StandsAt path (node :: nodes) (nextSibling position) located := by
  cases h with
  | here hnode => exact .here hnode
  | inside hnode hinner => exact .inside hnode hinner

theorem StandsAt.unique {path : NodePath} {nodes : List Node} {position : List Nat}
    {located located' : LocatedNode} (h : StandsAt path nodes position located)
    (h' : StandsAt path nodes position located') : located = located' := by
  induction h with
  | here hnode =>
    cases h' with
    | here hnode' =>
      cases hnode.symm.trans hnode'
      rfl
    | inside _ hinner' => cases hinner'
  | inside hnode hinner ih =>
    cases h' with
    | here hnode' => cases hinner
    | inside hnode' hinner' =>
      cases hnode.symm.trans hnode'
      exact ih hinner'

mutual

theorem standsAt_positions (path : NodePath) (node : Node) (nodes : List Node) :
    (positions node).Forall₂ (StandsAt path (node :: nodes)) (node.located path) := by
  rw [positions_eq, located_eq]
  refine .cons (.here rfl) ?_
  rw [List.forall₂_map_left_iff]
  cases node with
  | question q => exact .nil
  | container kind header children =>
    apply (standsAt_positionsAll (NodePath.child path header.name) children).imp
    intro position located h
    exact .inside rfl h

theorem standsAt_positionsAll (path : NodePath) (nodes : List Node) :
    (positionsAll nodes).Forall₂ (StandsAt path nodes) (locatedAll path nodes) := by
  cases nodes with
  | nil => exact .nil
  | cons node nodes =>
    rw [positionsAll, locatedAll]
    apply List.rel_append (standsAt_positions path node nodes)
    rw [List.forall₂_map_left_iff]
    apply (standsAt_positionsAll path nodes).imp
    intro position located h
    exact h.next node

end

theorem mem_positionsAll_of_getElem? {nodes : List Node} {index : Nat} {node : Node}
    (h : nodes[index]? = some node) {position : List Nat}
    (hposition : 0 :: position ∈ positions node) :
    index :: position ∈ positionsAll nodes := by
  induction nodes generalizing index with
  | nil => cases h
  | cons head nodes ih =>
    rw [positionsAll, List.mem_append]
    cases index with
    | zero =>
      cases h
      exact Or.inl hposition
    | succ index => exact Or.inr (List.mem_map.2 ⟨_, ih h, rfl⟩)

theorem StandsAt.mem_positionsAll {path : NodePath} {nodes : List Node} {position : List Nat}
    {located : LocatedNode} (h : StandsAt path nodes position located) :
    position ∈ positionsAll nodes := by
  induction h with
  | here hnode =>
    apply mem_positionsAll_of_getElem? hnode
    rw [positions_eq]
    exact List.mem_cons_self
  | inside hnode _ ih =>
    apply mem_positionsAll_of_getElem? hnode
    rw [positions_eq]
    exact List.mem_cons_of_mem _ (List.mem_map_of_mem ih)

theorem pairwise_map_cons_zero {positions : List (List Nat)} (h : positions.Pairwise (· < ·)) :
    (positions.map (0 :: ·)).Pairwise (· < ·) :=
  h.map _ fun _ _ hlt => List.cons_lt_cons_iff.2 (Or.inr ⟨rfl, hlt⟩)

theorem nextSibling_lt {a b : List Nat} (h : a < b) : nextSibling a < nextSibling b := by
  cases a with
  | nil =>
    cases b with
    | nil => exact (List.lt_irrefl _ h).elim
    | cons _ _ => exact List.nil_lt_cons _ _
  | cons index position =>
    cases b with
    | nil => exact (List.not_lt_nil _ h).elim
    | cons index' position' =>
      unfold nextSibling
      rw [List.cons_lt_cons_iff] at h ⊢
      rcases h with h | ⟨rfl, h⟩
      · exact Or.inl (Nat.succ_lt_succ h)
      · exact Or.inr ⟨rfl, h⟩

theorem exists_of_mem_positions {node : Node} {position : List Nat} (h : position ∈ positions node) :
    ∃ inner, position = 0 :: inner := by
  rw [positions_eq, List.mem_cons, List.mem_map] at h
  rcases h with rfl | ⟨inner, -, rfl⟩
  · exact ⟨[], rfl⟩
  · exact ⟨inner, rfl⟩

theorem exists_of_mem_positionsAll {nodes : List Node} {position : List Nat}
    (h : position ∈ positionsAll nodes) : ∃ index inner, position = index :: inner := by
  induction nodes generalizing position with
  | nil => cases h
  | cons node nodes ih =>
    rw [positionsAll, List.mem_append, List.mem_map] at h
    rcases h with h | ⟨position', h, rfl⟩
    · exact ⟨0, exists_of_mem_positions h⟩
    · obtain ⟨index, inner, rfl⟩ := ih h
      exact ⟨index + 1, inner, rfl⟩

mutual

theorem pairwise_positions (node : Node) : (positions node).Pairwise (· < ·) := by
  rw [positions_eq, List.pairwise_cons]
  constructor
  · intro position hposition
    obtain ⟨inner, hinner, rfl⟩ := List.mem_map.1 hposition
    obtain ⟨index, rest, rfl⟩ := exists_of_mem_positionsAll hinner
    exact List.cons_lt_cons_iff.2 (Or.inr ⟨rfl, List.nil_lt_cons _ _⟩)
  · cases node with
    | question q => exact .nil
    | container kind header children => exact pairwise_map_cons_zero (pairwise_positionsAll children)

theorem pairwise_positionsAll (nodes : List Node) : (positionsAll nodes).Pairwise (· < ·) := by
  cases nodes with
  | nil => exact .nil
  | cons node nodes =>
    rw [positionsAll, List.pairwise_append]
    refine ⟨pairwise_positions node, (pairwise_positionsAll nodes).map _ fun _ _ => nextSibling_lt,
      ?_⟩
    -- The first sibling and all inside it have a zero in front, and all others a larger number.
    intro position hposition other hother
    obtain ⟨inner, rfl⟩ := exists_of_mem_positions hposition
    obtain ⟨position', hposition', rfl⟩ := List.mem_map.1 hother
    obtain ⟨index, inner', rfl⟩ := exists_of_mem_positionsAll hposition'
    exact List.cons_lt_cons_iff.2 (Or.inl (Nat.succ_pos index))

end

end Node

namespace LocatedNode

def below (located : LocatedNode) : List LocatedNode :=
  located :: Node.locatedAll located.path located.node.children

theorem flatMap_below_inner (located : LocatedNode) :
    located.inner.flatMap below = Node.locatedAll located.path located.node.children := by
  unfold inner
  induction located.node.children with
  | nil => rfl
  | cons node nodes ih =>
    rw [List.map_cons, List.flatMap_cons, ih, Node.locatedAll, Node.located_eq]
    rfl

theorem visitAll_append (stack : List LocatedNode) (located : LocatedNode) :
    visitAll (stack ++ [located]) = located :: visitAll (stack ++ located.inner.reverse) := by
  rw [visitAll]
  split
  · next hlast => simp at hlast
  · next last hlast =>
    rw [List.getLast?_concat] at hlast
    cases hlast
    rw [List.dropLast_concat]

theorem visitAll_eq (stack : List LocatedNode) :
    visitAll stack = stack.reverse.flatMap below := by
  induction stack using visitAll.induct with
  | case1 stack hlast =>
    rw [List.getLast?_eq_none_iff.1 hlast, visitAll]
    rfl
  | case2 stack located hlast ih =>
    obtain ⟨rest, rfl⟩ := List.getLast?_eq_some_iff.1 hlast
    rw [List.dropLast_concat] at ih
    rw [visitAll_append, ih, List.reverse_append, List.reverse_append, List.reverse_reverse,
      List.flatMap_append, flatMap_below_inner]
    rfl

end LocatedNode

namespace Survey

theorem walk_eq_nodes (survey : Survey) : survey.walk = survey.nodes := by
  unfold walk
  rw [LocatedNode.visitAll_eq, List.reverse_reverse, LocatedNode.flatMap_below_inner]
  rfl

theorem exists_visits_walk (survey : Survey) :
    ∃ visits : List (List Nat × LocatedNode), visits.map Prod.snd = survey.walk ∧
      (visits.map Prod.fst).Pairwise (· < ·) ∧
      ∀ position located, (position, located) ∈ visits ↔
        Node.StandsAt [] survey.children position located := by
  have hstands : (Node.positionsAll survey.children).Forall₂
      (Node.StandsAt [] survey.children) survey.nodes := Node.standsAt_positionsAll [] survey.children
  obtain ⟨hlength, hzip⟩ := List.forall₂_iff_zip.1 hstands
  rw [walk_eq_nodes]
  refine ⟨(Node.positionsAll survey.children).zip survey.nodes, ?_, ?_, ?_⟩
  · exact List.map_snd_zip (Nat.le_of_eq hlength.symm)
  · rw [List.map_fst_zip (Nat.le_of_eq hlength)]
    exact Node.pairwise_positionsAll survey.children
  · intro position located
    refine ⟨hzip, fun h => ?_⟩
    have hposition := h.mem_positionsAll
    rw [← List.map_fst_zip (Nat.le_of_eq hlength)] at hposition
    obtain ⟨⟨position', located'⟩, hvisit, rfl⟩ := List.mem_map.1 hposition
    rw [h.unique (hzip hvisit)]
    exact hvisit

end Survey

end Questionnaire
