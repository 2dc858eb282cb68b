import Questionnaire.Survey.Basic

/-!
This module contains the walk through all nodes of a survey, which keeps the nodes that are still to
be visited on a stack.
-/

namespace Questionnaire

namespace Node

theorem sizeOf_append (nodes nodes' : List Node) :
    sizeOf (nodes ++ nodes') + 1 = sizeOf nodes + sizeOf nodes' := by
  induction nodes with
  | nil =>
    rw [List.nil_append, List.nil.sizeOf_spec]
    omega
  | cons node nodes ih =>
    rw [List.cons_append, List.cons.sizeOf_spec, List.cons.sizeOf_spec]
    omega

theorem sizeOf_reverse (nodes : List Node) : sizeOf nodes.reverse = sizeOf nodes := by
  induction nodes with
  | nil => rfl
  | cons node nodes ih =>
    have h := sizeOf_append nodes.reverse [node]
    rw [List.cons.sizeOf_spec, List.nil.sizeOf_spec] at h
    rw [List.reverse_cons, List.cons.sizeOf_spec]
    omega

theorem sizeOf_children_le (node : Node) : sizeOf node.children ≤ sizeOf node := by
  cases node with
  | question q =>
    rw [children, List.nil.sizeOf_spec, question.sizeOf_spec]
    omega
  | container kind header inner =>
    rw [children, container.sizeOf_spec]
    omega

end Node

namespace LocatedNode

def inner (located : LocatedNode) : List LocatedNode :=
  located.node.children.map fun child => ⟨NodePath.child located.path child.name, child⟩

/--
Visit the nodes on a stack, from its end to its start. The nodes inside a visited node are put on the
stack the other way round, so that the first of them is visited next.
-/
def visitAll (stack : List LocatedNode) : List LocatedNode :=
  match _hlast : stack.getLast? with
  | none => []
  | some located => located :: visitAll (stack.dropLast ++ located.inner.reverse)
termination_by sizeOf (stack.map LocatedNode.node)
decreasing_by
  obtain ⟨rest, rfl⟩ := List.getLast?_eq_some_iff.1 _hlast
  have hinner : located.inner.reverse.map LocatedNode.node = located.node.children.reverse := by
    simp [inner, Function.comp_def]
  have hsize := Node.sizeOf_append (rest.map LocatedNode.node) [located.node]
  have hsize' := Node.sizeOf_append (rest.map LocatedNode.node) located.node.children.reverse
  have hle := located.node.sizeOf_children_le
  rw [List.cons.sizeOf_spec, List.nil.sizeOf_spec] at hsize
  rw [Node.sizeOf_reverse] at hsize'
  rw [List.dropLast_concat, List.map_append, List.map_append, hinner, List.map_singleton]
  omega

end LocatedNode

def Survey.walk (survey : Survey) : List LocatedNode :=
  LocatedNode.visitAll (LocatedNode.inner ⟨[], survey.root⟩).reverse

end Questionnaire
