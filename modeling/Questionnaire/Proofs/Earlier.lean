import Mathlib.Data.List.Basic

/-!
This module contains lists that keep an item or not depending on the items in front of it.
-/

namespace Questionnaire

variable {α : Type}

/--
The items that satisfy `p` together with all items in front of them. The items in `front` stand in
front of the whole list.
-/
def filterBehind (p : List α → α → Bool) (front : List α) : List α → List α
  | [] => []
  | item :: items =>
    if p front item then item :: filterBehind p (front ++ [item]) items
    else filterBehind p (front ++ [item]) items

theorem filterBehind_concat (p : List α → α → Bool) (front items : List α) (item : α) :
    filterBehind p front (items ++ [item]) =
      filterBehind p front items ++ if p (front ++ items) item then [item] else [] := by
  induction items generalizing front with
  | nil =>
    rw [List.append_nil]
    rfl
  | cons head items ih =>
    rw [List.cons_append, filterBehind, filterBehind, ih, List.append_assoc, List.singleton_append]
    split <;> rfl

theorem eraseDups_concat [DecidableEq α] (items : List α) (item : α) :
    (items ++ [item]).eraseDups =
      if item ∈ items then items.eraseDups else items.eraseDups ++ [item] := by
  rw [List.eraseDups_append]
  by_cases h : item ∈ items <;> simp [List.removeAll, h, List.eraseDups_cons]

end Questionnaire
