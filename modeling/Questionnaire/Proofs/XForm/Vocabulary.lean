import Mathlib.Data.List.Basic
import Questionnaire.Proofs.Expression.Lexing
import Questionnaire.XForm.Writing

/-!
This module contains the theory of what ties the parts of a form together: absolute paths, the ids
of texts and the two forms of references are all read back from what is written.
-/

namespace Questionnaire

theorem Element.localPart_eq_self {name : String} (h : ':' ∉ name.toList) :
    localPart name = name := by
  unfold localPart
  rw [List.takeWhile_eq_self_iff.2, List.reverse_reverse, String.ofList_toList]
  intro c hc
  rw [bne_iff_ne]
  rintro rfl
  exact h (List.mem_reverse.1 hc)

theorem Element.localName_eq {element : Element} {name : String} (h : element.tag = name)
    (hname : ':' ∉ name.toList) : element.localName = name := by
  unfold localName
  rw [h, localPart_eq_self hname]

theorem Element.colon_notMem_localPart (name : String) : ':' ∉ (localPart name).toList := by
  unfold localPart
  rw [String.toList_ofList, List.mem_reverse]
  intro h
  simpa using List.mem_takeWhile_imp h

namespace NodePath

variable {root : String} {path path' : NodePath}

def IsPlain (path : NodePath) : Prop :=
  ∀ name ∈ path, '/' ∉ name.toList ∧ ':' ∉ name.toList

theorem IsNamed.isPlain (h : path.IsNamed) : path.IsPlain := by
  intro name hname
  exact ⟨Text.not_mem_of_isName (h name hname) (by decide),
    Text.not_mem_of_isName (h name hname) (by decide)⟩

theorem toList_absolute (root : String) (path : NodePath) :
    (absolute root path).toList = '/' :: root.toList ++ Lexeme.slashed path := by
  unfold absolute
  rw [String.toList_append, Lexeme.toList_intercalate_slash]
  rfl

theorem splitAtChar_slashed (part : List Char) (hpart : '/' ∉ part) (hpath : path.IsPlain) :
    splitAtChar '/' (part ++ Lexeme.slashed path) = part :: path.map String.toList := by
  induction path generalizing part with
  | nil =>
    rw [Lexeme.slashed, List.flatMap_nil, List.append_nil]
    exact splitAtChar_eq_singleton hpart
  | cons name path ih =>
    have hslashed : Lexeme.slashed (name :: path) = '/' :: (name.toList ++ Lexeme.slashed path) :=
      rfl
    rw [hslashed, splitAtChar_append hpart, ih _ (hpath name List.mem_cons_self).1]
    · rfl
    · exact fun other hother => hpath other (List.mem_cons_of_mem _ hother)

theorem slashed_injective (hpath : path.IsPlain) (hpath' : path'.IsPlain)
    (h : Lexeme.slashed path = Lexeme.slashed path') : path = path' := by
  have hsplit := splitAtChar_slashed [] (by simp) hpath
  rw [h, splitAtChar_slashed [] (by simp) hpath'] at hsplit
  have hinjective : Function.Injective String.toList := fun _ _ => String.toList_injective
  exact (List.map_injective_iff.2 hinjective (List.cons.inj hsplit).2).symm

theorem absolute_injective (hpath : path.IsPlain) (hpath' : path'.IsPlain)
    (h : absolute root path = absolute root path') : path = path' := by
  have hchars := congrArg String.toList h
  rw [toList_absolute, toList_absolute] at hchars
  exact slashed_injective hpath hpath' (List.append_cancel_left hchars)

theorem colon_notMem_slashed (hpath : path.IsPlain) : ':' ∉ Lexeme.slashed path := by
  intro h
  obtain ⟨name, hname, hc⟩ := List.mem_flatMap.1 h
  rcases List.mem_cons.1 hc with hc | hc
  · revert hc
    decide
  · exact (hpath name hname).2 hc

end NodePath

namespace XForm

theorem eq_of_append_cons {c : Char} {front front' behind behind' : List Char} (h : c ∉ front)
    (h' : c ∉ front') (heq : front ++ c :: behind = front' ++ c :: behind') :
    front = front' ∧ behind = behind' := by
  have htake {front behind : List Char} (h : c ∉ front) :
      (front ++ c :: behind).takeWhile (· != c) = front := by
    rw [List.takeWhile_append_of_pos]
    · simp
    · intro d hd
      rw [bne_iff_ne]
      rintro rfl
      exact h hd
  have hfront : front = front' := by rw [← htake h, heq, htake h']
  subst hfront
  exact ⟨rfl, (List.cons.inj (List.append_cancel_left heq)).2⟩

def nodeTextId (absolute field : String) : String :=
  absolute ++ ":" ++ field

theorem labelId_eq (absolute : String) : labelId absolute = nodeTextId absolute "label" := by
  unfold labelId nodeTextId
  rw [String.append_assoc]
  rfl

theorem hintId_eq (absolute : String) : hintId absolute = nodeTextId absolute "hint" := by
  unfold hintId nodeTextId
  rw [String.append_assoc]
  rfl

theorem constraintMessageId_eq (absolute : String) :
    constraintMessageId absolute = nodeTextId absolute "jr:constraintMsg" := by
  unfold constraintMessageId nodeTextId
  rw [String.append_assoc]
  rfl

theorem nodeTextId_injective {root field field' : String} {path path' : NodePath}
    (hpath : path.IsPlain) (hpath' : path'.IsPlain)
    (h : nodeTextId (NodePath.absolute root path) field =
      nodeTextId (NodePath.absolute root path') field') : path = path' ∧ field = field' := by
  have hchars := congrArg String.toList h
  simp only [nodeTextId, String.toList_append, NodePath.toList_absolute, List.append_assoc] at hchars
  -- The root may have a colon in its name, but both ids begin with it.
  obtain ⟨hfront, hbehind⟩ := eq_of_append_cons (NodePath.colon_notMem_slashed hpath)
    (NodePath.colon_notMem_slashed hpath') (List.append_cancel_left hchars)
  exact ⟨NodePath.slashed_injective hpath hpath' hfront, String.toList_injective hbehind⟩

theorem isDigit_of_mem_toString {index : Nat} {c : Char} (h : c ∈ (toString index).toList) :
    c.isDigit = true := by
  rw [Nat.toString_eq_repr, Nat.toList_repr] at h
  exact Nat.isDigit_of_mem_toDigits (by decide) (by decide) h

theorem toString_injective {index index' : Nat} (h : toString index = toString index') :
    index = index' := by
  have hdigits := congrArg (fun s => Nat.ofDigitChars 10 s.toList 0) h
  simpa using hdigits

theorem choiceId_injective {list list' : String} {index index' : Nat}
    (h : choiceId list index = choiceId list' index') : list = list' ∧ index = index' := by
  have hdash (index : Nat) : '-' ∉ (toString index).toList.reverse := by
    intro hmem
    have hdigit := isDigit_of_mem_toString (List.mem_reverse.1 hmem)
    revert hdigit
    decide
  -- The number has no dash, so that the last dash divides the id.
  have hchars := congrArg (fun s => s.toList.reverse) h
  simp only [choiceId, String.toList_append, List.reverse_append] at hchars
  obtain ⟨hindex, hlist⟩ := eq_of_append_cons (hdash index) (hdash index') hchars
  refine ⟨?_, toString_injective ?_⟩
  · exact String.toList_injective (List.reverse_injective hlist)
  · exact String.toList_injective (List.reverse_injective hindex)

theorem isDigit_getLast?_choiceId (list : String) (index : Nat) :
    ∃ c ∈ (choiceId list index).toList.getLast?, c.isDigit = true := by
  have hne : (toString index).toList ≠ [] := by simp
  obtain ⟨c, hc⟩ := Option.ne_none_iff_exists'.1 fun hnone => hne (List.getLast?_eq_none_iff.1 hnone)
  refine ⟨c, ?_, isDigit_of_mem_toString (List.mem_of_mem_getLast? hc)⟩
  unfold choiceId
  rw [String.toList_append, List.getLast?_append_of_ne_nil _ hne]
  exact hc

theorem choiceId_ne_nodeTextId {list absolute field : String} {index : Nat}
    (hfield : field = "label" ∨ field = "hint" ∨ field = "jr:constraintMsg") :
    choiceId list index ≠ nodeTextId absolute field := by
  intro heq
  -- The id of a choice ends in a digit, which no field of a node does.
  obtain ⟨c, hc, hdigit⟩ := isDigit_getLast?_choiceId list index
  rw [heq] at hc
  unfold nodeTextId at hc
  have hne : field.toList ≠ [] := by
    rcases hfield with rfl | rfl | rfl <;> decide
  rw [String.toList_append, List.getLast?_append_of_ne_nil _ hne] at hc
  rcases hfield with rfl | rfl | rfl
  · cases hc
    revert hdigit
    decide
  · cases hc
    revert hdigit
    decide
  · cases hc
    revert hdigit
    decide

theorem afterFront?_append (front cs : List Char) : afterFront? front (front ++ cs) = some cs := by
  induction front with
  | nil => rfl
  | cons f front ih => rw [List.cons_append, afterFront?, if_pos rfl, ih]

theorem takeWhile_append_cons {p : Char → Bool} {c : Char} (h : p c = false) (cs rest : List Char) :
    (cs ++ c :: rest).takeWhile p = cs.takeWhile p := by
  induction cs with
  | nil =>
    rw [List.nil_append, List.takeWhile_cons_of_neg (by simp [h])]
    rfl
  | cons d cs ih => rw [List.cons_append, List.takeWhile_cons, List.takeWhile_cons, ih]

theorem unquoted?_cons_eq_some_iff {cs : List Char} {name : String} :
    unquoted? ('\'' :: cs) = some name ↔ cs = name.toList ++ ['\''] := by
  have hother : unquotedBy? '\x22' ('\'' :: cs) = none := rfl
  unfold unquoted?
  rw [hother, Option.or_none]
  constructor
  · intro h
    obtain ⟨chars, hchars, rfl⟩ := Option.map_eq_some_iff.1 h
    rw [unquotedBy?] at hchars
    split at hchars
    · next hlast =>
      cases hchars
      rw [Bool.and_eq_true, beq_iff_eq] at hlast
      rw [String.toList_ofList, List.dropLast_append_getLast? _ hlast.2]
    · cases hchars
  · rintro rfl
    simp [unquotedBy?]

theorem trim_quote_cons (cs : List Char) :
    Text.trimEnd (Text.trimStart ('\'' :: cs)) = '\'' :: Text.trimEnd cs := by
  have hquote : Text.isBlank '\'' = false := by decide
  have hstart : Text.trimStart ('\'' :: cs) = '\'' :: cs := by
    apply Text.trimStart_eq_self
    intro c hc
    cases hc
    exact hquote
  rw [hstart, Text.trimEnd_cons hquote]

theorem trimEnd_append_quote (cs : List Char) : Text.trimEnd (cs ++ ['\'']) = cs ++ ['\''] := by
  apply Text.trimEnd_eq_self
  intro c hc
  rw [List.getLast?_concat] at hc
  cases hc
  decide

theorem unquoted?_quoted (s : String) :
    unquoted? (Text.trimEnd (Text.trimStart ('\'' :: s.toList ++ ['\'']))) = some s := by
  rw [List.cons_append, trim_quote_cons, trimEnd_append_quote, unquoted?_cons_eq_some_iff]

theorem toList_itextReference (id : String) :
    (itextReference id).toList =
      "jr:itext(".toList ++ (('\'' :: id.toList ++ ['\'']) ++ [')']) := by
  simp [itextReference]

theorem itextId?_itextReference (id : String) : itextId? (itextReference id) = some id := by
  have htrim : Text.trim (itextReference id) = itextReference id := by
    apply Text.trim_eq_self
    · rw [toList_itextReference]
      intro c hc
      cases hc
      decide
    · have hlast : (itextReference id).toList.getLast? = some ')' := by
        rw [toList_itextReference, ← List.append_assoc, List.getLast?_concat]
      rw [hlast]
      intro c hc
      cases hc
      decide
  unfold itextId?
  rw [htrim, toList_itextReference, afterFront?_append, Option.bind_eq_bind, Option.bind_some,
    List.getLast?_concat, if_pos rfl, List.dropLast_concat]
  exact unquoted?_quoted id

theorem toList_itemsetReference (list : String) :
    (itemsetReference list).toList =
      "instance(".toList ++ (('\'' :: list.toList ++ ['\'']) ++ ')' :: "/root/item".toList) := by
  simp [itemsetReference]

theorem itemsetList?_itemsetReference_eq (list : String) :
    itemsetList? (itemsetReference list) =
      unquoted? ('\'' :: Text.trimEnd ((list.toList ++ ['\'']).takeWhile (· != ')'))) := by
  have htrim : Text.trim (itemsetReference list) = itemsetReference list := by
    apply Text.trim_eq_self
    · rw [toList_itemsetReference]
      intro c hc
      cases hc
      decide
    · have hlast : (itemsetReference list).toList.getLast? = some 'm' := by
        rw [toList_itemsetReference, List.getLast?_append_of_ne_nil _ (by simp),
          List.getLast?_append_of_ne_nil _ (by simp)]
        rfl
      rw [hlast]
      intro c hc
      cases hc
      decide
  -- What is read ends at the first closing parenthesis, be it part of the name or behind it.
  have htake : (('\'' :: list.toList ++ ['\'']) ++ ')' :: "/root/item".toList).takeWhile
      (· != ')') = '\'' :: (list.toList ++ ['\'']).takeWhile (· != ')') := by
    rw [List.cons_append, List.cons_append, List.takeWhile_cons_of_pos (by decide),
      takeWhile_append_cons rfl]
  unfold itemsetList?
  rw [htrim, toList_itemsetReference, afterFront?_append, Option.bind_eq_bind, Option.bind_some,
    htake, trim_quote_cons, if_pos]
  simp

theorem itemsetList?_itemsetReference {list : String} (h : ')' ∉ list.toList) :
    itemsetList? (itemsetReference list) = some list := by
  have htake : (list.toList ++ ['\'']).takeWhile (· != ')') = list.toList ++ ['\''] := by
    rw [List.takeWhile_eq_self_iff]
    intro c hc
    rw [bne_iff_ne]
    rintro rfl
    simp at hc
    exact h hc
  rw [itemsetList?_itemsetReference_eq, htake, trimEnd_append_quote, unquoted?_cons_eq_some_iff]

end XForm

end Questionnaire
