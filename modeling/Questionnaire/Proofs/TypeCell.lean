import Questionnaire.Proofs.OrderedMap
import Questionnaire.Proofs.Text
import Questionnaire.QuestionType.Spelling

/-!
This module contains the reading of type cells: what every type cell that is read is like, and how
the cells that a survey is written with are read.
-/

namespace Questionnaire

namespace QuestionType

theorem pieces_append_space (first second : String) :
    Text.pieces isSeparator (first ++ " " ++ second).toList =
      Text.pieces isSeparator first.toList ++ Text.pieces isSeparator second.toList := by
  rw [String.toList_append, String.toList_append, List.append_assoc]
  exact Text.pieces_append_cons (by decide) _ _

/--
Whether a name has more than separators, so that it is seen behind the spelling of a type.
-/
def AddsWord (name : String) : Prop :=
  Text.pieces isSeparator name.toList ≠ []

instance (name : String) : Decidable (AddsWord name) :=
  inferInstanceAs (Decidable (_ ≠ _))

theorem normalize_append_space (first second : String) (hfirst : AddsWord first)
    (hsecond : AddsWord second) :
    normalize (first ++ " " ++ second) = normalize first ++ " " ++ normalize second := by
  unfold normalize
  rw [pieces_append_space, List.map_append, String.intercalate_append_of_ne_nil]
  · exact mt List.map_eq_nil_iff.1 hfirst
  · exact mt List.map_eq_nil_iff.1 hsecond

theorem normalize_append_of_not_addsWord (first second : String) (h : ¬ AddsWord second) :
    normalize (first ++ " " ++ second) = normalize first := by
  unfold normalize
  rw [pieces_append_space, not_not.1 h, List.append_nil]

def IsSelectSpelling (spelling : String) : Prop :=
  spelling = "select one" ∨ spelling = "select multiple"

theorem spelling_of_take_eq {front : String} (hfront : IsSelectSpelling front) :
    (∀ entry ∈ spellings, entry.1.toList.take (front.length + 1) = front.toList ++ [' '] →
      entry.1 = front ++ " from") ∧
      ∀ entry ∈ TypeCell.markers, entry.1.toList.take (front.length + 1) ≠ front.toList ++ [' '] := by
  rcases hfront with rfl | rfl <;> decide

theorem take_append_space (front rest : String) :
    (front ++ " " ++ rest).toList.take (front.length + 1) = front.toList ++ [' '] := by
  have hlength : front.length + 1 = (front.toList ++ [' ']).length := by
    rw [List.length_append, String.length_toList, List.length_singleton]
  rw [String.toList_append, String.toList_append, hlength]
  exact List.take_left

theorem lookup_spellings_eq_none {front rest : String} (hfront : IsSelectSpelling front)
    (hrest : rest ≠ "from") : spellings.lookup (front ++ " " ++ rest) = none := by
  rw [List.lookup_eq_none_iff]
  intro entry hentry
  rw [bne_iff_ne]
  intro heq
  have htake := take_append_space front rest
  rw [heq] at htake
  have hspelling := (spelling_of_take_eq hfront).1 entry hentry htake
  rw [← heq] at hspelling
  apply hrest
  have hfrom : " from" = " " ++ "from" := rfl
  rw [hfrom, String.append_assoc, String.append_right_inj, String.append_right_inj] at hspelling
  exact hspelling

theorem lookup_markers_eq_none {front rest : String} (hfront : IsSelectSpelling front) :
    TypeCell.markers.lookup (front ++ " " ++ rest) = none := by
  rw [List.lookup_eq_none_iff]
  intro entry hentry
  rw [bne_iff_ne]
  intro heq
  apply (spelling_of_take_eq hfront).2 entry hentry
  rw [← heq]
  exact take_append_space front rest

theorem normalize_name_of_isSelect {type : QuestionType} (h : type.isSelect = true) :
    IsSelectSpelling (normalize type.name) ∧ AddsWord type.name ∧
      Text.IsWord type.name ∧ ofSpelling? type.name = some type := by
  have hword {name : String} (hne : name ≠ "")
      (hblank : (name.toList.any Text.isBlank) = false) : Text.IsWord name :=
    ⟨hne, by simpa using hblank⟩
  cases type with
  | selectOne =>
    exact ⟨Or.inl (by decide +kernel), by decide, hword (by decide) (by decide), by decide +kernel⟩
  | selectMultiple =>
    exact ⟨Or.inr (by decide +kernel), by decide, hword (by decide) (by decide), by decide +kernel⟩
  | _ => cases h

end QuestionType

namespace TypeCell

open QuestionType

theorem parse_name (type : QuestionType) : parse type.name = .ok (question type none) := by
  have hall : ∀ type ∈ QuestionType.all, parse type.name = .ok (question type none) := by
    decide +kernel
  exact hall type (mem_all type)

theorem parse_opening (separator : String) (h : separator = " " ∨ separator = "_")
    (kind : BlockKind) : parse ("begin" ++ separator ++ kind.name) = .ok (opening kind) := by
  rcases h with rfl | rfl <;> cases kind <;> decide +kernel

theorem parse_closing (separator : String) (h : separator = " " ∨ separator = "_")
    (kind : BlockKind) : parse ("end" ++ separator ++ kind.name) = .ok (closing kind) := by
  rcases h with rfl | rfl <;> cases kind <;> decide +kernel

section Select

variable {type : QuestionType} {list : String}

theorem words_select (hselect : type.isSelect = true) (hlist : Text.IsWord list) :
    Text.words (type.name ++ " " ++ list) = [type.name, list] := by
  obtain ⟨-, -, hname, -⟩ := normalize_name_of_isSelect hselect
  have hpieces : Text.pieces Text.isBlank (type.name ++ " " ++ list).toList =
      Text.pieces Text.isBlank type.name.toList ++ Text.pieces Text.isBlank list.toList := by
    rw [String.toList_append, String.toList_append, List.append_assoc]
    exact Text.pieces_append_cons (by decide) _ _
  have hfirst := Text.words_of_isWord hname
  have hsecond := Text.words_of_isWord hlist
  unfold Text.words at *
  rw [hpieces, List.map_append, hfirst, hsecond]
  rfl

theorem parse_append_list (hselect : type.isSelect = true) (hlist : Text.IsWord list)
    (hadds : AddsWord list) :
    parse (type.name ++ " " ++ list) =
      .ok (match ofSpelling? (type.name ++ " " ++ list) with
        | some whole => question whole none
        | none => question type (some list)) := by
  obtain ⟨hfront, hname, -, hspelling⟩ := normalize_name_of_isSelect hselect
  have hcell : " ".intercalate [type.name, list] = type.name ++ " " ++ list := by
    simp [String.intercalate_cons_cons]
  have hmarker : markers.lookup (normalize (type.name ++ " " ++ list)) = none := by
    rw [normalize_append_space type.name list hname hadds]
    exact lookup_markers_eq_none hfront
  unfold parse
  dsimp only
  rw [words_select hselect hlist, hcell, hmarker]
  cases hwhole : ofSpelling? (type.name ++ " " ++ list) with
  | some whole => simp [longestType?, hcell, hwhole]
  | none => simp [longestType?, hcell, hwhole, hspelling, hselect]

theorem parse_select (hselect : type.isSelect = true) (hlist : Text.IsWord list)
    (hadds : AddsWord list) (hfrom : normalize list ≠ "from") :
    parse (type.name ++ " " ++ list) = .ok (question type (some list)) := by
  obtain ⟨hfront, hname, -, -⟩ := normalize_name_of_isSelect hselect
  have hnone : ofSpelling? (type.name ++ " " ++ list) = none := by
    unfold ofSpelling?
    rw [normalize_append_space type.name list hname hadds]
    exact lookup_spellings_eq_none hfront hfrom
  rw [parse_append_list hselect hlist hadds, hnone]

theorem parse_select_from (hselect : type.isSelect = true) (hlist : Text.IsWord list)
    (hadds : AddsWord list) (hfrom : normalize list = "from") :
    parse (type.name ++ " " ++ list) = .ok (question type none) := by
  obtain ⟨-, hname, -, -⟩ := normalize_name_of_isSelect hselect
  have hwhole : ofSpelling? (type.name ++ " " ++ list) = some type := by
    unfold ofSpelling?
    rw [normalize_append_space type.name list hname hadds, hfrom]
    cases type with
    | selectOne => decide +kernel
    | selectMultiple => decide +kernel
    | _ => cases hselect
  rw [parse_append_list hselect hlist hadds, hwhole]

end Select

def readBack : TypeCell → TypeCell
  | question type list => question type (list.filter fun name => normalize name != "from")
  | opening kind => opening kind
  | closing kind => closing kind

theorem readBack_eq_iff {type : QuestionType} {list : Option String} :
    (question type list).readBack = question type list ↔
      ∀ name ∈ list, normalize name ≠ "from" := by
  cases list with
  | none => simp [readBack]
  | some name => simp [readBack, Option.filter]

def IsSound : TypeCell → Prop
  | question type list =>
    ∀ name ∈ list, type.isSelect = true ∧ Text.IsWord name ∧ AddsWord name
  | _ => True

theorem longestType?_eq_some {words : List String} {n : Nat} {type : QuestionType}
    {rest : List String} (h : longestType? words n = some (type, rest)) :
    ∃ k, 0 < k ∧ rest = words.drop k ∧ ofSpelling? (" ".intercalate (words.take k)) = some type ∧
      ∀ m, k < m → m ≤ n → ofSpelling? (" ".intercalate (words.take m)) = none := by
  induction n with
  | zero => cases h
  | succ n ih =>
    unfold longestType? at h
    split at h
    · next hspelling =>
      cases h
      exact ⟨n + 1, by omega, rfl, hspelling, by omega⟩
    · next hnone =>
      obtain ⟨k, hpos, hrest, hspelling, hlonger⟩ := ih h
      refine ⟨k, hpos, hrest, hspelling, ?_⟩
      intro m hkm hmn
      rcases Nat.le_succ_iff.1 hmn with hmn | rfl
      · exact hlonger m hkm hmn
      · exact hnone

theorem addsWord_of_longestType? {words : List String} {type : QuestionType} {list : String}
    (h : longestType? words words.length = some (type, [list])) : list ∈ words ∧ AddsWord list := by
  obtain ⟨k, hpos, hrest, hspelling, hlonger⟩ := longestType?_eq_some h
  have hwords : words.take k ++ [list] = words := by
    rw [hrest]
    exact List.take_append_drop k words
  have hlength : k < words.length := by
    by_contra hle
    rw [List.drop_eq_nil_of_le (Nat.le_of_not_lt hle)] at hrest
    cases hrest
  refine ⟨?_, ?_⟩
  · rw [← hwords]
    exact List.mem_append_right _ List.mem_cons_self
  · intro hnil
    have hfront : words.take k ≠ [] := by
      intro hempty
      rw [List.take_eq_nil_iff] at hempty
      rcases hempty with rfl | rfl
      · cases hpos
      · cases hlength
    have hnone := hlonger words.length hlength (Nat.le_refl _)
    rw [List.take_length, ← hwords, String.intercalate_append_of_ne_nil hfront (by simp)] at hnone
    unfold ofSpelling? at hspelling hnone
    rw [String.intercalate_singleton, normalize_append_of_not_addsWord _ _ (not_not.2 hnil),
      hspelling] at hnone
    cases hnone

theorem isSound_parse {cell : String} {type : TypeCell} (h : parse cell = .ok type) :
    type.IsSound := by
  unfold parse at h
  dsimp only at h
  split at h
  · cases h
  · split at h
    · next marker hmarker =>
      cases h
      have hmem := OrderedMap.mem_of_lookup_eq_some hmarker
      simp only [markers, List.mem_cons, Prod.mk.injEq, List.not_mem_nil, or_false] at hmem
      rcases hmem with ⟨-, rfl⟩ | ⟨-, rfl⟩ | ⟨-, rfl⟩ | ⟨-, rfl⟩ <;> trivial
    · split at h
      · cases h
        intro name hname
        cases hname
      · next list hlongest =>
        split at h
        · next hselect =>
          cases h
          intro name hname
          cases hname
          obtain ⟨hmem, hadds⟩ := addsWord_of_longestType? hlongest
          exact ⟨hselect, Text.isWord_of_mem_words hmem, hadds⟩
        · cases h
      · cases h

end TypeCell

end Questionnaire
