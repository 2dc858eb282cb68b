import Questionnaire.Proofs.XForm.Parts

/-!
This module contains the reading of single texts, whether they stand by themselves or where they are
shown.
-/

namespace Questionnaire

namespace Localized

theorem eq_empty {t : Localized} (h : t.isEmpty = true) : t = empty := by
  obtain ⟨entries, ascends, nonempty⟩ := t
  cases List.isEmpty_iff.1 h
  rfl

theorem isEmpty_ne_true_of_defaultText? {t : Localized} {text : String}
    (h : t.defaultText? = some text) : ¬ t.isEmpty = true := by
  intro hempty
  rw [eq_empty hempty] at h
  cases h

theorem exists_plain {t : Localized} (hempty : t.isEmpty = false)
    (h : ∀ language ∈ t.languages, language = defaultLanguage) :
    ∃ value, t.defaultText? = some value ∧ t = plain value ∧
      (defaultLanguage, value) ∈ t.entries := by
  obtain ⟨entries, ascends, nonempty⟩ := t
  cases entries with
  | nil => cases hempty
  | cons entry entries =>
    obtain ⟨language, value⟩ := entry
    have hlanguage : language = defaultLanguage := h language List.mem_cons_self
    subst hlanguage
    cases entries with
    | nil =>
      have hvalue : value ≠ "" := nonempty _ List.mem_cons_self
      refine ⟨value, rfl, ?_, List.mem_cons_self⟩
      unfold plain insert
      rw [dif_neg hvalue]
      rfl
    | cons other entries =>
      have hother : other.1 = defaultLanguage := h other.1 (by simp [languages])
      have hlt := (List.pairwise_cons.1 ascends).1 other.1 (by simp)
      rw [hother] at hlt
      exact absurd rfl (String.ne_of_lt hlt)

end Localized

namespace XForm

variable {survey : Survey} {table : SymbolTable} {form : Form} {localized : Bool}

def Shows (form : Form) (localized : Bool) (id : String) (text : Localized) : Prop :=
  text.isEmpty = false →
    if localized then form.texts.get? id = some text
    else ∃ value, text.defaultText? = some value ∧ text = .plain value ∧ Text.IsTidy value

theorem shows_plain {id : String} {text : Localized} (htrimmed : text.IsTrimmed)
    (h : ∀ language ∈ text.languages, language = defaultLanguage) : Shows form false id text := by
  intro hempty
  obtain ⟨value, hvalue, heq, hmem⟩ := Localized.exists_plain hempty h
  exact ⟨value, hvalue, heq, htrimmed _ hmem⟩

theorem language_eq_of_not_isMultilingual (h : survey.isMultilingual = false) {language : String}
    (hlanguage : language ∈ survey.languages) : language = defaultLanguage := by
  unfold Survey.isMultilingual at h
  rw [List.any_eq_false] at h
  simpa using h language hlanguage

theorem not_isMultilingual (h : isLocalized survey = false) : survey.isMultilingual = false := by
  unfold isLocalized at h
  rw [Bool.or_eq_false_iff, Bool.or_eq_false_iff] at h
  exact h.1.1

theorem mem_texts_of_mem_textsOf {node : Node} {pair : String × Localized}
    (h : pair ∈ textsOf node) : pair.2 ∈ node.texts := by
  cases node with
  | question q =>
    simp only [textsOf, List.mem_cons, List.not_mem_nil, or_false] at h
    rcases h with rfl | rfl | rfl <;> simp [Node.texts]
  | container kind header children =>
    simp only [textsOf, List.mem_cons, List.not_mem_nil, or_false] at h
    rcases h with rfl | rfl <;> simp [Node.texts]

theorem HasText.language_eq {id : String} {text : Localized} (h : HasText survey id text)
    (hlocalized : isLocalized survey = false) :
    ∀ language ∈ text.languages, language = defaultLanguage := by
  intro language hlanguage
  apply language_eq_of_not_isMultilingual (not_isMultilingual hlocalized)
  unfold Survey.languages
  rw [mem_ascending, List.mem_append]
  cases h with
  | @node located pair hlocated hpair =>
    left
    rw [List.mem_flatMap]
    refine ⟨located, hlocated, ?_⟩
    rw [List.mem_flatMap]
    exact ⟨pair.2, mem_texts_of_mem_textsOf hpair, hlanguage⟩
  | @choice list choice index hlist hchoice =>
    right
    rw [List.mem_flatMap]
    refine ⟨list, hlist, ?_⟩
    rw [List.mem_flatMap]
    exact ⟨choice, List.fst_mem_of_mem_zipIdx hchoice, hlanguage⟩

theorem shows_nodeText (h : IsPlaced survey table) {located : LocatedNode}
    (hlocated : located ∈ survey.nodes) {pair : String × Localized}
    (hpair : pair ∈ textsOf located.node) :
    Shows (partsOf survey) (isLocalized survey)
      (nodeTextId (NodePath.absolute survey.rootName located.path) pair.1) pair.2 := by
  cases hlocalized : isLocalized survey with
  | true =>
    intro hempty
    have hget := get?_nodeText h survey.settings.defaultLanguage hlocated hpair
    rw [hempty, if_neg Bool.false_ne_true] at hget
    unfold partsOf
    rw [hlocalized]
    exact hget
  | false =>
    apply shows_plain (isTrimmed_of_mem_textsOf (h.nodes located hlocated) pair hpair)
    exact (HasText.node hlocated hpair).language_eq hlocalized

theorem get?_texts_iff (h : IsPlaced survey table) (hlocalized : isLocalized survey = true)
    {id : String} {text : Localized} :
    (partsOf survey).texts.get? id = some text ↔ (id, text) ∈ surveyTexts survey := by
  unfold partsOf
  rw [if_pos hlocalized]
  exact get?_foundTexts_eq_some_iff (areTexts_surveyTexts h)

theorem shows_choiceLabel (h : IsPlaced survey table) {list : ChoiceList}
    (hlist : list ∈ survey.usedLists) (hlabels : NamesLabels survey list) {choice : Choice}
    {index : Nat} (hchoice : (choice, index) ∈ list.choices.zipIdx) :
    Shows (partsOf survey) (isLocalized survey) (Text.trim (choiceId list.name index))
      choice.label := by
  have hmem := List.fst_mem_of_mem_zipIdx hchoice
  cases hlocalized : isLocalized survey with
  | true =>
    intro hempty
    have hlabel := hlabels hlocalized (choice, index) hchoice hempty
    rw [if_pos rfl]
    exact (get?_texts_iff h hlocalized).2 hlabel
  | false =>
    apply shows_plain ((h.isFormed_of_mem_usedLists list hlist).choices choice hmem).label
    exact (HasText.choice hlist hchoice).language_eq hlocalized

theorem attributeText_itextReference_iff {id : String} {text : Localized} :
    form.attributeText (itextReference id) = .ok text ↔ form.texts.get? id = some text := by
  unfold Form.attributeText
  rw [itextId?_itextReference]
  dsimp only
  cases form.texts.get? id <;> simp

theorem elementText_shownText {id : String} {text : Localized} (h : Shows form localized id text)
    (tag : String) : form.elementText (shownText localized tag id text).head? = .ok text := by
  unfold shownText
  split
  · next hempty =>
    rw [Localized.eq_empty hempty]
    rfl
  · next hempty =>
    have hshows := h (Bool.eq_false_iff.2 hempty)
    split
    · next hlocalized =>
      rw [hlocalized, if_pos rfl] at hshows
      have href : Element.attribute? { tag, attributes := [("ref", itextReference id)] } "ref" =
          some (itextReference id) := by simp [Element.attribute?]
      unfold Form.elementText
      dsimp only [List.head?_cons]
      rw [href]
      exact attributeText_itextReference_iff.2 hshows
    · next hlocalized =>
      rw [if_neg hlocalized] at hshows
      obtain ⟨value, hvalue, heq, htidy⟩ := hshows
      have href : (textElement tag value).attribute? "ref" = none := rfl
      unfold Form.elementText
      dsimp only [List.head?_cons]
      rw [hvalue, Option.getD_some, href, content?_textElement htidy tag, heq]
      rfl

theorem attributeText_textAttribute {id : String} {text : Localized}
    (h : Shows form localized id text)
    (htext : localized = false → ∀ value, text.defaultText? = some value → itextId? value = none) :
    (match textAttribute localized id text with
      | some message => form.attributeText message
      | none => .ok .empty) = .ok text := by
  unfold textAttribute
  by_cases hempty : text.isEmpty = true
  · rw [if_pos hempty, Localized.eq_empty hempty]
  · have hshows := h (Bool.eq_false_iff.2 hempty)
    rw [if_neg hempty]
    by_cases hlocalized : localized = true
    · rw [if_pos hlocalized] at hshows ⊢
      exact attributeText_itextReference_iff.2 hshows
    · rw [if_neg hlocalized] at hshows ⊢
      obtain ⟨value, hvalue, heq, htidy⟩ := hshows
      rw [hvalue]
      dsimp only
      unfold Form.attributeText
      rw [htext (Bool.eq_false_iff.2 hlocalized) value hvalue]
      dsimp only
      rw [htidy.trim_eq, heq]

end XForm

end Questionnaire
