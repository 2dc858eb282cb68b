import Questionnaire.Proofs.XForm.Alignment
import Questionnaire.Proofs.XForm.RoundTrip

/-!
This module contains the translations of a form: each text of a survey is in them once, under an id of
its own, and what the form refers to is there.
-/

namespace Questionnaire.XForm

open Element

def translations (tree : Element) : List Element :=
  (itexts tree).flatMap (findAll · "translation")

def textIds (translation : Element) : List String :=
  (findAll translation "text").filterMap (·.attribute? "id")

def translatedIds (tree : Element) : List String :=
  (translations tree).flatMap textIds

def valuesOf (translation : Element) (id : String) : List String :=
  ((findAll translation "text").filter (·.attribute? "id" == some id)).flatMap fun text =>
    (findAll text "value").filterMap Element.text

def valuesIn (tree : Element) (language id : String) : List String :=
  ((translations tree).filter (·.attribute? "lang" == some language)).flatMap (valuesOf · id)

def shownParts (parent : Element) : List Element :=
  if parent.localName = "itemset" then [] else findAll parent "label" ++ findAll parent "hint"

def bodyTexts (tree : Element) : List Element :=
  ((bodies tree).flatMap Element.elements).flatMap shownParts

def itemIds (tree : Element) : List String :=
  ((secondaries tree).flatMap itemsOf).flatMap fun item =>
    (item.childrenTagged "itextId").filterMap Element.text

/--
Whether the translations of a form have each text of a survey under an id of its own, and all that
the form refers to is there, unless a choice has it in an extra column called `itextId`.
-/
structure IsTranslated (tree : Element) (survey : Survey) : Prop where
  nodup : ∀ translation ∈ translations tree, (textIds translation).Nodup
  hasText : ∀ id ∈ translatedIds tree, ∃ text, HasText survey id text
  present : ∀ id text, HasText survey id text → ∀ translation ∈ translations tree,
    ∀ language ∈ translation.attribute? "lang",
      (id ∈ textIds translation ↔ language ∈ text.languages)
  values : ∀ id text, HasText survey id text →
    ∀ language, valuesIn tree language id = (text.get? language).toList
  shown : ∀ element ∈ bodyTexts tree,
    ∃ id ∈ translatedIds tree, element.attribute? "ref" = some (itextReference id)
  messages : ∀ bind ∈ binds tree, ∀ message ∈ bind.attribute? constraintMessageAttribute,
    ∃ id ∈ translatedIds tree, message = itextReference id
  items : ∀ id ∈ itemIds tree, id ∉ translatedIds tree → ∃ list ∈ survey.usedLists,
    ∃ choice ∈ list.choices, choice.extras.get? "itextId" = some id

section Ids

variable {survey : Survey} {table : SymbolTable}

theorem ids_sublist {α : Type} (items : List α) (id : α → String) (text : α → Localized) :
    ((items.flatMap fun item => textEntry (id item) (text item)).map Prod.fst).Sublist
      (items.map id) := by
  induction items with
  | nil => exact .slnil
  | cons item items ih =>
    rw [List.flatMap_cons, List.map_append, List.map_cons]
    unfold textEntry
    split
    · exact ih.cons _
    · exact ih.cons_cons _

theorem nodup_ids_entriesOf (h : IsPlaced survey table) {located : LocatedNode}
    (hlocated : located ∈ survey.nodes) :
    ((entriesOf survey.rootName located).map Prod.fst).Nodup := by
  apply List.Nodup.sublist (ids_sublist _ _ _)
  rw [show (fun pair : String × Localized =>
    nodeTextId (NodePath.absolute survey.rootName located.path) pair.1) =
      nodeTextId (NodePath.absolute survey.rootName located.path) ∘ Prod.fst from rfl,
    ← List.map_map]
  apply (nodup_fields located.node).map
  intro field field' heq
  exact ((nodeTextId_eq_iff h hlocated hlocated).1 heq).2

theorem nodup_ids_listTexts (list : ChoiceList) : ((listTexts list).map Prod.fst).Nodup := by
  apply List.Nodup.sublist (ids_sublist _ _ _)
  rw [show (fun entry : Choice × Nat => choiceId list.name entry.2) =
    choiceId list.name ∘ Prod.snd from rfl, ← List.map_map, List.zipIdx_map_snd]
  apply (List.nodup_range' ..).map
  intro index index' heq
  exact (choiceId_injective heq).2

theorem nodup_ids_nodesTexts (h : IsPlaced survey table) :
    ((nodesTexts survey.rootName [] survey.children).map Prod.fst).Nodup := by
  rw [((nodesTexts_perm _ _ _).map _).nodup_iff, List.map_flatMap, List.nodup_flatMap]
  refine ⟨fun located hlocated => nodup_ids_entriesOf h hlocated, ?_⟩
  have hnodup : survey.nodes.Nodup :=
    List.Nodup.of_map _ (Survey.nodup_paths_of_symbols h.symbols_eq)
  apply hnodup.imp_of_mem
  intro located located' hlocated hlocated' hne id hid hid'
  obtain ⟨entry, hentry, rfl⟩ := List.mem_map.1 hid
  obtain ⟨entry', hentry', heq⟩ := List.mem_map.1 hid'
  obtain ⟨pair, -, -, rfl⟩ := mem_entriesOf.1 hentry
  obtain ⟨pair', -, -, rfl⟩ := mem_entriesOf.1 hentry'
  exact hne ((nodeTextId_eq_iff h hlocated' hlocated).1 heq).1.symm

theorem nodup_ids_usedLists (h : IsPlaced survey table) :
    ((survey.usedLists.flatMap listTexts).map Prod.fst).Nodup := by
  rw [List.map_flatMap, List.nodup_flatMap]
  refine ⟨fun list _ => nodup_ids_listTexts list, ?_⟩
  apply (List.pairwise_map.1 (Survey.nodup_usedLists h.lists.keys)).imp
  intro list list' hne id hid hid'
  obtain ⟨entry, hentry, rfl⟩ := List.mem_map.1 hid
  obtain ⟨entry', hentry', heq⟩ := List.mem_map.1 hid'
  obtain ⟨choice, index, -, -, rfl⟩ := mem_listTexts.1 hentry
  obtain ⟨choice', index', -, -, rfl⟩ := mem_listTexts.1 hentry'
  exact hne (choiceId_injective heq).1.symm

theorem nodup_ids_surveyTexts (h : IsPlaced survey table) :
    ((surveyTexts survey).map Prod.fst).Nodup := by
  rw [surveyTexts, List.map_append]
  apply (nodup_ids_nodesTexts h).append (nodup_ids_usedLists h)
  intro id hid hid'
  obtain ⟨entry, hentry, rfl⟩ := List.mem_map.1 hid
  obtain ⟨entry', hentry', heq⟩ := List.mem_map.1 hid'
  rw [(nodesTexts_perm _ _ _).mem_iff, List.mem_flatMap] at hentry
  obtain ⟨located, -, hentry⟩ := hentry
  obtain ⟨pair, hpair, -, rfl⟩ := mem_entriesOf.1 hentry
  obtain ⟨list, -, hentry'⟩ := List.mem_flatMap.1 hentry'
  obtain ⟨choice, index, -, -, rfl⟩ := mem_listTexts.1 hentry'
  exact choiceId_ne_nodeTextId (field_cases hpair) heq

end Ids

section Values

variable {entries : TextEntries} {survey : Survey} {table : SymbolTable}

theorem textIds_translation (entries : TextEntries) (defaultLanguage : Option String)
    (language : String) :
    textIds (translation entries defaultLanguage language) =
      (entries.filter fun entry => (entry.2.get? language).isSome).map Prod.fst := by
  rw [textIds, findAll_text]
  induction entries with
  | nil => rfl
  | cons entry entries ih =>
    rw [List.filterMap_cons, List.filter_cons]
    cases entry.2.get? language with
    | none => exact ih
    | some value => exact congrArg (entry.1 :: ·) ih

theorem valuesOf_translation (entries : TextEntries) (defaultLanguage : Option String)
    (language id : String) :
    valuesOf (translation entries defaultLanguage language) id =
      entries.filterMap fun entry => if entry.1 = id then entry.2.get? language else none := by
  have hlocal : localPart "value" = "value" := localPart_eq_self (by decide)
  rw [valuesOf, findAll_text]
  induction entries with
  | nil => rfl
  | cons entry entries ih =>
    obtain ⟨id', text⟩ := entry
    cases hget : text.get? language with
    | none => simpa [hget] using ih
    | some value =>
      by_cases hid : id' = id
      · simpa [hget, hid, attribute?, findAll, textElement, localName, hlocal] using ih
      · simpa [hget, hid, attribute?] using ih

theorem filterMap_eq_lookup {α : Type} (hnodup : (entries.map Prod.fst).Nodup)
    (f : Localized → Option α) (id : String) :
    (entries.filterMap fun entry => if entry.1 = id then f entry.2 else none) =
      ((entries.lookup id).bind f).toList := by
  induction entries with
  | nil => rfl
  | cons entry entries ih =>
    obtain ⟨id', text⟩ := entry
    obtain ⟨hid', hnodup⟩ := List.nodup_cons.1 hnodup
    by_cases hid : id' = id
    · subst hid
      have hnone : entries.lookup id' = none := OrderedMap.lookup_eq_none_of_notMem hid'
      rw [hnone] at ih
      rw [List.filterMap_cons, if_pos rfl, ih hnodup, List.lookup_cons_self, Option.bind_some]
      cases f text <;> rfl
    · rw [List.filterMap_cons, if_neg hid, List.lookup_cons,
        beq_eq_false_iff_ne.2 (Ne.symm hid), ih hnodup]

theorem translations_ofSurvey (hlocalized : isLocalized survey = true) :
    translations (ofSurvey survey) =
      (languagesOf (surveyTexts survey) survey.settings.defaultLanguage).map
        (translation (surveyTexts survey) survey.settings.defaultLanguage) := by
  rw [translations, itexts_ofSurvey, if_pos hlocalized, List.flatMap_singleton, findAll_translation]

theorem mem_languagesOf {defaultLanguage : Option String} {id : String} {text : Localized}
    (hentry : (id, text) ∈ entries) {language value : String}
    (hvalue : text.get? language = some value) : language ∈ languagesOf entries defaultLanguage := by
  unfold languagesOf
  rw [mem_ascending, List.mem_append]
  left
  exact List.mem_flatMap.2 ⟨_, hentry, List.mem_map.2 ⟨_, Localized.get?_eq_some_iff.1 hvalue, rfl⟩⟩

theorem mem_translatedIds (hlocalized : isLocalized survey = true) {id : String} :
    id ∈ translatedIds (ofSurvey survey) ↔ ∃ text, HasText survey id text ∧ text.entries ≠ [] := by
  rw [translatedIds, translations_ofSurvey hlocalized, List.flatMap_map, List.mem_flatMap]
  constructor
  · rintro ⟨language, -, hid⟩
    rw [textIds_translation] at hid
    obtain ⟨⟨id', text⟩, hentry, rfl⟩ := List.mem_map.1 hid
    exact ⟨text, mem_surveyTexts_iff.1 (List.mem_filter.1 hentry).1⟩
  · rintro ⟨text, htext⟩
    have hentry := mem_surveyTexts_iff.2 htext
    -- A text that is not empty is in the translation into any of its languages.
    obtain ⟨⟨language, value⟩, hpair⟩ := List.exists_mem_of_ne_nil _ htext.2
    have hvalue := Localized.get?_eq_some_iff.2 hpair
    refine ⟨language, mem_languagesOf hentry hvalue, ?_⟩
    rw [textIds_translation]
    exact List.mem_map.2 ⟨_, List.mem_filter.2 ⟨hentry, Option.isSome_of_eq_some hvalue⟩, rfl⟩

theorem mem_textIds_iff (h : IsPlaced survey table) {id : String} {text : Localized}
    (htext : HasText survey id text) (defaultLanguage : Option String) (language : String) :
    id ∈ textIds (translation (surveyTexts survey) defaultLanguage language) ↔
      language ∈ text.languages := by
  rw [textIds_translation, Localized.languages, List.mem_map, List.mem_map]
  constructor
  · rintro ⟨⟨id', text'⟩, hentry, rfl⟩
    obtain ⟨hentry, hget⟩ := List.mem_filter.1 hentry
    obtain ⟨value, hvalue⟩ := Option.isSome_iff_exists.1 hget
    rw [(mem_surveyTexts_iff.1 hentry).1.unique h htext] at hvalue
    exact ⟨_, Localized.get?_eq_some_iff.1 hvalue, rfl⟩
  · rintro ⟨⟨language', value⟩, hpair, rfl⟩
    have hentry := mem_surveyTexts_iff.2 ⟨htext, List.ne_nil_of_mem hpair⟩
    have hvalue := Localized.get?_eq_some_iff.2 hpair
    exact ⟨_, List.mem_filter.2 ⟨hentry, Option.isSome_of_eq_some hvalue⟩, rfl⟩

theorem lookup_surveyTexts (h : IsPlaced survey table) {id : String} {text : Localized}
    (htext : HasText survey id text) (language : String) :
    ((surveyTexts survey).lookup id).bind (·.get? language) = text.get? language := by
  by_cases hne : text.entries = []
  · have hid : id ∉ (surveyTexts survey).map Prod.fst := by
      intro hid
      obtain ⟨⟨id', text'⟩, hentry, rfl⟩ := List.mem_map.1 hid
      obtain ⟨htext', hne'⟩ := mem_surveyTexts_iff.1 hentry
      rw [htext'.unique h htext] at hne'
      exact hne' hne
    rw [OrderedMap.lookup_eq_none_of_notMem hid, Localized.get?, hne]
    rfl
  · have hentry := mem_surveyTexts_iff.2 ⟨htext, hne⟩
    rw [OrderedMap.lookup_eq_some_of_mem (nodup_ids_surveyTexts h) hentry, Option.bind_some]

theorem filter_lang (languages : List String) (entries : TextEntries)
    (defaultLanguage : Option String) (language : String) :
    (languages.map (translation entries defaultLanguage)).filter
        (·.attribute? "lang" == some language) =
      (List.replicate (languages.count language) language).map
        (translation entries defaultLanguage) := by
  rw [List.filter_map, show (·.attribute? "lang" == some language) ∘
    translation entries defaultLanguage = (· == language) from rfl, List.filter_beq]

theorem valuesIn_ofSurvey (h : IsPlaced survey table) (hlocalized : isLocalized survey = true)
    {id : String} {text : Localized} (htext : HasText survey id text) (language : String) :
    valuesIn (ofSurvey survey) language id = (text.get? language).toList := by
  rw [valuesIn, translations_ofSurvey hlocalized, filter_lang, List.flatMap_map]
  by_cases hlanguage :
      language ∈ languagesOf (surveyTexts survey) survey.settings.defaultLanguage
  · have hcount : (languagesOf (surveyTexts survey) survey.settings.defaultLanguage).count language =
        1 := List.count_eq_one_of_mem (nodup_ascending _) hlanguage
    rw [hcount, List.replicate_one, List.flatMap_singleton, valuesOf_translation,
      filterMap_eq_lookup (nodup_ids_surveyTexts h) (·.get? language), lookup_surveyTexts h htext]
  · -- No text is in a language without a translation.
    rw [List.count_eq_zero_of_not_mem hlanguage]
    cases hget : text.get? language with
    | none => rfl
    | some value =>
      have hne : text.entries ≠ [] := List.ne_nil_of_mem (Localized.get?_eq_some_iff.1 hget)
      exact absurd (mem_languagesOf (mem_surveyTexts_iff.2 ⟨htext, hne⟩) hget) hlanguage

end Values

section References

variable {localized : Bool} {root : String}

def shownOf (localized : Bool) (root : String) (located : LocatedNode) : List Element :=
  let absolute := NodePath.absolute root located.path
  match located.node with
  | .question q => if q.type.isHidden then [] else shownTexts localized absolute q.label q.hint
  | .container _ header _ => shownTexts localized absolute header.label header.hint

theorem shownParts_eq_nil {parent : Element}
    (h : ∀ child ∈ parent.children, child.localName ≠ "label" ∧ child.localName ≠ "hint") :
    shownParts parent = [] := by
  have hnil (name : String) (hname : ∀ child ∈ parent.children, child.localName ≠ name) :
      findAll parent name = [] := by
    apply List.filter_eq_nil_iff.2
    intro child hchild
    rw [beq_iff_eq]
    exact hname child hchild
  rw [shownParts, hnil "label" fun child hchild => (h child hchild).1,
    hnil "hint" fun child hchild => (h child hchild).2, List.append_nil, ite_self]

theorem flatMap_shownParts_of_leaves {elements : List Element}
    (h : ∀ element ∈ elements, element.children = []) :
    (elementsAll elements).flatMap shownParts = [] := by
  rw [elementsAll_of_leaves h, List.flatMap_eq_nil_iff]
  intro element helement
  apply shownParts_eq_nil
  rw [h element helement]
  simp

theorem flatMap_shownParts_shownTexts (localized : Bool) (absolute : String)
    (label hint : Localized) :
    (elementsAll (shownTexts localized absolute label hint)).flatMap shownParts = [] :=
  flatMap_shownParts_of_leaves fun _ helement => (leaf_of_mem_shownTexts helement).1

theorem flatMap_shownParts_itemset (localized : Bool) (list : String) :
    (elementsAll [itemset localized list]).flatMap shownParts = [] := by
  have hleaves : ∀ element ∈ (itemset localized list).children, element.children = [] := by
    intro element helement
    simp only [itemset, List.mem_cons, List.not_mem_nil, or_false] at helement
    rcases helement with rfl | rfl <;> rfl
  rw [elementsAll, elementsAll, List.append_nil, elements_eq, List.flatMap_cons,
    flatMap_shownParts_of_leaves hleaves, shownParts, if_pos (localName_itemset localized list)]
  rfl

theorem flatMap_shownParts_controlElement {tag : String} (q : Question)
    (htag : controlTag? q.type = some tag) (absolute : String) :
    (elementsAll [controlElement localized absolute q tag]).flatMap shownParts =
      shownTexts localized absolute q.label q.hint := by
  obtain ⟨hlocal, hne⟩ := controlTag_ne htag
  have hname : (controlElement localized absolute q tag).localName ≠ "itemset" := by
    rw [show (controlElement localized absolute q tag).localName = tag from hlocal]
    rintro rfl
    exact hne (by decide)
  obtain ⟨hlabel, hhint⟩ := findAll_shownTexts (controlElement localized absolute q tag) rfl
    fun other hother => by simp [mem_itemsets hother]
  have hitemsets : (elementsAll
      (if q.type.isSelect then (q.list.map (itemset localized)).toList else [])).flatMap
        shownParts = [] :=
    @itemsets_of_forall localized (fun itemsets => (elementsAll itemsets).flatMap shownParts = [])
      rfl (flatMap_shownParts_itemset localized) q
  rw [elementsAll, elementsAll, List.append_nil, elements_eq, List.flatMap_cons, shownParts,
    if_neg hname, hlabel, hhint, controlElement, elementsAll_append, List.flatMap_append,
    flatMap_shownParts_shownTexts, hitemsets, List.append_nil, List.append_nil, shownTexts]

theorem flatMap_shownParts_questionControl (own : NodePath) (q : Question) :
    (elementsAll (questionControl localized (NodePath.absolute root own) q)).flatMap shownParts =
      shownOf localized root ⟨own, .question q⟩ := by
  unfold shownOf questionControl
  dsimp only
  cases htag : controlTag? q.type with
  | none =>
    rw [if_pos (controlTag?_eq_none_iff.1 htag)]
    rfl
  | some tag =>
    have hshown : ¬ q.type.isHidden = true := by
      intro hhidden
      rw [controlTag?_eq_none_iff.2 hhidden] at htag
      cases htag
    rw [if_neg hshown]
    exact flatMap_shownParts_controlElement q htag _

theorem flatMap_shownParts_containerControl (own : NodePath) (kind : ContainerKind)
    (header : Header) (children : List Node) :
    (elementsAll [containerControl localized (NodePath.absolute root own) kind header
        (nodesControls localized root own children)]).flatMap shownParts =
      shownOf localized root ⟨own, .container kind header children⟩ ++
        (elementsAll (nodesControls localized root own children)).flatMap shownParts := by
  have hparts : shownParts (containerControl localized (NodePath.absolute root own) kind header
      (nodesControls localized root own children)) =
        shownOf localized root ⟨own, .container kind header children⟩ := by
    obtain ⟨hlabel, hhint⟩ := findAll_containerControl localized root own kind header children
    have hname : (containerControl localized (NodePath.absolute root own) kind header
        (nodesControls localized root own children)).localName ≠ "itemset" := by
      rw [localName_containerControl]
      decide
    rw [shownParts, if_neg hname, hlabel, hhint]
    rfl
  rw [elementsAll, elementsAll, List.append_nil, elements_eq, List.flatMap_cons, hparts]
  congr 1
  unfold containerControl
  dsimp only
  split
  · rw [elementsAll_append, List.flatMap_append, flatMap_shownParts_shownTexts, List.nil_append,
      elementsAll, elementsAll, List.append_nil, elements_eq, List.flatMap_cons,
      shownParts_eq_nil fun _ hchild => localName_of_mem_nodesControls hchild, List.nil_append]
  · rw [elementsAll_append, List.flatMap_append, flatMap_shownParts_shownTexts, List.nil_append]

theorem collectsByNode_shownParts (localized : Bool) (root : String) :
    CollectsByNode localized root (fun elements => (elementsAll elements).flatMap shownParts)
      (shownOf localized root) where
  nil := rfl
  append := by
    intro elements elements'
    rw [elementsAll_append, List.flatMap_append]
  question := flatMap_shownParts_questionControl
  container := flatMap_shownParts_containerControl

theorem bodyTexts_ofSurvey (survey : Survey) : bodyTexts (ofSurvey survey) =
    survey.nodes.flatMap (shownOf (isLocalized survey) survey.rootName) := by
  rw [bodyTexts, bodies_ofSurvey, List.flatMap_singleton, elements_eq, List.flatMap_cons,
    shownParts_eq_nil fun _ hchild => localName_of_mem_nodesControls hchild, List.nil_append]
  exact (collectsByNode_shownParts _ _).nodes [] survey.children

def RefersToText (survey : Survey) (reference : String) : Prop :=
  ∃ id text, HasText survey id text ∧ text.entries ≠ [] ∧ reference = itextReference id

theorem exists_of_mem_shownText {tag id : String} {text : Localized} {element : Element}
    (h : element ∈ shownText true tag id text) :
    text.entries ≠ [] ∧ element.attribute? "ref" = some (itextReference id) := by
  unfold shownText at h
  split at h
  · cases h
  · next hempty =>
    cases List.mem_singleton.1 h
    exact ⟨mt Localized.isEmpty_iff.2 hempty, rfl⟩

theorem refersToText_of_mem_shownTexts {located : LocatedNode} (hlocated : located ∈ survey.nodes)
    {label hint : Localized} (hlabel : ("label", label) ∈ textsOf located.node)
    (hhint : ("hint", hint) ∈ textsOf located.node) {element : Element}
    (h : element ∈ shownTexts true (NodePath.absolute survey.rootName located.path) label hint) :
    ∃ reference, element.attribute? "ref" = some reference ∧ RefersToText survey reference := by
  rw [shownTexts, labelId_eq, hintId_eq] at h
  rcases List.mem_append.1 h with h | h
  · obtain ⟨hne, href⟩ := exists_of_mem_shownText h
    exact ⟨_, href, _, _, .node hlocated hlabel, hne, rfl⟩
  · obtain ⟨hne, href⟩ := exists_of_mem_shownText h
    exact ⟨_, href, _, _, .node hlocated hhint, hne, rfl⟩

theorem refersToText_of_mem_bodyTexts (hlocalized : isLocalized survey = true) {element : Element}
    (h : element ∈ bodyTexts (ofSurvey survey)) :
    ∃ reference, element.attribute? "ref" = some reference ∧ RefersToText survey reference := by
  rw [bodyTexts_ofSurvey, hlocalized] at h
  obtain ⟨⟨path, node⟩, hlocated, h⟩ := List.mem_flatMap.1 h
  unfold shownOf at h
  cases node with
  | question q =>
    dsimp only at h
    split at h
    · cases h
    · exact refersToText_of_mem_shownTexts hlocated (by simp [textsOf]) (by simp [textsOf]) h
  | container kind header children =>
    exact refersToText_of_mem_shownTexts hlocated (by simp [textsOf]) (by simp [textsOf]) h

theorem refersToText_of_mem_binds (hlocalized : isLocalized survey = true) {bind : Element}
    (hbind : bind ∈ binds (ofSurvey survey)) {message : String}
    (hmessage : bind.attribute? constraintMessageAttribute = some message) :
    RefersToText survey message := by
  rw [binds_ofSurvey, nodesBinds_eq, hlocalized] at hbind
  obtain ⟨⟨path, node⟩, hlocated, hbind⟩ := List.mem_filterMap.1 hbind
  cases node with
  | question q =>
    cases hbind
    rw [attribute?_constraintMessage, constraintMessageId_eq] at hmessage
    unfold textAttribute at hmessage
    split at hmessage
    · cases hmessage
    · next hempty =>
      cases hmessage
      exact ⟨_, _, @HasText.node survey ⟨path, .question q⟩ ("jr:constraintMsg", q.constraintMessage)
        hlocated (by simp [textsOf]), mt Localized.isEmpty_iff.2 hempty, rfl⟩
  | container kind header children =>
    -- The bind of a container has its path and its relevance only.
    unfold bindOf? containerBind at hbind
    dsimp only at hbind
    split at hbind
    · cases hbind
    · cases hbind
      cases hmessage

theorem mem_itextIds_item {list : String} {index : Nat} {choice : Choice} {id : String} :
    id ∈ ((item true list index choice).childrenTagged "itextId").filterMap Element.text ↔
      (choice.label.entries ≠ [] ∧ choiceId list index = id) ∨
        choice.extras.get? "itextId" = some id := by
  have hlabel : id ∈ ((itemLabel true list index choice).filter (·.tag == "itextId")).filterMap
      Element.text ↔ choice.label.entries ≠ [] ∧ choiceId list index = id := by
    rw [Ne, ← Localized.isEmpty_iff, itemLabel]
    by_cases hempty : choice.label.isEmpty = true
    · simp [hempty]
    · simp [hempty, textElement, eq_comm]
  rw [childrenTagged, item, List.cons_append, List.filter_cons_of_neg (by simp [textElement]),
    List.filter_append, List.filterMap_append, List.mem_append, hlabel,
    OrderedMap.get?_eq_some_iff]
  apply or_congr Iff.rfl
  simp [textElement]

theorem mem_itemIds (hlocalized : isLocalized survey = true) {id : String} :
    id ∈ itemIds (ofSurvey survey) ↔ ∃ list ∈ survey.usedLists,
      ∃ choice index, (choice, index) ∈ list.choices.zipIdx ∧
        ((choice.label.entries ≠ [] ∧ choiceId list.name index = id) ∨
          choice.extras.get? "itextId" = some id) := by
  rw [itemIds, secondaries_ofSurvey, hlocalized, List.flatMap_map, List.flatMap_assoc,
    List.mem_flatMap]
  simp only [itemsOf_secondaryInstance, List.flatMap_map, List.mem_flatMap, mem_itextIds_item,
    Prod.exists]

theorem mem_translatedIds_of_refersToText (hlocalized : isLocalized survey = true)
    {reference : String} (h : RefersToText survey reference) :
    ∃ id ∈ translatedIds (ofSurvey survey), reference = itextReference id := by
  obtain ⟨id, text, htext, hne, heq⟩ := h
  exact ⟨id, (mem_translatedIds hlocalized).2 ⟨text, htext, hne⟩, heq⟩

end References

section Translated

variable {survey : Survey} {table : SymbolTable}

theorem ne_nil_itexts_iff : itexts (ofSurvey survey) ≠ [] ↔ isLocalized survey = true := by
  rw [itexts_ofSurvey]
  cases isLocalized survey <;> simp

theorem isTranslated_of_isPlaced (h : IsPlaced survey table)
    (hlocalized : isLocalized survey = true) : IsTranslated (ofSurvey survey) survey where
  nodup := by
    rw [translations_ofSurvey hlocalized, List.forall_mem_map]
    intro language _
    rw [textIds_translation]
    exact (nodup_ids_surveyTexts h).sublist (List.filter_sublist.map _)
  hasText := by
    intro id hid
    obtain ⟨text, htext, -⟩ := (mem_translatedIds hlocalized).1 hid
    exact ⟨text, htext⟩
  present := by
    intro id text htext
    rw [translations_ofSurvey hlocalized, List.forall_mem_map]
    intro language _ language' hlang
    cases hlang
    exact mem_textIds_iff h htext _ _
  values := fun _ _ htext language => valuesIn_ofSurvey h hlocalized htext language
  shown := by
    intro element helement
    obtain ⟨reference, href, hrefers⟩ := refersToText_of_mem_bodyTexts hlocalized helement
    obtain ⟨id, hid, rfl⟩ := mem_translatedIds_of_refersToText hlocalized hrefers
    exact ⟨id, hid, href⟩
  messages := by
    intro bind hbind message hmessage
    exact mem_translatedIds_of_refersToText hlocalized
      (refersToText_of_mem_binds hlocalized hbind hmessage)
  items := by
    intro id hid hnot
    obtain ⟨list, hlist, choice, index, hchoice, ⟨hne, rfl⟩ | hextra⟩ :=
      (mem_itemIds hlocalized).1 hid
    · exact absurd ((mem_translatedIds hlocalized).2 ⟨_, .choice hlist hchoice, hne⟩) hnot
    · exact ⟨list, hlist, choice, List.fst_mem_of_mem_zipIdx hchoice, hextra⟩

theorem itemIds_translated_iff (h : IsTranslated (ofSurvey survey) survey)
    (hlocalized : isLocalized survey = true) :
    (∀ id ∈ itemIds (ofSurvey survey), id ∈ translatedIds (ofSurvey survey)) ↔
      ∀ list ∈ survey.usedLists, ∀ choice ∈ list.choices,
        ∀ id ∈ choice.extras.get? "itextId", id ∈ translatedIds (ofSurvey survey) := by
  constructor
  · intro hitems list hlist choice hchoice id hextra
    obtain ⟨index, hindex⟩ := List.getElem?_of_mem hchoice
    exact hitems id ((mem_itemIds hlocalized).2 ⟨list, hlist, choice, index,
      List.mk_mem_zipIdx_iff_getElem?.2 hindex, Or.inr hextra⟩)
  · intro hextras id hid
    by_contra hnot
    obtain ⟨list, hlist, choice, hchoice, hextra⟩ := h.items id hid hnot
    exact hnot (hextras list hlist choice hchoice id hextra)

theorem ofSurvey_isTranslated {workbook : Workbook} {reading : Reading}
    (hread : workbook.read {} = .ok reading) :
    (itexts (ofSurvey reading.survey) = [] → ∀ id text, HasText reading.survey id text →
      ∀ language ∈ text.languages, language = defaultLanguage) ∧
    (itexts (ofSurvey reading.survey) ≠ [] →
      IsTranslated (ofSurvey reading.survey) reading.survey ∧
      ((∀ id ∈ itemIds (ofSurvey reading.survey), id ∈ translatedIds (ofSurvey reading.survey)) ↔
        ∀ list ∈ reading.survey.usedLists, ∀ choice ∈ list.choices,
          ∀ id ∈ choice.extras.get? "itextId", id ∈ translatedIds (ofSurvey reading.survey))) := by
  obtain ⟨table, hauthored⟩ := Workbook.isAuthored_read (by decide) hread
  constructor
  · intro hnil id text htext
    apply htext.language_eq
    rw [Bool.eq_false_iff]
    exact fun hlocalized => ne_nil_itexts_iff.2 hlocalized hnil
  · intro hne
    have hlocalized := ne_nil_itexts_iff.1 hne
    have htranslated := isTranslated_of_isPlaced (isPlaced_of_isAuthored hauthored) hlocalized
    exact ⟨htranslated, itemIds_translated_iff htranslated hlocalized⟩

theorem ofSurvey_isTranslated_household :
    ∃ reading, Workbook.household.read {} = .ok reading ∧
      (itexts (ofSurvey reading.survey) = [] → ∀ id text, HasText reading.survey id text →
        ∀ language ∈ text.languages, language = defaultLanguage) ∧
      (itexts (ofSurvey reading.survey) ≠ [] →
        IsTranslated (ofSurvey reading.survey) reading.survey ∧
        ((∀ id ∈ itemIds (ofSurvey reading.survey),
            id ∈ translatedIds (ofSurvey reading.survey)) ↔
          ∀ list ∈ reading.survey.usedLists, ∀ choice ∈ list.choices,
            ∀ id ∈ choice.extras.get? "itextId",
              id ∈ translatedIds (ofSurvey reading.survey))) := by
  obtain ⟨reading, hread⟩ := Workbook.exists_read_household
  exact ⟨reading, hread, ofSurvey_isTranslated hread⟩

def reds : Workbook where
  survey := [.ofList [("type", "select_one color"), ("name", "favourite"), ("label", "Favourite"),
    ("label::French", "Favorite")]]
  choices := [.ofList
    [("list_name", "color"), ("name", "red"), ("label", "Red"), ("itextId", "nowhere")]]
  settings := none

theorem ofSurvey_refers_nowhere :
    ∃ reading, reds.read {} = .ok reading ∧ itexts (ofSurvey reading.survey) ≠ [] ∧
      itemIds (ofSurvey reading.survey) = ["color-0", "nowhere"] ∧
      "nowhere" ∉ translatedIds (ofSurvey reading.survey) := by
  have hall : (reds.read {}).toOption.any fun reading =>
      (itexts (ofSurvey reading.survey)).isEmpty = false ∧
        itemIds (ofSurvey reading.survey) = ["color-0", "nowhere"] ∧
        "nowhere" ∉ translatedIds (ofSurvey reading.survey) := by
    decide +kernel
  obtain ⟨reading, hread, hall⟩ := exists_eq_ok_of_any hall
  obtain ⟨hitexts, hids, hnot⟩ := of_decide_eq_true hall
  exact ⟨reading, hread, List.isEmpty_eq_false_iff.1 hitexts, hids, hnot⟩

end Translated

end Questionnaire.XForm
