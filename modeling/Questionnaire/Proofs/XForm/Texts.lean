import Questionnaire.Proofs.Localized
import Questionnaire.Proofs.XForm.Layout
import Questionnaire.Proofs.XForm.Tied

/-!
This module contains the texts of a form: what the translations say of an id is the text that was
written under it.
-/

namespace Questionnaire.XForm

structure AreTexts (entries : TextEntries) : Prop where
  unique : ∀ entry ∈ entries, ∀ entry' ∈ entries, entry.1 = entry'.1 → entry.2 = entry'.2
  isTrimmed : ∀ entry ∈ entries, entry.2.IsTrimmed
  entries_ne : ∀ entry ∈ entries, entry.2.entries ≠ []

def ofId (id : String) (triples : List (String × String × String)) : List (String × String) :=
  (triples.filter (·.1 == id)).map Prod.snd

def addTexts (texts : OrderedMap Localized) (triples : List (String × String × String)) :
    OrderedMap Localized :=
  triples.foldl (fun texts (id, language, value) => addText texts id language value) texts

theorem get?_addTexts (triples : List (String × String × String)) (texts : OrderedMap Localized)
    (id : String) :
    (addTexts texts triples).get? id =
      if ofId id triples = [] then texts.get? id
      else some (((texts.get? id).getD .empty).insertAll (ofId id triples)) := by
  induction triples generalizing texts with
  | nil => rfl
  | cons triple triples ih =>
    obtain ⟨id', language, value⟩ := triple
    rw [show addTexts texts ((id', language, value) :: triples) =
      addTexts (addText texts id' language value) triples from rfl, ih]
    unfold addText
    rw [OrderedMap.get?_insert]
    by_cases hid : id = id'
    · subst hid
      have hofId : ofId id ((id, language, value) :: triples) =
          (language, value) :: ofId id triples := by simp [ofId]
      rw [hofId, if_pos (rfl : id = id), if_neg (List.cons_ne_nil _ _), Localized.insertAll_cons]
      split
      · next hnil =>
        rw [hnil]
        rfl
      · rfl
    · have hofId : ofId id ((id', language, value) :: triples) = ofId id triples := by
        have hne : (id' == id) = false := beq_eq_false_iff_ne.2 fun heq => hid heq.symm
        simp [ofId, hne]
      rw [hofId, if_neg hid]

theorem textValue?_textElement {value : String} (h : Text.IsTidy value) (id : String) :
    textValue? { tag := "text", attributes := [("id", id)]
                 children := [textElement "value" value] } = some value := by
  have hlocal : Element.localPart "value" = "value" := Element.localPart_eq_self (by decide)
  simp [textValue?, findAll, textElement, Element.localName, hlocal, Element.attribute?,
    Element.content?, h.trim_eq, h.ne_empty]

theorem findAll_text (entries : TextEntries) (defaultLanguage : Option String)
    (language : String) :
    findAll (translation entries defaultLanguage language) "text" =
      entries.filterMap fun entry => (entry.2.get? language).map fun value =>
        { tag := "text", attributes := [("id", entry.1)]
          children := [textElement "value" value] } := by
  have hlocal : Element.localPart "text" = "text" := Element.localPart_eq_self (by decide)
  apply List.filter_eq_self.2
  intro element helement
  obtain ⟨⟨id, text⟩, -, hmap⟩ := List.mem_filterMap.1 helement
  obtain ⟨value, -, rfl⟩ := Option.map_eq_some_iff.1 hmap
  simp [Element.localName, hlocal]

theorem textEntries_translation {entries : TextEntries} (h : AreTexts entries)
    (defaultLanguage : Option String) (language : String) :
    ((findAll (translation entries defaultLanguage language) "text").filterMap fun text => do
      let id ← text.attribute? "id"
      let value ← textValue? text
      some (id, languageOf (translation entries defaultLanguage language), value)) =
        entries.filterMap fun entry =>
          (entry.2.get? language).map fun value => (entry.1, language, value) := by
  rw [findAll_text, List.filterMap_filterMap]
  apply List.filterMap_congr
  rintro ⟨id, text⟩ hentry
  dsimp only
  cases hget : text.get? language with
  | none => rfl
  | some value =>
    have hvalue := h.isTrimmed _ hentry _ (Localized.get?_eq_some_iff.1 hget)
    have htext := textValue?_textElement hvalue id
    simp [htext, Element.attribute?, languageOf, translation]

def languagesOf (entries : TextEntries) (defaultLanguage : Option String) : List String :=
  ascending (entries.flatMap (fun entry => entry.2.languages) ++ defaultLanguage.toList)

theorem findAll_translation (entries : TextEntries) (defaultLanguage : Option String) :
    findAll (itext entries defaultLanguage) "translation" =
      (languagesOf entries defaultLanguage).map (translation entries defaultLanguage) := by
  have hlocal : Element.localPart "translation" = "translation" :=
    Element.localPart_eq_self (by decide)
  unfold findAll itext
  dsimp only
  rw [List.filter_eq_self.2]
  · rfl
  · rw [List.forall_mem_map]
    intro language hlanguage
    simp [translation, Element.localName, hlocal]

theorem textEntries_itext {entries : TextEntries} (h : AreTexts entries)
    (defaultLanguage : Option String) :
    textEntries (itext entries defaultLanguage) =
      (languagesOf entries defaultLanguage).flatMap fun language =>
        entries.filterMap fun entry =>
          (entry.2.get? language).map fun value => (entry.1, language, value) := by
  unfold textEntries
  rw [findAll_translation, List.flatMap_map]
  apply List.flatMap_congr
  intro language hlanguage
  exact textEntries_translation h defaultLanguage language

theorem markedLanguage?_itext (entries : TextEntries) (defaultLanguage : Option String) :
    markedLanguage? (itext entries defaultLanguage) = defaultLanguage := by
  have hmarked (language : String) :
      ((translation entries defaultLanguage language).attribute? "default" == some alwaysTrue) =
        decide (defaultLanguage = some language) := by
    by_cases h : defaultLanguage = some language <;>
      simp [translation, Element.attribute?, List.lookup_cons, alwaysTrue, h]
  have hfilter : (findAll (itext entries defaultLanguage) "translation").filter
      (·.attribute? "default" == some alwaysTrue) =
        ((languagesOf entries defaultLanguage).filter fun language =>
          defaultLanguage = some language).map (translation entries defaultLanguage) := by
    rw [findAll_translation, List.filter_map]
    congr 1
    apply List.filter_congr
    intro language hlanguage
    exact hmarked language
  unfold markedLanguage?
  rw [hfilter, List.getLast?_map, Option.map_map]
  have hlanguage (language : String) :
      (languageOf ∘ translation entries defaultLanguage) language = language := by
    simp [languageOf, translation, Element.attribute?]
  rw [show languageOf ∘ translation entries defaultLanguage = id from funext hlanguage,
    Option.map_id]
  cases defaultLanguage with
  | none => simp
  | some language =>
    -- The default language has a translation, even if no text is in it.
    have hmem : language ∈ (languagesOf entries (some language)).filter fun other =>
        some language = some other := by
      rw [List.mem_filter]
      refine ⟨?_, by simp⟩
      unfold languagesOf
      rw [mem_ascending]
      simp
    obtain ⟨last, hlast⟩ := Option.ne_none_iff_exists'.1 fun hnone =>
      List.ne_nil_of_mem hmem (List.getLast?_eq_none_iff.1 hnone)
    have heq := (List.mem_filter.1 (List.mem_of_getLast? hlast)).2
    rw [id_eq, hlast]
    exact (of_decide_eq_true heq).symm

section Found

variable {entries : TextEntries} {defaultLanguage : Option String}

def foundTexts (entries : TextEntries) (defaultLanguage : Option String) : OrderedMap Localized :=
  addTexts .empty (textEntries (itext entries defaultLanguage))

theorem mem_ofId_itext (h : AreTexts entries) {id : String} {pair : String × String} :
    pair ∈ ofId id (textEntries (itext entries defaultLanguage)) ↔
      ∃ text, (id, text) ∈ entries ∧ pair ∈ text.entries := by
  obtain ⟨language, value⟩ := pair
  have hmem : (language, value) ∈ ofId id (textEntries (itext entries defaultLanguage)) ↔
      (id, language, value) ∈ textEntries (itext entries defaultLanguage) := by
    unfold ofId
    rw [List.mem_map]
    -- Whatever language a text is found under, it is the text of that entry.
    constructor
    · rintro ⟨⟨id', pair⟩, hmem, rfl⟩
      obtain ⟨hmem, hid⟩ := List.mem_filter.1 hmem
      rw [← beq_iff_eq.1 hid]
      exact hmem
    · intro hmem
      exact ⟨_, List.mem_filter.2 ⟨hmem, beq_self_eq_true id⟩, rfl⟩
  rw [hmem, textEntries_itext h, List.mem_flatMap]
  constructor
  · rintro ⟨language', -, htriple⟩
    obtain ⟨⟨id', text⟩, hentry, hmap⟩ := List.mem_filterMap.1 htriple
    obtain ⟨value', hvalue', heq⟩ := Option.map_eq_some_iff.1 hmap
    cases heq
    exact ⟨text, hentry, Localized.get?_eq_some_iff.1 hvalue'⟩
  · rintro ⟨text, hentry, hpair⟩
    refine ⟨language, ?_, List.mem_filterMap.2 ⟨(id, text), hentry, ?_⟩⟩
    · unfold languagesOf
      rw [mem_ascending, List.mem_append]
      left
      exact List.mem_flatMap.2 ⟨_, hentry, List.mem_map.2 ⟨_, hpair, rfl⟩⟩
    · rw [Localized.get?_eq_some_iff.2 hpair]
      rfl

theorem get?_foundTexts (h : AreTexts entries) {id : String} {text : Localized}
    (hmem : (id, text) ∈ entries) : (foundTexts entries defaultLanguage).get? id = some text := by
  have hpairs : ∀ pair, pair ∈ ofId id (textEntries (itext entries defaultLanguage)) ↔
      pair ∈ text.entries := by
    intro pair
    rw [mem_ofId_itext h]
    constructor
    · rintro ⟨text', hentry, hpair⟩
      have heq : text' = text := h.unique _ hentry _ hmem rfl
      rw [← heq]
      exact hpair
    · intro hpair
      exact ⟨text, hmem, hpair⟩
  have hne : ofId id (textEntries (itext entries defaultLanguage)) ≠ [] := by
    obtain ⟨pair, hpair⟩ := List.exists_mem_of_ne_nil _ (h.entries_ne _ hmem)
    exact List.ne_nil_of_mem ((hpairs pair).2 hpair)
  unfold foundTexts
  rw [get?_addTexts, if_neg hne]
  have hofList :
      Localized.ofList (ofId id (textEntries (itext entries defaultLanguage))) = text := by
    apply Localized.ofList_eq
    · intro pair hpair
      exact Localized.get?_eq_some_iff.2 ((hpairs pair).1 hpair)
    · intro pair hpair
      exact (hpairs pair).2 hpair
  exact congrArg some hofList

theorem get?_foundTexts_eq_none (h : AreTexts entries) {id : String}
    (hnone : ∀ text, (id, text) ∉ entries) :
    (foundTexts entries defaultLanguage).get? id = none := by
  have hnil : ofId id (textEntries (itext entries defaultLanguage)) = [] := by
    rw [List.eq_nil_iff_forall_not_mem]
    intro pair hpair
    obtain ⟨text, hentry, -⟩ := (mem_ofId_itext h).1 hpair
    exact hnone text hentry
  unfold foundTexts
  rw [get?_addTexts, if_pos hnil]
  rfl

theorem get?_foundTexts_eq_some_iff (h : AreTexts entries) {id : String} {text : Localized} :
    (foundTexts entries defaultLanguage).get? id = some text ↔ (id, text) ∈ entries := by
  refine ⟨?_, get?_foundTexts h⟩
  intro hget
  by_cases hnone : ∀ text', (id, text') ∉ entries
  · rw [get?_foundTexts_eq_none h hnone] at hget
    cases hget
  · push Not at hnone
    obtain ⟨text', hentry⟩ := hnone
    cases (get?_foundTexts h hentry).symm.trans hget
    exact hentry

end Found

def textsOf : Node → List (String × Localized)
  | .question q =>
    [("jr:constraintMsg", q.constraintMessage), ("label", q.label), ("hint", q.hint)]
  | .container _ header _ => [("label", header.label), ("hint", header.hint)]

theorem field_cases {node : Node} {pair : String × Localized} (h : pair ∈ textsOf node) :
    pair.1 = "label" ∨ pair.1 = "hint" ∨ pair.1 = "jr:constraintMsg" := by
  cases node with
  | question q =>
    simp only [textsOf, List.mem_cons, List.not_mem_nil, or_false] at h
    rcases h with rfl | rfl | rfl <;> simp
  | container kind header children =>
    simp only [textsOf, List.mem_cons, List.not_mem_nil, or_false] at h
    rcases h with rfl | rfl <;> simp

theorem nodup_fields (node : Node) : ((textsOf node).map Prod.fst).Nodup := by
  cases node with
  | question q =>
    rw [show (textsOf (.question q)).map Prod.fst = ["jr:constraintMsg", "label", "hint"] from rfl]
    decide
  | container kind header children =>
    rw [show (textsOf (.container kind header children)).map Prod.fst = ["label", "hint"] from rfl]
    decide

theorem isTrimmed_of_mem_textsOf {node : Node} (h : node.IsFormed) :
    ∀ pair ∈ textsOf node, pair.2.IsTrimmed := by
  intro pair hpair
  cases node with
  | question q =>
    have hq : q.IsFormed := h
    simp only [textsOf, List.mem_cons, List.not_mem_nil, or_false] at hpair
    rcases hpair with rfl | rfl | rfl
    · exact hq.constraintMessage
    · exact hq.label
    · exact hq.hint
  | container kind header children =>
    simp only [textsOf, List.mem_cons, List.not_mem_nil, or_false] at hpair
    rcases hpair with rfl | rfl
    · exact h.2.label
    · exact h.2.hint

def entriesOf (root : String) (located : LocatedNode) : TextEntries :=
  (textsOf located.node).flatMap fun pair =>
    textEntry (nodeTextId (NodePath.absolute root located.path) pair.1) pair.2

theorem entriesOf_question (root : String) (path : NodePath) (q : Question) :
    entriesOf root ⟨NodePath.child path q.name, .question q⟩ =
      nodeTexts root path (.question q) := by
  rw [nodeTexts]
  simp [entriesOf, textsOf, labelId_eq, hintId_eq, constraintMessageId_eq]

theorem nodeTexts_container (root : String) (path : NodePath) (kind : ContainerKind)
    (header : Header) (children : List Node) :
    nodeTexts root path (.container kind header children) =
      nodesTexts root (NodePath.child path header.name) children ++
        entriesOf root ⟨NodePath.child path header.name, .container kind header children⟩ := by
  rw [nodeTexts]
  simp [entriesOf, textsOf, labelId_eq, hintId_eq]

mutual

theorem nodeTexts_perm (root : String) (path : NodePath) (node : Node) :
    (nodeTexts root path node).Perm ((node.located path).flatMap (entriesOf root)) := by
  cases node with
  | question q => rw [Node.located, List.flatMap_singleton, entriesOf_question]
  | container kind header children =>
    rw [nodeTexts_container, Node.located, List.flatMap_cons]
    exact List.perm_append_comm.trans
      ((nodesTexts_perm root (NodePath.child path header.name) children).append_left _)

theorem nodesTexts_perm (root : String) (path : NodePath) (nodes : List Node) :
    (nodesTexts root path nodes).Perm ((Node.locatedAll path nodes).flatMap (entriesOf root)) := by
  cases nodes with
  | nil => exact .nil
  | cons node nodes =>
    rw [nodesTexts, Node.locatedAll, List.flatMap_append]
    exact (nodeTexts_perm root path node).append (nodesTexts_perm root path nodes)

end

theorem mem_textEntry {id : String} {text : Localized} {entry : String × Localized} :
    entry ∈ textEntry id text ↔ text.entries ≠ [] ∧ entry = (id, text) := by
  unfold textEntry Localized.isEmpty
  cases text.entries <;> simp

theorem mem_entriesOf {root : String} {located : LocatedNode} {entry : String × Localized} :
    entry ∈ entriesOf root located ↔
      ∃ pair ∈ textsOf located.node, pair.2.entries ≠ [] ∧
        entry = (nodeTextId (NodePath.absolute root located.path) pair.1, pair.2) := by
  unfold entriesOf
  rw [List.mem_flatMap]
  simp only [mem_textEntry]

theorem mem_listTexts {list : ChoiceList} {entry : String × Localized} :
    entry ∈ listTexts list ↔
      ∃ choice index, (choice, index) ∈ list.choices.zipIdx ∧ choice.label.entries ≠ [] ∧
        entry = (choiceId list.name index, choice.label) := by
  unfold listTexts
  rw [List.mem_flatMap]
  simp only [mem_textEntry, Prod.exists]

section SurveyTexts

variable {survey : Survey} {table : SymbolTable}

theorem nodeTextId_eq_iff (h : IsPlaced survey table) {located located' : LocatedNode}
    (hlocated : located ∈ survey.nodes) (hlocated' : located' ∈ survey.nodes)
    {field field' : String} :
    nodeTextId (NodePath.absolute survey.rootName located.path) field =
        nodeTextId (NodePath.absolute survey.rootName located'.path) field' ↔
      located = located' ∧ field = field' := by
  constructor
  · intro heq
    obtain ⟨hpath, hfield⟩ := nodeTextId_injective (h.isPlain located hlocated)
      (h.isPlain located' hlocated') heq
    exact ⟨Survey.eq_of_path_eq h.symbols_eq hlocated hlocated' hpath, hfield⟩
  · rintro ⟨rfl, rfl⟩
    rfl

theorem mem_surveyTexts {entry : String × Localized} :
    entry ∈ surveyTexts survey ↔
      (∃ located ∈ survey.nodes, entry ∈ entriesOf survey.rootName located) ∨
        ∃ list ∈ survey.usedLists, entry ∈ listTexts list := by
  unfold surveyTexts
  rw [List.mem_append, (nodesTexts_perm _ _ _).mem_iff, List.mem_flatMap, List.mem_flatMap]
  rfl

inductive HasText (survey : Survey) : String → Localized → Prop
  | node {located : LocatedNode} {pair : String × Localized} (hlocated : located ∈ survey.nodes)
      (hpair : pair ∈ textsOf located.node) :
      HasText survey (nodeTextId (NodePath.absolute survey.rootName located.path) pair.1) pair.2
  | choice {list : ChoiceList} {choice : Choice} {index : Nat} (hlist : list ∈ survey.usedLists)
      (hchoice : (choice, index) ∈ list.choices.zipIdx) :
      HasText survey (choiceId list.name index) choice.label

theorem mem_surveyTexts_iff {id : String} {text : Localized} :
    (id, text) ∈ surveyTexts survey ↔ HasText survey id text ∧ text.entries ≠ [] := by
  rw [mem_surveyTexts]
  constructor
  · rintro (⟨located, hlocated, hentry⟩ | ⟨list, hlist, hentry⟩)
    · obtain ⟨pair, hpair, hne, heq⟩ := mem_entriesOf.1 hentry
      cases heq
      exact ⟨.node hlocated hpair, hne⟩
    · obtain ⟨choice, index, hchoice, hne, heq⟩ := mem_listTexts.1 hentry
      cases heq
      exact ⟨.choice hlist hchoice, hne⟩
  · rintro ⟨htext, hne⟩
    cases htext with
    | node hlocated hpair =>
      exact Or.inl ⟨_, hlocated, mem_entriesOf.2 ⟨_, hpair, hne, rfl⟩⟩
    | choice hlist hchoice =>
      exact Or.inr ⟨_, hlist, mem_listTexts.2 ⟨_, _, hchoice, hne, rfl⟩⟩

theorem HasText.unique (h : IsPlaced survey table) {id : String} {text text' : Localized}
    (htext : HasText survey id text) (htext' : HasText survey id text') : text = text' := by
  generalize hid : id = id' at htext'
  cases htext with
  | @node located pair hlocated hpair =>
    cases htext' with
    | @node located' pair' hlocated' hpair' =>
      obtain ⟨rfl, hfield⟩ := (nodeTextId_eq_iff h hlocated hlocated').1 hid
      rw [List.inj_on_of_nodup_map (nodup_fields located.node) hpair hpair' hfield]
    | choice hlist' hchoice' => exact absurd hid.symm (choiceId_ne_nodeTextId (field_cases hpair))
  | @choice list choice index hlist hchoice =>
    cases htext' with
    | node hlocated' hpair' => exact absurd hid (choiceId_ne_nodeTextId (field_cases hpair'))
    | @choice list' choice' index' hlist' hchoice' =>
      obtain ⟨hname, rfl⟩ := choiceId_injective hid
      cases List.inj_on_of_nodup_map (Survey.nodup_usedLists h.lists.keys) hlist hlist' hname
      rw [List.mem_zipIdx_iff_getElem?] at hchoice hchoice'
      cases hchoice.symm.trans hchoice'
      rfl

theorem areTexts_surveyTexts (h : IsPlaced survey table) : AreTexts (surveyTexts survey) where
  unique := by
    rintro ⟨id, text⟩ hentry ⟨id', text'⟩ hentry' rfl
    exact (mem_surveyTexts_iff.1 hentry).1.unique h (mem_surveyTexts_iff.1 hentry').1
  isTrimmed := by
    rintro ⟨id, text⟩ hentry
    cases (mem_surveyTexts_iff.1 hentry).1 with
    | @node located pair hlocated hpair =>
      exact isTrimmed_of_mem_textsOf (h.nodes located hlocated) pair hpair
    | choice hlist hchoice =>
      have hmem := List.fst_mem_of_mem_zipIdx hchoice
      exact ((h.isFormed_of_mem_usedLists _ hlist).choices _ hmem).label
  entries_ne := by
    rintro ⟨id, text⟩ hentry
    exact (mem_surveyTexts_iff.1 hentry).2

theorem get?_nodeText (h : IsPlaced survey table) (defaultLanguage : Option String)
    {located : LocatedNode} (hlocated : located ∈ survey.nodes) {pair : String × Localized}
    (hpair : pair ∈ textsOf located.node) :
    (foundTexts (surveyTexts survey) defaultLanguage).get?
        (nodeTextId (NodePath.absolute survey.rootName located.path) pair.1) =
      if pair.2.isEmpty then none else some pair.2 := by
  have htexts := areTexts_surveyTexts h
  split
  · next hempty =>
    -- An empty text has no entry, and no other text has its id.
    apply get?_foundTexts_eq_none htexts
    intro text hentry
    obtain ⟨htext, hne⟩ := mem_surveyTexts_iff.1 hentry
    rw [htext.unique h (.node hlocated hpair)] at hne
    exact hne (Localized.isEmpty_iff.1 hempty)
  · next hempty =>
    apply get?_foundTexts htexts
    exact mem_surveyTexts_iff.2 ⟨.node hlocated hpair, mt Localized.isEmpty_iff.2 hempty⟩

end SurveyTexts

end Questionnaire.XForm
