import Questionnaire.Proofs.XForm.Alike
import Questionnaire.Proofs.XForm.Hierarchy
import Questionnaire.Proofs.XForm.Texts

/-!
This module contains the order inside a form. Binds, translations and their texts, and what a body,
a group or a repeat holds may stand in any order: all of it is looked up by paths, ids and languages,
so that the form is read as the same survey.
-/

namespace Questionnaire.XForm

theorem flatMap_filter {α β : Type} (p : α → Bool) (made : α → List β) (items : List α) :
    (items.filter p).flatMap made = items.flatMap fun item => if p item then made item else [] := by
  induction items with
  | nil => rfl
  | cons item items ih =>
    rw [List.filter_cons, List.flatMap_cons, ← ih]
    split <;> rfl

/--
The parts of a form that hold elements in any order, and those that these parts lie in.
-/
inductive FormPart where
  | form
  | head
  | model
  | itext
  | translation
  | body

namespace FormPart

def moves : FormPart → Element → Bool
  | form, _ => false
  | head, _ => false
  | model, element => element.localName == "bind"
  | itext, element => element.localName == "translation"
  | translation, element => element.localName == "text"
  | body, element => !isControlPart element

def inner? : FormPart → Element → Option FormPart
  | form, element =>
    if element.localName == "head" then some head
    else if element.localName == "body" then some body
    else none
  | head, element => if element.localName == "model" then some model else none
  | model, element => if element.localName == "itext" then some itext else none
  | itext, element => if element.localName == "translation" then some translation else none
  | translation, _ => none
  | body, element => if isBodyContainer element then some body else none

theorem inner?_body_eq_some_iff {element : Element} {part : FormPart} :
    body.inner? element = some part ↔ isBodyContainer element = true ∧ part = body := by
  rw [inner?]
  split <;> simp [*, eq_comm]

/--
Elements of a part that are equal but for the order of those that may move, at every level.
-/
inductive Rearranges : FormPart → List Element → List Element → Prop
  | nil {part : FormPart} : Rearranges part [] []
  | cons {part : FormPart} {elements elements' : List Element} (element : Element)
      (h : Rearranges part elements elements') :
      Rearranges part (element :: elements) (element :: elements')
  | inside {part inner : FormPart} {element : Element} {children : List Element}
      {elements elements' : List Element} (hinner : part.inner? element = some inner)
      (hchildren : Rearranges inner element.children children)
      (h : Rearranges part elements elements') :
      Rearranges part (element :: elements) ({ element with children } :: elements')
  | permute {part : FormPart} {elements elements' : List Element} (hperm : elements.Perm elements')
      (hstays : elements.filter (!part.moves ·) = elements'.filter (!part.moves ·)) :
      Rearranges part elements elements'
  | trans {part : FormPart} {elements elements' elements'' : List Element}
      (h : Rearranges part elements elements') (h' : Rearranges part elements' elements'') :
      Rearranges part elements elements''

def Admits (part : FormPart) (element element' : Element) : Prop :=
  ∃ children, part.Rearranges element.children children ∧ element' = { element with children }

variable {part : FormPart} {elements elements' : List Element} {element element' : Element}

theorem rearranges_self (part : FormPart) (elements : List Element) :
    part.Rearranges elements elements := by
  induction elements with
  | nil => exact .nil
  | cons element elements ih => exact ih.cons element

theorem admits_self (part : FormPart) (element : Element) : part.Admits element element := by
  obtain ⟨tag, attributes, text, children⟩ := element
  exact ⟨children, rearranges_self part children, rfl⟩

theorem Admits.trans {element'' : Element} (h : part.Admits element element')
    (h' : part.Admits element' element'') : part.Admits element element'' := by
  obtain ⟨children, hchildren, rfl⟩ := h
  obtain ⟨children', hchildren', rfl⟩ := h'
  exact ⟨children', hchildren.trans hchildren', rfl⟩

namespace Rearranges

theorem perm_flatMap {α : Type} {made : Element → List α} (h : part.Rearranges elements elements')
    (hmade : ∀ element inner element', part.inner? element = some inner →
      inner.Admits element element' → (made element).Perm (made element')) :
    (elements.flatMap made).Perm (elements'.flatMap made) := by
  induction h with
  | nil => exact .nil
  | cons element h ih =>
    rw [List.flatMap_cons, List.flatMap_cons]
    exact (ih hmade).append_left _
  | inside hinner hchildren h ihchildren ih =>
    rw [List.flatMap_cons, List.flatMap_cons]
    exact (hmade _ _ _ hinner ⟨_, hchildren, rfl⟩).append (ih hmade)
  | permute hperm hstays => exact hperm.flatMap_right made
  | trans h h' ih ih' => exact (ih hmade).trans (ih' hmade)

theorem filter_eq_of_stays {p : Element → Bool}
    (h : elements.filter (!part.moves ·) = elements'.filter (!part.moves ·))
    (hstays : ∀ element, p element = true → part.moves element = false) :
    elements.filter p = elements'.filter p := by
  have hfilter (elements : List Element) :
      elements.filter p = (elements.filter (!part.moves ·)).filter p := by
    rw [List.filter_filter]
    apply List.filter_congr
    intro element _
    cases hp : p element with
    | false => rfl
    | true => rw [hstays element hp, Bool.not_false, Bool.true_and]
  rw [hfilter, hfilter elements', h]

theorem filter_eq {p : Element → Bool} (h : part.Rearranges elements elements')
    (hstays : ∀ element, p element = true →
      part.moves element = false ∧ part.inner? element = none)
    (hchildren : ∀ element children, p { element with children } = p element) :
    elements.filter p = elements'.filter p := by
  induction h with
  | nil => rfl
  | cons element h ih => rw [List.filter_cons, List.filter_cons, ih hstays]
  | @inside part inner element children elements elements' hinner h' h ihchildren ih =>
    have hout : ¬p element = true := by
      intro hp
      rw [(hstays element hp).2] at hinner
      cases hinner
    rw [List.filter_cons, List.filter_cons, hchildren, if_neg hout, if_neg hout, ih hstays]
  | permute hperm hothers => exact filter_eq_of_stays hothers fun element hp => (hstays element hp).1
  | trans h h' ih ih' => exact (ih hstays).trans (ih' hstays)

theorem rel_find? {p : Element → Bool} {inner : FormPart} (h : part.Rearranges elements elements')
    (hstays : ∀ element, p element = true →
      part.moves element = false ∧ part.inner? element = some inner)
    (hchildren : ∀ element children, p { element with children } = p element) :
    Option.Rel inner.Admits (elements.find? p) (elements'.find? p) := by
  have hself (element? : Option Element) : Option.Rel inner.Admits element? element? := by
    cases element? with
    | none => exact .none
    | some element => exact .some (admits_self inner element)
  induction h with
  | nil => exact .none
  | cons element h ih =>
    rw [List.find?_cons, List.find?_cons]
    split
    · exact .some (admits_self inner element)
    · exact ih hstays
  | @inside part own element children elements elements' hinner h' h ihchildren ih =>
    rw [List.find?_cons, List.find?_cons, hchildren]
    split
    · next hp =>
      rw [(hstays element hp).2] at hinner
      cases hinner
      exact .some ⟨children, h', rfl⟩
    · exact ih hstays
  | permute hperm hothers =>
    rw [← List.head?_filter, ← List.head?_filter,
      filter_eq_of_stays hothers fun element hp => (hstays element hp).1, List.head?_filter]
    exact hself _
  | @trans part elements elements' elements'' h h' ih ih' =>
    have hleft := ih hstays
    have hright := ih' hstays
    revert hleft hright
    generalize elements.find? p = found
    generalize elements'.find? p = found'
    generalize elements''.find? p = found''
    rintro (hleft | _) (hright | _)
    · exact .some (hleft.trans hright)
    · exact .none

end Rearranges

namespace Admits

variable {name : String}

theorem tag_eq (h : part.Admits element element') : element.tag = element'.tag := by
  obtain ⟨children, -, rfl⟩ := h
  rfl

theorem rel_find? {inner : FormPart} (h : part.Admits element element')
    (hstays : ∀ child : Element, child.localName = name →
      part.moves child = false ∧ part.inner? child = some inner) :
    Option.Rel inner.Admits (find? element name) (find? element' name) := by
  obtain ⟨children, hchildren, rfl⟩ := h
  exact hchildren.rel_find? (fun child hchild => hstays child (by simpa using hchild))
    fun _ _ => rfl

theorem findAll_eq (h : part.Admits element element')
    (hstays : ∀ child : Element, child.localName = name →
      part.moves child = false ∧ part.inner? child = none) :
    findAll element name = findAll element' name := by
  obtain ⟨children, hchildren, rfl⟩ := h
  exact hchildren.filter_eq (fun child hchild => hstays child (by simpa using hchild))
    fun _ _ => rfl

theorem find?_eq (h : part.Admits element element')
    (hstays : ∀ child : Element, child.localName = name →
      part.moves child = false ∧ part.inner? child = none) :
    find? element name = find? element' name := by
  have hall := congrArg List.head? (h.findAll_eq hstays)
  unfold findAll at hall
  rwa [List.head?_filter, List.head?_filter] at hall

theorem perm_flatMap_findAll {α : Type} {made : Element → List α} (h : part.Admits element element')
    (hmade : ∀ child inner child', child.localName = name → part.inner? child = some inner →
      inner.Admits child child' → (made child).Perm (made child')) :
    ((findAll element name).flatMap made).Perm ((findAll element' name).flatMap made) := by
  unfold findAll
  rw [flatMap_filter, flatMap_filter]
  obtain ⟨children, hchildren, rfl⟩ := h
  apply hchildren.perm_flatMap
  rintro child inner child' hinner hadmits
  have hname : child'.localName = child.localName := by
    obtain ⟨children, -, rfl⟩ := hadmits
    rfl
  rw [hname]
  split
  · next hchild => exact hmade child inner child' (by simpa using hchild) hinner hadmits
  · exact .nil

theorem perm_findAll (h : part.Admits element element')
    (hinner : ∀ child : Element, child.localName = name → part.inner? child = none) :
    (findAll element name).Perm (findAll element' name) := by
  have hperm : ((findAll element name).flatMap ([·])).Perm
      ((findAll element' name).flatMap ([·])) := by
    apply h.perm_flatMap_findAll
    intro child inner child' hname hsome
    rw [hinner child hname] at hsome
    cases hsome
  rwa [List.flatMap_singleton', List.flatMap_singleton'] at hperm

end Admits

end FormPart

section Body

theorem ownPart_eq_of_admits {element element' : Element} (hcontainer : isBodyContainer element = true)
    (h : FormPart.body.Admits element element') : ownPart element = ownPart element' := by
  obtain ⟨children, hchildren, rfl⟩ := h
  have hown : element.children.filter isControlPart = children.filter isControlPart := by
    refine hchildren.filter_eq ?_ fun _ _ => rfl
    intro child hchild
    constructor
    · rw [FormPart.moves, hchild]
      rfl
    · rw [FormPart.inner?, isBodyContainer_of_isControlPart hchild]
      rfl
  have hcontainer' : isBodyContainer { element with children } = true := hcontainer
  rw [ownPart_of_container hcontainer, ownPart_of_container hcontainer', hown]

theorem perm_bodyPartsAll {part : FormPart} {elements elements' : List Element}
    (h : part.Rearranges elements elements') (hpart : part = .body) :
    ((bodyPartsAll elements).map ownPart).Perm ((bodyPartsAll elements').map ownPart) := by
  -- The part is kept apart in an equation, as it is an index of the relation.
  induction h with
  | nil => exact .nil
  | cons element h ih =>
    rw [bodyPartsAll, bodyPartsAll, List.map_append, List.map_append]
    exact (ih hpart).append_left _
  | @inside part inner element children elements elements' hinner hchildren h ihchildren ih =>
    subst hpart
    obtain ⟨hcontainer, rfl⟩ := FormPart.inner?_body_eq_some_iff.1 hinner
    have hinside : isBodyContainer { element with children } = true := hcontainer
    rw [bodyPartsAll, bodyPartsAll, bodyParts_eq, bodyParts_eq, if_pos hcontainer, if_pos hinside,
      List.map_append, List.map_append, List.map_cons, List.map_cons,
      ownPart_eq_of_admits hcontainer ⟨children, hchildren, rfl⟩]
    exact ((ihchildren rfl).cons _).append (ih rfl)
  | permute hperm hstays =>
    rw [bodyPartsAll_eq, bodyPartsAll_eq]
    exact (hperm.flatMap_right bodyParts).map ownPart
  | trans h h' ih ih' => exact (ih hpart).trans (ih' hpart)

theorem map_get?_bodyEntriesAll {path? : Element → Option String} {body body' : Element}
    (hpath : ∀ element, path? (ownPart element) = path? element)
    (h : FormPart.body.Admits body body')
    (hnodup : ((bodyPartsAll body.children).filterMap path?).Nodup) (absolute : String) :
    ((OrderedMap.ofList (bodyEntriesAll path? body.children)).get? absolute).map ownPart =
      ((OrderedMap.ofList (bodyEntriesAll path? body'.children)).get? absolute).map ownPart := by
  obtain ⟨children, hchildren, rfl⟩ := h
  rw [bodyEntriesAll_eq_filterMap, bodyEntriesAll_eq_filterMap,
    OrderedMap.map_get?_ofList_items hpath, OrderedMap.map_get?_ofList_items hpath]
  apply OrderedMap.get?_ofList_items_of_perm _ (perm_bodyPartsAll hchildren rfl)
  rw [List.filterMap_map]
  unfold Function.comp
  simpa only [hpath] using hnodup

theorem controlPath?_ownPart (element : Element) :
    controlPath? (ownPart element) = controlPath? element := by
  unfold controlPath? isControlPart
  rw [localName_ownPart, attribute?_ownPart]

theorem repeatPath?_ownPart (element : Element) :
    repeatPath? (ownPart element) = repeatPath? element := by
  unfold repeatPath?
  rw [localName_ownPart, attribute?_ownPart]

end Body

section Texts

variable {itext itext' : Element}

def translationEntries (translation : Element) : List (String × String × String) :=
  (findAll translation "text").filterMap fun text => do
    let id ← text.attribute? "id"
    let value ← textValue? text
    some (id, languageOf translation, value)

theorem id_language_of_textEntry {translation text : Element} {entry : String × String × String}
    (h : (do
      let id ← text.attribute? "id"
      let value ← textValue? text
      some (id, languageOf translation, value)) = some entry) :
    text.attribute? "id" = some entry.1 ∧ entry.2.1 = languageOf translation := by
  obtain ⟨id, hid, h⟩ := Option.bind_eq_some_iff.1 h
  obtain ⟨value, -, h⟩ := Option.bind_eq_some_iff.1 h
  cases h
  exact ⟨hid, rfl⟩

theorem perm_translationEntries {translation translation' : Element}
    (h : FormPart.translation.Admits translation translation') :
    (translationEntries translation).Perm (translationEntries translation') := by
  have htexts : (findAll translation "text").Perm (findAll translation' "text") :=
    h.perm_findAll fun _ _ => rfl
  have hlanguage : languageOf translation' = languageOf translation := by
    obtain ⟨children, -, rfl⟩ := h
    rfl
  unfold translationEntries
  rw [hlanguage]
  exact htexts.filterMap _

theorem perm_flatMap_translations {α : Type} {made : Element → List α}
    (h : FormPart.itext.Admits itext itext')
    (hmade : ∀ translation translation', FormPart.translation.Admits translation translation' →
      (made translation).Perm (made translation')) :
    ((findAll itext "translation").flatMap made).Perm
      ((findAll itext' "translation").flatMap made) := by
  apply h.perm_flatMap_findAll
  intro translation inner translation' hname hinner hadmits
  rw [FormPart.inner?, hname] at hinner
  cases hinner
  exact hmade translation translation' hadmits

@[mk_iff]
structure HasDistinctTexts (itext : Element) : Prop where
  languages : ((findAll itext "translation").map languageOf).Nodup
  ids : ∀ translation ∈ findAll itext "translation",
    ((findAll translation "text").filterMap (·.attribute? "id")).Nodup
  marked : ((findAll itext "translation").filter
    (·.attribute? "default" == some alwaysTrue)).length ≤ 1

instance (itext : Element) : Decidable (HasDistinctTexts itext) :=
  decidable_of_iff _ (hasDistinctTexts_iff itext).symm

theorem pairwise_textEntries (h : HasDistinctTexts itext) :
    (textEntries itext).Pairwise fun entry entry' => entry.1 = entry'.1 → entry.2.1 ≠ entry'.2.1 := by
  have hentries : textEntries itext = (findAll itext "translation").flatMap translationEntries := rfl
  rw [hentries, List.pairwise_flatMap]
  constructor
  · intro translation htranslation
    have hids := h.ids translation htranslation
    unfold List.Nodup at hids
    unfold translationEntries
    rw [List.pairwise_filterMap] at hids ⊢
    apply hids.imp
    intro text text' hne entry hentry entry' hentry' hid
    exact absurd hid (hne _ (id_language_of_textEntry hentry).1 _ (id_language_of_textEntry hentry').1)
  · apply (List.pairwise_map.1 h.languages).imp
    intro translation translation' hne entry hentry entry' hentry' _
    obtain ⟨text, -, hentry⟩ := List.mem_filterMap.1 hentry
    obtain ⟨text', -, hentry'⟩ := List.mem_filterMap.1 hentry'
    rw [(id_language_of_textEntry hentry).2, (id_language_of_textEntry hentry').2]
    exact hne

theorem nodup_languages_ofId {triples : List (String × String × String)}
    (h : triples.Pairwise fun entry entry' => entry.1 = entry'.1 → entry.2.1 ≠ entry'.2.1)
    (id : String) : ((ofId id triples).map Prod.fst).Nodup := by
  unfold ofId
  rw [List.map_map]
  apply List.pairwise_map.2
  rw [List.pairwise_filter]
  apply h.imp
  intro entry entry' hne hid hid'
  rw [beq_iff_eq] at hid hid'
  exact hne (hid.trans hid'.symm)

theorem get?_addTexts_of_perm {triples triples' : List (String × String × String)}
    (hdistinct : triples.Pairwise fun entry entry' => entry.1 = entry'.1 → entry.2.1 ≠ entry'.2.1)
    (hne : ∀ entry ∈ triples, entry.2.2 ≠ "") (h : triples.Perm triples') (id : String) :
    (addTexts .empty triples).get? id = (addTexts .empty triples').get? id := by
  have hofId : (ofId id triples).Perm (ofId id triples') := (h.filter _).map _
  have hall (t : Localized) : t.insertAll (ofId id triples) = t.insertAll (ofId id triples') := by
    apply Localized.insertAll_eq_of_perm (nodup_languages_ofId hdistinct id) _ hofId
    intro entry hentry
    obtain ⟨triple, htriple, rfl⟩ := List.mem_map.1 hentry
    exact hne triple (List.mem_of_mem_filter htriple)
  have hnil : ofId id triples = [] ↔ ofId id triples' = [] := by
    rw [← List.length_eq_zero_iff, hofId.length_eq, List.length_eq_zero_iff]
  rw [get?_addTexts, get?_addTexts, hall]
  simp only [hnil]

theorem get?_addTexts_textEntries (hdistinct : HasDistinctTexts itext)
    (h : FormPart.itext.Admits itext itext') (id : String) :
    (addTexts .empty (textEntries itext)).get? id =
      (addTexts .empty (textEntries itext')).get? id := by
  apply get?_addTexts_of_perm (pairwise_textEntries hdistinct)
  · intro entry hentry
    exact (isTidy_of_mem_textEntries hentry).ne_empty
  · exact perm_flatMap_translations h fun _ _ => perm_translationEntries

theorem markedLanguage?_eq (hdistinct : HasDistinctTexts itext)
    (h : FormPart.itext.Admits itext itext') : markedLanguage? itext = markedLanguage? itext' := by
  have hmarked (itext : Element) : ((findAll itext "translation").filter
      (·.attribute? "default" == some alwaysTrue)).map languageOf =
        (findAll itext "translation").flatMap fun translation =>
          if translation.attribute? "default" == some alwaysTrue then [languageOf translation]
          else [] := by
    rw [List.map_eq_flatMap, flatMap_filter]
  have hperm : (((findAll itext "translation").filter
      (·.attribute? "default" == some alwaysTrue)).map languageOf).Perm
        (((findAll itext' "translation").filter
          (·.attribute? "default" == some alwaysTrue)).map languageOf) := by
    rw [hmarked, hmarked]
    apply perm_flatMap_translations h
    rintro translation _ ⟨children, -, rfl⟩
    exact .rfl
  unfold markedLanguage?
  rw [← List.getLast?_map, ← List.getLast?_map, eq_of_perm_of_length_le_one hperm]
  rw [List.length_map]
  exact hdistinct.marked

end Texts

@[mk_iff]
structure HasDistinctKeys (tree : Element) : Prop where
  binds : ∀ head ∈ find? tree "head", ∀ model ∈ find? head "model",
    ((findAll model "bind").filterMap (·.attribute? "nodeset")).Nodup
  texts : ∀ head ∈ find? tree "head", ∀ model ∈ find? head "model",
    ∀ itext ∈ find? model "itext", HasDistinctTexts itext
  controls : ∀ body ∈ find? tree "body",
    ((bodyPartsAll body.children).filterMap controlPath?).Nodup
  repeats : ∀ body ∈ find? tree "body",
    ((bodyPartsAll body.children).filterMap repeatPath?).Nodup

instance (tree : Element) : Decidable (HasDistinctKeys tree) :=
  decidable_of_iff _ (hasDistinctKeys_iff tree).symm

section Reading

theorem require_bind_congr {α : Type} {r : Element → Element → Prop} {parent parent' : Element}
    {name : String} {next next' : Element → Except Failure α} (htag : parent.tag = parent'.tag)
    (h : Option.Rel r (find? parent name) (find? parent' name))
    (hnext : ∀ child ∈ find? parent name, ∀ child', r child child' → next child = next' child') :
    require parent name >>= next = require parent' name >>= next' := by
  unfold require
  revert h hnext
  generalize find? parent name = child?
  generalize find? parent' name = child?'
  rintro (hrel | _) hnext
  · exact hnext _ rfl _ hrel
  · rw [htag]
    rfl

variable {tree tree' : Element}

theorem texts_eq_of_admits {model model' : Element}
    (hdistinct : ∀ itext ∈ find? model "itext", HasDistinctTexts itext)
    (h : FormPart.model.Admits model model') :
    (∀ id, (addTexts .empty ((find? model "itext").toList.flatMap textEntries)).get? id =
      (addTexts .empty ((find? model' "itext").toList.flatMap textEntries)).get? id) ∧
    (find? model "itext").bind markedLanguage? = (find? model' "itext").bind markedLanguage? := by
  have hitext : Option.Rel FormPart.itext.Admits (find? model "itext") (find? model' "itext") :=
    h.rel_find? fun child hname => by simp [FormPart.moves, FormPart.inner?, hname]
  revert hitext hdistinct
  generalize find? model "itext" = itext?
  generalize find? model' "itext" = itext?'
  rintro hdistinct (hadmits | _)
  · have htexts := hdistinct _ rfl
    simp only [Option.toList_some, List.flatMap_singleton, Option.bind_some]
    exact ⟨get?_addTexts_textEntries htexts hadmits, markedLanguage?_eq htexts hadmits⟩
  · exact ⟨fun _ => rfl, rfl⟩

theorem get?_binds_eq_of_admits {model model' : Element}
    (hdistinct : ((findAll model "bind").filterMap (·.attribute? "nodeset")).Nodup)
    (h : FormPart.model.Admits model model') (absolute : String) :
    (OrderedMap.ofList ((findAll model "bind").filterMap fun bind =>
      (bind.attribute? "nodeset").map (·, bind))).get? absolute =
    (OrderedMap.ofList ((findAll model' "bind").filterMap fun bind =>
      (bind.attribute? "nodeset").map (·, bind))).get? absolute := by
  apply OrderedMap.get?_ofList_items_of_perm hdistinct
  exact h.perm_findAll fun child hname => by simp [FormPart.inner?, hname]

theorem read_eq_of_rearranged (h : FormPart.form.Admits tree tree') (hdistinct : HasDistinctKeys tree)
    (options : Options) : read tree options = read tree' options := by
  suffices hread : Form.ofElement tree >>= (·.read options) =
      Form.ofElement tree' >>= (·.read options) by
    unfold read
    rw [hread]
  have hheads : Option.Rel FormPart.head.Admits (find? tree "head") (find? tree' "head") :=
    h.rel_find? fun child hname => by simp [FormPart.moves, FormPart.inner?, hname]
  have hbodies : Option.Rel FormPart.body.Admits (find? tree "body") (find? tree' "body") :=
    h.rel_find? fun child hname => by simp [FormPart.moves, FormPart.inner?, hname]
  unfold Form.ofElement Element.localName
  rw [← h.tag_eq]
  split
  · rfl
  -- Both forms are taken apart side by side, down to the look-ups that the reading of nodes needs.
  simp only [bind_assoc]
  refine require_bind_congr h.tag_eq hheads fun head hhead head' hhead' => ?_
  refine require_bind_congr h.tag_eq hbodies fun body hbody body' hbody' => ?_
  have htitle : find? head "title" = find? head' "title" :=
    hhead'.find?_eq fun child hname => by simp [FormPart.moves, FormPart.inner?, hname]
  have hmodels : Option.Rel FormPart.model.Admits (find? head "model") (find? head' "model") :=
    hhead'.rel_find? fun child hname => by simp [FormPart.moves, FormPart.inner?, hname]
  refine require_bind_congr hhead'.tag_eq hmodels fun model hmodel model' hmodel' => ?_
  have hinstances : findAll model "instance" = findAll model' "instance" :=
    hmodel'.findAll_eq fun child hname => by simp [FormPart.moves, FormPart.inner?, hname]
  have hsubmission : find? model "submission" = find? model' "submission" :=
    hmodel'.find?_eq fun child hname => by simp [FormPart.moves, FormPart.inner?, hname]
  obtain ⟨htexts, hmarked⟩ := texts_eq_of_admits (hdistinct.texts head hhead model hmodel) hmodel'
  rw [← hinstances]
  split
  · rfl
  · next root hroot =>
    rw [ok_bind, ok_bind]
    apply Form.IsAlike.read_eq
    exact
      { settings_eq := by
          unfold Form.settings
          dsimp only
          rw [htitle, hsubmission, hmarked]
        instanceRoot_eq := rfl
        secondaries_eq := rfl
        binds_eq := get?_binds_eq_of_admits (hdistinct.binds head hhead model hmodel) hmodel'
        controls_eq :=
          map_get?_bodyEntriesAll controlPath?_ownPart hbody' (hdistinct.controls body hbody)
        repeats_eq :=
          map_get?_bodyEntriesAll repeatPath?_ownPart hbody' (hdistinct.repeats body hbody)
        texts_eq := htexts }

end Reading

def travels (binds translations controls : List Element) : Element where
  tag := "h:html"
  children := [
    { tag := "h:head"
      children := [
        { tag := "model"
          children :=
            { tag := "instance"
              children := [
                { tag := "data"
                  children := [
                    { tag := "person" },
                    { tag := "trip", attributes := [("jr:template", "")]
                      children := [{ tag := "place" }, { tag := "days" }] }] }] } ::
            binds ++ [{ tag := "itext", children := translations }] }] },
    { tag := "h:body", children := controls }]

def travelBinds : List Element := [
  { tag := "bind", attributes := [("nodeset", "/data/person"), ("required", "true()")] },
  { tag := "bind", attributes := [("nodeset", "/data/trip/days"), ("type", "int")] }]

def travelText (id value : String) : Element where
  tag := "text"
  attributes := [("id", id)]
  children := [{ tag := "value", text := some value }]

def travelTranslation (language : String) (texts : List Element) : Element where
  tag := "translation"
  attributes := [("lang", language)]
  children := texts

def travelInput (path id : String) : Element where
  tag := "input"
  attributes := [("ref", path)]
  children := [{ tag := "label", attributes := [("ref", itextReference id)] }]

def travelRepeat (controls : List Element) : Element where
  tag := "repeat"
  attributes := [("nodeset", "/data/trip")]
  children := controls

def travelForm : Element :=
  travels travelBinds
    [travelTranslation "en" [travelText "p" "Who?", travelText "d" "Days"],
      travelTranslation "de" [travelText "p" "Wer?", travelText "d" "Tage"]]
    [travelInput "/data/person" "p",
      travelRepeat [travelInput "/data/trip/place" "p", travelInput "/data/trip/days" "d"]]

def travelForm' : Element :=
  travels travelBinds.reverse
    [travelTranslation "de" [travelText "d" "Tage", travelText "p" "Wer?"],
      travelTranslation "en" [travelText "p" "Who?", travelText "d" "Days"]]
    [travelRepeat [travelInput "/data/trip/days" "d", travelInput "/data/trip/place" "p"],
      travelInput "/data/person" "p"]

theorem admits_travelForm : FormPart.form.Admits travelForm travelForm' := by
  refine ⟨travelForm'.children, .inside (show _ = some .head from rfl) ?_
    (.inside (show _ = some .body from rfl) ?_ .nil), rfl⟩
  · refine .inside (show _ = some .model from rfl) (.cons _ ?_) .nil
    refine .trans (.permute (.swap _ _ _) rfl) (.cons _ (.cons _ (.inside
      (show _ = some .itext from rfl) ?_ .nil)))
    exact .trans (.permute (.swap _ _ _) rfl) (.inside (show _ = some .translation from rfl)
      (.permute (.swap _ _ _) rfl) (.cons _ .nil))
  · exact .trans (.permute (.swap _ _ _) rfl) (.inside (show _ = some .body from rfl)
      (.permute (.swap _ _ _) rfl) (.cons _ .nil))

theorem read_travelForm_eq :
    FormPart.form.Admits travelForm travelForm' ∧ HasDistinctKeys travelForm ∧
      (read travelForm {}).toOption.isSome ∧ read travelForm {} = read travelForm' {} := by
  have hdistinct : HasDistinctKeys travelForm := by decide +kernel
  refine ⟨admits_travelForm, hdistinct, by decide +kernel, ?_⟩
  exact read_eq_of_rearranged admits_travelForm hdistinct {}

end Questionnaire.XForm
