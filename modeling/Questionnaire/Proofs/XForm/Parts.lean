import Questionnaire.Proofs.XForm.Texts
import Questionnaire.XForm.Reading

/-!
This module contains the parts of the form that a survey is written to, as the reader finds them in
the element tree: every part of a node stands under the absolute path of the node.
-/

namespace Questionnaire.XForm

def partsOf (survey : Survey) : Form where
  head := { tag := "h:head"
            children := survey.settings.title.toList.map (textElement "h:title") ++ [model survey] }
  model := model survey
  instanceRoot := instanceRoot survey
  secondaries := survey.usedLists.map (secondaryInstance (isLocalized survey))
  binds := .ofList (survey.nodes.filterMap
    (partAt? survey.rootName (bindOf? (isLocalized survey) survey.rootName)))
  controls := .ofList (survey.nodes.filterMap
    (partAt? survey.rootName (controlOf? (isLocalized survey) survey.rootName)))
  repeats := .ofList (survey.nodes.filterMap
    (partAt? survey.rootName (repeatOf? (isLocalized survey) survey.rootName)))
  texts :=
    if isLocalized survey then foundTexts (surveyTexts survey) survey.settings.defaultLanguage
    else .empty
  defaultLanguage := survey.settings.defaultLanguage

@[simp]
theorem rootName_partsOf (survey : Survey) : (partsOf survey).rootName = survey.rootName :=
  rfl

theorem filter_localName {elements : List Element} {name : String}
    (h : ∀ element ∈ elements, element.localName = name) (other : String) :
    elements.filter (·.localName == other) = if name = other then elements else [] := by
  split
  · next heq =>
    rw [List.filter_eq_self]
    intro element helement
    rw [h element helement, heq]
    exact beq_self_eq_true other
  · next hne =>
    rw [List.filter_eq_nil_iff]
    intro element helement
    rw [h element helement, beq_iff_eq]
    exact hne

theorem find?_eq_head?_findAll (parent : Element) (name : String) :
    find? parent name = (findAll parent name).head? :=
  List.head?_filter.symm

section Model

variable (survey : Survey)

def itextsOf : List Element :=
  if isLocalized survey then [itext (surveyTexts survey) survey.settings.defaultLanguage] else []

theorem localName_itextsOf : ∀ element ∈ itextsOf survey, element.localName = "itext" := by
  intro element helement
  unfold itextsOf at helement
  split at helement
  · cases List.mem_singleton.1 helement
    exact Element.localName_eq rfl (by decide)
  · cases helement

theorem localName_secondaries :
    ∀ element ∈ survey.usedLists.map (secondaryInstance (isLocalized survey)),
      element.localName = "instance" := by
  rw [List.forall_mem_map]
  intro list hlist
  exact Element.localName_eq rfl (by decide)

theorem localName_binds :
    ∀ element ∈ nodesBinds (isLocalized survey) survey.rootName [] survey.children,
      element.localName = "bind" := by
  rw [nodesBinds_eq]
  intro element helement
  obtain ⟨located, -, hbind⟩ := List.mem_filterMap.1 helement
  exact Element.localName_eq (tag_bindOf? hbind) (by decide)

theorem localName_submission : ∀ element ∈ submission survey, element.localName = "submission" := by
  unfold submission
  rw [List.forall_mem_map]
  intro url hurl
  exact Element.localName_eq rfl (by decide)

theorem findAll_model (name : String) :
    findAll (model survey) name =
      (if "itext" = name then itextsOf survey else []) ++
        (if "instance" = name then [{ tag := "instance", children := [instanceRoot survey] }]
          else []) ++
        (if "instance" = name then
          survey.usedLists.map (secondaryInstance (isLocalized survey)) else []) ++
        (if "bind" = name then
          nodesBinds (isLocalized survey) survey.rootName [] survey.children else []) ++
        (if "submission" = name then submission survey else []) := by
  have hprimary : ∀ element ∈ [({ tag := "instance", children := [instanceRoot survey] } : Element)],
      element.localName = "instance" := by
    intro element helement
    cases List.mem_singleton.1 helement
    exact Element.localName_eq rfl (by decide)
  have hmodel : (model survey).children = itextsOf survey ++
      [{ tag := "instance", children := [instanceRoot survey] }] ++
        survey.usedLists.map (secondaryInstance (isLocalized survey)) ++
        nodesBinds (isLocalized survey) survey.rootName [] survey.children ++ submission survey :=
    rfl
  unfold findAll
  rw [hmodel, List.filter_append, List.filter_append, List.filter_append, List.filter_append,
    filter_localName (localName_itextsOf survey), filter_localName hprimary,
    filter_localName (localName_secondaries survey), filter_localName (localName_binds survey),
    filter_localName (localName_submission survey)]

theorem findAll_itext : findAll (model survey) "itext" = itextsOf survey := by
  rw [findAll_model]
  simp

theorem findAll_instance : findAll (model survey) "instance" =
    { tag := "instance", children := [instanceRoot survey] } ::
      survey.usedLists.map (secondaryInstance (isLocalized survey)) := by
  rw [findAll_model]
  simp

theorem findAll_bind : findAll (model survey) "bind" =
    nodesBinds (isLocalized survey) survey.rootName [] survey.children := by
  rw [findAll_model]
  simp

theorem findAll_submission : findAll (model survey) "submission" = submission survey := by
  rw [findAll_model]
  simp

theorem nodesets_binds :
    (nodesBinds (isLocalized survey) survey.rootName [] survey.children).filterMap
        (fun bind => (bind.attribute? "nodeset").map (·, bind)) =
      survey.nodes.filterMap
        (partAt? survey.rootName (bindOf? (isLocalized survey) survey.rootName)) := by
  rw [nodesBinds_eq, List.filterMap_filterMap]
  apply List.filterMap_congr
  intro located hlocated
  unfold partAt?
  cases hbind : bindOf? (isLocalized survey) survey.rootName located with
  | none => rfl
  | some bind =>
    rw [Option.bind_some, nodeset_bindOf? hbind]
    rfl

end Model

theorem localPart_html : Element.localPart "h:html" = "html" := by
  decide

theorem localPart_head : Element.localPart "h:head" = "head" := by
  decide

theorem localPart_body : Element.localPart "h:body" = "body" := by
  decide

theorem localPart_title : Element.localPart "h:title" = "title" := by
  decide

theorem localPart_model : Element.localPart "model" = "model" := by
  decide

theorem findAll_head (survey : Survey) (name : String) :
    findAll (partsOf survey).head name =
      (if "title" = name then survey.settings.title.toList.map (textElement "h:title") else []) ++
        if "model" = name then [model survey] else [] := by
  have htitle : ∀ element ∈ survey.settings.title.toList.map (textElement "h:title"),
      element.localName = "title" := by
    rw [List.forall_mem_map]
    intro title _
    exact localPart_title
  have hmodel : ∀ element ∈ [model survey], element.localName = "model" := by
    intro element helement
    cases List.mem_singleton.1 helement
    exact localPart_model
  unfold findAll partsOf
  dsimp only
  rw [List.filter_append, filter_localName htitle, filter_localName hmodel]

theorem ofElement_ofSurvey (survey : Survey) :
    Form.ofElement (ofSurvey survey) = .ok (partsOf survey) := by
  have hhead : require (ofSurvey survey) "head" = .ok (partsOf survey).head := by
    simp [require, find?, ofSurvey, Element.localName, localPart_head, partsOf]
  have hbody : require (ofSurvey survey) "body" =
      .ok { tag := "h:body"
            children := nodesControls (isLocalized survey) survey.rootName [] survey.children } := by
    simp [require, find?, ofSurvey, Element.localName, localPart_head, localPart_body]
  have hmodel : require (partsOf survey).head "model" = .ok (model survey) := by
    unfold require
    rw [find?_eq_head?_findAll, findAll_head]
    rfl
  have hhtml : ((ofSurvey survey).localName != "html") = false := by
    simp [ofSurvey, Element.localName, localPart_html]
  -- The primary instance is the one without an id.
  have hprimary : (findAll (model survey) "instance").find? (·.attribute? "id" == none) =
      some { tag := "instance", children := [instanceRoot survey] } := by
    rw [findAll_instance]
    rfl
  have hsecondaries : (findAll (model survey) "instance").filter (·.attribute? "id" != none) =
      survey.usedLists.map (secondaryInstance (isLocalized survey)) := by
    rw [findAll_instance, List.filter_cons_of_neg (by simp [Element.attribute?]), List.filter_eq_self,
      List.forall_mem_map]
    intro list hlist
    rfl
  have htexts : addTexts .empty ((find? (model survey) "itext").toList.flatMap textEntries) =
      (partsOf survey).texts := by
    rw [find?_eq_head?_findAll, findAll_itext]
    unfold itextsOf partsOf foundTexts
    split <;> simp [addTexts]
  have hlanguage : (find? (model survey) "itext").bind markedLanguage? =
      survey.settings.defaultLanguage := by
    rw [find?_eq_head?_findAll, findAll_itext]
    unfold itextsOf
    split
    · exact markedLanguage?_itext _ _
    · next hlocalized =>
      unfold isLocalized at hlocalized
      cases hdefault : survey.settings.defaultLanguage with
      | none => rfl
      | some language => simp [hdefault] at hlocalized
  unfold Form.ofElement
  rw [hhtml, if_neg Bool.false_ne_true, hhead, ok_bind, hbody, ok_bind, hmodel, ok_bind]
  dsimp only
  rw [hprimary, hsecondaries, findAll_bind, nodesets_binds, hlanguage,
    (collects_controls _ _).nodes, (collects_repeats _ _).nodes]
  exact congrArg (fun texts => Except.ok ({ partsOf survey with texts } : Form)) htexts

section Found

variable {survey : Survey} {table : SymbolTable}

theorem lookup_optionAttribute (name other : String) (value : Option String) :
    (optionAttribute name value).lookup other = if other = name then value else none := by
  cases value with
  | none => simp [optionAttribute]
  | some value =>
    by_cases h : other = name
    · simp [optionAttribute, h]
    · simp [optionAttribute, beq_eq_false_iff_ne.2 h, h]

theorem content?_textElement {text : String} (h : Text.IsTidy text) (tag : String) :
    (textElement tag text).content? = some text := by
  simp [Element.content?, textElement, h.trim_eq, h.ne_empty]

theorem settings_partsOf (htitle : ∀ text ∈ survey.settings.title, Text.IsTidy text) :
    (partsOf survey).settings = survey.settings := by
  have htitle' : (find? (partsOf survey).head "title").bind Element.content? =
      survey.settings.title := by
    rw [find?_eq_head?_findAll, findAll_head]
    cases heq : survey.settings.title with
    | none => rfl
    | some title => exact content?_textElement (htitle title heq) "h:title"
  have hformId : (partsOf survey).instanceRoot.attribute? "id" = survey.settings.formId := by
    simp [partsOf, instanceRoot, Element.attribute?, List.lookup_append, lookup_optionAttribute]
  have hversion : (partsOf survey).instanceRoot.attribute? "version" =
      survey.settings.version := by
    simp [partsOf, instanceRoot, Element.attribute?, List.lookup_append, lookup_optionAttribute]
  have hurl : (find? (partsOf survey).model "submission").bind (·.attribute? "action") =
      survey.settings.submissionUrl := by
    have hfind : find? (partsOf survey).model "submission" = (submission survey).head? := by
      rw [find?_eq_head?_findAll]
      exact congrArg List.head? (findAll_submission survey)
    rw [hfind]
    unfold submission
    cases survey.settings.submissionUrl <;> rfl
  unfold Form.settings
  rw [htitle', hformId, hversion, hurl]
  rfl

variable {located : LocatedNode}

theorem get?_binds (h : IsPlaced survey table) (hlocated : located ∈ survey.nodes) :
    (partsOf survey).binds.get? (NodePath.absolute survey.rootName located.path) =
      bindOf? (isLocalized survey) survey.rootName located :=
  OrderedMap.get?_ofList_filterMap (nodup_absolutes h.symbols_eq h.isPlain) hlocated

theorem get?_controls (h : IsPlaced survey table) (hlocated : located ∈ survey.nodes) :
    (partsOf survey).controls.get? (NodePath.absolute survey.rootName located.path) =
      controlOf? (isLocalized survey) survey.rootName located :=
  OrderedMap.get?_ofList_filterMap (nodup_absolutes h.symbols_eq h.isPlain) hlocated

theorem get?_repeats (h : IsPlaced survey table) (hlocated : located ∈ survey.nodes) :
    (partsOf survey).repeats.get? (NodePath.absolute survey.rootName located.path) =
      repeatOf? (isLocalized survey) survey.rootName located :=
  OrderedMap.get?_ofList_filterMap (nodup_absolutes h.symbols_eq h.isPlain) hlocated

end Found

end Questionnaire.XForm
