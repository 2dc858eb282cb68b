import Questionnaire.Proofs.Sheet.RoundTrip
import Questionnaire.Proofs.XForm.Lists
import Questionnaire.Proofs.XForm.Nodes

/-!
This module contains the round trip of surveys through forms: the form of a survey that was read
from a workbook is read as a survey that asks the same.
-/

namespace Questionnaire.XForm

variable {survey restored : Survey} {table : SymbolTable}

section Erasure

mutual

theorem instanceElement_erased (node : Node) :
    instanceElement node.erased = instanceElement node := by
  cases node with
  | question q =>
    rw [Node.erased, instanceElement, instanceElement]
    rfl
  | container kind header children =>
    rw [Node.erased, instanceElement, instanceElement, instanceElements_erasedAll children]
    rfl

theorem instanceElements_erasedAll (nodes : List Node) :
    instanceElements (Node.erasedAll nodes) = instanceElements nodes := by
  cases nodes with
  | nil => rfl
  | cons node nodes =>
    rw [Node.erasedAll, instanceElements, instanceElements, instanceElement_erased node,
      instanceElements_erasedAll nodes]

end

mutual

theorem nodeBinds_erased (localized : Bool) (root : String) (path : NodePath) (node : Node) :
    nodeBinds localized root path node.erased = nodeBinds localized root path node := by
  cases node with
  | question q =>
    rw [Node.erased, nodeBinds, nodeBinds]
    unfold questionBind Question.erased
    dsimp only
    rw [Expression.map_canonical_map_erased, Expression.map_canonical_map_erased,
      Expression.map_canonical_map_erased]
  | container kind header children =>
    have hbind (absolute : String) :
        containerBind absolute header.erased = containerBind absolute header := by
      unfold containerBind Header.erased
      cases header.relevant <;> rfl
    rw [Node.erased, nodeBinds, nodeBinds, hbind, show header.erased.name = header.name from rfl,
      nodesBinds_erasedAll localized root _ children]

theorem nodesBinds_erasedAll (localized : Bool) (root : String) (path : NodePath)
    (nodes : List Node) :
    nodesBinds localized root path (Node.erasedAll nodes) = nodesBinds localized root path nodes := by
  cases nodes with
  | nil => rfl
  | cons node nodes =>
    rw [Node.erasedAll, nodesBinds, nodesBinds, nodeBinds_erased localized root path node,
      nodesBinds_erasedAll localized root path nodes]

end

mutual

theorem nodeControls_erased (localized : Bool) (root : String) (path : NodePath) (node : Node) :
    nodeControls localized root path node.erased = nodeControls localized root path node := by
  cases node with
  | question q =>
    rw [Node.erased, nodeControls, nodeControls]
    rfl
  | container kind header children =>
    rw [Node.erased, nodeControls, nodeControls, show header.erased.name = header.name from rfl,
      nodesControls_erasedAll localized root _ children]
    rfl

theorem nodesControls_erasedAll (localized : Bool) (root : String) (path : NodePath)
    (nodes : List Node) :
    nodesControls localized root path (Node.erasedAll nodes) =
      nodesControls localized root path nodes := by
  cases nodes with
  | nil => rfl
  | cons node nodes =>
    rw [Node.erasedAll, nodesControls, nodesControls, nodeControls_erased localized root path node,
      nodesControls_erasedAll localized root path nodes]

end

mutual

theorem nodeTexts_erased (root : String) (path : NodePath) (node : Node) :
    nodeTexts root path node.erased = nodeTexts root path node := by
  cases node with
  | question q =>
    rw [Node.erased, nodeTexts, nodeTexts]
    rfl
  | container kind header children =>
    rw [Node.erased, nodeTexts, nodeTexts, show header.erased.name = header.name from rfl,
      nodesTexts_erasedAll root _ children]
    rfl

theorem nodesTexts_erasedAll (root : String) (path : NodePath) (nodes : List Node) :
    nodesTexts root path (Node.erasedAll nodes) = nodesTexts root path nodes := by
  cases nodes with
  | nil => rfl
  | cons node nodes =>
    rw [Node.erasedAll, nodesTexts, nodesTexts, nodeTexts_erased root path node,
      nodesTexts_erasedAll root path nodes]

end

theorem texts_erased (node : Node) : node.erased.texts = node.texts := by
  cases node <;> rfl

theorem hasHiddenText_erased (node : Node) : hasHiddenText node.erased = hasHiddenText node := by
  cases node <;> rfl

section Congruence

variable {nodes nodes' : List Node}

theorem instanceElements_congr (h : Node.erasedAll nodes = Node.erasedAll nodes') :
    instanceElements nodes = instanceElements nodes' := by
  rw [← instanceElements_erasedAll, h, instanceElements_erasedAll]

theorem nodesBinds_congr (h : Node.erasedAll nodes = Node.erasedAll nodes') (localized : Bool)
    (root : String) (path : NodePath) :
    nodesBinds localized root path nodes = nodesBinds localized root path nodes' := by
  rw [← nodesBinds_erasedAll, h, nodesBinds_erasedAll]

theorem nodesControls_congr (h : Node.erasedAll nodes = Node.erasedAll nodes') (localized : Bool)
    (root : String) (path : NodePath) :
    nodesControls localized root path nodes = nodesControls localized root path nodes' := by
  rw [← nodesControls_erasedAll, h, nodesControls_erasedAll]

theorem nodesTexts_congr (h : Node.erasedAll nodes = Node.erasedAll nodes') (root : String)
    (path : NodePath) : nodesTexts root path nodes = nodesTexts root path nodes' := by
  rw [← nodesTexts_erasedAll, h, nodesTexts_erasedAll]

theorem languages_congr (h : Node.erasedAll restored.children = Node.erasedAll survey.children)
    (hlists : ∀ language,
      language ∈ restored.usedLists.flatMap (fun list =>
          list.choices.flatMap fun choice => choice.label.languages) ↔
        language ∈ survey.usedLists.flatMap fun list =>
          list.choices.flatMap fun choice => choice.label.languages) :
    restored.languages = survey.languages := by
  have htexts : restored.nodes.map (fun located => located.node.texts.flatMap Localized.languages) =
      survey.nodes.map (fun located => located.node.texts.flatMap Localized.languages) := by
    apply Node.map_locatedAll_eq h
    intro path node
    rw [texts_erased]
  unfold Survey.languages
  rw [List.flatMap_def, htexts, ← List.flatMap_def]
  apply ascending_congr
  intro language
  rw [List.mem_append, List.mem_append, hlists]

theorem isLocalized_congr (h : Node.erasedAll restored.children = Node.erasedAll survey.children)
    (hsettings : restored.settings = survey.settings)
    (hlanguages : restored.languages = survey.languages) :
    isLocalized restored = isLocalized survey := by
  have hhidden : restored.nodes.map (fun located => hasHiddenText located.node) =
      survey.nodes.map (fun located => hasHiddenText located.node) := by
    apply Node.map_locatedAll_eq h
    intro path node
    exact hasHiddenText_erased node
  have hany : restored.nodes.any (hasHiddenText ·.node) = survey.nodes.any (hasHiddenText ·.node) := by
    have hmapped := congrArg (List.any · id) hhidden
    simpa [List.any_map] using hmapped
  unfold isLocalized Survey.isMultilingual
  rw [hlanguages, hsettings, hany]

end Congruence

theorem ofSurvey_eq (h : restored.Restores survey) : ofSurvey restored = ofSurvey survey := by
  have hlocalized : isLocalized restored = isLocalized survey := by
    apply isLocalized_congr h.children_eq h.settings_eq
    apply languages_congr h.children_eq
    rw [h.usedLists_eq]
    exact fun language => Iff.rfl
  unfold ofSurvey model instanceRoot surveyTexts submission
  dsimp only
  rw [hlocalized, h.rootName_eq, h.settings_eq, h.usedLists_eq, instanceElements_congr h.children_eq,
    nodesBinds_congr h.children_eq, nodesControls_congr h.children_eq,
    nodesTexts_congr h.children_eq]

end Erasure

theorem exists_read_ofSurvey (h : IsTied survey table) (hshows : ShowsAll survey)
    (options : Options) :
    ∃ reading, read (ofSurvey survey) options = .ok reading ∧ reading.survey.Restores survey := by
  obtain ⟨groups, hgroups, hentries⟩ :=
    readSecondaries_written h.toIsPlaced hshows.labels h.extras
  obtain ⟨drafts, hdrafts, hasks⟩ := readNodes_written h hshows [] survey.children
    ⟨.empty survey.rootName, groups⟩ [] (fun inner hinner => hinner)
    (Survey.declaresAll_of_symbols h.symbols_eq) (by simp)
  have hbare : survey.header.relevant = none := by rw [h.header_eq]
  let draft : SurveyDraft :=
    { place := {}, header := { name := survey.rootName }, children := drafts }
  have hsettings := settings_partsOf h.title
  obtain ⟨reading, hreading, hrestores⟩ : ∃ reading,
      draft.compile (Expression.compileTree table) groups.lists (partsOf survey).settings
        groups.warnings options = .ok reading ∧ reading.survey.Restores survey :=
    SurveyDraft.compile_restores (isReadBy_treeSpelling table) h.symbols_eq h.lists.keys
      hshows.list_mem_namedLists h.offers h.header_eq.symm rfl hbare hasks hentries hsettings
  refine ⟨reading, ?_, hrestores⟩
  have hform : (partsOf survey).read options = .ok reading := by
    have hnodes : (partsOf survey).readNodes [] [] ⟨.empty (partsOf survey).rootName, groups⟩
        (partsOf survey).instanceRoot.children = .ok (drafts, ⟨table, groups⟩) := hdrafts
    unfold Form.read
    rw [hgroups, ok_bind, hnodes, ok_bind]
    exact hreading
  unfold read
  rw [ofElement_ofSurvey, ok_bind, hform]

section Authored

/--
Whether nothing in a survey is taken for something else in a form: names of lists do not end the
references to them, columns of choices are not taken for labels, and constraint messages not for
references to texts.
-/
structure FitsForm (survey : Survey) : Prop where
  lists : ∀ list ∈ survey.namedLists, ')' ∉ list.toList
  extras : ∀ entry ∈ survey.lists.entries, ∀ choice ∈ entry.2.choices,
    "itextId" ∉ choice.extras.keys
  messages : ∀ located ∈ survey.nodes, ∀ question ∈ located.node.question?,
    ∀ entry ∈ question.constraintMessage.entries, itextId? entry.2 = none

theorem fitsForm_iff :
    FitsForm survey ↔ (∀ list ∈ survey.namedLists, ')' ∉ list.toList) ∧
      (∀ entry ∈ survey.lists.entries, ∀ choice ∈ entry.2.choices,
        "itextId" ∉ choice.extras.keys) ∧
      ∀ located ∈ survey.nodes, ∀ question ∈ located.node.question?,
        ∀ entry ∈ question.constraintMessage.entries, itextId? entry.2 = none :=
  ⟨fun h => ⟨h.lists, h.extras, h.messages⟩, fun h => ⟨h.1, h.2.1, h.2.2⟩⟩

instance (survey : Survey) : Decidable (FitsForm survey) :=
  decidable_of_iff _ fitsForm_iff.symm

theorem isPlaced_of_isAuthored (h : survey.IsAuthored table) : IsPlaced survey table where
  toIsFormed := h.isFormed
  isPlain := fun located hlocated => (h.isNamed located hlocated).isPlain

theorem namesLabels_of_isAuthored (h : survey.IsAuthored table) :
    ∀ list ∈ survey.usedLists, NamesLabels survey list := by
  rintro list hlist _ ⟨choice, index⟩ hchoice hempty
  -- The name of a list that was read from a cell does not start with a blank.
  rw [trim_choiceId (h.isAuthored_of_mem_usedLists list hlist).name.isBlank_head?]
  exact mem_surveyTexts_iff.2
    ⟨.choice hlist hchoice, mt Localized.isEmpty_iff.2 (Bool.eq_false_iff.1 hempty)⟩

theorem isTied_of_isAuthored (h : survey.IsAuthored table) (havoids : survey.AvoidsContainers)
    (hfits : FitsForm survey) : IsTied survey table where
  toIsPlaced := isPlaced_of_isAuthored h
  namedLists := hfits.lists
  extras := by
    intro list hlist
    exact hfits.extras _ (Survey.mem_entries_of_mem_usedLists h.keys hlist)
  spelled := by
    intro located hlocated expression hexpression
    exact Expression.compileTree_canonical h.declared
      ((h.nodes located hlocated).2 expression hexpression)
      (havoids table h.symbols_eq located hlocated expression hexpression)

theorem showsAll_of_isAuthored (h : survey.IsAuthored table) (hfits : FitsForm survey) :
    ShowsAll survey where
  appearances := by
    intro located hlocated question hquestion hhidden
    have hnode : located.node.IsAuthored := (h.nodes located hlocated).1
    rw [Node.question?_eq_some_iff.1 hquestion] at hnode
    exact Question.IsAuthored.appearance_eq hnode hhidden
  choices := by
    intro located hlocated question hquestion
    exact h.list_mem_namedLists located hlocated question (Node.question?_eq_some_iff.1 hquestion)
  labels := namesLabels_of_isAuthored h
  messages := by
    intro _ located hlocated question hquestion message hmessage
    exact hfits.messages located hlocated question hquestion (defaultLanguage, message)
      (Localized.get?_eq_some_iff.1 hmessage)

end Authored

theorem read_ofSurvey {workbook : Workbook} {reading : Reading}
    (hread : workbook.read {} = .ok reading) (havoids : reading.survey.AvoidsContainers)
    (hfits : FitsForm reading.survey) :
    ∃ reading', read (ofSurvey reading.survey) {} = .ok reading' ∧
      reading.survey.isSimilar reading'.survey = true ∧
      ofSurvey reading'.survey = ofSurvey reading.survey ∧
      ∀ style, reading'.survey.toWorkbook style = reading.survey.toWorkbook style := by
  obtain ⟨table, hauthored⟩ := Workbook.isAuthored_read (by decide) hread
  obtain ⟨reading', hreading', hrestores⟩ := exists_read_ofSurvey
    (isTied_of_isAuthored hauthored havoids hfits) (showsAll_of_isAuthored hauthored hfits) {}
  refine ⟨reading', hreading', hrestores.isSimilar, ofSurvey_eq hrestores, ?_⟩
  intro style
  exact hrestores.toWorkbook_eq hauthored.symbols_eq style

theorem read_ofSurvey_household :
    ∃ reading, Workbook.household.read {} = .ok reading ∧ reading.survey.AvoidsContainers ∧
      FitsForm reading.survey ∧
      ∃ reading', read (ofSurvey reading.survey) {} = .ok reading' ∧
        reading.survey.isSimilar reading'.survey = true ∧
        ofSurvey reading'.survey = ofSurvey reading.survey ∧
        ∀ style, reading'.survey.toWorkbook style = reading.survey.toWorkbook style := by
  have hall : (Workbook.household.read {}).toOption.any fun reading =>
      reading.survey.AvoidsContainers && FitsForm reading.survey := by
    decide +kernel
  obtain ⟨reading, hread, hboth⟩ := exists_eq_ok_of_any hall
  rw [Bool.and_eq_true, decide_eq_true_iff, decide_eq_true_iff] at hboth
  exact ⟨reading, hread, hboth.1, hboth.2, read_ofSurvey hread hboth.1 hboth.2⟩

end Questionnaire.XForm
