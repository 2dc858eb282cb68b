import Questionnaire.Proofs.XForm.RoundTrip

/-!
This module contains what comes back from the form of a survey, part by part: its choice lists, and
the texts that its nodes show.
-/

namespace Questionnaire

open XForm

def LocatedNode.shown (located : LocatedNode) : NodePath × List (String × Localized) :=
  (located.path, textsOf located.node)

namespace Draft

mutual

def shown : Draft → List (NodePath × List (String × Localized))
  | question own _ asked _ => [(own, textsOf (.question asked))]
  | block kind own _ header _ drafts =>
    (own, textsOf (.container (.block kind) header [])) :: shownAll drafts

def shownAll : List Draft → List (NodePath × List (String × Localized))
  | [] => []
  | draft :: drafts => shown draft ++ shownAll drafts

end

variable {rules : DraftRules} {compiler : Compiler} {lists : ChoiceLists}

mutual

theorem map_shown_of_compile {path : NodePath} (draft : Draft) {node : Node}
    (hdraft : draft.Follows rules path) (h : compile compiler lists draft = .ok node) :
    (node.located path).map LocatedNode.shown = draft.shown := by
  cases draft with
  | question own place asked texts =>
    obtain ⟨rfl, -⟩ := hdraft
    rw [compile] at h
    obtain ⟨compiled, hcompiled, h⟩ := bind_eq_ok_iff.1 h
    cases h
    obtain ⟨relevant, -, constraint, -, calculation, -, rfl⟩ :=
      exists_of_compileQuestion (orPlacing_eq_ok_iff.1 hcompiled)
    rw [Node.located, shown]
    rfl
  | block kind own place header text drafts =>
    obtain ⟨rfl, -, hdrafts⟩ := hdraft
    rw [compile] at h
    obtain ⟨relevant, -, h⟩ := bind_eq_ok_iff.1 h
    obtain ⟨children, hchildren, h⟩ := bind_eq_ok_iff.1 h
    cases h
    rw [Node.located, shown, ← map_shown_of_compileAll drafts hdrafts hchildren]
    rfl

theorem map_shown_of_compileAll {path : NodePath} (drafts : List Draft) {nodes : List Node}
    (hdrafts : AllFollow rules path drafts) (h : compileAll compiler lists drafts = .ok nodes) :
    (Node.locatedAll path nodes).map LocatedNode.shown = shownAll drafts := by
  cases drafts with
  | nil =>
    cases h
    rfl
  | cons draft drafts =>
    obtain ⟨hdraft, hdrafts⟩ := hdrafts
    rw [compileAll] at h
    obtain ⟨node, hnode, h⟩ := bind_eq_ok_iff.1 h
    obtain ⟨nodes, hnodes, h⟩ := bind_eq_ok_iff.1 h
    cases h
    rw [Node.locatedAll, List.map_append, map_shown_of_compile draft hdraft hnode,
      map_shown_of_compileAll drafts hdrafts hnodes, shownAll]

end

end Draft

namespace XForm

variable {survey : Survey} {table : SymbolTable} {path : NodePath} {q : Question}

section Lists

theorem readSecondaries_restores_iff (h : IsPlaced survey table)
    (hlabels : ∀ list ∈ survey.usedLists, NamesLabels survey list) :
    (∃ groups, (partsOf survey).readSecondaries = .ok groups ∧
      groups.lists.entries = survey.namedEntries) ↔
      ∀ list ∈ survey.usedLists, ∀ choice ∈ list.choices, "itextId" ∉ choice.extras.keys := by
  constructor
  · rintro ⟨groups, hread, hentries⟩ list hlist
    have hgather := gather_readSecondaries
      (hasTrimmedTexts_ofElement (ofElement_ofSurvey survey)) hread
    have hentry : (list.name, list) ∈ groups.lists.entries := by
      rw [hentries]
      exact List.mem_map_of_mem hlist
    exact fun choice hchoice => (hgather.choices _ hentry choice hchoice).2
  · exact readSecondaries_written h hlabels

theorem ofSurvey_restores_lists {workbook : Workbook} {reading : Reading}
    (hread : workbook.read {} = .ok reading) :
    ∃ form, Form.ofElement (ofSurvey reading.survey) = .ok form ∧
      form.secondaries =
        reading.survey.usedLists.map (secondaryInstance (isLocalized reading.survey)) ∧
      (∀ list ∈ reading.survey.usedLists, ∀ groups, list.name ∉ groups.lists.keys →
        ((∃ groups', form.readSecondary groups
            (secondaryInstance (isLocalized reading.survey) list) = .ok groups' ∧
          groups'.lists.entries = groups.lists.entries ++ [(list.name, list)]) ↔
            ∀ choice ∈ list.choices, "itextId" ∉ choice.extras.keys)) ∧
      ((∃ groups, form.readSecondaries = .ok groups ∧
        groups.lists.entries = reading.survey.usedLists.map fun list => (list.name, list)) ↔
          ∀ list ∈ reading.survey.usedLists, ∀ choice ∈ list.choices,
            "itextId" ∉ choice.extras.keys) := by
  obtain ⟨table, hauthored⟩ := Workbook.isAuthored_read (by decide) hread
  have hplaced := isPlaced_of_isAuthored hauthored
  have hlabels := namesLabels_of_isAuthored hauthored
  refine ⟨_, ofElement_ofSurvey reading.survey, rfl, ?_, ?_⟩
  · intro list hlist groups hnew
    exact readSecondary_restores_iff hplaced hlist (hlabels list hlist) hnew
  · exact readSecondaries_restores_iff hplaced hlabels

theorem ofSurvey_restores_lists_household :
    ∃ reading, Workbook.household.read {} = .ok reading ∧
      ∃ form, Form.ofElement (ofSurvey reading.survey) = .ok form ∧
        form.secondaries =
          reading.survey.usedLists.map (secondaryInstance (isLocalized reading.survey)) ∧
        (∀ list ∈ reading.survey.usedLists, ∀ groups, list.name ∉ groups.lists.keys →
          ((∃ groups', form.readSecondary groups
              (secondaryInstance (isLocalized reading.survey) list) = .ok groups' ∧
            groups'.lists.entries = groups.lists.entries ++ [(list.name, list)]) ↔
              ∀ choice ∈ list.choices, "itextId" ∉ choice.extras.keys)) ∧
        ((∃ groups, form.readSecondaries = .ok groups ∧
          groups.lists.entries = reading.survey.usedLists.map fun list => (list.name, list)) ↔
            ∀ list ∈ reading.survey.usedLists, ∀ choice ∈ list.choices,
              "itextId" ∉ choice.extras.keys) := by
  obtain ⟨reading, hread⟩ := Workbook.exists_read_household
  exact ⟨reading, hread, ofSurvey_restores_lists hread⟩

def colors : Workbook where
  survey := [.ofList [("type", "select_one color"), ("name", "favourite"), ("label", "Favourite"),
    ("label::French", "Favorite")]]
  choices := [
    .ofList [("list_name", "color"), ("name", "red"), ("label", "Red"), ("itextId", "color-1")],
    .ofList [("list_name", "color"), ("name", "blue"), ("label", "Blue")]]
  settings := none

theorem ofSurvey_confuses_itextId :
    ∃ reading, colors.read {} = .ok reading ∧
      ∃ form, Form.ofElement (ofSurvey reading.survey) = .ok form ∧
        ∃ groups, form.readSecondaries = .ok groups ∧
          reading.survey.usedLists.map (fun list => list.choices.map fun choice =>
            (choice.label.defaultText?, choice.extras.keys)) =
              [[(some "Red", ["itextId"]), (some "Blue", [])]] ∧
          groups.lists.entries.map (fun entry => entry.2.choices.map fun choice =>
            (choice.label.defaultText?, choice.extras.keys)) =
              [[(some "Blue", []), (some "Blue", [])]] := by
  have hall : (colors.read {}).toOption.any fun reading =>
      (Form.ofElement (ofSurvey reading.survey)).toOption.any fun form =>
        form.readSecondaries.toOption.any fun groups =>
          reading.survey.usedLists.map (fun list => list.choices.map fun choice =>
            (choice.label.defaultText?, choice.extras.keys)) =
              [[(some "Red", ["itextId"]), (some "Blue", [])]] ∧
          groups.lists.entries.map (fun entry => entry.2.choices.map fun choice =>
            (choice.label.defaultText?, choice.extras.keys)) =
              [[(some "Blue", []), (some "Blue", [])]] := by
    decide +kernel
  obtain ⟨reading, hread, hall⟩ := exists_eq_ok_of_any hall
  obtain ⟨form, hform, hall⟩ := exists_eq_ok_of_any hall
  obtain ⟨groups, hgroups, hconfused⟩ := exists_eq_ok_of_any hall
  exact ⟨reading, hread, form, hform, groups, hgroups, of_decide_eq_true hconfused⟩

end Lists

section Texts

def Form.RecoversShown (form : Form) (located : LocatedNode) : Prop :=
  let absolute := NodePath.absolute form.rootName located.path
  match located.node with
  | .question q => form.readTexts (form.controls.get? absolute) absolute = .ok (q.label, q.hint)
  | .container kind header _ =>
    ∃ block, kind = .block block ∧ ∃ found, form.readHeader block header.name absolute = .ok found ∧
      found.label = header.label ∧ found.hint = header.hint

def Form.RecoversMessage (form : Form) (located : LocatedNode) : Prop :=
  ∀ q ∈ located.node.question?,
    form.readMessage (form.binds.get? (NodePath.absolute form.rootName located.path)) =
      .ok q.constraintMessage

theorem recoversShown_of_isPlaced (h : IsPlaced survey table) {located : LocatedNode}
    (hlocated : located ∈ survey.nodes) : (partsOf survey).RecoversShown located := by
  obtain ⟨path, node⟩ := located
  have hcontrol := get?_controls h hlocated
  cases node with
  | question q =>
    have htexts := readTexts_written h hlocated
    unfold Form.RecoversShown
    dsimp only at hcontrol ⊢
    rw [rootName_partsOf, hcontrol]
    exact htexts
  | container kind header children =>
    obtain ⟨⟨block, rfl⟩, -⟩ := h.nodes _ hlocated
    exact ⟨block, rfl, header.bare, readHeader_written h hlocated, rfl, rfl⟩

theorem recoversMessage_iff_of_isPlaced (h : IsPlaced survey table) {located : LocatedNode}
    (hlocated : located ∈ survey.nodes) :
    (partsOf survey).RecoversMessage located ↔
      (isLocalized survey = false → ∀ q ∈ located.node.question?,
        ∀ message ∈ q.constraintMessage.defaultText?, itextId? message = none) := by
  obtain ⟨path, node⟩ := located
  have hbind := get?_binds h hlocated
  constructor
  · intro hrecovers hlocalized q hq
    have hread := hrecovers q hq
    cases Node.question?_eq_some_iff.1 hq
    rw [rootName_partsOf, hbind] at hread
    exact plain_of_readMessage hread hlocalized
  · intro hplain q hq
    cases Node.question?_eq_some_iff.1 hq
    rw [rootName_partsOf, hbind]
    exact readMessage_written h hlocated fun hlocalized => hplain hlocalized q hq

def writtenRules (survey : Survey) : DraftRules where
  question := fun asked _ =>
    (asked.type.isHidden = true → asked.appearance = none) ∧
      (isLocalized survey = false → ∀ message ∈ asked.constraintMessage.defaultText?,
        itextId? message = none)
  header := fun _ _ => True

theorem follows_of_readQuestion (h : IsPlaced survey table)
    (hlocated : ⟨path, .question q⟩ ∈ survey.nodes) {name : String} {element : Element}
    {groups groups' : ChoiceGroups} {found : Question} {texts : ExpressionTexts}
    (hread : (partsOf survey).readQuestion name (NodePath.absolute survey.rootName path) element
      groups = .ok (found, texts, groups')) :
    found.name = name ∧ textsOf (.question found) = textsOf (.question q) ∧
      (writtenRules survey).question found texts ∧ groups' = groups := by
  have hq : q.IsFormed := h.nodes _ hlocated
  obtain ⟨type, htype, list, hlist, shown, hshown, message, hmessage, heq⟩ :=
    readQuestion_eq_ok_iff.1 hread
  have hcontrol := get?_controls h hlocated
  have hbind := get?_binds h hlocated
  unfold controlOf? at hcontrol
  unfold bindOf? at hbind
  dsimp only at hcontrol hbind
  rw [hcontrol] at hshown hlist
  rw [hbind] at hmessage
  rw [hcontrol, hbind] at htype heq
  cases (readTexts_written h hlocated).symm.trans hshown
  -- Since some message was read, the one in the bind does not look like a reference.
  have hplain := plain_of_readMessage hmessage
  cases (readMessage_written h hlocated hplain).symm.trans hmessage
  rw [questionType_written hq.isContainer_eq hq.calculation_ne hq.calculation_eq] at htype
  cases htype
  cases heq
  refine ⟨rfl, rfl, ⟨?_, hplain⟩, ?_⟩
  · intro hhidden
    rw [head?_questionControl, controlTag?_eq_none_iff.2 hhidden]
    rfl
  · split at hlist
    · exact groups_eq_of_readList hlist
    · cases hlist
      rfl

mutual

theorem shown_of_readNode (h : IsPlaced survey table) (path : NodePath) (node : Node)
    {before after : SymbolTable} {findings next : Findings} {draft : Draft}
    (hmem : ∀ inner ∈ node.located path, inner ∈ survey.nodes)
    (hdeclares : before.DeclaresAll ((node.located path).map LocatedNode.symbol) after)
    (hread : (partsOf survey).readNode (NodePath.child path node.name) node.name findings
      (instanceElement node) = .ok (draft, next)) :
    draft.shown = (node.located path).map LocatedNode.shown ∧
      draft.Follows (writtenRules survey) path ∧ next.groups = findings.groups := by
  have hlocated := hmem _ (Node.mem_located path node)
  have hkind := kindOf_written h hlocated
  cases node with
  | question q =>
    obtain ⟨symbols, -, found, texts, groups, hfound, rfl, rfl⟩ :=
      exists_of_readNode_question hkind hread
    obtain ⟨hname, htexts, hfollows, hgroups⟩ := follows_of_readQuestion h hlocated hfound
    rw [Draft.shown, htexts]
    exact ⟨rfl, ⟨by rw [hname], hfollows⟩, hgroups⟩
  | container kind header children =>
    obtain ⟨⟨block, rfl⟩, -⟩ := h.nodes _ hlocated
    obtain ⟨symbols, -, found, hfound, drafts, hdrafts, rfl⟩ := exists_of_readNode_block hkind hread
    obtain ⟨between, -, hinner⟩ := hdeclares
    have hheader := readHeader_written h hlocated
    cases hheader.symm.trans hfound
    rw [instanceElement] at hdrafts
    obtain ⟨hshown, hfollow, hgroups⟩ := shownAll_of_readNodes h (NodePath.child path header.name)
      children (fun inner hinner => hmem inner (List.mem_cons_of_mem _ hinner)) hinner (by simp)
      hdrafts
    rw [Draft.shown, hshown]
    exact ⟨rfl, ⟨rfl, trivial, hfollow⟩, hgroups⟩

theorem shownAll_of_readNodes (h : IsPlaced survey table) (path : NodePath) (nodes : List Node)
    {before after : SymbolTable} {repeated : List String} {findings next : Findings}
    {drafts : List Draft} (hmem : ∀ inner ∈ Node.locatedAll path nodes, inner ∈ survey.nodes)
    (hdeclares : before.DeclaresAll ((Node.locatedAll path nodes).map LocatedNode.symbol) after)
    (hrepeated : ∀ node ∈ nodes, node.name ∉ repeated)
    (hread : (partsOf survey).readNodes path repeated findings (instanceElements nodes) =
      .ok (drafts, next)) :
    Draft.shownAll drafts = (Node.locatedAll path nodes).map LocatedNode.shown ∧
      Draft.AllFollow (writtenRules survey) path drafts ∧ next.groups = findings.groups := by
  cases nodes with
  | nil =>
    cases hread
    exact ⟨rfl, trivial, rfl⟩
  | cons node nodes =>
    have hname : (instanceElement node).localName = node.name :=
      localName_instanceElement (h.isPlain _ (hmem _ (Node.mem_locatedAll List.mem_cons_self path))
        node.name (by simp [NodePath.child])).2
    have hother := Node.name_ne_of_declaresAll hdeclares
    rw [Node.locatedAll, List.map_append] at hdeclares
    obtain ⟨between, hnode, hnodes⟩ := SymbolTable.declaresAll_append.1 hdeclares
    rw [instanceElements, Form.readNodes] at hread
    dsimp only at hread
    rw [hname, if_neg (by simpa using hrepeated node List.mem_cons_self)] at hread
    obtain ⟨⟨draft, findings'⟩, hdraft, hread⟩ := bind_eq_ok_iff.1 hread
    obtain ⟨⟨drafts, findings''⟩, hdrafts, hread⟩ := bind_eq_ok_iff.1 hread
    cases hread
    obtain ⟨hshown, hfollows, hgroups⟩ := shown_of_readNode h path node
      (fun inner hinner => hmem inner (List.mem_append_left _ hinner)) hnode hdraft
    obtain ⟨hshown', hfollow, hgroups'⟩ := shownAll_of_readNodes h path nodes
      (fun inner hinner => hmem inner (List.mem_append_right _ hinner)) hnodes
      (name_notMem_repeated hother hrepeated _) hdrafts
    rw [Draft.shownAll, Node.locatedAll, List.map_append, hshown, hshown']
    exact ⟨rfl, ⟨hfollows, hfollow⟩, hgroups'.trans hgroups⟩

end

structure IsReadBack (survey restored : Survey) : Prop where
  shown_eq : restored.nodes.map LocatedNode.shown = survey.nodes.map LocatedNode.shown
  follows : ∀ located ∈ restored.nodes, ∀ q, located.node = .question q →
    (writtenRules survey).question q q.texts
  lists : ∀ entry ∈ restored.lists.entries, ∃ list ∈ survey.usedLists,
    IsReadFrom (partsOf survey) (isLocalized survey) list entry.2 ∧ entry.1 = list.name

theorem isReadBack_of_read (h : IsPlaced survey table) {options : Options} {reading : Reading}
    (hread : read (ofSurvey survey) options = .ok reading) : IsReadBack survey reading.survey := by
  obtain ⟨drafting, hdrafting, hfinish⟩ := read_eq_ok hread
  have hsound := (isSound_drafting hdrafting).1
  unfold XForm.drafting Form.drafting at hdrafting
  rw [ofElement_ofSurvey, ok_bind] at hdrafting
  obtain ⟨groups, hgroups, hdrafting⟩ := bind_eq_ok_iff.1 hdrafting
  obtain ⟨⟨drafts, findings⟩, hdrafts, hdrafting⟩ := bind_eq_ok_iff.1 hdrafting
  cases hdrafting
  obtain ⟨children, hcompile, heq⟩ := hsound.survey_eq (Drafting.finish_eq_ok hfinish)
  obtain ⟨hshown, hfollow, hsame⟩ := shownAll_of_readNodes h [] survey.children
    (fun inner hinner => hinner) (Survey.declaresAll_of_symbols h.symbols_eq) (by simp) hdrafts
  obtain ⟨founds, hfounds, rfl⟩ := foldlM_readSecondary_eq_ok_iff.1 hgroups
  rw [heq]
  refine ⟨(Draft.map_shown_of_compileAll drafts hfollow hcompile).trans hshown, ?_, ?_⟩
  · intro located hlocated q hq
    cases (Draft.compileAll_eq_ok drafts hfollow hcompile).2 located hlocated with
    | question hasked =>
      cases hq
      exact hasked
    | block => cases hq
  · dsimp only
    rw [hsame, entries_addAll_of_isReadFrom h hfounds, List.forall_mem_map]
    intro found hfound
    obtain ⟨list, hlist, hfrom⟩ := exists_mem_of_forall₂ hfounds.flip found hfound
    exact ⟨list, hlist, hfrom, hfrom.name_eq⟩

theorem ofSurvey_restores_texts {workbook : Workbook} {reading : Reading}
    (hread : workbook.read {} = .ok reading) :
    ∃ form, Form.ofElement (ofSurvey reading.survey) = .ok form ∧
      (∀ located ∈ reading.survey.nodes, form.RecoversShown located ∧
        (form.RecoversMessage located ↔
          (isLocalized reading.survey = false → ∀ q ∈ located.node.question?,
            ∀ message ∈ q.constraintMessage.defaultText?, itextId? message = none))) ∧
      ∀ options reading', read (ofSurvey reading.survey) options = .ok reading' →
        reading'.survey.nodes.map LocatedNode.shown =
          reading.survey.nodes.map LocatedNode.shown := by
  obtain ⟨table, hauthored⟩ := Workbook.isAuthored_read (by decide) hread
  have hplaced := isPlaced_of_isAuthored hauthored
  refine ⟨_, ofElement_ofSurvey reading.survey, ?_, ?_⟩
  · intro located hlocated
    exact ⟨recoversShown_of_isPlaced hplaced hlocated,
      recoversMessage_iff_of_isPlaced hplaced hlocated⟩
  · intro options reading' hread'
    exact (isReadBack_of_read hplaced hread').shown_eq

theorem ofSurvey_restores_texts_household :
    ∃ reading, Workbook.household.read {} = .ok reading ∧
      ∃ form, Form.ofElement (ofSurvey reading.survey) = .ok form ∧
        (∀ located ∈ reading.survey.nodes, form.RecoversShown located ∧
          (form.RecoversMessage located ↔
            (isLocalized reading.survey = false → ∀ q ∈ located.node.question?,
              ∀ message ∈ q.constraintMessage.defaultText?, itextId? message = none))) ∧
        ∀ options reading', read (ofSurvey reading.survey) options = .ok reading' →
          reading'.survey.nodes.map LocatedNode.shown =
            reading.survey.nodes.map LocatedNode.shown := by
  obtain ⟨reading, hread⟩ := Workbook.exists_read_household
  exact ⟨reading, hread, ofSurvey_restores_texts hread⟩

def ages : Workbook where
  survey := [.ofList [("type", "integer"), ("name", "age"), ("constraint", ". > 1"),
    ("constraint_message", "jr:itext('x')")]]
  choices := []
  settings := none

theorem ofSurvey_confuses_message :
    ∃ reading, ages.read {} = .ok reading ∧
      ∃ form, Form.ofElement (ofSurvey reading.survey) = .ok form ∧
        ∃ located ∈ reading.survey.nodes, ∃ q ∈ located.node.question?,
          q.constraintMessage.defaultText? = some "jr:itext('x')" ∧
          (form.readMessage (form.binds.get?
            (NodePath.absolute form.rootName located.path))).toOption = none := by
  have hall : (ages.read {}).toOption.any fun reading =>
      (Form.ofElement (ofSurvey reading.survey)).toOption.any fun form =>
        ∃ located ∈ reading.survey.nodes, ∃ q ∈ located.node.question?,
          q.constraintMessage.defaultText? = some "jr:itext('x')" ∧
          (form.readMessage (form.binds.get?
            (NodePath.absolute form.rootName located.path))).toOption = none := by
    decide +kernel
  obtain ⟨reading, hread, hall⟩ := exists_eq_ok_of_any hall
  obtain ⟨form, hform, hconfused⟩ := exists_eq_ok_of_any hall
  exact ⟨reading, hread, form, hform, of_decide_eq_true hconfused⟩

end Texts

end XForm

end Questionnaire
