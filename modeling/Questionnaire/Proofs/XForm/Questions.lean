import Questionnaire.Proofs.XForm.Reading
import Questionnaire.Proofs.XForm.Shown

/-!
This module contains the reading of single nodes: type, list, texts and all other parts of a written
node are inferred from its element, its bind and its control.
-/

namespace Questionnaire.XForm

variable {localized : Bool} {absolute : String} {q : Question}

def bindFields (localized : Bool) (absolute : String) (q : Question) :
    List (String × Option String) := [
  ("nodeset", some absolute),
  ("type", some (bindType q.type)),
  ("relevant", q.relevant.map Expression.canonical),
  ("constraint", q.constraint.map Expression.canonical),
  ("calculate", q.calculation.map Expression.canonical),
  (constraintMessageAttribute,
    textAttribute localized (constraintMessageId absolute) q.constraintMessage),
  ("required", if q.required then some alwaysTrue else none),
  ("readonly", if q.type = .note then some alwaysTrue else none),
  (preloadAttribute, (preload? q.type).map Prod.fst),
  (preloadParamsAttribute, (preload? q.type).map Prod.snd)]

theorem nodup_bindFields (localized : Bool) (absolute : String) (q : Question) :
    ((bindFields localized absolute q).map Prod.fst).Nodup := by
  have hnames : (bindFields localized absolute q).map Prod.fst = ["nodeset", "type", "relevant",
    "constraint", "calculate", constraintMessageAttribute, "required", "readonly",
    preloadAttribute, preloadParamsAttribute] := rfl
  rw [hnames]
  decide

theorem attributes_questionBind (localized : Bool) (absolute : String) (q : Question) :
    (questionBind localized absolute q).attributes =
      (bindFields localized absolute q).filterMap fun field => field.2.map (field.1, ·) := by
  have hoption (name : String) (value : Option String)
      (fields : List (String × Option String)) :
      ((name, value) :: fields).filterMap (fun field => field.2.map (field.1, ·)) =
        optionAttribute name value ++ fields.filterMap fun field => field.2.map (field.1, ·) := by
    cases value <;> rfl
  have hrequired : (if q.required then [("required", alwaysTrue)] else []) =
      optionAttribute "required" (if q.required then some alwaysTrue else none) := by
    split <;> rfl
  have hreadonly : (if q.type = .note then [("readonly", alwaysTrue)] else []) =
      optionAttribute "readonly" (if q.type = .note then some alwaysTrue else none) := by
    split <;> rfl
  unfold questionBind bindFields
  dsimp only
  rw [hrequired, hreadonly]
  simp only [hoption, List.filterMap_nil, List.append_nil, List.append_assoc]
  cases preload? q.type <;> rfl

theorem attribute?_questionBind {name : String} {value : Option String}
    (h : (name, value) ∈ bindFields localized absolute q) :
    (questionBind localized absolute q).attribute? name = value := by
  unfold Element.attribute?
  rw [attributes_questionBind]
  exact OrderedMap.lookup_filterMap (nodup_bindFields localized absolute q) h

theorem attribute?_constraintMessage (localized : Bool) (absolute : String) (q : Question) :
    (questionBind localized absolute q).attribute? constraintMessageAttribute =
      textAttribute localized (constraintMessageId absolute) q.constraintMessage :=
  attribute?_questionBind (by simp [bindFields])

def controlElement (localized : Bool) (absolute : String) (q : Question) (tag : String) : Element where
  tag := tag
  attributes :=
    [("ref", absolute)] ++ optionAttribute "mediatype" (mediaType? q.type) ++
      optionAttribute "appearance" q.appearance
  children :=
    shownTexts localized absolute q.label q.hint ++
      if q.type.isSelect then (q.list.map (itemset localized)).toList else []

theorem head?_questionControl (localized : Bool) (absolute : String) (q : Question) :
    (questionControl localized absolute q).head? =
      (controlTag? q.type).map (controlElement localized absolute q) := by
  unfold questionControl
  cases controlTag? q.type <;> rfl

theorem attribute?_mediatype (localized : Bool) (absolute : String) (q : Question) (tag : String) :
    (controlElement localized absolute q tag).attribute? "mediatype" = mediaType? q.type := by
  simp [controlElement, Element.attribute?, List.lookup_cons, List.lookup_append,
    lookup_optionAttribute]

theorem attribute?_appearance (localized : Bool) (absolute : String) (q : Question) (tag : String) :
    (controlElement localized absolute q tag).attribute? "appearance" = q.appearance := by
  simp [controlElement, Element.attribute?, List.lookup_cons, List.lookup_append,
    lookup_optionAttribute]

theorem ofPreload?_preload? {type : QuestionType} {pair : String × String}
    (h : preload? type = some pair) : ofPreload? pair.1 pair.2 = some type := by
  have hall : ∀ type ∈ QuestionType.all, ∀ pair ∈ preload? type,
      ofPreload? pair.1 pair.2 = some type := by
    decide
  exact hall type (QuestionType.mem_all type) pair h

theorem type_of_controlTag?_eq_none {type : QuestionType} (h : controlTag? type = none)
    (hpreload : preload? type = none) : type = .calculate ∨ type = .hidden := by
  have hall : ∀ type ∈ QuestionType.all, controlTag? type = none → preload? type = none →
      type = .calculate ∨ type = .hidden := by
    decide
  exact hall type (QuestionType.mem_all type) h hpreload

theorem type_of_controlTag? {type : QuestionType} {tag : String} (h : controlTag? type = some tag)
    (hcontainer : type.isContainer = false) :
    (tag = "select1" ∧ type = .selectOne) ∨ (tag = "select" ∧ type = .selectMultiple) ∨
      (tag = "upload" ∧ ofMediaType ((mediaType? type).getD "") = type) ∨
      (tag = "trigger" ∧ type = .acknowledge) ∨
      (tag = "input" ∧ (type = .note ∨ type ≠ .note ∧ inputType? (bindType type) = some type)) := by
  have hall : ∀ type ∈ QuestionType.all, ∀ tag ∈ controlTag? type, type.isContainer = false →
      (tag = "select1" ∧ type = .selectOne) ∨ (tag = "select" ∧ type = .selectMultiple) ∨
        (tag = "upload" ∧ ofMediaType ((mediaType? type).getD "") = type) ∨
        (tag = "trigger" ∧ type = .acknowledge) ∨
        (tag = "input" ∧
          (type = .note ∨ type ≠ .note ∧ inputType? (bindType type) = some type)) := by
    decide +kernel
  exact hall type (QuestionType.mem_all type) tag h hcontainer

theorem questionType_written (hcontainer : q.type.isContainer = false)
    (hcalculate : q.type = .calculate → q.calculation ≠ none)
    (hhidden : q.type = .hidden → q.calculation = none) :
    questionType (some (questionBind localized absolute q))
      (questionControl localized absolute q).head? = .ok q.type := by
  have hsource : (questionBind localized absolute q).attribute? preloadAttribute =
      (preload? q.type).map Prod.fst := attribute?_questionBind (by simp [bindFields])
  have hvalue : (questionBind localized absolute q).attribute? preloadParamsAttribute =
      (preload? q.type).map Prod.snd := attribute?_questionBind (by simp [bindFields])
  have hcalculation : (questionBind localized absolute q).attribute? "calculate" =
      q.calculation.map Expression.canonical := attribute?_questionBind (by simp [bindFields])
  have hreadonly : (questionBind localized absolute q).attribute? "readonly" =
      if q.type = .note then some alwaysTrue else none :=
    attribute?_questionBind (by simp [bindFields])
  have htype : (questionBind localized absolute q).attribute? "type" = some (bindType q.type) :=
    attribute?_questionBind (by simp [bindFields])
  unfold questionType
  simp only [Option.bind_some, hsource, hvalue, hcalculation, hreadonly, htype,
    head?_questionControl]
  -- Each source of the type is asked in turn: the preload, the calculation and the control.
  cases hpreload : preload? q.type with
  | some pair =>
    rw [Option.map_some, Option.map_some]
    dsimp only [Option.getD_some]
    rw [ofPreload?_preload? hpreload]
  | none =>
    rw [Option.map_none]
    dsimp only
    cases htag : controlTag? q.type with
    | none =>
      rcases type_of_controlTag?_eq_none htag hpreload with heq | heq
      · have hsome := Option.isSome_iff_ne_none.2 (hcalculate heq)
        simp [hsome, heq]
      · simp [hhidden heq, heq]
    | some tag =>
      have hlocal : (controlElement localized absolute q tag).localName = tag :=
        (controlTag_ne htag).1
      rw [Option.map_some]
      dsimp only
      rw [hlocal, attribute?_mediatype]
      -- Only an input needs the type of its bind, and a note is an input that is read only.
      rcases type_of_controlTag? htag hcontainer with
        ⟨rfl, heq⟩ | ⟨rfl, heq⟩ | ⟨rfl, heq⟩ | ⟨rfl, heq⟩ | ⟨rfl, heq | ⟨hne, heq⟩⟩
      · exact congrArg Except.ok heq.symm
      · exact congrArg Except.ok heq.symm
      · exact congrArg Except.ok heq
      · exact congrArg Except.ok heq.symm
      · change (if ((if q.type = .note then some alwaysTrue else none) == some alwaysTrue) = true
          then _ else _) = _
        rw [if_pos heq, if_pos (beq_self_eq_true _), heq]
      · change (if ((if q.type = .note then some alwaysTrue else none) == some alwaysTrue) = true
          then _ else _) = _
        rw [if_neg hne, if_neg (by simp)]
        dsimp only [Option.getD_some]
        rw [heq]

theorem localName_shownText {tag id : String} {text : Localized} (htag : ':' ∉ tag.toList) :
    ∀ element ∈ shownText localized tag id text, element.localName = tag := by
  intro element helement
  exact Element.localName_eq (mem_shownText helement) htag

theorem findAll_shownTexts (element : Element) {label hint : Localized} {rest : List Element}
    (hchildren : element.children = shownTexts localized absolute label hint ++ rest)
    (hrest : ∀ other ∈ rest, other.localName ≠ "label" ∧ other.localName ≠ "hint") :
    findAll element "label" = shownText localized "label" (labelId absolute) label ∧
      findAll element "hint" = shownText localized "hint" (hintId absolute) hint := by
  have hlabels : ∀ element ∈ shownText localized "label" (labelId absolute) label,
      element.localName = "label" := localName_shownText (by decide)
  have hhints : ∀ element ∈ shownText localized "hint" (hintId absolute) hint,
      element.localName = "hint" := localName_shownText (by decide)
  have hnone (name : String) (hname : ∀ other ∈ rest, other.localName ≠ name) :
      rest.filter (·.localName == name) = [] := by
    rw [List.filter_eq_nil_iff]
    intro other hother
    rw [beq_iff_eq]
    exact hname other hother
  unfold findAll shownTexts at *
  rw [hchildren, List.filter_append, List.filter_append, List.filter_append, List.filter_append,
    filter_localName hlabels, filter_localName hhints, filter_localName hlabels,
    filter_localName hhints, hnone "label" fun other hother => (hrest other hother).1,
    hnone "hint" fun other hother => (hrest other hother).2]
  simp

theorem find?_shownTexts (element : Element) {label hint : Localized} {rest : List Element}
    (hchildren : element.children = shownTexts localized absolute label hint ++ rest)
    (hrest : ∀ other ∈ rest, other.localName ≠ "label" ∧ other.localName ≠ "hint") :
    find? element "label" = (shownText localized "label" (labelId absolute) label).head? ∧
      find? element "hint" = (shownText localized "hint" (hintId absolute) hint).head? := by
  obtain ⟨hlabel, hhint⟩ := findAll_shownTexts element hchildren hrest
  rw [find?_eq_head?_findAll, find?_eq_head?_findAll, hlabel, hhint]
  exact ⟨rfl, rfl⟩

theorem localName_itemset (localized : Bool) (list : String) :
    (itemset localized list).localName = "itemset" :=
  Element.localName_eq rfl (by decide)

theorem mem_itemsets {element : Element}
    (h : element ∈ if q.type.isSelect then (q.list.map (itemset localized)).toList else []) :
    element.localName = "itemset" := by
  split at h
  · obtain ⟨list, -, rfl⟩ := Option.map_eq_some_iff.1 (Option.mem_toList.1 h)
    exact localName_itemset localized list
  · cases h

theorem find?_itemset {tag list : String} (hselect : q.type.isSelect = true)
    (hlist : q.list = some list) :
    find? (controlElement localized absolute q tag) "itemset" = some (itemset localized list) := by
  have hshown : ∀ element ∈ shownTexts localized absolute q.label q.hint,
      (element.localName == "itemset") = false := by
    intro element helement
    rcases localName_text (mem_shownTexts helement) with hname | hname <;> simp [hname]
  unfold find? controlElement
  dsimp only
  rw [List.find?_append, List.find?_eq_none.2 (by simpa using hshown), if_pos hselect, hlist,
    Option.none_or]
  exact List.find?_cons_of_pos (by simp [localName_itemset])

variable {survey : Survey} {table : SymbolTable} {path : NodePath}

theorem findAll_itemset {tag : String} (hlist : q.list = none) :
    findAll (controlElement localized absolute q tag) "itemset" = [] := by
  unfold findAll controlElement
  rw [hlist, List.filter_eq_nil_iff]
  intro element helement
  rcases localName_text (mem_shownTexts (by simpa using helement)) with hname | hname <;>
    simp [hname]

theorem findAll_item {tag : String} :
    findAll (controlElement localized absolute q tag) "item" = [] := by
  unfold findAll controlElement
  rw [List.filter_eq_nil_iff]
  intro element helement
  rcases List.mem_append.1 helement with helement | helement
  · rcases localName_text (mem_shownTexts helement) with hname | hname <;> simp [hname]
  · simp [mem_itemsets helement]

theorem readList_written (h : IsTied survey table) (hlocated : ⟨path, .question q⟩ ∈ survey.nodes)
    (hselect : q.type.isSelect = true) (tag : String) (groups : ChoiceGroups) :
    (partsOf survey).readList q.name (some (controlElement localized absolute q tag)) groups =
      .ok (q.list, groups) := by
  unfold Form.readList
  dsimp only
  cases hlist : q.list with
  | none =>
    rw [find?_eq_head?_findAll, findAll_itemset hlist, findAll_item]
    rfl
  | some list =>
    have hnamed : list ∈ survey.namedLists := List.mem_filterMap.2 ⟨_, hlocated, hlist⟩
    have hnodeset : (itemset localized list).attribute? "nodeset" =
        some (itemsetReference list) := by
      simp [itemset, Element.attribute?]
    rw [find?_itemset hselect hlist]
    dsimp only
    rw [hnodeset, Option.getD_some, itemsetList?_itemsetReference (h.namedLists list hnamed)]

theorem groups_eq_of_readList {form : Form} {name : String} {groups : ChoiceGroups}
    {found : Option String × ChoiceGroups}
    (h : form.readList name (questionControl localized absolute q).head? groups = .ok found) :
    found.2 = groups := by
  rw [head?_questionControl] at h
  cases htag : controlTag? q.type with
  | none =>
    rw [htag] at h
    cases h
    rfl
  | some tag =>
    rw [htag, Option.map_some] at h
    unfold Form.readList at h
    dsimp only at h
    split at h
    · split at h
      · cases h
        rfl
      · cases h
    · rw [findAll_item] at h
      cases h
      rfl

theorem controlTag?_of_isSelect {type : QuestionType} (h : type.isSelect = true) :
    ∃ tag, controlTag? type = some tag := by
  cases type <;> first | exact ⟨_, rfl⟩ | cases h

theorem idText_nodeText (h : IsPlaced survey table) {located : LocatedNode}
    (hlocated : located ∈ survey.nodes) {pair : String × Localized}
    (hpair : pair ∈ textsOf located.node)
    (hempty : isLocalized survey = false → pair.2.isEmpty = true) :
    (partsOf survey).idText
      (nodeTextId (NodePath.absolute survey.rootName located.path) pair.1) = pair.2 := by
  unfold Form.idText partsOf
  dsimp only
  cases hlocalized : isLocalized survey with
  | false =>
    rw [Localized.eq_empty (hempty hlocalized)]
    rfl
  | true =>
    rw [if_pos rfl, get?_nodeText h _ hlocated hpair]
    split
    · next hempty =>
      rw [Localized.eq_empty hempty]
      rfl
    · rfl

theorem isEmpty_of_hidden (hlocated : ⟨path, .question q⟩ ∈ survey.nodes)
    (hhidden : q.type.isHidden = true) (hlocalized : isLocalized survey = false) :
    q.label.isEmpty = true ∧ q.hint.isEmpty = true := by
  unfold isLocalized at hlocalized
  rw [Bool.or_eq_false_iff, List.any_eq_false] at hlocalized
  have htext := hlocalized.2 _ hlocated
  simpa [hasHiddenText, hhidden] using htext

theorem readTexts_written (h : IsPlaced survey table)
    (hlocated : ⟨path, .question q⟩ ∈ survey.nodes) :
    (partsOf survey).readTexts
      (questionControl (isLocalized survey) (NodePath.absolute survey.rootName path) q).head?
      (NodePath.absolute survey.rootName path) = .ok (q.label, q.hint) := by
  have hlabel : ("label", q.label) ∈ textsOf (.question q) := by simp [textsOf]
  have hhint : ("hint", q.hint) ∈ textsOf (.question q) := by simp [textsOf]
  rw [head?_questionControl]
  cases htag : controlTag? q.type with
  | none =>
    -- A question without a control has its texts among the translations only.
    have hempty := isEmpty_of_hidden hlocated (controlTag?_eq_none_iff.1 htag)
    have hlabel' := idText_nodeText h hlocated hlabel fun hlocalized => (hempty hlocalized).1
    have hhint' := idText_nodeText h hlocated hhint fun hlocalized => (hempty hlocalized).2
    unfold Form.readTexts
    rw [Option.map_none]
    dsimp only
    rw [labelId_eq, hintId_eq, hlabel', hhint']
  | some tag =>
    have hlabel' := shows_nodeText h hlocated hlabel
    have hhint' := shows_nodeText h hlocated hhint
    obtain ⟨hfindLabel, hfindHint⟩ := find?_shownTexts
      (controlElement (isLocalized survey) (NodePath.absolute survey.rootName path) q tag) rfl
      fun other hother => by simp [mem_itemsets hother]
    unfold Form.readTexts
    rw [Option.map_some]
    dsimp only
    rw [hfindLabel, hfindHint, labelId_eq, hintId_eq, elementText_shownText hlabel', ok_bind,
      elementText_shownText hhint', ok_bind]

theorem content?_instanceElement (hdefault : ∀ text ∈ q.default, Text.IsTidy text) :
    (instanceElement (.question q)).content? = q.default := by
  rw [instanceElement]
  cases heq : q.default with
  | none => rfl
  | some text => exact content?_textElement (hdefault text heq) q.name

theorem readMessage_questionBind (form : Form) (localized : Bool) (absolute : String)
    (q : Question) :
    form.readMessage (some (questionBind localized absolute q)) =
      match textAttribute localized (constraintMessageId absolute) q.constraintMessage with
      | some message => form.attributeText message
      | none => .ok .empty :=
  congrArg (fun
    | some message => form.attributeText message
    | none => .ok .empty) (attribute?_constraintMessage localized absolute q)

theorem plain_of_readMessage {absolute : String} {message : Localized}
    (h : (partsOf survey).readMessage
      (some (questionBind (isLocalized survey) absolute q)) = .ok message)
    (hlocalized : isLocalized survey = false) :
    ∀ text ∈ q.constraintMessage.defaultText?, itextId? text = none := by
  intro text htext
  by_contra hreference
  obtain ⟨id, hid⟩ := Option.ne_none_iff_exists'.1 hreference
  -- Without translations there is no text that the message could refer to.
  have htexts : (partsOf survey).texts = .empty := by
    unfold partsOf
    rw [hlocalized]
    rfl
  have hattribute : textAttribute false (constraintMessageId absolute) q.constraintMessage =
      some text := by
    unfold textAttribute
    rw [if_neg (Localized.isEmpty_ne_true_of_defaultText? htext), if_neg Bool.false_ne_true]
    exact htext
  rw [hlocalized, readMessage_questionBind, hattribute] at h
  unfold Form.attributeText at h
  dsimp only at h
  rw [hid, htexts] at h
  cases h

theorem readMessage_written (h : IsPlaced survey table)
    (hlocated : ⟨path, .question q⟩ ∈ survey.nodes)
    (hplain : isLocalized survey = false → ∀ text ∈ q.constraintMessage.defaultText?,
      itextId? text = none) :
    (partsOf survey).readMessage
        (some (questionBind (isLocalized survey) (NodePath.absolute survey.rootName path) q)) =
          .ok q.constraintMessage := by
  have hmem : ("jr:constraintMsg", q.constraintMessage) ∈ textsOf (.question q) := by
    simp [textsOf]
  rw [readMessage_questionBind, constraintMessageId_eq]
  apply attributeText_textAttribute (shows_nodeText h hlocated hmem)
  exact hplain

theorem list_written (h : IsTied survey table) (hlocated : ⟨path, .question q⟩ ∈ survey.nodes)
    (absolute : String) (groups : ChoiceGroups) :
    (if q.type.isSelect = true then
      (partsOf survey).readList q.name (questionControl (isLocalized survey) absolute q).head? groups
      else .ok (none, groups)) = .ok (q.list, groups) := by
  have hq : q.IsFormed := h.nodes _ hlocated
  by_cases hselect : q.type.isSelect = true
  · obtain ⟨tag, htag⟩ := controlTag?_of_isSelect hselect
    rw [if_pos hselect, head?_questionControl, htag]
    exact readList_written h hlocated hselect tag groups
  · rw [if_neg hselect]
    cases hlist : q.list with
    | none => rfl
    | some list => exact absurd (hq.list list hlist) hselect

theorem required_written (localized : Bool) (absolute : String) (q : Question) :
    ((questionBind localized absolute q).attribute? "required" == some alwaysTrue) = q.required := by
  have hattribute : (questionBind localized absolute q).attribute? "required" =
      if q.required then some alwaysTrue else none :=
    attribute?_questionBind (by simp [bindFields])
  rw [hattribute]
  cases q.required <;> simp

theorem appearance_written (hq : q.type.isHidden = true → q.appearance = none) (localized : Bool)
    (absolute : String) :
    (questionControl localized absolute q).head?.bind (·.attribute? "appearance") =
      q.appearance := by
  rw [head?_questionControl]
  cases htag : controlTag? q.type with
  | none => exact (hq (controlTag?_eq_none_iff.1 htag)).symm
  | some tag => exact attribute?_appearance _ _ _ tag

theorem readQuestion_written (h : IsTied survey table) (hshows : ShowsAll survey)
    (hlocated : ⟨path, .question q⟩ ∈ survey.nodes) (groups : ChoiceGroups) :
    (partsOf survey).readQuestion q.name (NodePath.absolute survey.rootName path)
        (instanceElement (.question q)) groups =
      .ok (q.bare,
        ⟨q.relevant.map Expression.canonical, q.constraint.map Expression.canonical,
          q.calculation.map Expression.canonical⟩, groups) := by
  have hq : q.IsFormed := h.nodes _ hlocated
  have hmessage := readMessage_written h.toIsPlaced hlocated fun hlocalized =>
    hshows.messages hlocalized _ hlocated q rfl
  have htexts := readTexts_written h.toIsPlaced hlocated
  have hbind : (partsOf survey).binds.get? (NodePath.absolute survey.rootName path) =
      some (questionBind (isLocalized survey) (NodePath.absolute survey.rootName path) q) :=
    get?_binds h.toIsPlaced hlocated
  have hcontrol : (partsOf survey).controls.get? (NodePath.absolute survey.rootName path) =
      (questionControl (isLocalized survey) (NodePath.absolute survey.rootName path) q).head? :=
    get?_controls h.toIsPlaced hlocated
  generalize NodePath.absolute survey.rootName path = absolute at *
  have htype : questionType (some (questionBind (isLocalized survey) absolute q))
      (questionControl (isLocalized survey) absolute q).head? = .ok q.type :=
    questionType_written hq.isContainer_eq hq.calculation_ne hq.calculation_eq
  have hlist := list_written h hlocated absolute groups
  have happearance := appearance_written (hshows.appearances _ hlocated q rfl) (isLocalized survey)
    absolute
  have hrelevant : (questionBind (isLocalized survey) absolute q).attribute? "relevant" =
      q.relevant.map Expression.canonical := attribute?_questionBind (by simp [bindFields])
  have hconstraint : (questionBind (isLocalized survey) absolute q).attribute? "constraint" =
      q.constraint.map Expression.canonical := attribute?_questionBind (by simp [bindFields])
  have hcalculation : (questionBind (isLocalized survey) absolute q).attribute? "calculate" =
      q.calculation.map Expression.canonical := attribute?_questionBind (by simp [bindFields])
  rw [← hcontrol] at hlist htexts happearance
  rw [← hbind, ← hcontrol] at htype
  refine readQuestion_eq_ok_iff.2
    ⟨_, htype, _, hlist, _, htexts, q.constraintMessage, ?_, ?_⟩
  · rw [hbind]
    exact hmessage
  · rw [hbind, happearance, content?_instanceElement hq.default]
    dsimp only [Option.bind_some]
    rw [required_written, hrelevant, hconstraint, hcalculation]
    rfl

end Questionnaire.XForm
