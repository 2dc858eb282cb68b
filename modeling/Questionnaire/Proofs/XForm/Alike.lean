import Questionnaire.Proofs.XForm.Reading

/-!
This module contains the comparison of two forms. Forms are alike if the look-ups that their elements
need give the same; alike forms are read as the same survey.
-/

namespace Questionnaire.XForm

theorem isBodyContainer_of_isControlPart {element : Element} (h : isControlPart element = true) :
    isBodyContainer element = false := by
  unfold isControlPart at h
  unfold isBodyContainer
  rw [Bool.or_eq_true, Bool.or_eq_true, beq_iff_eq, beq_iff_eq, beq_iff_eq] at h
  rcases h with (hname | hname) | hname <;> rw [hname] <;> rfl

/--
An element of a body alone. A group or a repeat keeps its label and its hint, but not what it holds.
-/
def ownPart (element : Element) : Element :=
  if isBodyContainer element then
    { element with children := element.children.filter isControlPart }
  else element

section OwnPart

variable {element : Element}

theorem ownPart_of_container (h : isBodyContainer element = true) :
    ownPart element = { element with children := element.children.filter isControlPart } :=
  if_pos h

theorem ownPart_of_not_container (h : isBodyContainer element = false) :
    ownPart element = element := by
  unfold ownPart
  rw [h, if_neg Bool.false_ne_true]

theorem isSelect_eq_false_of_container {bind : Option Element} {type : QuestionType}
    (hcontainer : isBodyContainer element = true) (h : questionType bind (some element) = .ok type) :
    type.isSelect = false := by
  have hpreloads : ∀ entry ∈ preloads, entry.1.isSelect = false := by decide
  unfold questionType at h
  dsimp only at h
  split at h
  · split at h
    · next hpreload =>
      cases h
      obtain ⟨entry, hentry, rfl⟩ := Option.map_eq_some_iff.1 hpreload
      exact hpreloads entry (List.mem_of_find?_eq_some hentry)
    · cases h
  · unfold isBodyContainer at hcontainer
    rw [Bool.or_eq_true, beq_iff_eq, beq_iff_eq] at hcontainer
    rcases hcontainer with hname | hname <;> rw [hname] at h <;> cases h

variable (element)

theorem localName_ownPart : (ownPart element).localName = element.localName := by
  unfold ownPart
  split <;> rfl

theorem attribute?_ownPart (name : String) :
    (ownPart element).attribute? name = element.attribute? name := by
  unfold ownPart
  split <;> rfl

theorem find?_ownPart {name : String} (hname : name = "label" ∨ name = "hint") :
    find? (ownPart element) name = find? element name := by
  unfold ownPart find?
  split
  · have hpart (child : Element) (hchild : child.localName = name) : isControlPart child = true := by
      unfold isControlPart
      rcases hname with rfl | rfl <;> simp [hchild]
    rw [List.find?_filter]
    refine congrArg (element.children.find? ·) (funext fun child => ?_)
    by_cases hchild : child.localName = name
    · simp [hpart child hchild, hchild]
    · simp [hchild]
  · rfl

theorem eq_of_map_ownPart {α : Type} (value : Option Element → α)
    {element? element?' : Option Element}
    (hvalue : ∀ element?, value (element?.map ownPart) = value element?)
    (h : element?.map ownPart = element?'.map ownPart) : value element? = value element?' := by
  rw [← hvalue, h, hvalue]

theorem bind_eq_of_map_ownPart {α : Type} (part? : Element → Option α)
    {element? element?' : Option Element} (hpart : ∀ element, part? (ownPart element) = part? element)
    (h : element?.map ownPart = element?'.map ownPart) :
    element?.bind part? = element?'.bind part? := by
  refine eq_of_map_ownPart (·.bind part?) ?_ h
  rintro (_ | element)
  · rfl
  · exact hpart element

theorem any_localName_map_ownPart (name : String) (control : Option Element) :
    (control.map ownPart).any (·.localName == name) = control.any (·.localName == name) := by
  cases control with
  | none => rfl
  | some control =>
    dsimp only [Option.map_some, Option.any_some]
    rw [localName_ownPart]

theorem questionType_map_ownPart (bind control : Option Element) :
    questionType bind (control.map ownPart) = questionType bind control := by
  cases control with
  | none => rfl
  | some control =>
    unfold questionType
    dsimp only [Option.map_some]
    rw [localName_ownPart, attribute?_ownPart]

theorem readTexts_map_ownPart (form : Form) (control : Option Element) (absolute : String) :
    form.readTexts (control.map ownPart) absolute = form.readTexts control absolute := by
  cases control with
  | none => rfl
  | some control =>
    unfold Form.readTexts
    dsimp only [Option.map_some]
    rw [find?_ownPart control (Or.inl rfl), find?_ownPart control (Or.inr rfl)]

end OwnPart

structure Form.IsAlike (form form' : Form) : Prop where
  settings_eq : form.settings = form'.settings
  instanceRoot_eq : form.instanceRoot = form'.instanceRoot
  secondaries_eq : form.secondaries = form'.secondaries
  binds_eq (absolute : String) : form.binds.get? absolute = form'.binds.get? absolute
  controls_eq (absolute : String) :
    (form.controls.get? absolute).map ownPart = (form'.controls.get? absolute).map ownPart
  repeats_eq (absolute : String) :
    (form.repeats.get? absolute).map ownPart = (form'.repeats.get? absolute).map ownPart
  texts_eq (id : String) : form.texts.get? id = form'.texts.get? id

namespace Form.IsAlike

variable {form form' : Form}

section Texts

theorem attributeText_eq (h : form.IsAlike form') : form.attributeText = form'.attributeText := by
  funext value
  unfold Form.attributeText
  simp only [h.texts_eq]

theorem elementText_eq (h : form.IsAlike form') : form.elementText = form'.elementText := by
  funext element
  unfold Form.elementText
  rw [h.attributeText_eq]

theorem idText_eq (h : form.IsAlike form') : form.idText = form'.idText := by
  funext id
  unfold Form.idText
  rw [h.texts_eq]

theorem readSecondaries_eq (h : form.IsAlike form') :
    form.readSecondaries = form'.readSecondaries := by
  have hfield : form.setField = form'.setField := by
    unfold Form.setField
    rw [h.attributeText_eq]
  have hitem : form.readItem = form'.readItem := by
    unfold Form.readItem
    rw [hfield]
  have hsecondary : form.readSecondary = form'.readSecondary := by
    unfold Form.readSecondary Form.takeItem
    rw [hitem]
  unfold Form.readSecondaries
  rw [hsecondary, h.secondaries_eq]

theorem readInlineItem_eq (h : form.IsAlike form') : form.readInlineItem = form'.readInlineItem := by
  funext item
  unfold Form.readInlineItem
  rw [h.elementText_eq]

theorem readList_eq (h : form.IsAlike form') : form.readList = form'.readList := by
  funext question control groups
  unfold Form.readList
  rw [h.readInlineItem_eq]

theorem readMessage_eq (h : form.IsAlike form') : form.readMessage = form'.readMessage := by
  funext bind
  unfold Form.readMessage
  rw [h.attributeText_eq]

end Texts

section Nodes

theorem rootName_eq (h : form.IsAlike form') : form.rootName = form'.rootName := by
  unfold Form.rootName
  rw [h.instanceRoot_eq]

theorem kindOf_eq (h : form.IsAlike form') : form.kindOf = form'.kindOf := by
  funext element absolute
  have hrepeats := eq_of_map_ownPart Option.isSome (fun _ => Option.isSome_map)
    (h.repeats_eq absolute)
  have hgroup : (form.controls.get? absolute).any (·.localName == "group") =
      (form'.controls.get? absolute).any (·.localName == "group") := by
    rw [← any_localName_map_ownPart, h.controls_eq, any_localName_map_ownPart]
  unfold Form.kindOf OrderedMap.contains
  rw [hrepeats, hgroup]

theorem readHeader_eq (h : form.IsAlike form') : form.readHeader = form'.readHeader := by
  funext kind name absolute
  have hlabel := bind_eq_of_map_ownPart (find? · "label")
    (fun element => find?_ownPart element (Or.inl rfl)) (h.controls_eq absolute)
  have hhint := bind_eq_of_map_ownPart (find? · "hint")
    (fun element => find?_ownPart element (Or.inr rfl)) (h.controls_eq absolute)
  have happearance := bind_eq_of_map_ownPart (·.attribute? "appearance")
    (attribute?_ownPart · "appearance") (h.controls_eq absolute)
  have happearance' := bind_eq_of_map_ownPart (·.attribute? "appearance")
    (attribute?_ownPart · "appearance") (h.repeats_eq absolute)
  unfold Form.readHeader
  dsimp only
  rw [h.elementText_eq, hlabel, hhint]
  cases kind with
  | group => rw [if_neg (by simp), if_neg (by simp), happearance]
  | repeating => rw [if_pos rfl, if_pos rfl, happearance']

theorem control_eq_of_isSelect (h : form.IsAlike form') {absolute : String} {bind : Option Element}
    {type : QuestionType} (htype : questionType bind (form.controls.get? absolute) = .ok type)
    (hselect : type.isSelect = true) : form.controls.get? absolute = form'.controls.get? absolute := by
  have hown := h.controls_eq absolute
  cases hcontrol : form.controls.get? absolute with
  | none =>
    rw [hcontrol] at hown
    exact (Option.map_eq_none_iff.1 hown.symm).symm
  | some control =>
    rw [hcontrol] at htype hown
    obtain ⟨control', hcontrol', hown⟩ := Option.map_eq_some_iff.1 hown.symm
    have hplain : isBodyContainer control = false := by
      rw [← Bool.not_eq_true]
      intro hcontainer
      rw [isSelect_eq_false_of_container hcontainer htype] at hselect
      cases hselect
    have hplain' : isBodyContainer control' = false := by
      unfold isBodyContainer at hplain ⊢
      rw [← localName_ownPart control', hown, localName_ownPart]
      exact hplain
    rw [ownPart_of_not_container hplain, ownPart_of_not_container hplain'] at hown
    rw [hcontrol', hown]

theorem readQuestion_eq (h : form.IsAlike form') : form.readQuestion = form'.readQuestion := by
  funext name absolute element groups
  have htexts (control : Option Element) :
      form.readTexts control absolute = form'.readTexts control absolute := by
    unfold Form.readTexts
    rw [h.elementText_eq, h.idText_eq]
  have htype (bind : Option Element) :=
    eq_of_map_ownPart (questionType bind) (questionType_map_ownPart bind) (h.controls_eq absolute)
  have happearance := bind_eq_of_map_ownPart (·.attribute? "appearance")
    (attribute?_ownPart · "appearance") (h.controls_eq absolute)
  have htexts (control : Option Element) :
      form.readTexts control absolute = form'.readTexts control absolute := by
    unfold Form.readTexts
    rw [h.elementText_eq, h.idText_eq]
  have hshown := eq_of_map_ownPart (form'.readTexts · absolute)
    (readTexts_map_ownPart form' · absolute) (h.controls_eq absolute)
  unfold Form.readQuestion
  dsimp only
  rw [h.binds_eq, h.readList_eq, h.readMessage_eq, htype]
  cases hok : questionType (form'.binds.get? absolute) (form'.controls.get? absolute) with
  | error failure => rfl
  | ok type =>
    rw [← htype] at hok
    simp only [ok_bind, htexts]
    by_cases hselect : type.isSelect = true
    · rw [h.control_eq_of_isSelect hok hselect]
    · rw [if_neg hselect, if_neg hselect, happearance, hshown]

mutual

theorem readNode_eq (h : form.IsAlike form') (path : NodePath) (name : String) (findings : Findings)
    (element : Element) :
    form.readNode path name findings element = form'.readNode path name findings element := by
  obtain ⟨tag, attributes, text, children⟩ := element
  rw [Form.readNode, Form.readNode]
  dsimp only
  rw [h.rootName_eq, h.kindOf_eq, h.readQuestion_eq, h.readHeader_eq]
  simp only [h.binds_eq, readNodes_eq h path [] _ children]

theorem readNodes_eq (h : form.IsAlike form') (path : NodePath) (repeated : List String)
    (findings : Findings) (elements : List Element) :
    form.readNodes path repeated findings elements =
      form'.readNodes path repeated findings elements := by
  cases elements with
  | nil => rfl
  | cons element elements =>
    rw [Form.readNodes, Form.readNodes]
    dsimp only
    rw [h.rootName_eq, h.kindOf_eq, readNode_eq h _ _ findings element]
    simp only [readNodes_eq h path _ _ elements]

end

end Nodes

theorem read_eq (h : form.IsAlike form') (options : Options) :
    form.read options = form'.read options := by
  unfold Form.read
  rw [h.readSecondaries_eq, h.rootName_eq, h.instanceRoot_eq, h.settings_eq]
  simp only [h.readNodes_eq]

end Form.IsAlike

end Questionnaire.XForm
