import Questionnaire.Proofs.Survey.Assembly
import Questionnaire.Proofs.Survey.Formed
import Questionnaire.Proofs.XForm.Vocabulary
import Questionnaire.XForm.Reading

/-!
This module contains what is known of every survey that a form is read as.
-/

namespace Questionnaire

namespace Localized

theorem isTrimmed_empty : IsTrimmed empty := by
  intro entry hentry
  cases hentry

theorem IsTrimmed.insert {t : Localized} (h : t.IsTrimmed) {language value : String}
    (hvalue : Text.trim value = value) : (t.insert language value).IsTrimmed := by
  by_cases hempty : value = ""
  · unfold Localized.insert
    rw [dif_pos hempty]
    exact h
  · intro entry hentry
    rcases mem_entries_insert hentry with rfl | hentry
    · exact ⟨hempty, hvalue⟩
    · exact h entry hentry

theorem isTrimmed_plain {value : String} (h : Text.trim value = value) : (plain value).IsTrimmed :=
  isTrimmed_empty.insert h

end Localized

theorem Element.isTidy_of_content? {element : Element} {text : String}
    (h : element.content? = some text) : Text.IsTidy text := by
  obtain ⟨htext, hne⟩ := Option.filter_eq_some_iff.1 h
  obtain ⟨own, -, rfl⟩ := Option.map_eq_some_iff.1 htext
  exact ⟨by simpa using hne, Text.trim_trim own⟩

theorem Element.trim_getD_content? (element : Element) :
    Text.trim (element.content?.getD "") = element.content?.getD "" := by
  cases hcontent : element.content? with
  | none => rfl
  | some text => exact (isTidy_of_content? hcontent).trim_eq

namespace XForm

section Texts

theorem isTidy_of_textValue? {element : Element} {value : String}
    (h : textValue? element = some value) : Text.IsTidy value := by
  obtain ⟨found, -, hvalue⟩ := Option.bind_eq_some_iff.1 h
  exact Element.isTidy_of_content? hvalue

theorem isTidy_of_mem_textEntries {itext : Element} {entry : String × String × String}
    (h : entry ∈ textEntries itext) : Text.IsTidy entry.2.2 := by
  obtain ⟨translation, -, h⟩ := List.mem_flatMap.1 h
  obtain ⟨text, -, h⟩ := List.mem_filterMap.1 h
  obtain ⟨id, -, h⟩ := Option.bind_eq_some_iff.1 h
  obtain ⟨value, hvalue, h⟩ := Option.bind_eq_some_iff.1 h
  cases h
  exact isTidy_of_textValue? hvalue

def Form.HasTrimmedTexts (form : Form) : Prop :=
  ∀ entry ∈ form.texts.entries, entry.2.IsTrimmed

theorem isTrimmed_foldl_addText {entries : List (String × String × String)}
    (hentries : ∀ entry ∈ entries, Text.IsTidy entry.2.2) {texts : OrderedMap Localized}
    (htexts : ∀ entry ∈ texts.entries, entry.2.IsTrimmed) :
    ∀ entry ∈ (entries.foldl
      (fun texts (id, language, value) => addText texts id language value) texts).entries,
      entry.2.IsTrimmed := by
  induction entries generalizing texts with
  | nil => exact htexts
  | cons entry entries ih =>
    obtain ⟨id, language, value⟩ := entry
    apply ih fun entry hentry => hentries entry (List.mem_cons_of_mem _ hentry)
    have hold : ((texts.get? id).getD .empty).IsTrimmed := by
      cases hget : texts.get? id with
      | none => exact Localized.isTrimmed_empty
      | some text => exact htexts _ (OrderedMap.get?_eq_some_iff.1 hget)
    intro entry hentry
    rcases OrderedMap.mem_entries_insert hentry with rfl | hentry
    · exact hold.insert (hentries _ List.mem_cons_self).trim_eq
    · exact htexts entry hentry

theorem hasTrimmedTexts_ofElement {tree : Element} {form : Form}
    (h : Form.ofElement tree = .ok form) : form.HasTrimmedTexts := by
  unfold Form.ofElement at h
  split at h
  · cases h
  · obtain ⟨head, -, h⟩ := bind_eq_ok_iff.1 h
    obtain ⟨body, -, h⟩ := bind_eq_ok_iff.1 h
    obtain ⟨model, -, h⟩ := bind_eq_ok_iff.1 h
    dsimp only at h
    split at h
    · cases h
    · cases h
      apply isTrimmed_foldl_addText
      · intro entry hentry
        obtain ⟨itext, -, hentry⟩ := List.mem_flatMap.1 hentry
        exact isTidy_of_mem_textEntries hentry
      · simp [OrderedMap.empty]

variable {form : Form} {text : Localized}

theorem isTrimmed_attributeText (hform : form.HasTrimmedTexts) {value : String}
    (h : form.attributeText value = .ok text) : text.IsTrimmed := by
  unfold Form.attributeText at h
  split at h
  · cases h
    exact Localized.isTrimmed_plain (Text.trim_trim value)
  · split at h
    · next hget =>
      cases h
      exact hform _ (OrderedMap.get?_eq_some_iff.1 hget)
    · cases h

theorem isTrimmed_elementText (hform : form.HasTrimmedTexts) {element : Option Element}
    (h : form.elementText element = .ok text) : text.IsTrimmed := by
  unfold Form.elementText at h
  split at h
  · cases h
    exact Localized.isTrimmed_empty
  · next element =>
    split at h
    · exact isTrimmed_attributeText hform h
    · cases h
      cases hcontent : element.content? with
      | none => exact Localized.isTrimmed_empty
      | some value =>
        exact Localized.isTrimmed_plain (Element.isTidy_of_content? hcontent).trim_eq

theorem isTrimmed_idText (hform : form.HasTrimmedTexts) (id : String) :
    (form.idText id).IsTrimmed := by
  unfold Form.idText
  cases hget : form.texts.get? id with
  | none => exact Localized.isTrimmed_empty
  | some text => exact hform _ (OrderedMap.get?_eq_some_iff.1 hget)

theorem isTrimmed_readMessage (hform : form.HasTrimmedTexts) {bind : Option Element}
    (h : form.readMessage bind = .ok text) : text.IsTrimmed := by
  unfold Form.readMessage at h
  split at h
  · exact isTrimmed_attributeText hform h
  · cases h
    exact Localized.isTrimmed_empty

theorem isTrimmed_readTexts (hform : form.HasTrimmedTexts) {control : Option Element}
    {absolute : String} {hint : Localized} (h : form.readTexts control absolute = .ok (text, hint)) :
    text.IsTrimmed ∧ hint.IsTrimmed := by
  unfold Form.readTexts at h
  split at h
  · obtain ⟨label, hlabel, h⟩ := bind_eq_ok_iff.1 h
    obtain ⟨hint, hhint, h⟩ := bind_eq_ok_iff.1 h
    cases h
    exact ⟨isTrimmed_elementText hform hlabel, isTrimmed_elementText hform hhint⟩
  · cases h
    exact ⟨isTrimmed_idText hform _, isTrimmed_idText hform _⟩

end Texts

section Choices

variable {form : Form}

def IsFoundIn (_ : String) (choice : Choice) : Prop :=
  choice.IsFormed ∧ "itextId" ∉ choice.extras.keys

theorem isFound_setField (hform : form.HasTrimmedTexts) {list : String} {field : Element}
    {start next : Option String × Choice}
    (hname : ∀ name ∈ start.1, Text.trim name = name) (hstart : IsFoundIn list start.2)
    (h : form.setField start.1 start.2 field = .ok next) :
    (∀ name ∈ next.1, Text.trim name = name) ∧ IsFoundIn list next.2 := by
  obtain ⟨⟨htrim, hlabel, hextras⟩, hid⟩ := hstart
  have hvalue := Element.trim_getD_content? field
  unfold Form.setField at h
  dsimp only at h
  generalize field.content?.getD "" = value at h hvalue
  split at h
  · cases h
    refine ⟨?_, ⟨htrim, hlabel, hextras⟩, hid⟩
    intro name hmem
    cases hmem
    exact hvalue
  · cases h
    exact ⟨hname, ⟨htrim, Localized.isTrimmed_plain hvalue, hextras⟩, hid⟩
  · obtain ⟨label, hlabel', h⟩ := bind_eq_ok_iff.1 h
    cases h
    exact ⟨hname, ⟨htrim, isTrimmed_attributeText hform hlabel', hextras⟩, hid⟩
  · next hname' hlabel' hid' =>
    cases h
    refine ⟨hname, ⟨htrim, hlabel, ?_⟩, ?_⟩
    · intro entry hentry
      rcases OrderedMap.mem_entries_insert hentry with rfl | hentry
      · exact ⟨hname', hlabel', hvalue⟩
      · exact hextras entry hentry
    · intro hmem
      obtain ⟨entry, hentry, heq⟩ := List.mem_map.1 hmem
      rcases OrderedMap.mem_entries_insert hentry with rfl | hentry
      · exact hid' heq
      · exact hid (List.mem_map.2 ⟨entry, hentry, heq⟩)

theorem isFound_readItem (hform : form.HasTrimmedTexts) {list : String} {item : Element}
    {choice : Choice} (h : form.readItem list item = .ok choice) : IsFoundIn list choice := by
  unfold Form.readItem at h
  obtain ⟨⟨name, fields⟩, hfields, h⟩ := bind_eq_ok_iff.1 h
  have hfound : (∀ name' ∈ name, Text.trim name' = name') ∧ IsFoundIn list fields := by
    refine foldlM_invariant (p := fun (state : Option String × Choice) =>
      (∀ name ∈ state.1, Text.trim name = name) ∧ IsFoundIn list state.2) ?_ ?_ hfields
    · rintro state field state' ⟨hname, hstate⟩ hstep
      exact isFound_setField hform hname hstate hstep
    · refine ⟨by simp, ⟨rfl, Localized.isTrimmed_empty, ?_⟩, ?_⟩ <;>
        simp [OrderedMap.empty, OrderedMap.keys]
  dsimp only at h
  split at h
  · next name =>
    cases h
    exact ⟨⟨hfound.1 name rfl, hfound.2.1.label, hfound.2.1.extras⟩, hfound.2.2⟩
  · cases h

theorem gather_readSecondaries (hform : form.HasTrimmedTexts) {groups : ChoiceGroups}
    (h : form.readSecondaries = .ok groups) : groups.lists.Gather IsFoundIn := by
  unfold Form.readSecondaries at h
  refine foldlM_invariant (p := fun groups => groups.lists.Gather IsFoundIn) ?_
    ChoiceGroups.gather_empty h
  intro state element state' hstate hstep
  refine foldlM_invariant (p := fun groups => groups.lists.Gather IsFoundIn) ?_ hstate hstep
  intro state item state' hstate hstep
  obtain ⟨choice, hchoice, hstep⟩ := bind_eq_ok_iff.1 hstep
  cases hstep
  exact ChoiceGroups.gather_add hstate (isFound_readItem hform hchoice)

theorem isFound_readInlineItem (hform : form.HasTrimmedTexts) (list : String) {item : Element}
    {choice : Choice} (h : form.readInlineItem item = .ok choice) : IsFoundIn list choice := by
  unfold Form.readInlineItem at h
  split at h
  · cases h
  · next value hvalue =>
    obtain ⟨label, hlabel, h⟩ := bind_eq_ok_iff.1 h
    cases h
    obtain ⟨element, -, hcontent⟩ := Option.bind_eq_some_iff.1 hvalue
    refine ⟨⟨(Element.isTidy_of_content? hcontent).trim_eq, isTrimmed_elementText hform hlabel, ?_⟩,
      ?_⟩ <;> simp [OrderedMap.empty, OrderedMap.keys]

theorem mem_of_mem_unquotedBy? {quote c : Char} {cs cs' : List Char}
    (h : unquotedBy? quote cs = some cs') (hc : c ∈ cs') : c ∈ cs := by
  cases cs with
  | nil => cases h
  | cons first cs =>
    rw [unquotedBy?] at h
    split at h
    · cases h
      exact List.mem_cons_of_mem _ ((List.dropLast_sublist _).mem hc)
    · cases h

theorem mem_of_mem_unquoted? {c : Char} {cs : List Char} {text : String}
    (h : unquoted? cs = some text) (hc : c ∈ text.toList) : c ∈ cs := by
  unfold unquoted? at h
  obtain ⟨chars, hchars, rfl⟩ := Option.map_eq_some_iff.1 h
  rw [String.toList_ofList] at hc
  rcases Option.or_eq_some_iff.1 hchars with hchars | ⟨-, hchars⟩
  · exact mem_of_mem_unquotedBy? hchars hc
  · exact mem_of_mem_unquotedBy? hchars hc

theorem mem_of_mem_trimEnd_trimStart {c : Char} {cs : List Char}
    (h : c ∈ Text.trimEnd (Text.trimStart cs)) : c ∈ cs := by
  unfold Text.trimEnd at h
  have hstart := (List.dropWhile_sublist _).mem (List.mem_reverse.1 h)
  exact (List.dropWhile_sublist _).mem (List.mem_reverse.1 hstart)

theorem notMem_of_itemsetList? {reference list : String}
    (h : itemsetList? reference = some list) : ')' ∉ list.toList := by
  unfold itemsetList? at h
  obtain ⟨cs, -, h⟩ := Option.bind_eq_some_iff.1 h
  split at h
  · intro hmem
    have htaken := mem_of_mem_trimEnd_trimStart (mem_of_mem_unquoted? h hmem)
    simpa using List.mem_takeWhile_imp htaken
  · cases h

theorem gather_readList (hform : form.HasTrimmedTexts) {question : String}
    {control : Option Element} {groups groups' : ChoiceGroups} {list : Option String}
    (hgroups : groups.lists.Gather IsFoundIn)
    (h : form.readList question control groups = .ok (list, groups')) :
    groups'.lists.Gather IsFoundIn ∧ ∀ name ∈ list, name = question ∨ ')' ∉ name.toList := by
  unfold Form.readList at h
  split at h
  · cases h
    exact ⟨hgroups, by simp⟩
  · split at h
    · dsimp only at h
      split at h
      · next name hname =>
        cases h
        refine ⟨hgroups, ?_⟩
        intro name' hname'
        cases hname'
        exact Or.inr (notMem_of_itemsetList? hname)
      · cases h
    · split at h
      · cases h
        exact ⟨hgroups, by simp⟩
      · split at h
        · cases h
        · obtain ⟨groups', hitems, h⟩ := bind_eq_ok_iff.1 h
          cases h
          refine ⟨?_, by simp⟩
          refine foldlM_invariant (p := fun groups => groups.lists.Gather IsFoundIn) ?_ hgroups
            hitems
          intro state item state' hstate hstep
          obtain ⟨choice, hchoice, hstep⟩ := bind_eq_ok_iff.1 hstep
          cases hstep
          exact ChoiceGroups.gather_add hstate (isFound_readInlineItem hform question hchoice)

end Choices

section Questions

theorem types_inferred :
    (∀ type ∈ preloads.map Prod.fst ++ inputTypes.map Prod.snd ++
        [.image, .audio, .video, .file, .selectOne, .selectMultiple, .acknowledge, .note],
      type.isContainer = false ∧ type ≠ .calculate ∧ type ≠ .hidden) := by
  decide

theorem calculates_of_questionType {bind control : Option Element} {type : QuestionType}
    (h : questionType bind control = .ok type) :
    type.isContainer = false ∧
      (type = .calculate → bind.bind (·.attribute? "calculate") ≠ none) ∧
      (type = .hidden → bind.bind (·.attribute? "calculate") = none) := by
  have hinferred (hmem : type ∈ preloads.map Prod.fst ++ inputTypes.map Prod.snd ++
      [.image, .audio, .video, .file, .selectOne, .selectMultiple, .acknowledge, .note]) :
      type.isContainer = false ∧
        (type = .calculate → bind.bind (·.attribute? "calculate") ≠ none) ∧
        (type = .hidden → bind.bind (·.attribute? "calculate") = none) := by
    obtain ⟨hcontainer, hcalculate, hhidden⟩ := types_inferred type hmem
    exact ⟨hcontainer, fun heq => absurd heq hcalculate, fun heq => absurd heq hhidden⟩
  unfold questionType at h
  dsimp only at h
  split at h
  · split at h
    · next hpreload =>
      cases h
      obtain ⟨entry, hentry, rfl⟩ := Option.map_eq_some_iff.1 hpreload
      apply hinferred
      exact List.mem_append_left _ (List.mem_append_left _
        (List.mem_map_of_mem (List.mem_of_find?_eq_some hentry)))
    · cases h
  · split at h
    · cases h
      split
      · next hsome => exact ⟨rfl, fun _ => Option.isSome_iff_ne_none.1 hsome, nofun⟩
      · next hnone => exact ⟨rfl, nofun, fun _ => Option.not_isSome_iff_eq_none.1 hnone⟩
    · split at h
      · cases h
        exact hinferred (by decide)
      · cases h
        exact hinferred (by decide)
      · cases h
        apply hinferred
        unfold ofMediaType
        split <;> decide
      · cases h
        exact hinferred (by decide)
      · split at h
        · cases h
          exact hinferred (by decide)
        · split at h
          · next hinput =>
            cases h
            apply hinferred
            have hmem := OrderedMap.mem_of_lookup_eq_some hinput
            exact List.mem_append_left _ (List.mem_append_right _
              (List.mem_map.2 ⟨_, hmem, rfl⟩))
          · cases h
      · cases h

structure IsFoundQuestion (question : Question) (texts : ExpressionTexts) : Prop where
  colon_notMem : ':' ∉ question.name.toList
  label : question.label.IsTrimmed
  hint : question.hint.IsTrimmed
  constraintMessage : question.constraintMessage.IsTrimmed
  default : ∀ text ∈ question.default, Text.IsTidy text
  isContainer_eq : question.type.isContainer = false
  calculation_ne : question.type = .calculate → texts.calculation ≠ none
  calculation_eq : question.type = .hidden → texts.calculation = none
  list : ∀ list ∈ question.list,
    question.type.isSelect = true ∧ (list = question.name ∨ ')' ∉ list.toList)

structure IsFoundHeader (header : Header) : Prop where
  colon_notMem : ':' ∉ header.name.toList
  label : header.label.IsTrimmed
  hint : header.hint.IsTrimmed

variable {form : Form} {name absolute : String}

theorem readQuestion_eq_ok_iff {element : Element} {groups : ChoiceGroups}
    {result : Question × ExpressionTexts × ChoiceGroups} :
    form.readQuestion name absolute element groups = .ok result ↔
      let bind := form.binds.get? absolute
      let control := form.controls.get? absolute
      ∃ type, questionType bind control = .ok type ∧
      ∃ list, (if type.isSelect = true then form.readList name control groups
        else .ok (none, groups)) = .ok list ∧
      ∃ shown, form.readTexts control absolute = .ok shown ∧
      ∃ message, form.readMessage bind = .ok message ∧
      (.ok (
        { name, type, label := shown.1, hint := shown.2
          required := bind.bind (·.attribute? "required") == some alwaysTrue
          constraintMessage := message, default := element.content?
          appearance := control.bind (·.attribute? "appearance"), list := list.1 },
        ⟨bind.bind (·.attribute? "relevant"), bind.bind (·.attribute? "constraint"),
          bind.bind (·.attribute? "calculate")⟩, list.2) :
        Except Failure (Question × ExpressionTexts × ChoiceGroups)) = .ok result := by
  dsimp only
  simp only [← bind_eq_ok_iff]
  refine iff_of_eq (congrArg (· = Except.ok result) ?_)
  unfold Form.readQuestion
  refine congrArg _ (funext fun type => ?_)
  dsimp only
  by_cases hselect : type.isSelect = true
  · rw [if_pos hselect, if_pos hselect]
  · rw [if_neg hselect, if_neg hselect]

theorem isFound_readQuestion (hform : form.HasTrimmedTexts) (hname : ':' ∉ name.toList)
    {element : Element} {groups groups' : ChoiceGroups} {question : Question}
    {texts : ExpressionTexts} (hgroups : groups.lists.Gather IsFoundIn)
    (h : form.readQuestion name absolute element groups = .ok (question, texts, groups')) :
    question.name = name ∧ IsFoundQuestion question texts ∧ groups'.lists.Gather IsFoundIn := by
  obtain ⟨type, htype, ⟨list, groups''⟩, hlist, ⟨label, hint⟩, htexts, message, hmessage, heq⟩ :=
    readQuestion_eq_ok_iff.1 h
  cases heq
  obtain ⟨hcontainer, hcalculate, hhidden⟩ := calculates_of_questionType htype
  obtain ⟨hlabel, hhint⟩ := isTrimmed_readTexts hform htexts
  have hlist : groups''.lists.Gather IsFoundIn ∧ ∀ name' ∈ list,
      type.isSelect = true ∧ (name' = name ∨ ')' ∉ name'.toList) := by
    split at hlist
    · next hselect =>
      obtain ⟨hgroups, hnames⟩ := gather_readList hform hgroups hlist
      exact ⟨hgroups, fun name' hname' => ⟨hselect, hnames name' hname'⟩⟩
    · cases hlist
      exact ⟨hgroups, by simp⟩
  refine ⟨rfl, ?_, hlist.1⟩
  exact
    { colon_notMem := hname
      label := hlabel
      hint := hhint
      constraintMessage := isTrimmed_readMessage hform hmessage
      default := fun text htext => Element.isTidy_of_content? htext
      isContainer_eq := hcontainer
      calculation_ne := hcalculate
      calculation_eq := hhidden
      list := hlist.2 }

theorem isFound_readHeader (hform : form.HasTrimmedTexts) (hname : ':' ∉ name.toList)
    {kind : BlockKind} {header : Header} (h : form.readHeader kind name absolute = .ok header) :
    header.name = name ∧ IsFoundHeader header := by
  unfold Form.readHeader at h
  obtain ⟨label, hlabel, h⟩ := bind_eq_ok_iff.1 h
  obtain ⟨hint, hhint, h⟩ := bind_eq_ok_iff.1 h
  cases h
  exact ⟨rfl, hname, isTrimmed_elementText hform hlabel, isTrimmed_elementText hform hhint⟩

end Questions

section Nodes

variable {form : Form}

def foundRules : DraftRules where
  question := IsFoundQuestion
  header := fun header _ => IsFoundHeader header

section Spec

variable {path : NodePath} {name : String} {findings next : Findings} {draft : Draft}
  {element : Element}

theorem exists_of_readNode_question
    (hkind : form.kindOf element (NodePath.absolute form.rootName path) = .question)
    (h : form.readNode path name findings element = .ok (draft, next)) :
    ∃ symbols, findings.symbols.declare path .question = .ok symbols ∧
    ∃ question expressions groups, form.readQuestion name (NodePath.absolute form.rootName path)
        element findings.groups = .ok (question, expressions, groups) ∧
      draft = .question path (.ofNode name) question expressions ∧ next = ⟨symbols, groups⟩ := by
  obtain ⟨tag, attributes, text, children⟩ := element
  rw [Form.readNode] at h
  dsimp only at h
  rw [hkind] at h
  obtain ⟨symbols, hdeclare, h⟩ := bind_eq_ok_iff.1 h
  obtain ⟨⟨question, expressions, groups⟩, hquestion, h⟩ := bind_eq_ok_iff.1 h
  cases h
  exact ⟨symbols, placing_eq_ok_iff.1 hdeclare, question, expressions, groups,
    placing_eq_ok_iff.1 hquestion, rfl, rfl⟩

theorem exists_of_readNode_block {kind : BlockKind}
    (hkind : form.kindOf element (NodePath.absolute form.rootName path) = .block kind)
    (h : form.readNode path name findings element = .ok (draft, next)) :
    ∃ symbols, findings.symbols.declare path (.block kind) = .ok symbols ∧
    ∃ header, form.readHeader kind name (NodePath.absolute form.rootName path) = .ok header ∧
    ∃ drafts, form.readNodes path [] { findings with symbols } element.children =
        .ok (drafts, next) ∧
      draft = .block kind path (.ofNode name) header
        ((form.binds.get? (NodePath.absolute form.rootName path)).bind (·.attribute? "relevant"))
        drafts := by
  obtain ⟨tag, attributes, text, children⟩ := element
  rw [Form.readNode] at h
  dsimp only at h
  rw [hkind] at h
  obtain ⟨symbols, hdeclare, h⟩ := bind_eq_ok_iff.1 h
  obtain ⟨header, hheader, h⟩ := bind_eq_ok_iff.1 h
  obtain ⟨⟨drafts, findings'⟩, hdrafts, h⟩ := bind_eq_ok_iff.1 h
  cases h
  exact ⟨symbols, placing_eq_ok_iff.1 hdeclare, header, placing_eq_ok_iff.1 hheader, drafts,
    hdrafts, rfl⟩

end Spec

mutual

theorem follows_readNode (hform : form.HasTrimmedTexts) {path : NodePath} {name : String}
    (hname : ':' ∉ name.toList) {findings findings' : Findings} {draft : Draft} (element : Element)
    (hgroups : findings.groups.lists.Gather IsFoundIn)
    (h : form.readNode (NodePath.child path name) name findings element = .ok (draft, findings')) :
    draft.Follows foundRules path ∧
      findings.symbols.DeclaresAll draft.symbols findings'.symbols ∧
      findings'.groups.lists.Gather IsFoundIn := by
  cases hkind : form.kindOf element
    (NodePath.absolute form.rootName (NodePath.child path name)) with
  | question =>
    obtain ⟨symbols, hdeclare, question, expressions, groups, hquestion, rfl, rfl⟩ :=
      exists_of_readNode_question hkind h
    obtain ⟨rfl, hfound, hgroups⟩ := isFound_readQuestion hform hname hgroups hquestion
    exact ⟨⟨rfl, hfound⟩, ⟨symbols, hdeclare, rfl⟩, hgroups⟩
  | block kind =>
    obtain ⟨symbols, hdeclare, header, hheader, drafts, hdrafts, rfl⟩ :=
      exists_of_readNode_block hkind h
    obtain ⟨rfl, hfound⟩ := isFound_readHeader hform hname hheader
    obtain ⟨tag, attributes, text, children⟩ := element
    have hinner : ({ findings with symbols } : Findings).groups.lists.Gather IsFoundIn := hgroups
    obtain ⟨hfollow, hdeclares, hgroups⟩ := follows_readNodes hform children hinner hdrafts
    exact ⟨⟨rfl, hfound, hfollow⟩, ⟨symbols, hdeclare, hdeclares⟩, hgroups⟩

theorem follows_readNodes (hform : form.HasTrimmedTexts) {path : NodePath} {repeated : List String}
    {findings findings' : Findings} {drafts : List Draft} (elements : List Element)
    (hgroups : findings.groups.lists.Gather IsFoundIn)
    (h : form.readNodes path repeated findings elements = .ok (drafts, findings')) :
    Draft.AllFollow foundRules path drafts ∧
      findings.symbols.DeclaresAll (Draft.symbolsAll drafts) findings'.symbols ∧
      findings'.groups.lists.Gather IsFoundIn := by
  cases elements with
  | nil =>
    cases h
    exact ⟨trivial, rfl, hgroups⟩
  | cons element elements =>
    rw [Form.readNodes] at h
    dsimp only at h
    split at h
    · exact follows_readNodes hform elements hgroups h
    · obtain ⟨⟨draft, next⟩, hdraft, h⟩ := bind_eq_ok_iff.1 h
      obtain ⟨⟨drafts, findings'⟩, hdrafts, h⟩ := bind_eq_ok_iff.1 h
      cases h
      obtain ⟨hfollows, hdeclares, hgroups⟩ := follows_readNode hform
        (Element.colon_notMem_localPart element.tag) element hgroups hdraft
      obtain ⟨hfollow, hdeclares', hgroups⟩ := follows_readNodes hform elements hgroups hdrafts
      exact ⟨⟨hfollows, hfollow⟩,
        SymbolTable.declaresAll_append.2 ⟨_, hdeclares, hdeclares'⟩, hgroups⟩

end

end Nodes

structure IsFound (survey : Survey) (table : SymbolTable) : Prop
    extends Survey.IsFormed survey table where
  colon_notMem : ∀ located ∈ survey.nodes, ':' ∉ located.node.name.toList
  named : ∀ located ∈ survey.nodes, ∀ question ∈ located.node.question?,
    ∀ list ∈ question.list, list = question.name ∨ ')' ∉ list.toList
  extras : ∀ entry ∈ survey.lists.entries, ∀ choice ∈ entry.2.choices,
    "itextId" ∉ choice.extras.keys
  compiled : ∀ located ∈ survey.nodes, ∀ expression ∈ located.node.expressions,
    ∃ text, Expression.compileTree table text located.path = .ok expression

theorem isFormed_of_isCompiledFrom {table : SymbolTable} {located : LocatedNode}
    (h : located.IsCompiledFrom foundRules (Expression.compileTree table)) :
    located.node.IsFormed ∧ ':' ∉ located.node.name.toList ∧
      ∀ question ∈ located.node.question?, ∀ list ∈ question.list,
        list = question.name ∨ ')' ∉ list.toList := by
  cases h with
  | @question path asked texts relevant constraint calculation hasked hrelevant hconstraint
      hcalculation =>
    have hfound : IsFoundQuestion asked texts := hasked
    have hnone := Draft.eq_none_iff_of_compile? hcalculation
    refine ⟨?_, hfound.colon_notMem, ?_⟩
    · exact
        { label := hfound.label
          hint := hfound.hint
          constraintMessage := hfound.constraintMessage
          default := hfound.default
          isContainer_eq := hfound.isContainer_eq
          calculation_ne := fun htype heq => hfound.calculation_ne htype (hnone.1 heq)
          calculation_eq := fun htype => hnone.2 (hfound.calculation_eq htype)
          list := fun list hlist => (hfound.list list hlist).1 }
    · intro question hquestion list hlist
      cases hquestion
      exact (hfound.list list hlist).2
  | @block path kind header text relevant children hheader hrelevant =>
    have hfound : IsFoundHeader header := hheader
    refine ⟨⟨⟨kind, rfl⟩, hfound.label, hfound.hint⟩, hfound.colon_notMem, ?_⟩
    intro question hquestion
    cases hquestion

theorem areFormed_of_gather {lists : ChoiceLists} (h : lists.Gather IsFoundIn) : lists.AreFormed where
  keys := h.keys
  lists := fun entry hentry =>
    { choices_ne := h.choices_ne entry hentry
      choices := fun choice hchoice => (h.choices entry hentry choice hchoice).1 }

def Form.drafting (form : Form) : Except Failure Drafting := do
  let groups ← form.readSecondaries
  let (drafts, findings) ← form.readNodes [] [] ⟨.empty form.rootName, groups⟩
    form.instanceRoot.children
  let draft : SurveyDraft := { place := {}, header := { name := form.rootName }, children := drafts }
  .ok ⟨draft, findings.symbols, findings.groups.lists, form.settings, findings.groups.warnings⟩

def drafting (tree : Element) : Except Failure Drafting := do
  let form ← Form.ofElement tree
  form.drafting

variable {tree : Element} {options : Options} {drafting : Drafting} {reading : Reading}

theorem read_eq_ok (h : read tree options = .ok reading) :
    ∃ drafting, XForm.drafting tree = .ok drafting ∧
      drafting.finish (Expression.compileTree drafting.symbols) options = .ok reading := by
  unfold read at h
  split at h
  · next hread =>
    cases h
    obtain ⟨form, hform, hread⟩ := bind_eq_ok_iff.1 hread
    obtain ⟨groups, hgroups, hread⟩ := bind_eq_ok_iff.1 hread
    obtain ⟨⟨drafts, findings⟩, hdrafts, hread⟩ := bind_eq_ok_iff.1 hread
    refine
      ⟨⟨{ place := {}, header := { name := form.rootName }, children := drafts }, findings.symbols,
        findings.groups.lists, form.settings, findings.groups.warnings⟩, ?_, hread⟩
    unfold XForm.drafting Form.drafting
    rw [hform, ok_bind, hgroups, ok_bind, hdrafts, ok_bind]
  · cases h

theorem isSound_drafting (h : XForm.drafting tree = .ok drafting) :
    drafting.IsSound foundRules IsFoundIn ∧
      ∀ text ∈ drafting.settings.title, Text.IsTidy text := by
  obtain ⟨form, hform, h⟩ := bind_eq_ok_iff.1 h
  obtain ⟨groups, hgroups, h⟩ := bind_eq_ok_iff.1 h
  obtain ⟨⟨drafts, findings⟩, hdrafts, h⟩ := bind_eq_ok_iff.1 h
  cases h
  have hform := hasTrimmedTexts_ofElement hform
  obtain ⟨hfollow, hdeclares, hgathered⟩ :=
    follows_readNodes hform _ (gather_readSecondaries hform hgroups) hdrafts
  have hroot : findings.symbols.root = form.rootName := by
    rw [SymbolTable.eq_of_declaresAll hdeclares]
    rfl
  dsimp only at hdeclares
  rw [← hroot] at hdeclares
  refine ⟨⟨?_, rfl, hfollow, hdeclares, hgathered⟩, ?_⟩
  · dsimp only
    rw [hroot]
  · intro text htext
    obtain ⟨element, -, hcontent⟩ := Option.bind_eq_some_iff.1 htext
    exact Element.isTidy_of_content? hcontent

theorem isFound_read (h : read tree options = .ok reading) :
    ∃ table, IsFound reading.survey table := by
  obtain ⟨drafting, hdrafting, hfinish⟩ := read_eq_ok h
  obtain ⟨hsound, htitle⟩ := isSound_drafting hdrafting
  have hassemble := Drafting.finish_eq_ok hfinish
  have hcompiled := hsound.isCompiledFrom hassemble
  obtain ⟨children, -, heq⟩ := hsound.survey_eq hassemble
  refine ⟨drafting.symbols, ?_⟩
  rw [heq] at hcompiled ⊢
  have hnodes := fun located hlocated =>
    isFormed_of_isCompiledFrom (hcompiled.nodes located hlocated)
  exact
    { symbols_eq := hcompiled.symbols_eq
      header_eq := rfl
      title := htitle
      nodes := fun located hlocated => (hnodes located hlocated).1
      lists := areFormed_of_gather hsound.lists
      offers := hcompiled.offers
      colon_notMem := fun located hlocated => (hnodes located hlocated).2.1
      named := fun located hlocated => (hnodes located hlocated).2.2
      extras := fun entry hentry choice hchoice =>
        (hsound.lists.choices entry hentry choice hchoice).2
      compiled := fun located hlocated =>
        Draft.exists_text_of_isCompiledFrom (hcompiled.nodes located hlocated) }

end XForm

end Questionnaire
