import Questionnaire.Proofs.Sheet.Choices
import Questionnaire.Proofs.XForm.Questions

/-!
This module contains the reading of the secondary instances: the used lists of a survey are read
back with all their choices, in their order.
-/

namespace Questionnaire.XForm

variable {survey : Survey} {table : SymbolTable} {form : Form} {localized : Bool}

theorem isBlank_eq_false_of_isDigit {c : Char} (h : c.isDigit = true) :
    Text.isBlank c = false := by
  have hall : ∀ code ∈ Text.blanks.codes, ¬ (48 ≤ code ∧ code ≤ 57) := by
    decide +kernel
  rw [Bool.eq_false_iff]
  intro hblank
  apply hall c.toNat (CharClass.mem_codes_of_containsCode hblank)
  simpa [Char.isDigit, UInt32.le_iff_toNat_le] using h

theorem trim_choiceId {list : String} (h : ∀ c ∈ list.toList.head?, Text.isBlank c = false)
    (index : Nat) : Text.trim (choiceId list index) = choiceId list index := by
  obtain ⟨c, hc, hdigit⟩ := isDigit_getLast?_choiceId list index
  apply Text.trim_eq_self
  · intro d hd
    unfold choiceId at hd
    rw [String.append_assoc, String.toList_append] at hd
    cases hlist : list.toList with
    | nil =>
      rw [hlist, String.toList_append] at hd
      have hdash : d = '-' := by simpa using hd.symm
      rw [hdash]
      decide
    | cons first chars =>
      rw [hlist] at h hd
      cases hd
      exact h d rfl
  · intro d hd
    rw [hc] at hd
    cases hd
    exact isBlank_eq_false_of_isDigit hdigit

theorem getD_content?_textElement (tag text : String) :
    (textElement tag text).content?.getD "" = Text.trim text := by
  unfold Element.content? textElement
  rw [Option.map_some]
  by_cases hempty : Text.trim text = ""
  · rw [hempty]
    rfl
  · simp [Option.filter, hempty]

namespace Form

def setFields (form : Form) (start : Option String × Choice) (fields : List Element) :
    Except Failure (Option String × Choice) :=
  fields.foldlM (fun (name, choice) field => form.setField name choice field) start

theorem setFields_cons {name : Option String} {choice : Choice} {field : Element}
    {fields : List Element} {next : Option String × Choice}
    (h : form.setField name choice field = .ok next) :
    form.setFields (name, choice) (field :: fields) = form.setFields next fields := by
  unfold setFields
  rw [List.foldlM_cons]
  dsimp only
  rw [h, ok_bind]

theorem setFields_append {start next : Option String × Choice} {fields fields' : List Element}
    (h : form.setFields start fields = .ok next) :
    form.setFields start (fields ++ fields') = form.setFields next fields' := by
  unfold setFields at *
  rw [List.foldlM_append, h, ok_bind]

end Form

theorem setField_extra {column value : String} (hname : column ≠ "name") (hlabel : column ≠ "label")
    (hid : column ≠ "itextId") (hvalue : Text.trim value = value) (name : Option String)
    (choice : Choice) :
    form.setField name choice (textElement column value) =
      .ok (name, { choice with extras := choice.extras.insert column value }) := by
  unfold Form.setField
  rw [getD_content?_textElement, hvalue]
  dsimp only [textElement]
  split
  · exact absurd rfl hname
  · exact absurd rfl hlabel
  · exact absurd rfl hid
  · rfl

theorem setField_name {value : String} (hvalue : Text.trim value = value) (name : Option String)
    (choice : Choice) :
    form.setField name choice (textElement "name" value) = .ok (some value, choice) := by
  unfold Form.setField
  rw [getD_content?_textElement, hvalue]
  rfl

theorem setField_itextId (value : String) (name : Option String) (choice : Choice) :
    form.setField name choice (textElement "itextId" value) =
      form.attributeText (itextReference (Text.trim value)) >>= fun label =>
        .ok (name, { choice with label }) := by
  unfold Form.setField
  rw [getD_content?_textElement]
  rfl

theorem setFields_itemLabel {list : String} {index : Nat} {choice : Choice}
    (h : Shows form localized (Text.trim (choiceId list index)) choice.label) (name : Option String)
    (start : Choice) (hstart : start.label = .empty) :
    form.setFields (name, start) (itemLabel localized list index choice) =
      .ok (name, { start with label := choice.label }) := by
  unfold itemLabel
  -- An empty label has no element, and leaves the label empty that is there at the start.
  split
  · next hempty =>
    rw [Localized.eq_empty hempty, ← hstart]
    rfl
  · next hempty =>
    have hshows := h (Bool.eq_false_iff.2 hempty)
    split
    · next hlocalized =>
      rw [if_pos hlocalized] at hshows
      apply Form.setFields_cons
      rw [setField_itextId, attributeText_itextReference_iff.2 hshows, ok_bind]
    · next hlocalized =>
      rw [if_neg hlocalized] at hshows
      obtain ⟨value, hvalue, heq, htidy⟩ := hshows
      rw [hvalue]
      apply Form.setFields_cons
      unfold Form.setField
      rw [content?_textElement htidy, Option.getD_some, heq]
      rfl

theorem setFields_extras (form : Form) {entries : List (String × String)}
    (h : ∀ entry ∈ entries,
      entry.1 ≠ "name" ∧ entry.1 ≠ "label" ∧ Text.trim entry.2 = entry.2)
    (hid : ∀ entry ∈ entries, entry.1 ≠ "itextId") (name : Option String) (choice : Choice) :
    form.setFields (name, choice)
        (entries.map fun (column, value) => textElement column value) =
      .ok (name, { choice with extras := choice.extras.insertAll entries }) := by
  induction entries generalizing choice with
  | nil => rfl
  | cons entry entries ih =>
    obtain ⟨column, value⟩ := entry
    obtain ⟨hname, hlabel, hvalue⟩ := h _ List.mem_cons_self
    have hfield : form.setField name choice (textElement column value) =
        .ok (name, { choice with extras := choice.extras.insert column value }) :=
      setField_extra hname hlabel (hid _ List.mem_cons_self) hvalue name choice
    rw [List.map_cons, Form.setFields_cons hfield]
    exact ih (fun entry hentry => h entry (List.mem_cons_of_mem _ hentry))
      (fun entry hentry => hid entry (List.mem_cons_of_mem _ hentry)) _

theorem setFields_item {list : String} {index : Nat} {choice : Choice} (hchoice : choice.IsFormed)
    (hid : "itextId" ∉ choice.extras.keys) {label : Localized}
    (h : form.setFields (some choice.name, ⟨"", .empty, .empty⟩)
      (itemLabel localized list index choice) = .ok (some choice.name, ⟨"", label, .empty⟩)) :
    form.setFields (none, ⟨"", .empty, .empty⟩) (item localized list index choice).children =
      .ok (some choice.name, ⟨"", label, choice.extras⟩) := by
  have hextras := setFields_extras form hchoice.extras
    (fun entry hentry heq => hid (heq ▸ List.mem_map_of_mem hentry)) (some choice.name)
    ⟨"", label, .empty⟩
  unfold item
  dsimp only
  rw [List.cons_append, Form.setFields_cons (setField_name hchoice.name none _),
    Form.setFields_append h, hextras]
  dsimp only
  rw [show OrderedMap.empty.insertAll choice.extras.entries = choice.extras from
    OrderedMap.ofList_entries choice.extras]

theorem readItem_written {list : String} {index : Nat} {choice : Choice}
    (hchoice : choice.IsFormed) (hid : "itextId" ∉ choice.extras.keys)
    (h : Shows form localized (Text.trim (choiceId list index)) choice.label) :
    form.readItem list (item localized list index choice) = .ok choice := by
  have hfields := setFields_item hchoice hid
    (setFields_itemLabel h (some choice.name) ⟨"", .empty, .empty⟩ rfl)
  unfold Form.setFields at hfields
  unfold Form.readItem
  rw [hfields, ok_bind]

theorem get?_texts_of_readItem {list : String} {index : Nat} {choice found : Choice}
    (hchoice : choice.IsFormed) (hid : "itextId" ∉ choice.extras.keys)
    (hempty : choice.label.isEmpty = false)
    (h : form.readItem list (item true list index choice) = .ok found) :
    form.texts.get? (Text.trim (choiceId list index)) = some found.label := by
  have hlabel : itemLabel true list index choice =
      [textElement "itextId" (choiceId list index)] := by
    unfold itemLabel
    rw [if_neg (Bool.eq_false_iff.1 hempty), if_pos rfl]
  cases htext : form.attributeText (itextReference (Text.trim (choiceId list index))) with
  | ok label =>
    have hfields : form.setFields (none, ⟨"", .empty, .empty⟩)
        (item true list index choice).children =
          .ok (some choice.name, ⟨"", label, choice.extras⟩) := by
      apply setFields_item hchoice hid
      rw [hlabel]
      apply Form.setFields_cons
      rw [setField_itextId, htext, ok_bind]
    unfold Form.setFields at hfields
    unfold Form.readItem at h
    rw [hfields, ok_bind] at h
    cases h
    exact attributeText_itextReference_iff.1 htext
  | error failure =>
    -- The item is refused with the reference.
    unfold Form.readItem item at h
    dsimp only at h
    rw [hlabel, List.cons_append, List.foldlM_cons] at h
    dsimp only at h
    rw [setField_name hchoice.name, ok_bind, List.singleton_append, List.foldlM_cons] at h
    dsimp only at h
    rw [setField_itextId, htext] at h
    cases h

theorem itemsOf_secondaryInstance (localized : Bool) (list : ChoiceList) :
    itemsOf (secondaryInstance localized list) =
      list.choices.zipIdx.map fun (choice, index) => item localized list.name index choice := by
  unfold itemsOf secondaryInstance findAll
  dsimp only [List.head?_cons, Option.map_some, Option.getD_some]
  rw [List.filter_eq_self, List.forall_mem_map]
  intro choice hchoice
  rw [beq_iff_eq]
  exact Element.localName_eq rfl (by decide)

theorem foldlM_takeItem_eq_ok_iff {list : String} {items : List Element}
    {groups groups' : ChoiceGroups} :
    items.foldlM (form.takeItem list) groups = .ok groups' ↔
      ∃ choices, items.Forall₂ (fun item choice => form.readItem list item = .ok choice) choices ∧
        groups' = groups.addAll (choices.map (ChoiceRow.mk list)) := by
  induction items generalizing groups with
  | nil =>
    constructor
    · intro h
      cases h
      exact ⟨[], .nil, rfl⟩
    · rintro ⟨choices, hchoices, rfl⟩
      cases hchoices
      rfl
  | cons item items ih =>
    rw [List.foldlM_cons]
    unfold Form.takeItem
    simp only [bind_eq_ok_iff]
    constructor
    · rintro ⟨next, ⟨choice, hchoice, hnext⟩, h⟩
      cases hnext
      obtain ⟨choices, hchoices, rfl⟩ := ih.1 h
      exact ⟨choice :: choices, .cons hchoice hchoices, rfl⟩
    · rintro ⟨choices, hchoices, rfl⟩
      cases hchoices with
      | cons hchoice hchoices => exact ⟨_, ⟨_, hchoice, rfl⟩, ih.2 ⟨_, hchoices, rfl⟩⟩

structure IsReadFrom (form : Form) (localized : Bool) (list found : ChoiceList) : Prop where
  name_eq : found.name = list.name
  choices : list.choices.zipIdx.Forall₂ (fun pair choice =>
    form.readItem list.name (item localized list.name pair.2 pair.1) = .ok choice) found.choices

namespace IsReadFrom

variable {list found : ChoiceList}

theorem length_eq (h : IsReadFrom form localized list found) :
    list.choices.length = found.choices.length := by
  rw [← h.choices.length_eq, List.length_zipIdx]

theorem choices_ne (h : IsReadFrom form localized list found) (hne : list.choices ≠ []) :
    found.choices ≠ [] := by
  intro hnil
  have hlength := h.length_eq
  rw [hnil, List.length_nil, List.length_eq_zero_iff] at hlength
  exact hne hlength

end IsReadFrom

theorem readSecondary_eq_ok_iff {list : ChoiceList} {groups groups' : ChoiceGroups} :
    form.readSecondary groups (secondaryInstance localized list) = .ok groups' ↔
      ∃ found, IsReadFrom form localized list found ∧
        groups' = groups.addAll (ChoiceGroups.rowsOf found) := by
  unfold Form.readSecondary
  rw [itemsOf_secondaryInstance]
  constructor
  · intro h
    obtain ⟨choices, hchoices, rfl⟩ := foldlM_takeItem_eq_ok_iff.1 h
    exact ⟨⟨list.name, choices⟩, ⟨rfl, List.forall₂_map_left_iff.1 hchoices⟩, rfl⟩
  · rintro ⟨⟨name, choices⟩, ⟨rfl, hchoices⟩, rfl⟩
    exact foldlM_takeItem_eq_ok_iff.2 ⟨choices, List.forall₂_map_left_iff.2 hchoices, rfl⟩

theorem foldlM_readSecondary_eq_ok_iff {lists : List ChoiceList} {groups groups' : ChoiceGroups} :
    (lists.map (secondaryInstance localized)).foldlM form.readSecondary groups = .ok groups' ↔
      ∃ founds, lists.Forall₂ (IsReadFrom form localized) founds ∧
        groups' = groups.addAll (founds.flatMap ChoiceGroups.rowsOf) := by
  induction lists generalizing groups with
  | nil =>
    constructor
    · intro h
      cases h
      exact ⟨[], .nil, rfl⟩
    · rintro ⟨founds, hfounds, rfl⟩
      cases hfounds
      rfl
  | cons list lists ih =>
    rw [List.map_cons, List.foldlM_cons, bind_eq_ok_iff]
    constructor
    · rintro ⟨next, hnext, h⟩
      obtain ⟨found, hfound, rfl⟩ := readSecondary_eq_ok_iff.1 hnext
      obtain ⟨founds, hfounds, rfl⟩ := ih.1 h
      exact ⟨found :: founds, .cons hfound hfounds, by
        rw [List.flatMap_cons, ChoiceGroups.addAll_append]⟩
    · rintro ⟨founds, hfounds, rfl⟩
      cases hfounds with
      | cons hfound hfounds =>
        refine ⟨_, readSecondary_eq_ok_iff.2 ⟨_, hfound, rfl⟩, ih.2 ⟨_, hfounds, ?_⟩⟩
        rw [List.flatMap_cons, ChoiceGroups.addAll_append]

theorem isReadFrom_self (h : IsPlaced survey table) {list : ChoiceList}
    (hlist : list ∈ survey.usedLists) (hlabels : NamesLabels survey list)
    (hextras : ∀ choice ∈ list.choices, "itextId" ∉ choice.extras.keys) :
    IsReadFrom (partsOf survey) (isLocalized survey) list list where
  name_eq := rfl
  choices := by
    have hformed := h.isFormed_of_mem_usedLists list hlist
    have hitems : List.Forall₂
        (fun pair choice => (partsOf survey).readItem list.name
          (item (isLocalized survey) list.name pair.2 pair.1) = .ok choice)
        list.choices.zipIdx (list.choices.zipIdx.map Prod.fst) := by
      rw [List.forall₂_map_right_iff, List.forall₂_same]
      rintro ⟨choice, index⟩ hchoice
      have hmem := List.fst_mem_of_mem_zipIdx hchoice
      exact readItem_written (hformed.choices choice hmem) (hextras choice hmem)
        (shows_choiceLabel h hlist hlabels hchoice)
    rw [List.zipIdx_map_fst] at hitems
    exact hitems

theorem readSecondary_restores_iff (h : IsPlaced survey table) {list : ChoiceList}
    (hlist : list ∈ survey.usedLists) (hlabels : NamesLabels survey list) {groups : ChoiceGroups}
    (hnew : list.name ∉ groups.lists.keys) :
    (∃ groups', (partsOf survey).readSecondary groups
        (secondaryInstance (isLocalized survey) list) = .ok groups' ∧
      groups'.lists.entries = groups.lists.entries ++ [(list.name, list)]) ↔
        ∀ choice ∈ list.choices, "itextId" ∉ choice.extras.keys := by
  have hne := (h.isFormed_of_mem_usedLists list hlist).choices_ne
  constructor
  · rintro ⟨groups', hread, hentries⟩
    obtain ⟨found, hfound, rfl⟩ := readSecondary_eq_ok_iff.1 hread
    -- The choices that were read are those of the list, and none of them has such a column.
    have hlast := ChoiceGroups.entries_addAll_rowsOf (hfound.name_eq ▸ hnew) (hfound.choices_ne hne)
    have hentry := List.append_cancel_left (hentries.symm.trans hlast)
    rw [List.singleton_inj, Prod.mk.injEq] at hentry
    intro choice hchoice
    rw [hentry.2] at hchoice
    obtain ⟨pair, -, hitem⟩ := exists_mem_of_forall₂ hfound.choices.flip choice hchoice
    exact (isFound_readItem (hasTrimmedTexts_ofElement (ofElement_ofSurvey survey)) hitem).2
  · intro hextras
    exact ⟨_, readSecondary_eq_ok_iff.2 ⟨list, isReadFrom_self h hlist hlabels hextras, rfl⟩,
      ChoiceGroups.entries_addAll_rowsOf hnew hne⟩

theorem names_eq_of_isReadFrom {lists founds : List ChoiceList}
    (h : lists.Forall₂ (IsReadFrom form localized) founds) :
    founds.map ChoiceList.name = lists.map ChoiceList.name := by
  have hnames : List.Forall₂ Eq (founds.map ChoiceList.name) (lists.map ChoiceList.name) := by
    rw [List.forall₂_map_left_iff, List.forall₂_map_right_iff]
    exact h.flip.imp fun found list hfrom => hfrom.name_eq
  rwa [List.forall₂_eq_eq_eq] at hnames

theorem entries_addAll_of_isReadFrom (h : IsPlaced survey table) {founds : List ChoiceList}
    (hfounds : survey.usedLists.Forall₂ (IsReadFrom form localized) founds) :
    (({} : ChoiceGroups).addAll (founds.flatMap ChoiceGroups.rowsOf)).lists.entries =
      founds.map fun list => (list.name, list) := by
  rw [ChoiceGroups.entries_addAll_flatMap]
  · rfl
  · rw [names_eq_of_isReadFrom hfounds]
    exact Survey.nodup_usedLists h.lists.keys
  · intro found hfound
    obtain ⟨list, hlist, hfrom⟩ := exists_mem_of_forall₂ hfounds.flip found hfound
    exact hfrom.choices_ne (h.isFormed_of_mem_usedLists list hlist).choices_ne

theorem readSecondaries_written (h : IsPlaced survey table)
    (hlabels : ∀ list ∈ survey.usedLists, NamesLabels survey list)
    (hextras : ∀ list ∈ survey.usedLists, ∀ choice ∈ list.choices,
      "itextId" ∉ choice.extras.keys) :
    ∃ groups, (partsOf survey).readSecondaries = .ok groups ∧
      groups.lists.entries = survey.namedEntries := by
  have hfounds : survey.usedLists.Forall₂ (IsReadFrom (partsOf survey) (isLocalized survey))
      survey.usedLists := by
    rw [List.forall₂_same]
    intro list hlist
    exact isReadFrom_self h hlist (hlabels list hlist) (hextras list hlist)
  exact ⟨_, foldlM_readSecondary_eq_ok_iff.2 ⟨survey.usedLists, hfounds, rfl⟩,
    entries_addAll_of_isReadFrom h hfounds⟩

end Questionnaire.XForm
