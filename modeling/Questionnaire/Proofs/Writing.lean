import Questionnaire.Proofs.Source
import Questionnaire.Proofs.Survey.Identity
import Questionnaire.Proofs.XForm.Sections

/-!
This module contains what similar surveys are written to: the same workbook and the same form, but for
the order of lists and of the further columns of choices.
-/

namespace Questionnaire

/--
Whether lists have the same items, in the same order but for the items with a name among `names`.
-/
def EqualBut {α : Type} (name : α → String) (names : List String) (xs ys : List α) : Prop :=
  xs.Perm ys ∧ xs.filter (fun x => name x ∉ names) = ys.filter fun y => name y ∉ names

structure Element.EqualBut (tags : List String) (a b : Element) : Prop where
  tag_eq : a.tag = b.tag
  attributes_eq : a.attributes = b.attributes
  text_eq : a.text = b.text
  children : Questionnaire.EqualBut Element.tag tags a.children b.children

structure ChoiceList.IsWrittenAs (localized : Bool) (a b : ChoiceList) : Prop where
  name_eq : a.name = b.name
  rows : a.choices.Forall₂ (fun choice choice' =>
    EqualBut Prod.fst choice.extras.keys (Survey.choiceRow a.name choice).entries
      (Survey.choiceRow b.name choice').entries) b.choices
  items : a.choices.zipIdx.Forall₂ (fun choice choice' =>
    Element.EqualBut choice.1.extras.keys (XForm.item localized a.name choice.2 choice.1)
      (XForm.item localized b.name choice'.2 choice'.1)) b.choices.zipIdx
  texts_eq : XForm.listTexts a = XForm.listTexts b

section Lists

theorem Choice.IsSame.perm_extras {a b : Choice} (h : a.IsSame b) :
    a.extras.entries.Perm b.extras.entries :=
  OrderedMap.perm_of_get?_eq h.get?_eq

theorem Choice.mem_keys_extras (choice : Choice) :
    ∀ entry ∈ choice.extras.entries, entry.1 ∈ choice.extras.keys :=
  fun _ hentry => List.mem_map_of_mem hentry

theorem Choice.IsSame.mem_keys_extras {a b : Choice} (h : a.IsSame b) :
    ∀ entry ∈ b.extras.entries, entry.1 ∈ a.extras.keys := by
  intro entry hentry
  exact List.mem_map_of_mem (h.perm_extras.mem_iff.2 hentry)

theorem Survey.equalBut_choiceRow {a b : Choice} (h : a.IsSame b) (list : String) :
    EqualBut Prod.fst a.extras.keys (choiceRow list a).entries (choiceRow list b).entries := by
  unfold choiceRow
  rw [OrderedMap.ofList_append _ a.extras.entries, OrderedMap.ofList_append _ b.extras.entries,
    h.name_eq, h.label_eq]
  constructor
  · exact OrderedMap.perm_insertAll a.extras.nodup h.perm_extras _
  · rw [OrderedMap.filter_insertAll a.mem_keys_extras,
      OrderedMap.filter_insertAll h.mem_keys_extras]

theorem XForm.equalBut_item {a b : Choice} (h : a.IsSame b) (localized : Bool) (list : String)
    (index : Nat) :
    Element.EqualBut a.extras.keys (item localized list index a) (item localized list index b) := by
  have hlabel : itemLabel localized list index a = itemLabel localized list index b := by
    unfold itemLabel
    rw [h.label_eq]
  unfold item
  rw [hlabel, h.name_eq]
  refine ⟨rfl, rfl, rfl, ?_, ?_⟩
  · exact (h.perm_extras.map _).append_left _
  · have hextras {write : String × String → Element} (hwrite : ∀ entry, (write entry).tag = entry.1)
        {entries : List (String × String)} (hentries : ∀ entry ∈ entries, entry.1 ∈ a.extras.keys) :
        (entries.map write).filter (fun element => element.tag ∉ a.extras.keys) = [] := by
      rw [List.filter_eq_nil_iff, List.forall_mem_map]
      intro entry hentry
      rw [decide_eq_true_eq, hwrite]
      exact not_not_intro (hentries entry hentry)
    dsimp only
    rw [List.filter_append, List.filter_append, hextras (fun entry => rfl) a.mem_keys_extras,
      hextras (fun entry => rfl) h.mem_keys_extras]

theorem forall₂_zipIdx {α β : Type} {r : α → β → Prop} {xs : List α} {ys : List β}
    (h : xs.Forall₂ r ys) (start : Nat) :
    (xs.zipIdx start).Forall₂ (fun x y => r x.1 y.1 ∧ x.2 = y.2) (ys.zipIdx start) := by
  induction h generalizing start with
  | nil => exact .nil
  | cons hxy _ ih => exact .cons ⟨hxy, rfl⟩ (ih (start + 1))

theorem flatMap_eq_of_forall₂ {α β γ : Type} {r : α → β → Prop} {f : α → List γ} {g : β → List γ}
    {xs : List α} {ys : List β} (hfg : ∀ x y, r x y → f x = g y) (h : xs.Forall₂ r ys) :
    xs.flatMap f = ys.flatMap g := by
  induction h with
  | nil => rfl
  | cons hxy _ ih => rw [List.flatMap_cons, List.flatMap_cons, hfg _ _ hxy, ih]

variable {a b : ChoiceList}

theorem XForm.listTexts_eq (h : a.IsSame b) : listTexts a = listTexts b := by
  unfold listTexts
  apply flatMap_eq_of_forall₂ _ (forall₂_zipIdx h.choices 0)
  rintro ⟨choice, index⟩ ⟨choice', index'⟩ ⟨hchoice, hindex⟩
  dsimp only at hchoice hindex ⊢
  rw [hindex, h.name_eq, hchoice.label_eq]

theorem ChoiceList.IsSame.isWrittenAs (h : a.IsSame b) (localized : Bool) :
    a.IsWrittenAs localized b where
  name_eq := h.name_eq
  rows := by
    rw [h.name_eq]
    exact h.choices.imp fun choice choice' hchoice => Survey.equalBut_choiceRow hchoice b.name
  items := by
    rw [h.name_eq]
    apply (forall₂_zipIdx h.choices 0).imp
    rintro ⟨choice, index⟩ ⟨choice', index'⟩ ⟨hchoice, hindex⟩
    dsimp only at hchoice hindex ⊢
    rw [hindex]
    exact XForm.equalBut_item hchoice localized b.name index'
  texts_eq := XForm.listTexts_eq h

end Lists

def Survey.choicesSheet (lists : List ChoiceList) : List Row :=
  lists.flatMap fun list => list.choices.map (choiceRow list.name)

def XForm.itextOf (texts : TextEntries) (languages : List String) (defaultLanguage : Option String)
    (lists : List ChoiceList) : Element :=
  { tag := "itext"
    children := languages.map (translation (texts ++ lists.flatMap listTexts) defaultLanguage) }

/--
Whether surveys are written to workbooks and forms that are equal but for the order of lists and of
the further columns of choices. Some surveys cannot be written to a workbook at all.
-/
structure Survey.IsWrittenAs (a b : Survey) : Prop where
  lists : ∃ lists, lists.Perm b.usedLists ∧
    a.usedLists.Forall₂ (ChoiceList.IsWrittenAs (XForm.isLocalized a)) lists
  workbooks : ∀ style,
    (∃ failure, a.toWorkbook style = .error failure ∧ b.toWorkbook style = .error failure) ∨
    ∃ rows settings,
      a.toWorkbook style = .ok ⟨rows, choicesSheet a.usedLists, some settings⟩ ∧
      b.toWorkbook style = .ok ⟨rows, choicesSheet b.usedLists, some settings⟩
  titles : XForm.titles (XForm.ofSurvey a) = XForm.titles (XForm.ofSurvey b)
  primaries : XForm.primaries (XForm.ofSurvey a) = XForm.primaries (XForm.ofSurvey b)
  binds : XForm.binds (XForm.ofSurvey a) = XForm.binds (XForm.ofSurvey b)
  bodies : XForm.bodies (XForm.ofSurvey a) = XForm.bodies (XForm.ofSurvey b)
  submissions : XForm.submissions (XForm.ofSurvey a) = XForm.submissions (XForm.ofSurvey b)
  secondaries :
    XForm.secondaries (XForm.ofSurvey a) =
        a.usedLists.map (XForm.secondaryInstance (XForm.isLocalized a)) ∧
      XForm.secondaries (XForm.ofSurvey b) =
        b.usedLists.map (XForm.secondaryInstance (XForm.isLocalized a))
  itexts : ∃ texts languages defaultLanguage,
    XForm.itexts (XForm.ofSurvey a) =
        (if XForm.isLocalized a then
          [XForm.itextOf texts languages defaultLanguage a.usedLists] else []) ∧
      XForm.itexts (XForm.ofSurvey b) =
        if XForm.isLocalized a then
          [XForm.itextOf texts languages defaultLanguage b.usedLists] else []

namespace Survey

variable {a b : Survey}

theorem exists_perm_of_isSimilar (ha : ∀ entry ∈ a.lists.entries, entry.1 = entry.2.name)
    (hb : ∀ entry ∈ b.lists.entries, entry.1 = entry.2.name) (h : a.isSimilar b = true) :
    ∃ lists, lists.Perm b.usedLists ∧ a.usedLists.Forall₂ ChoiceList.IsSame lists := by
  obtain ⟨-, -, -, hlists⟩ := isSimilar_iff.1 h
  obtain ⟨entries, hperm, hsame⟩ := OrderedMap.exists_perm_of_agrees hlists
  rw [entries_usedListsByName hb] at hperm
  rw [entries_usedListsByName ha, List.forall₂_map_left_iff] at hsame
  refine ⟨entries.map Prod.snd, ?_, ?_⟩
  · have hnames := hperm.map Prod.snd
    rw [List.map_map] at hnames
    exact hnames.trans (List.Perm.of_eq (List.map_id _))
  · rw [List.forall₂_map_right_iff]
    exact hsame.imp fun list entry hentry => ChoiceList.same_iff_isSame.1 hentry.2

theorem toWorkbook_eq_or {table : SymbolTable} (hsymbols : a.symbols = .ok table)
    (hroot : a.rootName = b.rootName) (hsettings : a.settings = b.settings)
    (hchildren : Node.erasedAll a.children = Node.erasedAll b.children) (style : MarkerStyle) :
    (∃ failure, a.toWorkbook style = .error failure ∧ b.toWorkbook style = .error failure) ∨
    ∃ rows settings,
      a.toWorkbook style = .ok ⟨rows, choicesSheet a.usedLists, some settings⟩ ∧
      b.toWorkbook style = .ok ⟨rows, choicesSheet b.usedLists, some settings⟩ := by
  have hsymbols' := symbols_eq_of_erasedAll hroot.symm hchildren.symm hsymbols
  have hrow : a.settingsRow = b.settingsRow := by
    unfold settingsRow
    rw [hsettings, hroot]
  unfold toWorkbook
  rw [hsymbols, hsymbols', ok_bind, ok_bind, ← nodesRows_congr hchildren]
  cases nodesRows style table [] a.children with
  | error failure => exact .inl ⟨failure, rfl, rfl⟩
  | ok rows =>
    right
    refine ⟨rows, a.settingsRow, rfl, ?_⟩
    rw [hrow]
    rfl

end Survey

section Permuted

variable {a b : Survey} {lists : List ChoiceList}

theorem perm_flatMap {α : Type} {f : ChoiceList → List α}
    (hf : ∀ list list', ChoiceList.IsSame list list' → f list = f list')
    (hsame : a.usedLists.Forall₂ ChoiceList.IsSame lists) (hperm : lists.Perm b.usedLists) :
    (a.usedLists.flatMap f).Perm (b.usedLists.flatMap f) := by
  rw [flatMap_eq_of_forall₂ hf hsame]
  exact hperm.flatMap_right f

theorem XForm.isLocalized_eq_of_perm
    (hsettings : a.settings = b.settings)
    (hchildren : Node.erasedAll a.children = Node.erasedAll b.children)
    (hsame : a.usedLists.Forall₂ ChoiceList.IsSame lists) (hperm : lists.Perm b.usedLists) :
    isLocalized a = isLocalized b := by
  apply isLocalized_congr hchildren hsettings
  apply languages_congr hchildren
  intro language
  apply (perm_flatMap _ hsame hperm).mem_iff
  intro list list' hlist
  apply flatMap_eq_of_forall₂ _ hlist.choices
  intro choice choice' hchoice
  rw [hchoice.label_eq]

theorem XForm.exists_itextOf {lists lists' : List ChoiceList}
    (h : (lists.flatMap listTexts).Perm (lists'.flatMap listTexts)) (texts : TextEntries)
    (defaultLanguage : Option String) :
    ∃ languages,
      itext (texts ++ lists.flatMap listTexts) defaultLanguage =
          itextOf texts languages defaultLanguage lists ∧
        itext (texts ++ lists'.flatMap listTexts) defaultLanguage =
          itextOf texts languages defaultLanguage lists' := by
  have hlanguages (f : String × Localized → List String) :
      ascending ((texts ++ lists.flatMap listTexts).flatMap f ++ defaultLanguage.toList) =
        ascending ((texts ++ lists'.flatMap listTexts).flatMap f ++ defaultLanguage.toList) := by
    apply ascending_congr
    intro language
    exact (((h.append_left texts).flatMap_right _).append_right _).mem_iff
  refine ⟨_, rfl, ?_⟩
  unfold itext itextOf
  rw [hlanguages]

end Permuted

namespace Survey

variable {a b : Survey}

theorem isWrittenAs_of_isSimilar (ha : a.IsRead) (hb : b.IsRead) (h : a.isSimilar b = true) :
    a.IsWrittenAs b := by
  obtain ⟨table, ha⟩ := ha.isLinked
  obtain ⟨table', hb⟩ := hb.isLinked
  obtain ⟨hsettings, hheader, hchildren, -⟩ := isSimilar_iff.1 h
  obtain ⟨lists, hperm, hsame⟩ := exists_perm_of_isSimilar ha.keys hb.keys h
  have hroot : a.rootName = b.rootName := by
    have hname := congrArg Header.name hheader
    exact hname
  have hlocalized := XForm.isLocalized_eq_of_perm hsettings hchildren hsame hperm
  constructor
  case lists => exact ⟨lists, hperm, hsame.imp fun list list' hlist => hlist.isWrittenAs _⟩
  case workbooks => exact toWorkbook_eq_or ha.symbols_eq hroot hsettings hchildren
  case titles => rw [XForm.titles_ofSurvey, XForm.titles_ofSurvey, hsettings]
  case primaries =>
    rw [XForm.primaries_ofSurvey, XForm.primaries_ofSurvey]
    unfold XForm.instanceRoot
    rw [hroot, hsettings, XForm.instanceElements_congr hchildren]
  case binds =>
    rw [XForm.binds_ofSurvey, XForm.binds_ofSurvey, hlocalized, hroot,
      XForm.nodesBinds_congr hchildren]
  case bodies =>
    rw [XForm.bodies_ofSurvey, XForm.bodies_ofSurvey, hlocalized, hroot,
      XForm.nodesControls_congr hchildren]
  case submissions =>
    rw [XForm.submissions_ofSurvey, XForm.submissions_ofSurvey]
    unfold XForm.submission
    rw [hsettings]
  case secondaries =>
    rw [XForm.secondaries_ofSurvey, XForm.secondaries_ofSurvey, hlocalized]
    exact ⟨rfl, rfl⟩
  case itexts =>
    have htexts := perm_flatMap (fun list list' => XForm.listTexts_eq) hsame hperm
    obtain ⟨languages, hitext, hitext'⟩ := XForm.exists_itextOf htexts
      (XForm.nodesTexts a.rootName [] a.children) a.settings.defaultLanguage
    refine ⟨XForm.nodesTexts a.rootName [] a.children, languages, a.settings.defaultLanguage, ?_, ?_⟩
    · rw [XForm.itexts_ofSurvey, ← hitext]
      rfl
    · rw [XForm.itexts_ofSurvey, ← hitext', hlocalized, hroot, hsettings,
        XForm.nodesTexts_congr hchildren]
      rfl

def waterPoints (relevant : String) (choices : List (List (String × String))) : Workbook where
  survey := [
    .ofList [("type", "integer"), ("name", "depth"), ("label::fr", "Profondeur")],
    .ofList [("type", "select_one pumps"), ("name", "pump"), ("relevant", relevant)],
    .ofList [("type", "select_multiple users"), ("name", "user")]]
  choices := choices.map OrderedMap.ofList
  settings := none

theorem isWrittenAs_of_isSimilar_waterPoints :
    let pump := [("list_name", "pumps"), ("name", "hand"), ("label::fr", "Pompe")]
    let user := [("list_name", "users"), ("name", "school")]
    let spare := [("list_name", "spare"), ("name", "none")]
    let first := waterPoints "$\x7bdepth\x7d > 10"
      [pump ++ [("price", "90"), ("parts", "4")], user, spare]
    let second := waterPoints "../depth > 10" [user, pump ++ [("parts", "4"), ("price", "90")]]
    ∃ reading reading', first.read {} = .ok reading ∧ second.read {} = .ok reading' ∧
      reading.survey.isSimilar reading'.survey = true ∧
      reading.survey.IsWrittenAs reading'.survey := by
  intro pump user spare first second
  have hall : (first.read {}).toOption.any fun reading =>
      (second.read {}).toOption.any fun reading' => reading.survey.isSimilar reading'.survey := by
    decide +kernel
  obtain ⟨reading, hread, hall⟩ := exists_eq_ok_of_any hall
  obtain ⟨reading', hread', hsimilar⟩ := exists_eq_ok_of_any hall
  have hfirst : reading.survey.IsRead := ⟨.workbook first, {}, reading, hread, rfl⟩
  have hsecond : reading'.survey.IsRead := ⟨.workbook second, {}, reading', hread', rfl⟩
  exact ⟨reading, reading', hread, hread', hsimilar,
    isWrittenAs_of_isSimilar hfirst hsecond hsimilar⟩

end Survey

end Questionnaire
