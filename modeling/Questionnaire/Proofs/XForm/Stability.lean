import Questionnaire.Proofs.Expression.Climbing
import Questionnaire.Proofs.XForm.Recovery

/-!
This module contains the stability of forms: a form of any layout that was read and is written again
is read as a survey that asks the same exactly if a form has a place for all that the survey has.
-/

namespace Questionnaire.XForm

variable {survey : Survey} {table : SymbolTable}

theorem IsFound.isTied (h : IsFound survey table)
    (hnames : ∀ located ∈ survey.nodes, Text.isName located.node.name = true) :
    IsTied survey table where
  toIsPlaced :=
    { toIsFormed := h.toIsFormed
      isPlain := fun located hlocated => (Survey.isNamed_of_isName hnames located hlocated).isPlain }
  namedLists := by
    intro list hlist
    obtain ⟨located, hlocated, hlist⟩ := List.mem_filterMap.1 hlist
    obtain ⟨question, hquestion, hlist⟩ := Option.bind_eq_some_iff.1 hlist
    rcases h.named located hlocated question hquestion list hlist with rfl | hlist
    -- A list of items inside the control has the name of the question.
    · have hname := hnames located hlocated
      rw [Node.question?_eq_some_iff.1 hquestion] at hname
      exact Text.not_mem_of_isName hname (by decide)
    · exact hlist
  extras := by
    intro list hlist
    exact h.extras _ (Survey.mem_entries_of_mem_usedLists h.lists.keys hlist)
  spelled := by
    intro located hlocated expression hexpression
    have hdeclared := Survey.declared_of_symbols h.symbols_eq (Survey.isNamed_of_isName hnames)
    obtain ⟨text, htext⟩ := h.compiled located hlocated expression hexpression
    obtain ⟨hcompile, havoids⟩ := Expression.compile_of_compileTree hdeclared htext
    exact Expression.compileTree_canonical hdeclared hcompile havoids

section Comeback

variable {restored : Survey}

theorem namesLabels_of_isReadFrom (h : IsFound survey table) (hplaced : IsPlaced survey table)
    {list found : ChoiceList} (hlist : list ∈ survey.usedLists)
    (hfound : IsReadFrom (partsOf survey) (isLocalized survey) list found)
    (hsame : list.same found = true) : NamesLabels survey list := by
  intro hlocalized pair hpair hempty
  obtain ⟨-, hchoices⟩ := ChoiceList.same_iff.1 hsame
  rw [← List.zipIdx_map_fst 0 list.choices, List.forall₂_map_left_iff] at hchoices
  -- The same choice was read from the item, and its label is that of the pair.
  obtain ⟨choice, hread, hchoice⟩ :=
    List.forall₂_same.1 (forall₂_comp hfound.choices hchoices.flip) pair hpair
  obtain ⟨-, hlabel, -⟩ := Choice.same_iff.1 hchoice
  have hmem : pair.1 ∈ list.choices := List.fst_mem_of_mem_zipIdx hpair
  rw [hlocalized] at hread
  rw [hlabel, ← get?_texts_iff hplaced hlocalized]
  exact get?_texts_of_readItem ((h.isFormed_of_mem_usedLists list hlist).choices pair.1 hmem)
    (h.extras _ (Survey.mem_entries_of_mem_usedLists h.lists.keys hlist) pair.1 hmem) hempty hread

theorem IsReadBack.list_mem_namedLists (h : IsReadBack survey restored)
    (hoffers : restored.lists.Offers restored.nodes) :
    ∀ located ∈ restored.nodes, ∀ q, located.node = .question q → q.type.isSelect = true →
      q.list.getD "" ∈ survey.namedLists := by
  intro located hlocated q hq hselect
  obtain ⟨list, hget, -⟩ :=
    ChoiceLists.requireChoices_eq_ok_iff.1 (hoffers located hlocated q hq hselect)
  obtain ⟨list', hlist', -, hname⟩ := h.lists _ (OrderedMap.get?_eq_some_iff.1 hget)
  dsimp only at hname
  rw [hname]
  exact List.contains_iff_mem.1 (List.mem_filter.1 hlist').2

theorem IsReadBack.showsAll (h : IsReadBack survey restored) (hfound : IsFound survey table)
    (hplaced : IsPlaced survey table) {table' : SymbolTable}
    (hrestored : restored.IsFormed table') (hsimilar : survey.isSimilar restored = true) :
    ShowsAll survey := by
  obtain ⟨-, -, hchildren, hagrees⟩ := Survey.isSimilar_iff.1 hsimilar
  have hfollows := Node.forall_question_of_erasedAll
    (p := fun q => (writtenRules survey).question q q.texts) (fun q => Iff.rfl) hchildren h.follows
  have hlists := Node.forall_question_of_erasedAll
    (p := fun q => q.type.isSelect = true → q.list.getD "" ∈ survey.namedLists) (fun q => Iff.rfl)
    hchildren (h.list_mem_namedLists hrestored.offers)
  refine ⟨?_, ?_, ?_, ?_⟩
  · intro located hlocated q hq
    exact (hfollows located hlocated q (Node.question?_eq_some_iff.1 hq)).1
  · intro located hlocated q hq
    exact hlists located hlocated q (Node.question?_eq_some_iff.1 hq)
  · intro list hlist
    obtain ⟨list', hlist', hsame⟩ :=
      Survey.exists_usedList_of_agrees hfound.lists.keys hrestored.lists.keys hagrees hlist
    obtain ⟨own, hown, hfrom, hname⟩ :=
      h.lists _ (Survey.mem_entries_of_mem_usedLists hrestored.lists.keys hlist')
    -- No other list of the survey has its name.
    have heq : list.name = own.name := (ChoiceList.same_iff.1 hsame).1.trans hname
    cases List.inj_on_of_nodup_map (Survey.nodup_usedLists hfound.lists.keys) hlist hown heq
    exact namesLabels_of_isReadFrom hfound hplaced hlist hfrom hsame
  · intro hlocalized located hlocated q hq
    exact (hfollows located hlocated q (Node.question?_eq_some_iff.1 hq)).2 hlocalized

end Comeback

theorem read_ofSurvey_read {tree : Element} {options : Options} {reading : Reading}
    (hread : read tree options = .ok reading)
    (hnames : ∀ located ∈ reading.survey.nodes, Text.isName located.node.name = true)
    (options' : Options) :
    ((∃ reading', read (ofSurvey reading.survey) options' = .ok reading' ∧
        reading.survey.isSimilar reading'.survey = true) ↔ ShowsAll reading.survey) ∧
      ∀ reading', read (ofSurvey reading.survey) options' = .ok reading' →
        reading.survey.isSimilar reading'.survey = true →
          ofSurvey reading'.survey = ofSurvey reading.survey := by
  obtain ⟨table, hfound⟩ := isFound_read hread
  have htied := hfound.isTied hnames
  have hshows : ∀ reading', read (ofSurvey reading.survey) options' = .ok reading' →
      reading.survey.isSimilar reading'.survey = true → ShowsAll reading.survey := by
    intro reading' hreading' hsimilar
    obtain ⟨table', hfound'⟩ := isFound_read hreading'
    exact (isReadBack_of_read htied.toIsPlaced hreading').showsAll hfound htied.toIsPlaced
      hfound'.toIsFormed hsimilar
  refine ⟨⟨?_, ?_⟩, ?_⟩
  · rintro ⟨reading', hreading', hsimilar⟩
    exact hshows reading' hreading' hsimilar
  · intro hshows
    obtain ⟨reading', hreading', hrestores⟩ := exists_read_ofSurvey htied hshows options'
    exact ⟨reading', hreading', hrestores.isSimilar⟩
  · intro reading' hreading' hsimilar
    obtain ⟨reading'', hreading'', hrestores⟩ :=
      exists_read_ofSurvey htied (hshows reading' hreading' hsimilar) options'
    cases hreading'.symm.trans hreading''
    exact ofSurvey_eq hrestores

/--
A form in a layout that is never written: items inside the control, absolute paths, an older bind
type, a group that its children show alone, and a control of a question that is filled in by itself.
-/
def clinic : Element where
  tag := "html"
  children := [
    { tag := "head"
      children := [
        { tag := "title", text := some " Clinic " },
        { tag := "model"
          children := [
            { tag := "instance"
              children := [
                { tag := "visit"
                  attributes := [("version", "2")]
                  children := [
                    { tag := "patient"
                      children := [{ tag := "age" }, { tag := "sex", text := some "f" }] },
                    { tag := "test", attributes := [("jr:template", "")]
                      children := [{ tag := "result" }] },
                    { tag := "test", children := [{ tag := "result", text := some "old" }] },
                    { tag := "user" }] }] },
            { tag := "bind"
              attributes := [("nodeset", "/visit/patient/age"), ("type", "integer"),
                ("constraint", ". < 130"), ("jr:constraintMsg", " Too old ")] },
            { tag := "bind"
              attributes := [("nodeset", "/visit/test"), ("relevant", "/visit/patient/age > 5")] },
            { tag := "bind"
              attributes := [("nodeset", "/visit/test/result"),
                ("relevant", "../../patient/sex = 'f'")] },
            { tag := "bind"
              attributes := [("nodeset", "/visit/user"), ("jr:preload", "property"),
                ("jr:preloadParams", "username")] }] }] },
    { tag := "body"
      children := [
        { tag := "input", attributes := [("ref", "/visit/patient/age")]
          children := [{ tag := "label", text := some "Age" }] },
        { tag := "select1", attributes := [("ref", "/visit/patient/sex"), ("appearance", "minimal")]
          children := [
            { tag := "item"
              children := [{ tag := "value", text := some "f" },
                { tag := "label", text := some "Female" }] },
            { tag := "item", children := [{ tag := "value", text := some "m" }] }] },
        { tag := "input", attributes := [("ref", "/visit/test/result")] },
        { tag := "input", attributes := [("ref", "/visit/user")]
          children := [{ tag := "label", text := some "Who are you?" }] }] }]

theorem read_ofSurvey_clinic :
    ∃ reading, read clinic {} = .ok reading ∧
      (∀ located ∈ reading.survey.nodes, Text.isName located.node.name = true) ∧
      ShowsAll reading.survey ∧
      ∃ reading', read (ofSurvey reading.survey) {} = .ok reading' ∧
        reading.survey.isSimilar reading'.survey = true ∧
        ofSurvey reading'.survey = ofSurvey reading.survey := by
  have hall : (read clinic {}).toOption.any fun reading =>
      (∀ located ∈ reading.survey.nodes, Text.isName located.node.name = true) ∧
        ShowsAll reading.survey := by
    decide +kernel
  obtain ⟨reading, hread, hall⟩ := exists_eq_ok_of_any hall
  obtain ⟨hnames, hshows⟩ := of_decide_eq_true hall
  obtain ⟨hiff, hsame⟩ := read_ofSurvey_read hread hnames {}
  obtain ⟨reading', hreading', hsimilar⟩ := hiff.2 hshows
  exact ⟨reading, hread, hnames, hshows, reading', hreading', hsimilar,
    hsame reading' hreading' hsimilar⟩

def preloaded : Element where
  tag := "h:html"
  children := [
    { tag := "h:head"
      children := [
        { tag := "model"
          children := [
            { tag := "instance", children := [{ tag := "data", children := [{ tag := "user" }] }] },
            { tag := "bind"
              attributes := [("nodeset", "/data/user"), ("jr:preload", "property"),
                ("jr:preloadParams", "username")] }] }] },
    { tag := "h:body"
      children := [
        { tag := "input", attributes := [("ref", "/data/user"), ("appearance", "numbers")] }] }]

theorem read_ofSurvey_forgets_appearance :
    ∃ reading, read preloaded {} = .ok reading ∧
      ∃ reading', read (ofSurvey reading.survey) {} = .ok reading' ∧
        reading.survey.isSimilar reading'.survey = false := by
  have hall : (read preloaded {}).toOption.any fun reading =>
      (read (ofSurvey reading.survey) {}).toOption.any fun reading' =>
        !reading.survey.isSimilar reading'.survey := by
    decide +kernel
  obtain ⟨reading, hread, hall⟩ := exists_eq_ok_of_any hall
  obtain ⟨reading', hread', hsimilar⟩ := exists_eq_ok_of_any hall
  exact ⟨reading, hread, reading', hread', by simpa using hsimilar⟩

end Questionnaire.XForm
