import Questionnaire.Proofs.XForm.Parts

/-!
This module contains the sections of a form, as they are reached in its element tree, and what a
survey puts into each of them.
-/

namespace Questionnaire.XForm

def reached : List String → Element → List Element
  | [], element => [element]
  | name :: names, element => (findAll element name).flatMap (reached names)

def titles (tree : Element) : List Element :=
  reached ["head", "title"] tree

def primaries (tree : Element) : List Element :=
  (reached ["head", "model", "instance"] tree).filter (·.attribute? "id" == none)

def secondaries (tree : Element) : List Element :=
  (reached ["head", "model", "instance"] tree).filter (·.attribute? "id" != none)

def binds (tree : Element) : List Element :=
  reached ["head", "model", "bind"] tree

def submissions (tree : Element) : List Element :=
  reached ["head", "model", "submission"] tree

def itexts (tree : Element) : List Element :=
  reached ["head", "model", "itext"] tree

def bodies (tree : Element) : List Element :=
  reached ["body"] tree

variable (survey : Survey)

theorem reached_singleton (name : String) (element : Element) :
    reached [name] element = findAll element name := by
  rw [reached]
  exact List.flatMap_singleton' _

theorem reached_head (names : List String) :
    reached ("head" :: names) (ofSurvey survey) = reached names (partsOf survey).head := by
  have hhead : findAll (ofSurvey survey) "head" = [(partsOf survey).head] := by
    simp [findAll, ofSurvey, Element.localName, localPart_head, localPart_body, partsOf]
  rw [reached, hhead, List.flatMap_singleton]

theorem reached_model (names : List String) :
    reached ("head" :: "model" :: names) (ofSurvey survey) = reached names (model survey) := by
  have hmodel : findAll (partsOf survey).head "model" = [model survey] := by
    rw [findAll_head]
    rfl
  rw [reached_head, reached, hmodel, List.flatMap_singleton]

theorem titles_ofSurvey :
    titles (ofSurvey survey) = survey.settings.title.toList.map (textElement "h:title") := by
  unfold titles
  rw [reached_head, reached_singleton, findAll_head]
  exact List.append_nil _

theorem primaries_ofSurvey :
    primaries (ofSurvey survey) = [{ tag := "instance", children := [instanceRoot survey] }] := by
  unfold primaries
  rw [reached_model, reached_singleton, findAll_instance, List.filter_cons_of_pos rfl,
    List.filter_eq_nil_iff.2]
  rw [List.forall_mem_map]
  intro list hlist
  simp [Element.attribute?, secondaryInstance]

theorem secondaries_ofSurvey : secondaries (ofSurvey survey) =
    survey.usedLists.map (secondaryInstance (isLocalized survey)) := by
  unfold secondaries
  rw [reached_model, reached_singleton, findAll_instance,
    List.filter_cons_of_neg (by simp [Element.attribute?]), List.filter_eq_self,
    List.forall_mem_map]
  intro list hlist
  rfl

theorem binds_ofSurvey : binds (ofSurvey survey) =
    nodesBinds (isLocalized survey) survey.rootName [] survey.children := by
  unfold binds
  rw [reached_model, reached_singleton, findAll_bind]

theorem submissions_ofSurvey : submissions (ofSurvey survey) = submission survey := by
  unfold submissions
  rw [reached_model, reached_singleton, findAll_submission]

theorem itexts_ofSurvey : itexts (ofSurvey survey) =
    if isLocalized survey then [itext (surveyTexts survey) survey.settings.defaultLanguage] else [] := by
  unfold itexts
  rw [reached_model, reached_singleton, findAll_itext]
  rfl

theorem bodies_ofSurvey : bodies (ofSurvey survey) =
    [{ tag := "h:body"
       children := nodesControls (isLocalized survey) survey.rootName [] survey.children }] := by
  unfold bodies
  rw [reached_singleton]
  simp [findAll, ofSurvey, Element.localName, localPart_head, localPart_body]

end Questionnaire.XForm
