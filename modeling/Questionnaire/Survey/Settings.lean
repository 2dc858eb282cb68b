/-!
This module contains the settings of a survey.
-/

namespace Questionnaire

structure Settings where
  title : Option String := none
  formId : Option String := none
  version : Option String := none
  defaultLanguage : Option String := none
  submissionUrl : Option String := none
deriving DecidableEq, Inhabited

def Settings.isEmpty (settings : Settings) : Bool :=
  settings == {}

end Questionnaire
