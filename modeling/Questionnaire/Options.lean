/-!
This module contains the options under which workbooks and forms are read.
-/

namespace Questionnaire

structure Options where
  strictColumns : Bool := true
  warnUnused : Bool := true
  rootName : String := "data"
deriving DecidableEq, Inhabited

def Options.lenient : Options :=
  { strictColumns := false, warnUnused := false }

end Questionnaire
