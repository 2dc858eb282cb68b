import Questionnaire.Failure
import Questionnaire.QuestionType
import Questionnaire.Text.Blank
import Questionnaire.Text.Lowercase

/-!
This module contains the spellings under which authors write question types. Case does not matter,
and white space, `_` and `-` all separate words.
-/

namespace Questionnaire

namespace QuestionType

def spellings : List (String × QuestionType) := [
  ("text", text),
  ("string", text),
  ("integer", integer),
  ("int", integer),
  ("decimal", decimal),
  ("date", date),
  ("time", time),
  ("datetime", dateTime),
  ("geopoint", geopoint),
  ("gps", geopoint),
  ("location", geopoint),
  ("geotrace", geotrace),
  ("geoshape", geoshape),
  ("image", image),
  ("photo", image),
  ("audio", audio),
  ("video", video),
  ("file", file),
  ("barcode", barcode),
  ("acknowledge", acknowledge),
  ("trigger", acknowledge),
  ("select one", selectOne),
  ("select1", selectOne),
  ("select one from", selectOne),
  ("add select one prompt using", selectOne),
  ("select multiple", selectMultiple),
  ("select multiple from", selectMultiple),
  ("select all that apply", selectMultiple),
  ("select all that apply from", selectMultiple),
  ("add select multiple prompt using", selectMultiple),
  ("note", note),
  ("calculate", calculate),
  ("calculation", calculate),
  ("hidden", hidden),
  ("start", startTime),
  ("end", endTime),
  ("today", today),
  ("deviceid", deviceId),
  ("imei", deviceId),
  ("subscriberid", subscriberId),
  ("simserial", simSerial),
  ("phonenumber", phoneNumber),
  ("username", username),
  ("group", group),
  ("repeat", repeating)]

def isSeparator (c : Char) : Bool :=
  Text.isBlank c || c == '_' || c == '-'

def normalize (spelling : String) : String :=
  " ".intercalate ((Text.pieces isSeparator spelling.toList).map (Text.lower ∘ String.ofList))

def ofSpelling? (spelling : String) : Option QuestionType :=
  spellings.lookup (normalize spelling)

def ofSpelling (spelling : String) : Except Failure QuestionType :=
  match ofSpelling? spelling with
  | some type => .ok type
  | none => .error (Cause.unknownType (Text.trim spelling)).failure

end QuestionType

inductive BlockKind where
  | group
  | repeating
deriving DecidableEq, Inhabited

def BlockKind.name : BlockKind → String
  | group => "group"
  | repeating => "repeat"

inductive TypeCell where
  | opening (kind : BlockKind)
  | closing (kind : BlockKind)
  | question (type : QuestionType) (list : Option String)
deriving DecidableEq, Inhabited

namespace TypeCell

def markers : List (String × TypeCell) := [
  ("begin group", opening .group),
  ("begin repeat", opening .repeating),
  ("end group", closing .group),
  ("end repeat", closing .repeating)]

def longestType? (words : List String) : Nat → Option (QuestionType × List String)
  | 0 => none
  | n + 1 =>
    match QuestionType.ofSpelling? (" ".intercalate (words.take (n + 1))) with
    | some type => some (type, words.drop (n + 1))
    | none => longestType? words n

def parse (cell : String) : Except Failure TypeCell :=
  let words := Text.words cell
  if words.isEmpty then .error (Cause.unknownType cell).failure
  else
    match markers.lookup (QuestionType.normalize (" ".intercalate words)) with
    | some marker => .ok marker
    | none =>
      match longestType? words words.length with
      | some (type, []) => .ok (.question type none)
      | some (type, [list]) =>
        if type.isSelect then .ok (.question type (some list))
        else .error (Cause.unknownType (Text.trim cell)).failure
      | _ => .error (Cause.unknownType (Text.trim cell)).failure

end TypeCell

end Questionnaire
