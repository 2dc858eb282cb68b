import Questionnaire.Element
import Questionnaire.QuestionType

/-!
This module contains the vocabulary of XForms that reading and writing share: names of attributes,
the bind type and preload of each question type, and the two forms of references that attributes
hold.
-/

namespace Questionnaire.XForm

def formNamespace : String := "http://www.w3.org/2002/xforms"

def htmlNamespace : String := "http://www.w3.org/1999/xhtml"

def javaRosaNamespace : String := "http://openrosa.org/javarosa"

def odkNamespace : String := "http://www.opendatakit.org/xforms"

def templateAttribute : String := "jr:template"

def constraintMessageAttribute : String := "jr:constraintMsg"

def preloadAttribute : String := "jr:preload"

def preloadParamsAttribute : String := "jr:preloadParams"

def alwaysTrue : String := "true()"

def bindType : QuestionType → String
  | .integer => "int"
  | .decimal => "decimal"
  | .date | .today => "date"
  | .time => "time"
  | .dateTime | .startTime | .endTime => "dateTime"
  | .geopoint => "geopoint"
  | .geotrace => "geotrace"
  | .geoshape => "geoshape"
  | .image | .audio | .video | .file => "binary"
  | .barcode => "barcode"
  | _ => "string"

def inputTypes : List (String × QuestionType) := [
  ("string", .text),
  ("int", .integer),
  ("integer", .integer),
  ("decimal", .decimal),
  ("date", .date),
  ("time", .time),
  ("dateTime", .dateTime),
  ("geopoint", .geopoint),
  ("geotrace", .geotrace),
  ("geoshape", .geoshape),
  ("binary", .file),
  ("barcode", .barcode),
  ("select1", .selectOne),
  ("select", .selectMultiple)]

def inputType? (bind : String) : Option QuestionType :=
  inputTypes.lookup (Element.localPart bind)

def preloads : List (QuestionType × String × String) := [
  (.startTime, "timestamp", "start"),
  (.endTime, "timestamp", "end"),
  (.today, "date", "today"),
  (.deviceId, "property", "deviceid"),
  (.subscriberId, "property", "subscriberid"),
  (.simSerial, "property", "simserial"),
  (.phoneNumber, "property", "phonenumber"),
  (.username, "property", "username")]

def preload? (type : QuestionType) : Option (String × String) :=
  preloads.lookup type

def ofPreload? (source value : String) : Option QuestionType :=
  (preloads.find? (·.2 == (source, value))).map Prod.fst

def mediaType? : QuestionType → Option String
  | .image => some "image/*"
  | .audio => some "audio/*"
  | .video => some "video/*"
  | .file => some "application/*"
  | _ => none

def ofMediaType (media : String) : QuestionType :=
  match String.ofList (media.toList.takeWhile (· != '/')) with
  | "image" => .image
  | "audio" => .audio
  | "video" => .video
  | _ => .file

def labelId (absolute : String) : String :=
  absolute ++ ":label"

def hintId (absolute : String) : String :=
  absolute ++ ":hint"

def constraintMessageId (absolute : String) : String :=
  absolute ++ ":jr:constraintMsg"

def afterFront? : (front cs : List Char) → Option (List Char)
  | [], cs => some cs
  | _ :: _, [] => none
  | f :: front, c :: cs => if f = c then afterFront? front cs else none

def unquotedBy? (quote : Char) : List Char → Option (List Char)
  | [] => none
  | c :: cs => if c = quote && cs.getLast? == some quote then some cs.dropLast else none

def unquoted? (cs : List Char) : Option String :=
  ((unquotedBy? '\x27' cs).or (unquotedBy? '\x22' cs)).map String.ofList

def itextReference (id : String) : String :=
  "jr:itext('" ++ id ++ "')"

def itextId? (reference : String) : Option String := do
  let cs ← afterFront? "jr:itext(".toList (Text.trim reference).toList
  if cs.getLast? = some ')' then unquoted? (Text.trimEnd (Text.trimStart cs.dropLast)) else none

def itemsetReference (list : String) : String :=
  "instance('" ++ list ++ "')/root/item"

def itemsetList? (reference : String) : Option String := do
  let cs ← afterFront? "instance(".toList (Text.trim reference).toList
  if cs.contains ')' then
    unquoted? (Text.trimEnd (Text.trimStart (cs.takeWhile (· != ')'))))
  else none

end Questionnaire.XForm
