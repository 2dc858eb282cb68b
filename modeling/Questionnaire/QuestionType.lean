/-!
This module contains the types that a question can have and the classes they fall into.
-/

namespace Questionnaire

inductive QuestionType where
  | text
  | integer
  | decimal
  | date
  | time
  | dateTime
  | geopoint
  | geotrace
  | geoshape
  | image
  | audio
  | video
  | file
  | barcode
  | acknowledge
  | selectOne
  | selectMultiple
  | note
  | calculate
  | hidden
  | startTime
  | endTime
  | today
  | deviceId
  | subscriberId
  | simSerial
  | phoneNumber
  | username
  | group
  | repeating
deriving DecidableEq, Inhabited

namespace QuestionType

def all : List QuestionType :=
  [text, integer, decimal, date, time, dateTime, geopoint, geotrace, geoshape, image, audio, video,
    file, barcode, acknowledge, selectOne, selectMultiple, note, calculate, hidden, startTime,
    endTime, today, deviceId, subscriberId, simSerial, phoneNumber, username, group, repeating]

theorem mem_all (type : QuestionType) : type ∈ all := by
  cases type <;> decide

def name : QuestionType → String
  | text => "text"
  | integer => "integer"
  | decimal => "decimal"
  | date => "date"
  | time => "time"
  | dateTime => "dateTime"
  | geopoint => "geopoint"
  | geotrace => "geotrace"
  | geoshape => "geoshape"
  | image => "image"
  | audio => "audio"
  | video => "video"
  | file => "file"
  | barcode => "barcode"
  | acknowledge => "acknowledge"
  | selectOne => "select_one"
  | selectMultiple => "select_multiple"
  | note => "note"
  | calculate => "calculate"
  | hidden => "hidden"
  | startTime => "start"
  | endTime => "end"
  | today => "today"
  | deviceId => "deviceid"
  | subscriberId => "subscriberid"
  | simSerial => "simserial"
  | phoneNumber => "phonenumber"
  | username => "username"
  | group => "group"
  | repeating => "repeat"

def isSelect : QuestionType → Bool
  | selectOne | selectMultiple => true
  | _ => false

def isContainer : QuestionType → Bool
  | group | repeating => true
  | _ => false

def isMetadata : QuestionType → Bool
  | startTime | endTime | today | deviceId | subscriberId | simSerial | phoneNumber | username =>
    true
  | _ => false

def isMedia : QuestionType → Bool
  | image | audio | video | file => true
  | _ => false

def isHidden : QuestionType → Bool
  | calculate | hidden => true
  | type => type.isMetadata

end QuestionType

end Questionnaire
