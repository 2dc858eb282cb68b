import Questionnaire.Text.CharClass

/-!
This module contains the Unicode white space characters, and trimming and splitting by them.
-/

namespace Questionnaire.Text

/--
The characters with the Unicode property `White_Space`.
-/
def blanks : CharClass := [
  (0x9, 0xD), (0x20, 0x20), (0x85, 0x85), (0xA0, 0xA0), (0x1680, 0x1680), (0x2000, 0x200A),
  (0x2028, 0x2029), (0x202F, 0x202F), (0x205F, 0x205F), (0x3000, 0x3000)]

def isBlank (c : Char) : Bool :=
  blanks.contains c

def trimStart (cs : List Char) : List Char :=
  cs.dropWhile isBlank

def trimEnd (cs : List Char) : List Char :=
  (trimStart cs.reverse).reverse

def trim (s : String) : String :=
  String.ofList (trimEnd (trimStart s.toList))

def isBlankText (s : String) : Bool :=
  s.toList.all isBlank

def pieces (sep : Char → Bool) : List Char → List (List Char)
  | [] => []
  | c :: cs =>
    if sep c then pieces sep cs
    else if cs.head?.all sep then [c] :: pieces sep cs
    else (pieces sep cs).modifyHead (c :: ·)

def words (s : String) : List String :=
  (pieces isBlank s.toList).map String.ofList

end Questionnaire.Text
