import Questionnaire.Text.Blank
import Questionnaire.Text.Name
import Questionnaire.Text.Quoted

/-!
This module contains the division of an expression's text into lexemes. It never fails: a text that
is no lexeme becomes a malformed one, and the division goes on behind it.
-/

namespace Questionnaire

inductive LexicalFault where
  | loneExclamation
  | loneDollar
  | unterminatedReference
  | invalidReference (name : String)
  | unterminatedString
  | missingStep
  | unexpectedChar (c : Char)
deriving DecidableEq, Inhabited

def LexicalFault.message : LexicalFault → String
  | loneExclamation => "expected '=' after '!'"
  | loneDollar => "expected '\x7b' after '$'"
  | unterminatedReference => "unterminated reference, expected '\x7d'"
  | invalidReference name => "invalid reference name: " ++ Text.quotedName name
  | unterminatedString => "unterminated string literal"
  | missingStep => "expected path step after '/'"
  | unexpectedChar c => "unexpected character: " ++ c.toString

/--
What a lexeme is. Literals, references, paths and names carry their text; strings come without their
quotes and references without their braces.
-/
inductive TokenKind where
  | leftParen
  | rightParen
  | comma
  | equal
  | notEqual
  | less
  | lessEqual
  | greater
  | greaterEqual
  | plus
  | minus
  | star
  | pipe
  | number (text : String)
  | string (text : String)
  | reference (name : String)
  | path (text : String)
  | name (text : String)
  | endOfInput
  | malformed (fault : LexicalFault)
deriving DecidableEq, Inhabited

namespace TokenKind

def describe : TokenKind → String
  | leftParen => "'('"
  | rightParen => "')'"
  | comma => "','"
  | equal => "'='"
  | notEqual => "'!='"
  | less => "'<'"
  | lessEqual => "'<='"
  | greater => "'>'"
  | greaterEqual => "'>='"
  | plus => "'+'"
  | minus => "'-'"
  | star => "'*'"
  | pipe => "'|'"
  | number _ => "number"
  | string _ => "string"
  | reference _ => "reference"
  | path _ => "path"
  | name _ => "name"
  | endOfInput => "end of input"
  | malformed _ => "error"

def namesNode : TokenKind → Bool
  | reference _ | path _ => true
  | _ => false

end TokenKind

structure Lexeme where
  gap : List Char
  text : List Char
  kind : TokenKind
deriving DecidableEq, Inhabited

namespace Lexeme

structure Scan where
  kind : TokenKind
  text : List Char
  rest : List Char

def scanReference : List Char → Scan
  | '{' :: cs =>
    let name := cs.takeWhile Text.isNameChar
    match cs.dropWhile Text.isNameChar with
    | '}' :: rest =>
      let kind :=
        if Text.isName (String.ofList name) then .reference (String.ofList name)
        else .malformed (.invalidReference (String.ofList name))
      ⟨kind, '$' :: '{' :: name ++ ['}'], rest⟩
    | rest => ⟨.malformed .unterminatedReference, '$' :: '{' :: name, rest⟩
  | cs => ⟨.malformed .loneDollar, ['$'], cs⟩

def scanString (quote : Char) (cs : List Char) : Scan :=
  let body := cs.takeWhile (· != quote)
  match cs.dropWhile (· != quote) with
  | [] => ⟨.malformed .unterminatedString, quote :: body, []⟩
  | close :: rest => ⟨.string (String.ofList body), quote :: body ++ [close], rest⟩

def scanNumber (cs : List Char) : Scan :=
  let whole := cs.takeWhile Char.isDigit
  match cs.dropWhile Char.isDigit with
  | '.' :: rest =>
    let text := whole ++ '.' :: rest.takeWhile Char.isDigit
    ⟨.number (String.ofList text), text, rest.dropWhile Char.isDigit⟩
  | rest => ⟨.number (String.ofList whole), whole, rest⟩

def step? : List Char → Option (List Char × List Char)
  | [] => none
  | '.' :: '.' :: rest => some (['.', '.'], rest)
  | '.' :: rest => some (['.'], rest)
  | c :: cs =>
    if Text.isNameStart c then
      some (c :: cs.takeWhile Text.isNameChar, cs.dropWhile Text.isNameChar)
    else none

theorem append_of_step? {cs step rest : List Char} (h : step? cs = some (step, rest)) :
    step ++ rest = cs := by
  unfold step? at h
  split at h
  · simp at h
  · simp at h; simp [← h.1, ← h.2]
  · simp at h; simp [← h.1, ← h.2]
  · split at h
    · simp at h
      simp [← h.1, ← h.2]
    · simp at h

def scanSteps (cs : List Char) : Bool × List Char × List Char :=
  match cs with
  | '/' :: cs' =>
    match h : step? cs' with
    | none => (false, ['/'], cs')
    | some (step, rest) =>
      have : rest.length ≤ cs'.length := by
        rw [← append_of_step? h]
        simp
      let (complete, steps, rest') := scanSteps rest
      (complete, '/' :: step ++ steps, rest')
  | cs => (true, [], cs)
termination_by cs.length

theorem append_scanSteps (cs : List Char) : (scanSteps cs).2.1 ++ (scanSteps cs).2.2 = cs := by
  fun_induction scanSteps cs with
  | case1 => rfl
  | case2 cs' step rest h _ complete steps rest' heq ih =>
    rw [heq] at ih
    simp only at ih
    simp [ih, append_of_step? h]
  | case3 => simp

def scanPath (cs : List Char) : Scan :=
  let (dots, rest) :=
    match cs with
    | '.' :: '.' :: rest => (['.', '.'], rest)
    | '.' :: rest => (['.'], rest)
    | cs => ([], cs)
  let (complete, steps, rest') := scanSteps rest
  let text := dots ++ steps
  ⟨if complete then .path (String.ofList text) else .malformed .missingStep, text, rest'⟩

def scanOrEqual (c : Char) (alone joined : TokenKind) : List Char → Scan
  | '=' :: rest => ⟨joined, [c, '='], rest⟩
  | cs => ⟨alone, [c], cs⟩

def scanDot (cs : List Char) : Scan :=
  if cs.head?.any Char.isDigit then scanNumber ('.' :: cs) else scanPath ('.' :: cs)

def scanWord (c : Char) (cs : List Char) : Scan :=
  if c.isDigit then scanNumber (c :: cs)
  else if Text.isNameStart c then
    let text := c :: cs.takeWhile Text.isFunctionChar
    ⟨.name (String.ofList text), text, cs.dropWhile Text.isFunctionChar⟩
  else ⟨.malformed (.unexpectedChar c), [c], cs⟩

def scan (c : Char) (cs : List Char) : Scan :=
  match c with
  | '(' => ⟨.leftParen, [c], cs⟩
  | ')' => ⟨.rightParen, [c], cs⟩
  | ',' => ⟨.comma, [c], cs⟩
  | '=' => ⟨.equal, [c], cs⟩
  | '+' => ⟨.plus, [c], cs⟩
  | '-' => ⟨.minus, [c], cs⟩
  | '*' => ⟨.star, [c], cs⟩
  | '|' => ⟨.pipe, [c], cs⟩
  | '!' => scanOrEqual c (.malformed .loneExclamation) .notEqual cs
  | '<' => scanOrEqual c .less .lessEqual cs
  | '>' => scanOrEqual c .greater .greaterEqual cs
  | '$' => scanReference cs
  | '\x27' => scanString '\x27' cs
  | '\x22' => scanString '\x22' cs
  | '/' => scanPath ('/' :: cs)
  | '.' => scanDot cs
  | _ => scanWord c cs

theorem append_scanReference (cs : List Char) :
    (scanReference cs).text ++ (scanReference cs).rest = '$' :: cs := by
  unfold scanReference
  split
  · rename_i cs
    split
    · rename_i rest h
      have := List.takeWhile_append_dropWhile (p := Text.isNameChar) (l := cs)
      rw [h] at this
      simp [this]
    · simp
  · simp

theorem append_scanString (quote : Char) (cs : List Char) :
    (scanString quote cs).text ++ (scanString quote cs).rest = quote :: cs := by
  have happend := List.takeWhile_append_dropWhile (p := (· != quote)) (l := cs)
  unfold scanString
  split
  · rename_i h
    rw [h] at happend
    simpa using happend
  · rename_i h
    rw [h] at happend
    simpa using happend

theorem append_scanNumber (cs : List Char) :
    (scanNumber cs).text ++ (scanNumber cs).rest = cs := by
  have happend := List.takeWhile_append_dropWhile (p := Char.isDigit) (l := cs)
  unfold scanNumber
  split
  · rename_i h
    rw [h] at happend
    simpa using happend
  · simp

theorem append_scanPath (cs : List Char) : (scanPath cs).text ++ (scanPath cs).rest = cs := by
  unfold scanPath
  split
  rename_i dots rest hdots
  have hsteps := append_scanSteps rest
  split at hdots <;> simp only [Prod.mk.injEq] at hdots <;> obtain ⟨rfl, rfl⟩ := hdots <;>
    simp [hsteps]

theorem append_scanOrEqual (c : Char) (alone joined : TokenKind) (cs : List Char) :
    (scanOrEqual c alone joined cs).text ++ (scanOrEqual c alone joined cs).rest = c :: cs := by
  unfold scanOrEqual
  split <;> rfl

theorem append_scanDot (cs : List Char) : (scanDot cs).text ++ (scanDot cs).rest = '.' :: cs := by
  unfold scanDot
  split
  · exact append_scanNumber _
  · exact append_scanPath _

theorem append_scanWord (c : Char) (cs : List Char) :
    (scanWord c cs).text ++ (scanWord c cs).rest = c :: cs := by
  unfold scanWord
  split
  · exact append_scanNumber _
  · split <;> simp

theorem append_scan (c : Char) (cs : List Char) :
    (scan c cs).text ++ (scan c cs).rest = c :: cs := by
  unfold scan
  split
  case h_9 | h_10 | h_11 => exact append_scanOrEqual _ _ _ cs
  case h_12 => exact append_scanReference cs
  case h_13 | h_14 => exact append_scanString _ cs
  case h_15 => exact append_scanPath _
  case h_16 => exact append_scanDot cs
  case h_17 => exact append_scanWord c cs
  all_goals rfl

theorem scanSteps_slash_ne_nil (cs : List Char) : (scanSteps ('/' :: cs)).2.1 ≠ [] := by
  rw [scanSteps]
  split <;> simp

theorem scanReference_text_ne_nil (cs : List Char) : (scanReference cs).text ≠ [] := by
  unfold scanReference
  split
  · split <;> simp
  · simp

theorem scanString_text_ne_nil (quote : Char) (cs : List Char) :
    (scanString quote cs).text ≠ [] := by
  unfold scanString
  split <;> simp

theorem scanOrEqual_text_ne_nil (c : Char) (alone joined : TokenKind) (cs : List Char) :
    (scanOrEqual c alone joined cs).text ≠ [] := by
  unfold scanOrEqual
  split <;> simp

theorem scanDot_text_ne_nil (cs : List Char) : (scanDot cs).text ≠ [] := by
  unfold scanDot
  split
  · have hdrop : List.dropWhile Char.isDigit ('.' :: cs) = '.' :: cs := rfl
    simp [scanNumber, hdrop]
  · unfold scanPath
    split
    rename_i hdots
    split at hdots <;> simp_all
    · simp [← hdots.1]
    · simp [← hdots.1]

theorem scanWord_text_ne_nil (c : Char) (cs : List Char) : (scanWord c cs).text ≠ [] := by
  unfold scanWord
  split
  · rename_i hdigit
    simp only [scanNumber]
    split <;> simp [hdigit]
  · split <;> simp

theorem scan_text_ne_nil (c : Char) (cs : List Char) : (scan c cs).text ≠ [] := by
  unfold scan
  split
  case h_9 | h_10 | h_11 => exact scanOrEqual_text_ne_nil _ _ _ cs
  case h_12 => exact scanReference_text_ne_nil cs
  case h_13 | h_14 => exact scanString_text_ne_nil _ cs
  case h_15 => simpa [scanPath] using scanSteps_slash_ne_nil cs
  case h_16 => exact scanDot_text_ne_nil cs
  case h_17 => exact scanWord_text_ne_nil c cs
  all_goals simp

theorem scan_rest_length_lt {cs : List Char} {c : Char} {rest : List Char}
    (h : cs.dropWhile Text.isBlank = c :: rest) : (scan c rest).rest.length < cs.length := by
  have hdrop := (List.dropWhile_sublist (l := cs) Text.isBlank).length_le
  have happend := congrArg List.length (append_scan c rest)
  have hpos := List.length_pos_iff.2 (scan_text_ne_nil c rest)
  rw [h] at hdrop
  simp only [List.length_append, List.length_cons] at happend hdrop
  omega

def split (cs : List Char) : List Lexeme :=
  match h : cs.dropWhile Text.isBlank with
  | [] => [⟨cs.takeWhile Text.isBlank, [], .endOfInput⟩]
  | c :: rest =>
    have := scan_rest_length_lt h
    ⟨cs.takeWhile Text.isBlank, (scan c rest).text, (scan c rest).kind⟩ :: split (scan c rest).rest
termination_by cs.length

theorem flatMap_split (cs : List Char) :
    (split cs).flatMap (fun lexeme => lexeme.gap ++ lexeme.text) = cs := by
  fun_induction split cs with
  | case1 cs h =>
    have := List.takeWhile_append_dropWhile (p := Text.isBlank) (l := cs)
    simpa [h] using this
  | case2 cs c rest h _ ih =>
    have := List.takeWhile_append_dropWhile (p := Text.isBlank) (l := cs)
    rw [h] at this
    simp only [List.flatMap_cons, ih, List.append_assoc, append_scan]
    exact this

end Lexeme

def lexemes (source : String) : List Lexeme :=
  Lexeme.split source.toList

end Questionnaire
