import Questionnaire.Proofs.Expression.Neighbours

/-!
This module contains how the lexemes of a text are spelled: what a token carries is the text of its
lexeme, without the quotes of a string and without the braces of a reference.
-/

namespace Questionnaire

open Expression (referenceText)

/--
Whether a token of some kind is written as `text`. Malformed tokens can be written in many ways, but
there is some text that is to blame.
-/
def TokenKind.IsWritten (text : List Char) : TokenKind → Prop
  | leftParen => text = ['(']
  | rightParen => text = [')']
  | comma => text = [',']
  | equal => text = ['=']
  | notEqual => text = ['!', '=']
  | less => text = ['<']
  | lessEqual => text = ['<', '=']
  | greater => text = ['>']
  | greaterEqual => text = ['>', '=']
  | plus => text = ['+']
  | minus => text = ['-']
  | star => text = ['*']
  | pipe => text = ['|']
  | number payload | path payload | name payload => text = payload.toList
  | string payload => ∃ quote, (quote = '\x27' ∨ quote = '\x22') ∧ quote ∉ payload.toList ∧
      text = quote :: payload.toList ++ [quote]
  | reference payload => text = referenceText payload
  | endOfInput => text = []
  | malformed _ => text ≠ []

namespace Lexeme

open TokenKind

theorem isWritten_scanReference (cs : List Char) :
    (scanReference cs).kind.IsWritten (scanReference cs).text := by
  unfold scanReference
  split
  · dsimp only
    split
    · dsimp only
      split <;> simp [IsWritten, referenceText]
    · simp [IsWritten]
  · simp [IsWritten]

theorem isWritten_scanString {quote : Char} (hquote : quote = '\x27' ∨ quote = '\x22')
    (cs : List Char) : (scanString quote cs).kind.IsWritten (scanString quote cs).text := by
  unfold scanString
  dsimp only
  split
  · simp [IsWritten]
  · next close rest hclose =>
    have hsame : close = quote := by
      simpa using head?_dropWhile_eq_false (· != quote) cs close (by rw [hclose]; rfl)
    refine ⟨quote, hquote, ?_, ?_⟩
    · rw [String.toList_ofList]
      intro hmem
      simpa using List.mem_takeWhile_imp hmem
    · rw [String.toList_ofList, hsame]

theorem isWritten_scanNumber (cs : List Char) :
    (scanNumber cs).kind.IsWritten (scanNumber cs).text := by
  unfold scanNumber
  dsimp only
  split <;> simp [IsWritten]

theorem isWritten_scanPath {cs : List Char} (h : (scanPath cs).text ≠ []) :
    (scanPath cs).kind.IsWritten (scanPath cs).text := by
  generalize hscanned : scanPath cs = scanned at *
  unfold scanPath at hscanned
  split at hscanned
  next dots rest _ =>
  generalize scanSteps rest = steps at hscanned
  obtain ⟨complete, steps, rest'⟩ := steps
  subst hscanned
  cases complete with
  | false => exact h
  | true => simp [IsWritten]

theorem isWritten_scanDot (cs : List Char) :
    (scanDot cs).kind.IsWritten (scanDot cs).text := by
  have hne := scanDot_text_ne_nil cs
  generalize hscanned : scanDot cs = scanned at *
  unfold scanDot at hscanned
  split at hscanned <;> subst hscanned
  · exact isWritten_scanNumber _
  · exact isWritten_scanPath hne

theorem isWritten_scanWord (c : Char) (cs : List Char) :
    (scanWord c cs).kind.IsWritten (scanWord c cs).text := by
  unfold scanWord
  split
  · exact isWritten_scanNumber _
  · split <;> simp [IsWritten]

theorem isWritten_scan (c : Char) (cs : List Char) :
    (scan c cs).kind.IsWritten (scan c cs).text := by
  have hne := scan_text_ne_nil c cs
  unfold scan at hne ⊢
  split at hne
  -- Only a path relies on the text being there at all.
  case h_9 | h_10 | h_11 =>
    unfold scanOrEqual
    split <;> simp [IsWritten]
  case h_12 => exact isWritten_scanReference cs
  case h_13 => exact isWritten_scanString (Or.inl rfl) cs
  case h_14 => exact isWritten_scanString (Or.inr rfl) cs
  case h_15 => exact isWritten_scanPath hne
  case h_16 => exact isWritten_scanDot cs
  case h_17 => exact isWritten_scanWord c cs
  all_goals rfl

theorem forall_mem_split {P : Lexeme → Prop}
    (hlast : ∀ gap : List Char, (∀ c ∈ gap, Text.isBlank c = true) → P ⟨gap, [], .endOfInput⟩)
    (hscan : ∀ (gap : List Char) (c : Char) (rest : List Char),
      (∀ c ∈ gap, Text.isBlank c = true) → P ⟨gap, (scan c rest).text, (scan c rest).kind⟩)
    (cs : List Char) : ∀ lexeme ∈ split cs, P lexeme := by
  have hblank (cs : List Char) : ∀ c ∈ cs.takeWhile Text.isBlank, Text.isBlank c = true := by
    intro c hc
    exact List.mem_takeWhile_imp hc
  fun_induction split cs with
  | case1 cs _ =>
    intro lexeme hlexeme
    cases List.mem_singleton.1 hlexeme
    exact hlast _ (hblank cs)
  | case2 cs c rest _ _ ih =>
    intro lexeme hlexeme
    rcases List.mem_cons.1 hlexeme with rfl | hlexeme
    · exact hscan _ c rest (hblank cs)
    · exact ih lexeme hlexeme

theorem isWritten_split (cs : List Char) :
    ∀ lexeme ∈ split cs, lexeme.kind.IsWritten lexeme.text :=
  forall_mem_split (fun _ _ => rfl) (fun _ c rest _ => isWritten_scan c rest) cs

theorem gap_split (cs : List Char) :
    ∀ lexeme ∈ split cs, ∀ c ∈ lexeme.gap, Text.isBlank c = true :=
  forall_mem_split (fun _ hgap => hgap) (fun _ _ _ hgap => hgap) cs

theorem text_split (cs : List Char) :
    ∀ lexeme ∈ split cs, lexeme.kind ≠ .endOfInput → lexeme.text ≠ [] :=
  forall_mem_split (fun _ _ hne => absurd rfl hne) (fun _ c rest _ _ => scan_text_ne_nil c rest) cs

theorem exists_endOfInput_split (cs : List Char) :
    ∃ body gap, split cs = body ++ [⟨gap, [], .endOfInput⟩] ∧
      ∀ lexeme ∈ body, lexeme.kind ≠ .endOfInput := by
  fun_induction split cs with
  | case1 cs _ => exact ⟨[], _, rfl, by simp⟩
  | case2 cs c rest _ _ ih =>
    obtain ⟨body, gap, hsplit, hbody⟩ := ih
    refine ⟨⟨cs.takeWhile Text.isBlank, (scan c rest).text, (scan c rest).kind⟩ :: body, gap, ?_, ?_⟩
    · rw [hsplit, List.cons_append]
    · exact List.forall_mem_cons.2 ⟨scan_kind_ne_endOfInput c rest, hbody⟩

theorem text_of_reference {name : String} {cs : List Char} :
    ∀ lexeme ∈ split cs, lexeme.kind = .reference name → lexeme.text = referenceText name := by
  intro lexeme hlexeme hkind
  have h := isWritten_split cs lexeme hlexeme
  rw [hkind] at h
  exact h

end Lexeme

end Questionnaire
