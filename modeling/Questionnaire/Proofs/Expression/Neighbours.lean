import Questionnaire.Expression.Compilation
import Questionnaire.Proofs.Expression.Phrase

/-!
This module contains what may stand next to a mention of a node in an accepted expression: in front
of it there is nothing or a lexeme that asks for an operand, and behind it no path goes on.
-/

namespace Questionnaire

def TokenKind.Opens (kind : TokenKind) : Prop :=
  ∃ expecting : Expecting, expecting.after kind = some .operand

theorem Expecting.after_operator_of_namesNode {kind : TokenKind} (h : kind.namesNode = true) :
    after operator kind = none := by
  cases kind with
  | reference name => rfl
  | path text => rfl
  | _ => cases h

namespace Phrase

theorem ne_nil {expecting : Expecting} {lexemes : List Lexeme} (h : Phrase expecting lexemes) :
    lexemes ≠ [] := by
  cases h <;> simp

theorem after_of_ne {expecting : Expecting} {lexeme : Lexeme} {lexemes : List Lexeme}
    (h : Phrase expecting (lexeme :: lexemes)) (hne : lexemes ≠ []) :
    ∃ next, expecting.after lexeme.kind = some next ∧ Phrase next lexemes := by
  cases h with
  | last gap => exact absurd rfl hne
  | cons hnext hrest => exact ⟨_, hnext, hrest⟩

theorem of_namesNode {expecting : Expecting} {lexeme : Lexeme} {lexemes : List Lexeme}
    (h : Phrase expecting (lexeme :: lexemes)) (hkind : lexeme.kind.namesNode = true) :
    expecting = .operand ∧ Phrase .operator lexemes := by
  cases h with
  | last gap => cases hkind
  | @cons _ next _ _ hnext hrest =>
    obtain ⟨gap, text, kind⟩ := lexeme
    dsimp only at hkind hnext
    cases expecting with
    | operand =>
      cases kind with
      | reference name =>
        cases hnext
        exact ⟨rfl, hrest⟩
      | path text =>
        cases hnext
        exact ⟨rfl, hrest⟩
      | _ => cases hkind
    | arguments => cases kind <;> first | (cases hkind; done) | cases hnext
    | operator =>
      rw [Expecting.after_operator_of_namesNode hkind] at hnext
      cases hnext

end Phrase

namespace TokenKind

theorem not_opens_of_namesNode {kind : TokenKind} (h : kind.namesNode = true) : ¬ kind.Opens := by
  rintro ⟨expecting, hafter⟩
  cases kind with
  | reference name => cases expecting <;> cases hafter
  | path text => cases expecting <;> cases hafter
  | _ => cases h

theorem not_opens_number (text : String) : ¬ (number text).Opens := by
  rintro ⟨expecting, hafter⟩
  cases expecting <;> cases hafter

theorem not_opens_string (text : String) : ¬ (string text).Opens := by
  rintro ⟨expecting, hafter⟩
  cases expecting <;> cases hafter

theorem not_opens_malformed (fault : LexicalFault) : ¬ (malformed fault).Opens := by
  rintro ⟨expecting, hafter⟩
  cases expecting <;> cases hafter

end TokenKind

namespace Lexeme

open TokenKind

theorem not_opens_scanReference (cs : List Char) : ¬ (scanReference cs).kind.Opens := by
  unfold scanReference
  split
  · dsimp only
    split
    · dsimp only
      split
      · exact not_opens_of_namesNode rfl
      · exact not_opens_malformed _
    · exact not_opens_malformed _
  · exact not_opens_malformed _

theorem not_opens_scanString (quote : Char) (cs : List Char) :
    ¬ (scanString quote cs).kind.Opens := by
  unfold scanString
  dsimp only
  split
  · exact not_opens_malformed _
  · exact not_opens_string _

theorem not_opens_scanNumber (cs : List Char) : ¬ (scanNumber cs).kind.Opens := by
  unfold scanNumber
  dsimp only
  split
  · exact not_opens_number _
  · exact not_opens_number _

theorem scanPath_kind (cs : List Char) :
    (∃ text, (scanPath cs).kind = .path text) ∨ (scanPath cs).kind = .malformed .missingStep := by
  unfold scanPath
  dsimp only
  split
  · split
    · exact Or.inl ⟨_, rfl⟩
    · exact Or.inr rfl
  · split
    · exact Or.inl ⟨_, rfl⟩
    · exact Or.inr rfl
  · split
    · exact Or.inl ⟨_, rfl⟩
    · exact Or.inr rfl

theorem not_opens_scanPath (cs : List Char) : ¬ (scanPath cs).kind.Opens := by
  rcases scanPath_kind cs with ⟨text, h⟩ | h
  · rw [h]
    exact not_opens_of_namesNode rfl
  · rw [h]
    exact not_opens_malformed _

def StaysApart (c : Char) : Prop :=
  Text.isFunctionChar c = false ∧ c ≠ '='

section Opens

variable {c : Char} {text behind rest : List Char} {kind : TokenKind}

theorem scanOrEqual_of_opens {alone joined : TokenKind}
    (h : scanOrEqual c alone joined (text ++ behind) = ⟨kind, c :: text, behind⟩)
    (hrest : ∀ d ∈ rest.head?, StaysApart d) :
    scanOrEqual c alone joined (text ++ rest) = ⟨kind, c :: text, rest⟩ := by
  have hequal : ∀ tail, rest = '=' :: tail → False := by
    intro tail htail
    rw [htail] at hrest
    exact (hrest '=' rfl).2 rfl
  unfold scanOrEqual at h
  split at h <;> simp only [Scan.mk.injEq, List.cons.injEq, true_and] at h <;>
    obtain ⟨rfl, rfl, -⟩ := h
  · rfl
  · simp [scanOrEqual]

theorem scanWord_of_opens (h : scanWord c (text ++ behind) = ⟨kind, c :: text, behind⟩)
    (hopens : kind.Opens) (hrest : ∀ d ∈ rest.head?, StaysApart d) :
    scanWord c (text ++ rest) = ⟨kind, c :: text, rest⟩ := by
  unfold scanWord at h ⊢
  split at h
  · have hnumber := not_opens_scanNumber (c :: (text ++ behind))
    rw [h] at hnumber
    exact absurd hopens hnumber
  · next hdigit =>
    rw [if_neg hdigit]
    split at h
    · next hstart =>
      rw [if_pos hstart]
      simp only [Scan.mk.injEq, List.cons.injEq, true_and] at h
      obtain ⟨rfl, htext, -⟩ := h
      have hname : ∀ d ∈ text, Text.isFunctionChar d = true := by
        intro d hd
        rw [← htext] at hd
        exact List.mem_takeWhile_imp hd
      obtain ⟨htake, hdrop⟩ := takeWhile_append_of_head? hname fun d hd => (hrest d hd).1
      rw [htake, hdrop, htext]
    · simp only [Scan.mk.injEq] at h
      rw [← h.1] at hopens
      exact absurd hopens (not_opens_malformed _)

theorem not_opens_scanDot (cs : List Char) : ¬ (scanDot cs).kind.Opens := by
  unfold scanDot
  split
  · exact not_opens_scanNumber _
  · exact not_opens_scanPath _

theorem scan_of_opens (h : scan c (text ++ behind) = ⟨kind, c :: text, behind⟩)
    (hopens : kind.Opens) (hrest : ∀ d ∈ rest.head?, StaysApart d) :
    scan c (text ++ rest) = ⟨kind, c :: text, rest⟩ := by
  -- Lexemes of most shapes ask for no operand, which rules their cases out.
  have hother : ∀ scanned : Scan, ¬ scanned.kind.Opens → scanned = ⟨kind, c :: text, behind⟩ →
      False := by
    intro scanned hscanned heq
    rw [heq] at hscanned
    exact hscanned hopens
  unfold scan at h
  split at h
  case h_9 | h_10 | h_11 => exact scanOrEqual_of_opens h hrest
  case h_12 => exact (hother _ (not_opens_scanReference _) h).elim
  case h_13 | h_14 => exact (hother _ (not_opens_scanString _ _) h).elim
  case h_15 => exact (hother _ (not_opens_scanPath _) h).elim
  case h_16 => exact (hother _ (not_opens_scanDot _) h).elim
  case h_17 =>
    simp only [scan]
    exact scanWord_of_opens h hopens hrest
  all_goals
    simp only [Scan.mk.injEq, List.cons.injEq, true_and] at h
    obtain ⟨rfl, rfl, -⟩ := h
    rfl

end Opens

theorem StandsBefore.of_opens {lexeme : Lexeme} {next next' : Option Char}
    (h : lexeme.StandsBefore next) (hopens : lexeme.kind.Opens)
    (hnext : ∀ c ∈ next', StaysApart c) : lexeme.StandsBefore next' := by
  obtain ⟨c, text, htext, hblank, hscan⟩ := h
  refine ⟨c, text, htext, hblank, ?_⟩
  intro rest hrest
  apply scan_of_opens (hscan next.toList (by cases next <;> rfl)) hopens
  rw [hrest]
  exact hnext

theorem StandsBefore.scan_eq {lexeme : Lexeme} {next : Option Char} (h : lexeme.StandsBefore next) :
    ∃ c text, lexeme.text = c :: text ∧ Text.isBlank c = false ∧
      (scan c (text ++ next.toList)).kind = lexeme.kind := by
  obtain ⟨c, text, htext, hblank, hscan⟩ := h
  refine ⟨c, text, htext, hblank, ?_⟩
  rw [hscan next.toList (by cases next <;> rfl)]

theorem Separate.gap_eq {lexeme : Lexeme} {lexemes : List Lexeme}
    (h : Separate (lexeme :: lexemes)) : ∀ c ∈ lexeme.gap, Text.isBlank c = true := by
  cases h with
  | last hgap => exact hgap
  | cons hgap _ _ => exact hgap

theorem Separate.standsBefore {lexeme : Lexeme} {lexemes : List Lexeme}
    (h : Separate (lexeme :: lexemes)) (hne : lexemes ≠ []) :
    lexeme.StandsBefore (lexemes.flatMap chars).head? := by
  cases h with
  | last _ => exact absurd rfl hne
  | cons _ hstands _ => exact hstands

theorem Separate.tail {lexeme : Lexeme} {lexemes : List Lexeme}
    (h : Separate (lexeme :: lexemes)) (hne : lexemes ≠ []) : Separate lexemes := by
  cases h with
  | last _ => exact absurd rfl hne
  | cons _ _ hrest => exact hrest

theorem ne_slash_of_operator {lexemes : List Lexeme} (hphrase : Phrase .operator lexemes)
    (hseparate : Separate lexemes) : ∀ c ∈ (lexemes.flatMap chars).head?, c ≠ '/' := by
  rintro c hc rfl
  -- A slash that is neither white space nor inside a lexeme starts an absolute path, but behind an
  -- operand there can be no path.
  cases hseparate with
  | @last gap hgap =>
    simp only [List.flatMap_singleton, chars, List.append_nil, Option.mem_def] at hc
    obtain ⟨tail, rfl⟩ := List.head?_eq_some_iff.1 hc
    exact absurd (hgap '/' List.mem_cons_self) (by decide)
  | @cons lexeme rest hgap hstands _ =>
    obtain ⟨d, text, htext, -, hkind⟩ := hstands.scan_eq
    obtain ⟨gap, _, kind⟩ := lexeme
    dsimp only at htext hkind hgap
    subst htext
    rw [List.flatMap_cons, chars] at hc
    cases gap with
    | cons b gap =>
      cases hc
      exact absurd (hgap '/' List.mem_cons_self) (by decide)
    | nil =>
      cases hc
      have hscan : scan '/' (text ++ (rest.flatMap chars).head?.toList) =
          scanPath ('/' :: (text ++ (rest.flatMap chars).head?.toList)) := rfl
      rw [hscan] at hkind
      cases hphrase with
      | cons hnext _ =>
        rcases scanPath_kind ('/' :: (text ++ (rest.flatMap chars).head?.toList)) with
          ⟨path, hpath⟩ | hpath
        · rw [← hkind, hpath, Expecting.after_operator_of_namesNode rfl] at hnext
          cases hnext
        · rw [← hkind, hpath, Expecting.after_malformed] at hnext
          cases hnext

end Lexeme

end Questionnaire
