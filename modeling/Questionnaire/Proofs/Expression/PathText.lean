import Questionnaire.Expression.Token
import Questionnaire.Proofs.Expression.Lexing

/-!
This module contains where the texts of relative paths lead. The text of the path to a node is one
lexeme and leads back to the node, unless the node is a container around the owner of the path.
-/

namespace Questionnaire

theorem Token.map_kind_locate (position : Position) (lexemes : List Lexeme) :
    (locate position lexemes).map Token.kind = lexemes.map Lexeme.kind := by
  induction lexemes generalizing position with
  | nil => rfl
  | cons lexeme lexemes ih => rw [locate, List.map_cons, List.map_cons, ih]

theorem map_kind_tokens (source : String) :
    (tokens source).map Token.kind = (lexemes source).map Lexeme.kind :=
  Token.map_kind_locate _ _

namespace Lexeme

theorem split_relativePath {relative : RelativePath} (hne : relative.names ≠ [])
    (hnamed : NodePath.IsNamed relative.names) :
    split relative.text.toList =
      [⟨[], relative.text.toList, .path relative.text⟩, ⟨[], [], .endOfInput⟩] := by
  have hends : EndsPath none := by simp [EndsPath]
  exact split_of_standsBefore (standsBefore_relativePath hne hnamed [] hends)

theorem scanSteps_climb (climbs : Nat) {rest : List Char} (hrest : EndsPath rest.head?) :
    scanSteps (slashed (List.replicate climbs ".." ++ [""]) ++ rest) =
      (false, slashed (List.replicate climbs ".." ++ [""]), rest) := by
  induction climbs with
  | zero => exact scanSteps_slash_of_none (step?_eq_none fun c hc => (hrest c hc).1)
  | succ climbs ih =>
    have hslashed : slashed (List.replicate (climbs + 1) ".." ++ [""]) =
        '/' :: '.' :: '.' :: slashed (List.replicate climbs ".." ++ [""]) := by
      simp [slashed, List.replicate_succ]
    rw [hslashed, List.cons_append, List.cons_append, List.cons_append,
      scanSteps_slash (step?_dots _), ih]
    rfl

theorem standsBefore_climb (climbs : Nat) (gap : List Char) {next : Option Char}
    (hnext : EndsPath next) :
    StandsBefore ⟨gap, (RelativePath.text ⟨climbs + 1, []⟩).toList, .malformed .missingStep⟩
      next := by
  have htext := toList_text_succ climbs (List.cons_ne_nil "" [])
  refine ⟨'.', '.' :: slashed (List.replicate climbs ".." ++ [""]), htext, by decide, ?_⟩
  intro rest hrest
  have hsteps := scanSteps_climb climbs (show EndsPath rest.head? by rwa [hrest])
  rw [List.cons_append]
  simp [scan, scanDot, scanPath, hsteps]

theorem map_kind_split_climb (climbs : Nat) :
    (split (RelativePath.text ⟨climbs + 1, []⟩).toList).map Lexeme.kind =
      [.malformed .missingStep, .endOfInput] := by
  have hends : EndsPath none := by simp [EndsPath]
  rw [split_of_standsBefore (standsBefore_climb climbs [] hends)]
  rfl

end Lexeme

namespace NodePath

theorem dropCommon_append (target up : NodePath) : dropCommon (target ++ up) target = (up, []) := by
  induction target with
  | nil => cases up <;> rfl
  | cons name target ih =>
    rw [List.cons_append, dropCommon, if_pos rfl, ih]

theorem exists_climb_of_encloses {owner target : NodePath} (h : target.Encloses owner) :
    ∃ climbs, owner.relativeTo target = ⟨climbs + 1, []⟩ := by
  obtain ⟨⟨up, rfl⟩, hne⟩ := h
  cases up with
  | nil => exact absurd (List.append_nil target).symm hne
  | cons name up =>
    refine ⟨up.length, ?_⟩
    unfold relativeTo
    rw [dropCommon_append]
    rfl

theorem resolve?_text_climb (owner : NodePath) (climbs : Nat) :
    owner.resolve? (RelativePath.text ⟨climbs + 1, []⟩) = none := by
  have hslash : ∀ name ∈ [""], '/' ∉ name.toList := by decide
  unfold resolve?
  rw [RelativePath.text_climb, RelativePath.splitAtChar_text (by simp) hslash]
  unfold RelativePath.steps
  rw [follow?_append]
  -- Wherever the climb ends, the empty step behind it leads nowhere.
  cases follow? owner _ <;> rfl

theorem relativeTo_leads_back (owner target : NodePath) (hne : target ≠ [])
    (hnamed : target.IsNamed) :
    if target.Encloses owner then
      owner.resolve? (owner.relativeTo target).text = none ∧
        (tokens (owner.relativeTo target).text).map Token.kind =
          [.malformed .missingStep, .endOfInput]
    else
      owner.resolve? (owner.relativeTo target).text = some target ∧
        (tokens (owner.relativeTo target).text).map Token.kind =
          [.path (owner.relativeTo target).text, .endOfInput] := by
  rw [map_kind_tokens, lexemes]
  split
  · next hencloses =>
    obtain ⟨climbs, hclimb⟩ := exists_climb_of_encloses hencloses
    rw [hclimb]
    exact ⟨resolve?_text_climb owner climbs, Lexeme.map_kind_split_climb climbs⟩
  · next hout =>
    obtain ⟨hnames, hvalid⟩ := isNamed_relativeTo hne hnamed hout
    rw [Lexeme.split_relativePath hnames hvalid]
    exact ⟨resolve?_text_relativeTo hne hnamed hout, rfl⟩

theorem relativeTo_leads_back_cousin :
    resolve? ["g", "x"] (relativeTo ["g", "x"] ["h", "y"]).text = some ["h", "y"] ∧
      (tokens (relativeTo ["g", "x"] ["h", "y"]).text).map Token.kind =
        [.path (relativeTo ["g", "x"] ["h", "y"]).text, .endOfInput] := by
  have h := relativeTo_leads_back ["g", "x"] ["h", "y"] (by decide) (by decide)
  rw [if_neg (by decide)] at h
  exact h

theorem relativeTo_container_leads_nowhere :
    ¬ ∀ owner target : NodePath, target ≠ [] → owner.IsNamed → target.IsNamed →
      owner.resolve? (owner.relativeTo target).text = some target ∧
        (tokens (owner.relativeTo target).text).map Token.kind =
          [.path (owner.relativeTo target).text, .endOfInput] := by
  intro h
  have hback := (h ["g", "x"] ["g"] (by decide) (by decide) (by decide)).1
  have hnowhere : resolve? ["g", "x"] (relativeTo ["g", "x"] ["g"]).text = none := by
    decide +kernel
  rw [hnowhere] at hback
  cases hback

end NodePath

end Questionnaire
