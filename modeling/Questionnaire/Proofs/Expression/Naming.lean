import Questionnaire.Expression.Compilation
import Questionnaire.Proofs.Expression.PathText

/-!
This module contains that every name a node can have is also one that expressions can mention, in
braces as well as between the slashes of a path, and that braces hold no other names.
-/

namespace Questionnaire

namespace Lexeme

theorem isName_of_scanReference {cs : List Char} {name : String}
    (h : (scanReference cs).kind = .reference name) : Text.isName name = true := by
  unfold scanReference at h
  split at h
  · dsimp only at h
    split at h
    · dsimp only at h
      split at h
      · next hname =>
        cases h
        exact hname
      · cases h
    · cases h
  · cases h

theorem isName_of_split {cs : List Char} {name : String} {kinds : List TokenKind}
    (h : (split ('$' :: cs)).map Lexeme.kind = .reference name :: kinds) :
    Text.isName name = true := by
  have hdrop : ('$' :: cs).dropWhile Text.isBlank = '$' :: cs :=
    List.dropWhile_cons_of_neg (by decide)
  rw [split_eq_cons hdrop, List.map_cons] at h
  exact isName_of_scanReference (List.cons.inj h).1

theorem scan_slash (cs : List Char) :
    scan '/' cs =
      ⟨if (scanSteps ('/' :: cs)).1 then .path (String.ofList (scanSteps ('/' :: cs)).2.1)
        else .malformed .missingStep, (scanSteps ('/' :: cs)).2.1, (scanSteps ('/' :: cs)).2.2⟩ :=
  rfl

theorem standsBefore_absolutePath {names : List String} (hne : names ≠ [])
    (hnamed : NodePath.IsNamed names) (gap : List Char) {next : Option Char}
    (hnext : EndsPath next) :
    StandsBefore ⟨gap, slashed names, .path (String.ofList (slashed names))⟩ next := by
  cases names with
  | nil => exact absurd rfl hne
  | cons name names =>
    refine ⟨'/', name.toList ++ slashed names, rfl, by decide, ?_⟩
    intro rest hrest
    have hsteps : ∀ step ∈ name :: names, step = ".." ∨ Text.isName step = true := by
      intro step hstep
      exact Or.inr (hnamed step hstep)
    have hscan := scanSteps_slashed hsteps (show EndsPath rest.head? by rwa [hrest])
    have hslashed : slashed (name :: names) = '/' :: (name.toList ++ slashed names) := rfl
    rw [hslashed, List.cons_append] at hscan
    rw [scan_slash, hscan, hslashed]
    rfl

end Lexeme

theorem toList_reference (name : String) :
    ("$\x7b" ++ name ++ "\x7d").toList = Expression.referenceText name := by
  simp [Expression.referenceText]

theorem map_kind_tokens_reference {name : String} (h : Text.isName name = true) :
    (tokens ("$\x7b" ++ name ++ "\x7d")).map Token.kind = [.reference name, .endOfInput] := by
  rw [map_kind_tokens, lexemes, toList_reference, Expression.referenceText,
    Lexeme.split_of_standsBefore (Lexeme.standsBefore_reference h [] none)]
  rfl

theorem map_kind_tokens_absolutePath {names : List String} (hne : names ≠ [])
    (hnamed : NodePath.IsNamed names) :
    (tokens ("/" ++ "/".intercalate names)).map Token.kind =
      [.path ("/" ++ "/".intercalate names), .endOfInput] := by
  have htext : ("/" ++ "/".intercalate names).toList = Lexeme.slashed names := by
    cases names with
    | nil => exact absurd rfl hne
    | cons name names =>
      rw [String.toList_append, Lexeme.toList_intercalate_slash]
      rfl
  have hends : Lexeme.EndsPath none := by simp [Lexeme.EndsPath]
  rw [map_kind_tokens, lexemes, htext,
    Lexeme.split_of_standsBefore (Lexeme.standsBefore_absolutePath hne hnamed [] hends), ← htext,
    String.ofList_toList]
  rfl

theorem map_kind_tokens_relativePath {relative : RelativePath} (hne : relative.names ≠ [])
    (hnamed : NodePath.IsNamed relative.names) :
    (tokens relative.text).map Token.kind = [.path relative.text, .endOfInput] := by
  rw [map_kind_tokens, lexemes, Lexeme.split_relativePath hne hnamed]
  rfl

inductive StartsPath : String → Prop
  | owner : StartsPath "./"
  | root : StartsPath "/"
  | climb (climbs : Nat) : StartsPath (String.join (List.replicate (climbs + 1) "../"))

theorem names_read_alike :
    (∀ name : String, Text.isName name = true ↔
      (tokens ("$\x7b" ++ name ++ "\x7d")).map Token.kind = [.reference name, .endOfInput]) ∧
    ∀ (start : String) (names : List String), StartsPath start → names ≠ [] →
      NodePath.IsNamed names → (tokens (start ++ "/".intercalate names)).map Token.kind =
        [.path (start ++ "/".intercalate names), .endOfInput] := by
  constructor
  · intro name
    constructor
    · exact map_kind_tokens_reference
    · intro h
      rw [map_kind_tokens, lexemes, toList_reference] at h
      exact Lexeme.isName_of_split h
  · intro start names hstart hne hnamed
    cases hstart with
    | owner =>
      have htext : "./" ++ "/".intercalate names = RelativePath.text ⟨0, names⟩ := rfl
      rw [htext]
      exact map_kind_tokens_relativePath hne hnamed
    | root => exact map_kind_tokens_absolutePath hne hnamed
    | climb climbs =>
      have htext : String.join (List.replicate (climbs + 1) "../") ++ "/".intercalate names =
          RelativePath.text ⟨climbs + 1, names⟩ := rfl
      rw [htext]
      exact map_kind_tokens_relativePath hne hnamed

theorem names_read_alike_accented :
    NodePath.IsNamed ["fièvre", "jour-1.b"] ∧
      (tokens "$\x7bfièvre\x7d").map Token.kind = [.reference "fièvre", .endOfInput] ∧
      (tokens "../../fièvre/jour-1.b").map Token.kind =
        [.path "../../fièvre/jour-1.b", .endOfInput] := by
  have hnamed : NodePath.IsNamed ["fièvre", "jour-1.b"] := by decide +kernel
  have htext : String.join (List.replicate 2 "../") ++ "/".intercalate ["fièvre", "jour-1.b"] =
      "../../fièvre/jour-1.b" := by
    decide +kernel
  have hpath := names_read_alike.2 _ _ (.climb 1) (by simp) hnamed
  rw [htext] at hpath
  exact ⟨hnamed, (names_read_alike.1 "fièvre").1 (hnamed _ List.mem_cons_self), hpath⟩

end Questionnaire
