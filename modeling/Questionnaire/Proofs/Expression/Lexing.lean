import Questionnaire.Expression.Lexeme
import Questionnaire.Proofs.NodePath

/-!
This module contains the theory of dividing a text into lexemes: which lists of lexemes are found
again in their own text. One character behind a lexeme decides where the lexeme ends.
-/

namespace Questionnaire

def TokenKind.IsProper (kind : TokenKind) : Prop :=
  ∀ fault, kind ≠ .malformed fault

theorem RelativePath.text_climb (climbs : Nat) : text ⟨climbs, []⟩ = text ⟨climbs, [""]⟩ :=
  rfl

namespace Lexeme

theorem takeWhile_append_of_head? {p : Char → Bool} {run rest : List Char}
    (hrun : ∀ c ∈ run, p c = true) (hrest : ∀ c ∈ rest.head?, p c = false) :
    (run ++ rest).takeWhile p = run ∧ (run ++ rest).dropWhile p = rest := by
  rw [List.takeWhile_append_of_pos hrun, List.dropWhile_append_of_pos hrun]
  cases rest with
  | nil => simp
  | cons c rest =>
    have hc : p c = false := hrest c rfl
    rw [List.takeWhile_cons_of_neg (by simp [hc]), List.dropWhile_cons_of_neg (by simp [hc])]
    simp

theorem head?_dropWhile_eq_false (p : Char → Bool) (cs : List Char) :
    ∀ c ∈ (cs.dropWhile p).head?, p c = false := by
  intro c hc
  have := List.head?_dropWhile_not p cs
  rw [Option.mem_def] at hc
  rw [hc] at this
  simpa using this

theorem head?_append_mono {run rest rest' : List Char} (h : ∀ c ∈ rest'.head?, c ∈ rest.head?) :
    ∀ c ∈ (run ++ rest').head?, c ∈ (run ++ rest).head? := by
  cases run with
  | nil => exact h
  | cons c run =>
    intro d hd
    exact hd

theorem ne_cons_of_head? {c : Char} {cs rest : List Char} (h : ∀ d ∈ rest.head?, d ∈ cs.head?)
    (hne : ∀ tail, cs = c :: tail → False) : ∀ tail, rest = c :: tail → False := by
  intro tail htail
  rw [htail] at h
  obtain ⟨tail', htail'⟩ := List.head?_eq_some_iff.1 (h c rfl)
  exact hne tail' htail'

theorem scanReference_braces {name rest : List Char} (h : ∀ c ∈ name, Text.isNameChar c = true) :
    scanReference ('{' :: name ++ '}' :: rest) =
      ⟨if Text.isName (String.ofList name) then .reference (String.ofList name)
        else .malformed (.invalidReference (String.ofList name)),
        '$' :: '{' :: name ++ ['}'], rest⟩ := by
  have hbrace : ∀ c ∈ ('}' :: rest).head?, Text.isNameChar c = false := by
    intro c hc
    cases hc
    decide
  obtain ⟨htake, hdrop⟩ := takeWhile_append_of_head? h hbrace
  rw [List.cons_append]
  simp only [scanReference, htake, hdrop]

theorem scanReference_append {cs text behind rest : List Char} {kind : TokenKind}
    (h : scanReference cs = ⟨kind, '$' :: text, behind⟩) (hkind : kind.IsProper) :
    scanReference (text ++ rest) = ⟨kind, '$' :: text, rest⟩ := by
  unfold scanReference at h
  split at h
  · next cs =>
    have hname : ∀ c ∈ cs.takeWhile Text.isNameChar, Text.isNameChar c = true := by
      intro c hc
      exact List.mem_takeWhile_imp hc
    dsimp only at h
    split at h
    · next behind' hbehind =>
      simp only [Scan.mk.injEq, List.cons_append, List.cons.injEq, true_and] at h
      obtain ⟨rfl, rfl, rfl⟩ := h
      rw [List.cons_append, List.append_assoc, List.singleton_append]
      exact scanReference_braces hname
    · simp only [Scan.mk.injEq] at h
      exact absurd h.1.symm (hkind _)
  · simp only [Scan.mk.injEq] at h
    exact absurd h.1.symm (hkind _)

theorem scanString_quoted {quote : Char} {body rest : List Char} (h : quote ∉ body) :
    scanString quote (body ++ quote :: rest) =
      ⟨.string (String.ofList body), quote :: body ++ [quote], rest⟩ := by
  have hbody : ∀ c ∈ body, (c != quote) = true := by
    intro c hc
    rw [bne_iff_ne]
    rintro rfl
    exact h hc
  have hquote : ∀ c ∈ (quote :: rest).head?, (c != quote) = false := by
    intro c hc
    cases hc
    simp
  obtain ⟨htake, hdrop⟩ := takeWhile_append_of_head? hbody hquote
  simp only [scanString, htake, hdrop]

theorem scanString_append {quote : Char} {cs text behind rest : List Char} {kind : TokenKind}
    (h : scanString quote cs = ⟨kind, quote :: text, behind⟩) (hkind : kind.IsProper) :
    scanString quote (text ++ rest) = ⟨kind, quote :: text, rest⟩ := by
  have hbody : quote ∉ cs.takeWhile (· != quote) := by
    intro hmem
    have := List.mem_takeWhile_imp hmem
    simp at this
  unfold scanString at h
  dsimp only at h
  split at h
  · simp only [Scan.mk.injEq] at h
    exact absurd h.1.symm (hkind _)
  · next close behind' hbehind =>
    have hclose : close = quote := by
      have := head?_dropWhile_eq_false (· != quote) cs close (by rw [hbehind]; rfl)
      simpa using this
    simp only [Scan.mk.injEq, List.cons_append, List.cons.injEq, true_and] at h
    obtain ⟨rfl, rfl, rfl⟩ := h
    rw [hclose, List.append_assoc, List.singleton_append, scanString_quoted hbody]
    simp

theorem scanNumber_whole {whole rest : List Char} (h : ∀ c ∈ whole, c.isDigit = true)
    (hrest : ∀ c ∈ rest.head?, c.isDigit = false ∧ c ≠ '.') :
    scanNumber (whole ++ rest) = ⟨.number (String.ofList whole), whole, rest⟩ := by
  obtain ⟨htake, hdrop⟩ := takeWhile_append_of_head? h fun c hc => (hrest c hc).1
  unfold scanNumber
  rw [hdrop, htake]
  split
  · exact absurd rfl (hrest '.' rfl).2
  · rfl

theorem scanNumber_point {whole part rest : List Char} (h : ∀ c ∈ whole, c.isDigit = true)
    (hpart : ∀ c ∈ part, c.isDigit = true) (hrest : ∀ c ∈ rest.head?, c.isDigit = false) :
    scanNumber (whole ++ '.' :: part ++ rest) =
      ⟨.number (String.ofList (whole ++ '.' :: part)), whole ++ '.' :: part, rest⟩ := by
  have hpoint : ∀ c ∈ ('.' :: (part ++ rest)).head?, c.isDigit = false := by
    intro c hc
    cases hc
    rfl
  obtain ⟨htake, hdrop⟩ := takeWhile_append_of_head? h hpoint
  obtain ⟨htake', hdrop'⟩ := takeWhile_append_of_head? hpart hrest
  unfold scanNumber
  rw [List.append_assoc, List.cons_append, hdrop, htake]
  simp only [htake', hdrop']

theorem scanNumber_append {cs text behind rest : List Char} {kind : TokenKind}
    (h : scanNumber cs = ⟨kind, text, behind⟩) (hrest : ∀ c ∈ rest.head?, c ∈ behind.head?) :
    scanNumber (text ++ rest) = ⟨kind, text, rest⟩ := by
  have hwhole : ∀ c ∈ cs.takeWhile Char.isDigit, c.isDigit = true := by
    intro c hc
    exact List.mem_takeWhile_imp hc
  have hhead := head?_dropWhile_eq_false Char.isDigit cs
  unfold scanNumber at h
  dsimp only at h
  split at h
  · next behind' hbehind =>
    simp only [Scan.mk.injEq] at h
    obtain ⟨rfl, rfl, rfl⟩ := h
    apply scanNumber_point hwhole
    · intro c hc
      exact List.mem_takeWhile_imp hc
    · intro c hc
      exact head?_dropWhile_eq_false _ _ c (hrest c hc)
  · next hpoint =>
    simp only [Scan.mk.injEq] at h
    obtain ⟨rfl, rfl, rfl⟩ := h
    apply scanNumber_whole hwhole
    intro c hc
    refine ⟨hhead c (hrest c hc), ?_⟩
    rintro rfl
    obtain ⟨behind', hbehind⟩ := List.head?_eq_some_iff.1 (hrest '.' hc)
    exact hpoint behind' hbehind

theorem step?_append {cs step behind rest : List Char} (h : step? cs = some (step, behind))
    (hrest : ∀ c ∈ rest.head?, c ∈ behind.head?) : step? (step ++ rest) = some (step, rest) := by
  unfold step? at h
  split at h
  · simp at h
  · simp only [Option.some.injEq, Prod.mk.injEq] at h
    obtain ⟨rfl, rfl⟩ := h
    rfl
  · next tail hdots =>
    simp only [Option.some.injEq, Prod.mk.injEq] at h
    obtain ⟨rfl, rfl⟩ := h
    cases rest with
    | nil => rfl
    | cons c rest =>
      have hc : c ≠ '.' := by
        rintro rfl
        exact ne_cons_of_head? hrest hdots rest rfl
      simp [step?, hc]
  · next c cs' _ hdot =>
    split at h
    · next hstart =>
      simp only [Option.some.injEq, Prod.mk.injEq] at h
      obtain ⟨rfl, rfl⟩ := h
      have hname : ∀ d ∈ cs'.takeWhile Text.isNameChar, Text.isNameChar d = true := by
        intro d hd
        exact List.mem_takeWhile_imp hd
      have hstop : ∀ d ∈ rest.head?, Text.isNameChar d = false := by
        intro d hd
        exact head?_dropWhile_eq_false _ _ d (hrest d hd)
      obtain ⟨htake, hdrop⟩ := takeWhile_append_of_head? hname hstop
      have hc : c ≠ '.' := by
        rintro rfl
        exact hdot rfl
      simp [step?, hc, hstart, htake, hdrop]
    · simp at h

theorem scanSteps_slash {cs step rest : List Char} (h : step? cs = some (step, rest)) :
    scanSteps ('/' :: cs) =
      ((scanSteps rest).1, '/' :: step ++ (scanSteps rest).2.1, (scanSteps rest).2.2) := by
  rw [scanSteps]
  split
  · next hnone => simp [h] at hnone
  · next step' rest' hsome =>
    rw [h] at hsome
    cases hsome
    rfl

theorem scanSteps_slash_of_none {cs : List Char} (h : step? cs = none) :
    scanSteps ('/' :: cs) = (false, ['/'], cs) := by
  rw [scanSteps]
  split
  · rfl
  · next step rest hsome =>
    rw [h] at hsome
    cases hsome

theorem scanSteps_of_head? {cs : List Char} (h : cs.head? ≠ some '/') :
    scanSteps cs = (true, [], cs) := by
  rw [scanSteps]
  intro cs' hcs
  rw [hcs] at h
  exact h rfl

theorem scanSteps_append {cs steps behind rest : List Char}
    (h : scanSteps cs = (true, steps, behind)) (hrest : ∀ c ∈ rest.head?, c ∈ behind.head?) :
    scanSteps (steps ++ rest) = (true, steps, rest) := by
  fun_induction scanSteps cs generalizing steps with
  | case1 => simp at h
  | case2 cs' step tail hstep _ complete steps' rest' heq ih =>
    simp only [Prod.mk.injEq] at h
    obtain ⟨rfl, rfl, rfl⟩ := h
    have happend := append_scanSteps tail
    rw [heq] at happend
    have hhead : ∀ c ∈ (steps' ++ rest).head?, c ∈ tail.head? := by
      rw [← happend]
      exact head?_append_mono hrest
    have hstep' := step?_append hstep hhead
    rw [List.cons_append, List.cons_append, List.append_assoc, scanSteps_slash hstep', ih heq]
    rfl
  | case3 cs hslash =>
    simp only [Prod.mk.injEq, true_and] at h
    obtain ⟨rfl, rfl⟩ := h
    rw [List.nil_append]
    apply scanSteps_of_head?
    intro hhead
    obtain ⟨cs', hcs⟩ := List.head?_eq_some_iff.1 (hrest '/' hhead)
    exact hslash cs' hcs

theorem scanPath_append {cs text behind rest : List Char} {kind : TokenKind}
    (h : scanPath cs = ⟨kind, text, behind⟩) (hkind : kind.IsProper)
    (hrest : ∀ c ∈ rest.head?, c ∈ behind.head?) :
    scanPath (text ++ rest) = ⟨kind, text, rest⟩ := by
  unfold scanPath at h
  split at h
  next dots cs' hdots =>
  generalize hsteps : scanSteps cs' = scanned at h
  obtain ⟨complete, steps, behind'⟩ := scanned
  simp only [Scan.mk.injEq] at h
  obtain ⟨hcomplete, rfl, rfl⟩ := h
  cases complete with
  | false => exact absurd hcomplete.symm (hkind _)
  | true =>
    have happend := append_scanSteps cs'
    rw [hsteps] at happend
    have hhead : ∀ c ∈ (steps ++ rest).head?, c ∈ cs'.head? := by
      rw [← happend]
      exact head?_append_mono hrest
    have hsteps' := scanSteps_append hsteps hrest
    rw [← hcomplete]
    split at hdots <;> simp only [Prod.mk.injEq] at hdots <;> obtain ⟨rfl, rfl⟩ := hdots
    · simp [scanPath, hsteps']
    · next hdot =>
      have := ne_cons_of_head? hhead hdot
      simp [scanPath, hsteps']
    · next _ hdot =>
      have hnone : ∀ tail, steps ++ rest ≠ '.' :: tail := ne_cons_of_head? hhead hdot
      simp [scanPath, hnone, hsteps']

theorem isDigit_head?_of_scanNumber {cs text behind rest : List Char} {kind : TokenKind}
    (h : scanNumber ('.' :: cs) = ⟨kind, '.' :: text, behind⟩)
    (hdigit : cs.head?.any Char.isDigit = true) :
    (text ++ rest).head?.any Char.isDigit = true := by
  have hscan : scanNumber ('.' :: cs) =
      ⟨.number (String.ofList ('.' :: cs.takeWhile Char.isDigit)),
        '.' :: cs.takeWhile Char.isDigit, cs.dropWhile Char.isDigit⟩ := rfl
  rw [hscan] at h
  simp only [Scan.mk.injEq, List.cons.injEq, true_and] at h
  obtain ⟨d, hd, hisDigit⟩ := (Option.any_eq_true _ _).1 hdigit
  obtain ⟨cs', rfl⟩ := List.head?_eq_some_iff.1 hd
  rw [← h.2.1, List.takeWhile_cons_of_pos hisDigit]
  exact hisDigit

theorem scanOrEqual_append {c : Char} {alone joined kind : TokenKind}
    {cs text behind rest : List Char}
    (h : scanOrEqual c alone joined cs = ⟨kind, c :: text, behind⟩)
    (hrest : ∀ d ∈ rest.head?, d ∈ behind.head?) :
    scanOrEqual c alone joined (text ++ rest) = ⟨kind, c :: text, rest⟩ := by
  unfold scanOrEqual at h
  split at h <;> simp only [Scan.mk.injEq, List.cons.injEq, true_and] at h <;>
    obtain ⟨rfl, rfl, rfl⟩ := h
  · rfl
  · next hequal =>
    have := ne_cons_of_head? hrest hequal
    simp [scanOrEqual]

theorem scanDot_append {cs text behind rest : List Char} {kind : TokenKind}
    (h : scanDot cs = ⟨kind, '.' :: text, behind⟩) (hkind : kind.IsProper)
    (hrest : ∀ d ∈ rest.head?, d ∈ behind.head?) :
    scanDot (text ++ rest) = ⟨kind, '.' :: text, rest⟩ := by
  have happend := append_scanDot cs
  rw [h] at happend
  simp only [List.cons_append, List.cons.injEq, true_and] at happend
  unfold scanDot at h ⊢
  split at h
  · next hdigit =>
    have hdigit' : (text ++ rest).head?.any Char.isDigit = true :=
      isDigit_head?_of_scanNumber h hdigit
    rw [if_pos hdigit']
    exact scanNumber_append h hrest
  · next hdigit =>
    -- The next lexeme may start with a digit only if one stood behind this dot before.
    have hhead : ∀ d ∈ (text ++ rest).head?, d ∈ cs.head? := by
      rw [← happend]
      exact head?_append_mono hrest
    have hdigit' : ¬ (text ++ rest).head?.any Char.isDigit = true := by
      intro hany
      obtain ⟨d, hd, hisDigit⟩ := (Option.any_eq_true _ _).1 hany
      exact hdigit ((Option.any_eq_true _ _).2 ⟨d, hhead d hd, hisDigit⟩)
    rw [if_neg hdigit']
    exact scanPath_append h hkind hrest

theorem scanWord_append {c : Char} {cs text behind rest : List Char} {kind : TokenKind}
    (h : scanWord c cs = ⟨kind, c :: text, behind⟩) (hkind : kind.IsProper)
    (hrest : ∀ d ∈ rest.head?, d ∈ behind.head?) :
    scanWord c (text ++ rest) = ⟨kind, c :: text, rest⟩ := by
  unfold scanWord at h ⊢
  split at h
  · next hdigit =>
    rw [if_pos hdigit]
    exact scanNumber_append h hrest
  · next hdigit =>
    rw [if_neg hdigit]
    split at h
    · next hstart =>
      rw [if_pos hstart]
      simp only [Scan.mk.injEq, List.cons.injEq, true_and] at h
      obtain ⟨rfl, rfl, rfl⟩ := h
      have hname : ∀ d ∈ cs.takeWhile Text.isFunctionChar, Text.isFunctionChar d = true := by
        intro d hd
        exact List.mem_takeWhile_imp hd
      have hstop : ∀ d ∈ rest.head?, Text.isFunctionChar d = false := by
        intro d hd
        exact head?_dropWhile_eq_false _ _ d (hrest d hd)
      obtain ⟨htake, hdrop⟩ := takeWhile_append_of_head? hname hstop
      rw [htake, hdrop]
    · simp only [Scan.mk.injEq] at h
      exact absurd h.1.symm (hkind _)

theorem scan_append {c : Char} {cs text behind rest : List Char} {kind : TokenKind}
    (h : scan c cs = ⟨kind, c :: text, behind⟩) (hkind : kind.IsProper)
    (hrest : ∀ d ∈ rest.head?, d ∈ behind.head?) :
    scan c (text ++ rest) = ⟨kind, c :: text, rest⟩ := by
  unfold scan at h
  split at h
  case h_9 | h_10 | h_11 => exact scanOrEqual_append h hrest
  case h_12 => exact scanReference_append h hkind
  case h_13 | h_14 => exact scanString_append h hkind
  case h_15 => exact scanPath_append h hkind hrest
  case h_16 => exact scanDot_append h hkind hrest
  case h_17 =>
    simp only [scan]
    exact scanWord_append h hkind hrest
  all_goals
    simp only [Scan.mk.injEq, List.cons.injEq, true_and] at h
    obtain ⟨rfl, rfl, rfl⟩ := h
    rfl

def chars (lexeme : Lexeme) : List Char :=
  lexeme.gap ++ lexeme.text

/--
Whether a lexeme is found in front of every text that starts with `next`.
-/
def StandsBefore (lexeme : Lexeme) (next : Option Char) : Prop :=
  ∃ c text, lexeme.text = c :: text ∧ Text.isBlank c = false ∧
    ∀ rest : List Char, rest.head? = next → scan c (text ++ rest) = ⟨lexeme.kind, c :: text, rest⟩

/--
Lexemes that are found again in their own text, up to the end of the input.
-/
inductive Separate : List Lexeme → Prop
  | last {gap : List Char} (hgap : ∀ c ∈ gap, Text.isBlank c = true) :
      Separate [⟨gap, [], .endOfInput⟩]
  | cons {lexeme : Lexeme} {lexemes : List Lexeme}
      (hgap : ∀ c ∈ lexeme.gap, Text.isBlank c = true)
      (hstands : lexeme.StandsBefore (lexemes.flatMap chars).head?)
      (hrest : Separate lexemes) : Separate (lexeme :: lexemes)

theorem split_eq_last {cs : List Char} (h : cs.dropWhile Text.isBlank = []) :
    split cs = [⟨cs.takeWhile Text.isBlank, [], .endOfInput⟩] := by
  rw [split]
  split
  · rfl
  · next heq =>
    rw [h] at heq
    cases heq

theorem split_eq_cons {cs rest : List Char} {c : Char} (h : cs.dropWhile Text.isBlank = c :: rest) :
    split cs =
      ⟨cs.takeWhile Text.isBlank, (scan c rest).text, (scan c rest).kind⟩ ::
        split (scan c rest).rest := by
  rw [split]
  split
  · next heq =>
    rw [h] at heq
    cases heq
  · next heq =>
    rw [h] at heq
    cases heq
    rfl

theorem split_append {lexeme : Lexeme} {rest : List Char}
    (hgap : ∀ c ∈ lexeme.gap, Text.isBlank c = true) (hstands : lexeme.StandsBefore rest.head?) :
    split (lexeme.chars ++ rest) = lexeme :: split rest := by
  obtain ⟨c, text, htext, hblank, hscan⟩ := hstands
  have hstop : ∀ d ∈ (c :: (text ++ rest)).head?, Text.isBlank d = false := by
    intro d hd
    cases hd
    exact hblank
  obtain ⟨htake, hdrop⟩ := takeWhile_append_of_head? hgap hstop
  rw [chars, htext, List.append_assoc, List.cons_append, split_eq_cons hdrop, htake, hscan _ rfl,
    ← htext]

theorem split_flatMap_chars {lexemes : List Lexeme} (h : Separate lexemes) :
    split (lexemes.flatMap chars) = lexemes := by
  induction h with
  | @last gap hgap =>
    have htake : gap.takeWhile Text.isBlank = gap := List.takeWhile_eq_self_iff.2 hgap
    have hdrop : gap.dropWhile Text.isBlank = [] := List.dropWhile_eq_nil_iff.2 hgap
    rw [List.flatMap_singleton, chars, List.append_nil, split_eq_last hdrop, htake]
  | cons hgap hstands _ ih => rw [List.flatMap_cons, split_append hgap hstands, ih]

theorem split_of_standsBefore {text : List Char} {kind : TokenKind}
    (h : StandsBefore ⟨[], text, kind⟩ none) :
    split text = [⟨[], text, kind⟩, ⟨[], [], .endOfInput⟩] := by
  have hseparate : Separate [⟨[], text, kind⟩, ⟨[], [], .endOfInput⟩] :=
    .cons (by simp) h (.last (by simp))
  have hchars := split_flatMap_chars hseparate
  simpa [chars] using hchars

theorem separate_split {cs : List Char} (h : ∀ lexeme ∈ split cs, lexeme.kind.IsProper) :
    Separate (split cs) := by
  fun_induction split cs with
  | case1 cs hcs =>
    apply Separate.last
    intro c hc
    exact List.mem_takeWhile_imp hc
  | case2 cs c rest hcs _ ih =>
    have happend := append_scan c rest
    generalize hscanned : scan c rest = scanned at *
    obtain ⟨kind, text, behind⟩ := scanned
    dsimp only at *
    apply Separate.cons
    · intro d hd
      exact List.mem_takeWhile_imp hd
    -- The next character behind the lexeme is the one that was there when it was read.
    · have hne := scan_text_ne_nil c rest
      rw [hscanned] at hne
      dsimp only at hne
      cases text with
      | nil => exact absurd rfl hne
      | cons d text =>
        simp only [List.cons_append, List.cons.injEq] at happend
        obtain ⟨rfl, rfl⟩ := happend
        refine ⟨d, text, rfl, ?_, ?_⟩
        · apply head?_dropWhile_eq_false Text.isBlank cs
          rw [hcs]
          rfl
        · intro rest' hrest'
          have hnext : rest'.head? = behind.head? := by
            rw [hrest']
            exact congrArg List.head? (flatMap_split behind)
          apply scan_append hscanned
          · exact h _ List.mem_cons_self
          · rw [hnext]
            exact fun _ hd => hd
    · apply ih
      intro lexeme hlexeme
      exact h lexeme (List.mem_cons_of_mem _ hlexeme)

def EndsPath (next : Option Char) : Prop :=
  ∀ c ∈ next, Text.isNameChar c = false ∧ c ≠ '/'

theorem intercalate_eq_flatMap (separator : Char) (part : List Char) (parts : List (List Char)) :
    [separator].intercalate (part :: parts) = part ++ parts.flatMap (separator :: ·) := by
  induction parts generalizing part with
  | nil => simp
  | cons next parts ih => simp [List.intercalate_cons_cons, ih]

theorem step?_dots (rest : List Char) : step? ('.' :: '.' :: rest) = some (['.', '.'], rest) :=
  rfl

theorem step?_name {name : String} {rest : List Char} (h : Text.isName name = true)
    (hrest : ∀ c ∈ rest.head?, Text.isNameChar c = false) :
    step? (name.toList ++ rest) = some (name.toList, rest) := by
  obtain ⟨c, cs, hname, hstart, hcs⟩ := Text.isName_iff.1 h
  have hdot : c ≠ '.' := by
    rintro rfl
    revert hstart
    decide
  obtain ⟨htake, hdrop⟩ := takeWhile_append_of_head? hcs hrest
  rw [hname, List.cons_append]
  simp [step?, hdot, hstart, htake, hdrop]

theorem step?_eq_none {rest : List Char} (h : ∀ c ∈ rest.head?, Text.isNameChar c = false) :
    step? rest = none := by
  have hdot : Text.isNameChar '.' = true := by decide
  unfold step?
  split
  · rfl
  · rw [h '.' rfl] at hdot
    cases hdot
  · rw [h '.' rfl] at hdot
    cases hdot
  · next c cs _ _ =>
    have hstart : ¬ Text.isNameStart c = true := by
      intro hstart
      have hname := Text.isNameChar_of_isNameStart hstart
      rw [h c rfl] at hname
      cases hname
    rw [if_neg hstart]

def slashed (steps : List String) : List Char :=
  steps.flatMap fun step => '/' :: step.toList

theorem toList_intercalate_slash (step : String) (steps : List String) :
    ("/".intercalate (step :: steps)).toList = step.toList ++ slashed steps := by
  have hslash : "/".toList = ['/'] := rfl
  rw [String.toList_intercalate, List.map_cons, hslash, intercalate_eq_flatMap, List.flatMap_map]
  rfl

theorem toList_text_zero {names : List String} (h : names ≠ []) :
    (RelativePath.text ⟨0, names⟩).toList = '.' :: slashed names := by
  rw [RelativePath.text_eq_intercalate h, RelativePath.steps, if_pos rfl, List.singleton_append,
    toList_intercalate_slash]
  rfl

theorem toList_text_succ (climbs : Nat) {names : List String} (h : names ≠ []) :
    (RelativePath.text ⟨climbs + 1, names⟩).toList =
      '.' :: '.' :: slashed (List.replicate climbs ".." ++ names) := by
  rw [RelativePath.text_eq_intercalate h, RelativePath.steps, if_neg (by simp),
    List.replicate_succ, List.cons_append, toList_intercalate_slash]
  rfl

theorem exists_toList_text (relative : RelativePath) :
    ∃ c text, relative.text.toList = '.' :: c :: text ∧ (c = '.' ∨ c = '/') := by
  -- A path without a name has the text of one with an empty name.
  have hstep (climbs : Nat) {names : List String} (hne : names ≠ []) : ∃ c text,
      (RelativePath.text ⟨climbs, names⟩).toList = '.' :: c :: text ∧ (c = '.' ∨ c = '/') := by
    cases climbs with
    | zero =>
      cases names with
      | nil => exact absurd rfl hne
      | cons name names => exact ⟨'/', _, toList_text_zero hne, Or.inr rfl⟩
    | succ climbs => exact ⟨'.', _, toList_text_succ climbs hne, Or.inl rfl⟩
  obtain ⟨climbs, names⟩ := relative
  cases names with
  | nil =>
    rw [RelativePath.text_climb]
    exact hstep climbs (List.cons_ne_nil _ _)
  | cons name names => exact hstep climbs (List.cons_ne_nil _ _)

theorem head?_slashed_append {steps : List String} {rest : List Char}
    (hrest : EndsPath rest.head?) :
    ∀ c ∈ (slashed steps ++ rest).head?, Text.isNameChar c = false := by
  intro c hc
  cases steps with
  | nil => exact (hrest c hc).1
  | cons step steps =>
    cases hc
    decide

theorem scanSteps_slashed {steps : List String} {rest : List Char}
    (h : ∀ step ∈ steps, step = ".." ∨ Text.isName step = true) (hrest : EndsPath rest.head?) :
    scanSteps (slashed steps ++ rest) = (true, slashed steps, rest) := by
  induction steps with
  | nil =>
    apply scanSteps_of_head?
    intro hhead
    exact (hrest '/' hhead).2 rfl
  | cons step steps ih =>
    -- Behind a step there is the slash of the next one, or what ends the whole path.
    have hstep : step? (step.toList ++ (slashed steps ++ rest)) =
        some (step.toList, slashed steps ++ rest) := by
      rcases h step List.mem_cons_self with rfl | hname
      · apply step?_dots
      · apply step?_name hname
        apply head?_slashed_append hrest
    have hsteps : ∀ other ∈ steps, other = ".." ∨ Text.isName other = true := by
      intro other hother
      exact h other (List.mem_cons_of_mem _ hother)
    have hslashed : slashed (step :: steps) = '/' :: step.toList ++ slashed steps := rfl
    rw [hslashed, List.append_assoc, List.cons_append, scanSteps_slash hstep, ih hsteps]

theorem scan_dot_slashed {steps : List String} {rest : List Char} (hne : steps ≠ [])
    (h : ∀ step ∈ steps, step = ".." ∨ Text.isName step = true) (hrest : EndsPath rest.head?) :
    scan '.' (slashed steps ++ rest) =
      ⟨.path (String.ofList ('.' :: slashed steps)), '.' :: slashed steps, rest⟩ := by
  have hscan := scanSteps_slashed h hrest
  have hhead : ∃ cs, slashed steps ++ rest = '/' :: cs := by
    cases steps with
    | nil => exact absurd rfl hne
    | cons step steps => exact ⟨_, rfl⟩
  obtain ⟨cs, hcs⟩ := hhead
  rw [hcs] at hscan ⊢
  simp [scan, scanDot, scanPath, hscan]

theorem scan_dots_slashed {steps : List String} {rest : List Char}
    (h : ∀ step ∈ steps, step = ".." ∨ Text.isName step = true) (hrest : EndsPath rest.head?) :
    scan '.' ('.' :: slashed steps ++ rest) =
      ⟨.path (String.ofList ('.' :: '.' :: slashed steps)), '.' :: '.' :: slashed steps, rest⟩ := by
  have hscan := scanSteps_slashed h hrest
  rw [List.cons_append]
  simp [scan, scanDot, scanPath, hscan]

theorem standsBefore_relativePath {relative : RelativePath} (hne : relative.names ≠ [])
    (hnamed : NodePath.IsNamed relative.names) (gap : List Char) {next : Option Char}
    (hnext : EndsPath next) :
    StandsBefore ⟨gap, relative.text.toList, .path relative.text⟩ next := by
  obtain ⟨climbs, names⟩ := relative
  -- A path without a climb starts with one dot, and every other path with two.
  cases climbs with
  | zero =>
    have htext := toList_text_zero hne
    have hsteps : ∀ step ∈ names, step = ".." ∨ Text.isName step = true := by
      intro step hstep
      exact Or.inr (hnamed step hstep)
    have hof : RelativePath.text ⟨0, names⟩ = String.ofList ('.' :: slashed names) := by
      rw [← String.toList_inj, String.toList_ofList]
      exact htext
    refine ⟨'.', slashed names, htext, by decide, ?_⟩
    intro rest hrest
    rw [scan_dot_slashed hne hsteps (by rwa [hrest]), hof]
  | succ climbs =>
    have htext := toList_text_succ climbs hne
    have hsteps : ∀ step ∈ List.replicate climbs ".." ++ names,
        step = ".." ∨ Text.isName step = true := by
      intro step hstep
      rcases List.mem_append.1 hstep with hstep | hstep
      · exact Or.inl (List.eq_of_mem_replicate hstep)
      · exact Or.inr (hnamed step hstep)
    have hof : RelativePath.text ⟨climbs + 1, names⟩ =
        String.ofList ('.' :: '.' :: slashed (List.replicate climbs ".." ++ names)) := by
      rw [← String.toList_inj, String.toList_ofList]
      exact htext
    refine ⟨'.', '.' :: slashed (List.replicate climbs ".." ++ names), htext, by decide, ?_⟩
    intro rest hrest
    rw [scan_dots_slashed hsteps (by rwa [hrest]), hof]

theorem standsBefore_reference {name : String} (h : Text.isName name = true) (gap : List Char)
    (next : Option Char) :
    StandsBefore ⟨gap, '$' :: '{' :: name.toList ++ ['}'], .reference name⟩ next := by
  refine ⟨'$', '{' :: name.toList ++ ['}'], rfl, by decide, ?_⟩
  intro rest _
  have hname : ∀ c ∈ name.toList, Text.isNameChar c = true := fun c hc =>
    Text.isNameChar_of_isName h hc
  have hscan : scan '$' ('{' :: name.toList ++ '}' :: rest) =
      scanReference ('{' :: name.toList ++ '}' :: rest) := rfl
  rw [List.append_assoc, List.singleton_append, hscan, scanReference_braces hname,
    String.ofList_toList, if_pos h]
  rfl

end Lexeme

end Questionnaire
