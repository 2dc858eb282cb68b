import Questionnaire.Proofs.Expression.Canonical
import Questionnaire.Proofs.Expression.Tokens

/-!
This module contains the rewriting of expressions by the byte offsets of their mentions of nodes. A
slice of a source can fail to exist, but no slice that is taken here does, so that the result is that
of the rewriting by lexemes.
-/

namespace Questionnaire

def splitBytes? (n : Nat) : List Char → Option (List Char × List Char)
  | [] => if n = 0 then some ([], []) else none
  | c :: cs =>
    if n = 0 then some ([], c :: cs)
    else if n < c.utf8Size then none
    else (splitBytes? (n - c.utf8Size) cs).map fun (front, back) => (c :: front, back)

/--
The text of a source between two offsets, if they are in order, inside the source and between
characters.
-/
def slice? (source : String) (start stop : Nat) : Option (List Char) := do
  guard (start ≤ stop)
  let (_, behind) ← splitBytes? start source.toList
  let (text, _) ← splitBytes? (stop - start) behind
  some text

theorem splitBytes?_append (front back : List Char) :
    splitBytes? (byteLength front) (front ++ back) = some (front, back) := by
  induction front with
  | nil => cases back <;> rfl
  | cons c front ih =>
    have hpos := c.utf8Size_pos
    rw [List.cons_append, splitBytes?, byteLength, if_neg (by omega), if_neg (by omega),
      Nat.add_sub_cancel_left, ih]
    rfl

theorem slice?_append {source : String} {front text back : List Char}
    (hsource : source.toList = front ++ text ++ back) :
    slice? source (byteLength front) (byteLength (front ++ text)) = some text := by
  have hlength : byteLength (front ++ text) - byteLength front = byteLength text := by
    rw [byteLength_append, Nat.add_sub_cancel_left]
  have hle : byteLength front ≤ byteLength (front ++ text) := by
    rw [byteLength_append]
    exact Nat.le_add_right _ _
  unfold slice? guard
  rw [if_pos hle, hsource, List.append_assoc]
  simp only [splitBytes?_append, hlength, Option.pure_def, Option.bind_eq_bind, Option.bind_some]

theorem slice?_last {source : String} {front back : List Char}
    (hsource : source.toList = front ++ back) :
    slice? source (byteLength front) source.utf8ByteSize = some back := by
  rw [← byteLength_toList, hsource]
  apply slice?_append
  rw [List.append_nil, hsource]

namespace Expression

variable {α : Type}

/--
The text of a source from `cursor` on behind what is `written`, in which other text stands for the
mentions that have a record, and these records. There is no result if a slice does not exist.
-/
def splice? (source : String) (step : TokenKind → Except Failure (Option α))
    (write? : List Char → Span → α → Option (List Char)) (cursor : Nat) (written : List Char) :
    List NodeMention → Option (Except Failure (List Char × List α))
  | [] => do
    let last ← slice? source cursor source.utf8ByteSize
    some (.ok (written ++ last, []))
  | mention :: mentions =>
    match step mention.kind with
    | .error failure => some (.error failure)
    | .ok none => splice? source step write? cursor written mentions
    | .ok (some record) => do
      let between ← slice? source cursor mention.span.start
      let text ← write? (written ++ between) mention.span record
      let outcome ← splice? source step write? mention.span.stop (written ++ between ++ text) mentions
      some (outcome.map fun (text, records) => (text, record :: records))

def writePath? (source : String) (written : List Char) (span : Span) (reference : Reference) :
    Option (List Char) := do
  let behind ← slice? source span.stop source.utf8ByteSize
  some (guardSpace written.getLast? ++ reference.path.toList ++ guardSpace behind.head?)

def compileBySlices? (table : SymbolTable) (source : String) (owner : NodePath) :
    Option (Except Failure Expression) :=
  match Formula.parse source with
  | .error failure => some (.error failure)
  | .ok formula => do
    let outcome ← splice? source (reference? table owner source) (writePath? source) 0 []
      formula.mentions
    some (outcome.map fun (text, references) => ⟨source, String.ofList text, references⟩)

def flattenBySlices? (table : SymbolTable) (source : String) (owner : NodePath) :
    Option (Except Failure String) :=
  match Formula.parse source with
  | .error failure => some (.error failure)
  | .ok formula => do
    let outcome ← splice? source (flatName? table owner source) (fun _ _ name => referenceText name)
      0 [] formula.mentions
    some (outcome.map fun (text, _) => String.ofList text)

structure Renders (source : String) (step : TokenKind → Except Failure (Option α))
    (write? : List Char → Span → α → Option (List Char))
    (render : Option Char → List (Lexeme × Option α) → List Char) : Prop where
  step_eq : ∀ kind, kind.namesNode = false → step kind = .ok none
  render_nil : ∀ last, render last [] = []
  render_none : ∀ last lexeme linked, render last ((lexeme, none) :: linked) =
    lexeme.chars ++ render (lexeme.chars.getLast?.or last) linked
  render_some : ∀ (written : List Char) {front : List Char} {lexeme : Lexeme} {record : α}
    {lexemes : List Lexeme} {span : Span},
    step lexeme.kind = .ok (some record) → Lexeme.Separate lexemes →
    span.Covers source front lexeme.text (lexemes.flatMap Lexeme.chars) →
    ∃ text, write? (written ++ lexeme.gap) span record = some text ∧
      ∀ linked, linked.map Prod.fst = lexemes →
        render written.getLast? ((lexeme, some record) :: linked) =
          lexeme.gap ++ text ++ render (written ++ lexeme.gap ++ text).getLast? linked

section Splicing

variable {source : String} {step : TokenKind → Except Failure (Option α)}
variable {write? : List Char → Span → α → Option (List Char)}
variable {render : Option Char → List (Lexeme × Option α) → List Char}
variable {lexeme : Lexeme} {lexemes : List Lexeme}

theorem annotate_cons {result : Option α} (h : step lexeme.kind = .ok result) :
    annotate step (lexeme :: lexemes) =
      (annotate step lexemes).map fun linked => (lexeme, result) :: linked := by
  rw [annotate, h]
  rfl

theorem annotate_cons_error {failure : Failure} (h : step lexeme.kind = .error failure) :
    annotate step (lexeme :: lexemes) = .error failure := by
  rw [annotate, h]
  rfl

theorem map_fst_of_annotate {linked : List (Lexeme × Option α)}
    (h : annotate step lexemes = .ok linked) : linked.map Prod.fst = lexemes :=
  (annotate_eq_ok_iff.1 h).1

def rendered (step : TokenKind → Except Failure (Option α))
    (render : Option Char → List (Lexeme × Option α) → List Char) (written : List Char)
    (lexemes : List Lexeme) : Except Failure (List Char × List α) :=
  (annotate step lexemes).map fun linked =>
    (written ++ render written.getLast? linked, linked.filterMap Prod.snd)

theorem Renders.rendered_none (h : Renders source step write? render)
    (hstep : step lexeme.kind = .ok none) (written : List Char) :
    rendered step render written (lexeme :: lexemes) =
      rendered step render (written ++ lexeme.chars) lexemes := by
  rw [rendered, annotate_cons hstep, rendered]
  cases annotate step lexemes with
  | error failure => rfl
  | ok linked =>
    simp only [Except.map, h.render_none, List.getLast?_append, List.append_assoc,
      List.filterMap_cons_none]

theorem rendered_some {record : α} {written text : List Char}
    (hstep : step lexeme.kind = .ok (some record))
    (hrender : ∀ linked, linked.map Prod.fst = lexemes →
      render written.getLast? ((lexeme, some record) :: linked) =
        lexeme.gap ++ text ++ render (written ++ lexeme.gap ++ text).getLast? linked) :
    rendered step render written (lexeme :: lexemes) =
      (rendered step render (written ++ lexeme.gap ++ text) lexemes).map
        fun (text, records) => (text, record :: records) := by
  rw [rendered, annotate_cons hstep, rendered]
  cases hlinked : annotate step lexemes with
  | error failure => rfl
  | ok linked =>
    simp only [Except.map, hrender linked (map_fst_of_annotate hlinked), List.append_assoc,
      List.filterMap_cons]

theorem splice?_eq (h : Renders source step write? render) (hseparate : Lexeme.Separate lexemes)
    {taken pending written : List Char}
    (hsource : source.toList = taken ++ pending ++ lexemes.flatMap Lexeme.chars) :
    splice? source step write? (byteLength taken) written
        ((Token.locate (.behind (taken ++ pending)) lexemes).filterMap Token.mention?) =
      some (rendered step render (written ++ pending) lexemes) := by
  -- The text behind the cursor that is passed over waits in `pending` for the next slice.
  induction hseparate generalizing taken pending written with
  | @last gap hgap =>
    rw [List.flatMap_singleton, List.append_assoc] at hsource
    rw [h.rendered_none (h.step_eq _ rfl), Token.locate_behind, List.filterMap_cons_none (by rfl),
      Token.locate, List.filterMap_nil, splice?, slice?_last hsource]
    simp [rendered, annotate, Except.map, h.render_nil]
  | @cons lexeme lexemes hgap hstands hrest ih =>
    rw [List.flatMap_cons, ← List.append_assoc] at hsource
    have hskip (hstep : step lexeme.kind = .ok none) :
        splice? source step write? (byteLength taken) written
            ((Token.locate (.behind (taken ++ pending ++ lexeme.chars)) lexemes).filterMap
              Token.mention?) =
          some (rendered step render (written ++ pending) (lexeme :: lexemes)) := by
      rw [List.append_assoc taken] at hsource ⊢
      rw [h.rendered_none hstep, ih hsource, List.append_assoc]
    rw [Token.locate_behind]
    cases hmention : Token.mention? ⟨lexeme.kind,
        (Position.behind (taken ++ pending ++ lexeme.gap)).spanOf lexeme.text⟩ with
    | none =>
      rw [List.filterMap_cons_none hmention]
      apply hskip
      apply h.step_eq
      rw [← Bool.not_eq_true]
      intro hnames
      obtain ⟨mention, hsome⟩ := exists_mention? ⟨lexeme.kind, _⟩ hnames
      rw [hmention] at hsome
      cases hsome
    | some mention =>
      rw [List.filterMap_cons_some hmention, splice?, mention?_eq_some hmention,
        span_of_mention? hmention]
      cases hstep : step lexeme.kind with
      | error failure => rw [rendered, annotate_cons_error hstep]; rfl
      | ok result =>
        cases result with
        | none => exact hskip hstep
        | some record =>
          have hcovers := Position.covers_behind hsource
          obtain ⟨text, htext, hrender⟩ :=
            h.render_some (written ++ pending) hstep hrest hcovers
          have hsplit : source.toList = taken ++ (pending ++ lexeme.gap) ++
              (lexeme.text ++ lexemes.flatMap Lexeme.chars) := by
            rw [hcovers.source_eq]
            simp
          have hbetween : slice? source (byteLength taken)
              (byteLength (taken ++ pending ++ lexeme.gap)) = some (pending ++ lexeme.gap) := by
            rw [List.append_assoc]
            exact slice?_append hsplit
          have hbehind := @ih (taken ++ pending ++ lexeme.chars) []
            (written ++ pending ++ lexeme.gap ++ text) (by rw [List.append_nil, hsource])
          rw [List.append_nil, List.append_nil] at hbehind
          rw [List.append_assoc written] at htext
          have hstop : taken ++ pending ++ lexeme.gap ++ lexeme.text =
              taken ++ pending ++ lexeme.chars := List.append_assoc _ _ _
          dsimp only
          rw [hcovers.start_eq, hcovers.stop_eq, hbetween, Option.bind_eq_bind, Option.bind_some,
            htext, Option.bind_some, rendered_some hstep hrender, hstop, ← List.append_assoc written,
            hbehind]
          rfl

end Splicing

theorem renders_compile (table : SymbolTable) (source : String) (owner : NodePath) :
    Renders source (reference? table owner source) (writePath? source) spliceRelative where
  step_eq kind hkind := reference?_eq_none_iff.2 (target?_of_namesNode_eq_false hkind)
  render_nil _ := rfl
  render_none _ _ _ := rfl
  render_some := by
    intro written front lexeme reference lexemes span hstep hseparate hcovers
    have hbehind : slice? source span.stop source.utf8ByteSize =
        some (lexemes.flatMap Lexeme.chars) := by
      rw [hcovers.stop_eq]
      exact slice?_last hcovers.source_eq
    have hpath : reference.path.toList ≠ [] := by
      obtain ⟨target, name, -, -, rfl⟩ := reference?_eq_some_iff.1 hstep
      obtain ⟨c, cs, htext, -⟩ := Lexeme.exists_toList_text (owner.relativeTo target)
      rw [htext]
      exact List.cons_ne_nil _ _
    generalize htext : guardSpace (written ++ lexeme.gap).getLast? ++ reference.path.toList ++
      guardSpace (lexemes.flatMap Lexeme.chars).head? = text
    have hlast : (written ++ lexeme.gap ++ text).getLast? = text.getLast? := by
      have hne : text ≠ [] := by
        rw [← htext]
        simp [hpath]
      rw [List.getLast?_append, List.getLast?_eq_some_getLast hne]
      rfl
    refine ⟨text, ?_, ?_⟩
    · rw [writePath?, hbehind, ← htext]
      rfl
    · rintro linked rfl
      rw [hlast, spliceRelative, nextChar?_eq hseparate, ← List.getLast?_append, htext]

theorem renders_flatten (table : SymbolTable) (source : String) (owner : NodePath) :
    Renders source (flatName? table owner source) (fun _ _ name => referenceText name)
      fun _ linked => spliceNames linked where
  step_eq kind hkind := by
    cases kind <;> first | rfl | cases hkind
  render_nil _ := rfl
  render_none _ _ _ := rfl
  render_some := by
    intro written front lexeme name lexemes span hstep hseparate hcovers
    exact ⟨referenceText name, rfl, fun linked hlinked => rfl⟩

theorem splice?_mentions {step : TokenKind → Except Failure (Option α)}
    {write? : List Char → Span → α → Option (List Char)}
    {render : Option Char → List (Lexeme × Option α) → List Char} {source : String}
    {formula : Formula} (hformula : Formula.parse source = .ok formula)
    (hrenders : Renders source step write? render) :
    splice? source step write? 0 [] formula.mentions =
      some ((annotate step (lexemes source)).map fun linked =>
        (render none linked, linked.filterMap Prod.snd)) := by
  have hsource : source.toList = [] ++ [] ++ (lexemes source).flatMap Lexeme.chars :=
    (Lexeme.flatMap_split source.toList).symm
  rw [mentions_of_parse hformula]
  exact splice?_eq hrenders (separate_lexemes hformula) hsource

theorem compileBySlices?_eq (table : SymbolTable) (source : String) (owner : NodePath) :
    compileBySlices? table source owner = some (compile table source owner) := by
  rw [compileBySlices?, compile]
  cases hformula : Formula.parse source with
  | error failure => rfl
  | ok formula =>
    dsimp only
    rw [splice?_mentions hformula (renders_compile table source owner), ok_bind]
    cases annotate (reference? table owner source) (lexemes source) <;> rfl

theorem flattenBySlices?_eq (table : SymbolTable) (source : String) (owner : NodePath) :
    flattenBySlices? table source owner = some (flatten table source owner) := by
  rw [flattenBySlices?, flatten]
  cases hformula : Formula.parse source with
  | error failure => rfl
  | ok formula =>
    dsimp only
    rw [splice?_mentions hformula (renders_flatten table source owner), ok_bind]
    cases annotate (flatName? table owner source) (lexemes source) <;> rfl

section Mentions

variable {source : String}

theorem covers_mentions : ∀ mention ∈ (tokens source).filterMap Token.mention?,
    mention.span.start < mention.span.stop ∧ ∃ front text back,
      mention.span.Covers source front text back ∧ mention.kind.IsWritten text := by
  intro mention hmem
  obtain ⟨token, htoken, hmention⟩ := List.mem_filterMap.1 hmem
  obtain ⟨lexeme, hlexeme, hkind, front, back, hcovers, -⟩ := covers_tokens source token htoken
  have hwritten := Lexeme.isWritten_split source.toList lexeme hlexeme
  rw [← span_of_mention? hmention] at hcovers
  rw [← hkind, ← mention?_eq_some hmention] at hwritten
  refine ⟨?_, front, lexeme.text, back, hcovers, hwritten⟩
  have hne : lexeme.text ≠ [] := by
    apply Lexeme.text_split source.toList lexeme hlexeme
    rw [← hkind, ← mention?_eq_some hmention]
    cases mention <;> simp [NodeMention.kind]
  rw [hcovers.start_eq, hcovers.stop_eq, byteLength_append]
  exact Nat.lt_add_of_pos_right (byteLength_pos hne)

theorem pairwise_mentions : ((tokens source).filterMap Token.mention?).Pairwise
    fun first second => first.span.stop ≤ second.span.start := by
  apply List.Pairwise.filterMap _ _ (Token.pairwise_locate {} (lexemes source))
  intro first second hle mention hmention mention' hmention'
  rw [span_of_mention? hmention, span_of_mention? hmention']
  exact hle

end Mentions

theorem mentions_splice_safely {source : String} {formula : Formula}
    (h : Formula.parse source = .ok formula) :
    formula.mentions = (tokens source).filterMap Token.mention? ∧
      formula.mentions.Pairwise (fun first second => first.span.start < second.span.start ∧
        first.span.stop ≤ second.span.start) ∧
      (∀ mention ∈ formula.mentions, mention.span.start < mention.span.stop ∧
        ∃ front text back, mention.span.Covers source front text back ∧
          mention.kind.IsWritten text) ∧
      ∀ table owner, compileBySlices? table source owner = some (compile table source owner) ∧
        flattenBySlices? table source owner = some (flatten table source owner) := by
  rw [mentions_of_parse h]
  refine ⟨rfl, ?_, covers_mentions, fun table owner =>
    ⟨compileBySlices?_eq table source owner, flattenBySlices?_eq table source owner⟩⟩
  apply pairwise_mentions.imp_of_mem
  intro first second hfirst _ hle
  exact ⟨Nat.lt_of_lt_of_le (covers_mentions first hfirst).1 hle, hle⟩

theorem mentions_splice_safely_calls : ∃ formula,
    Formula.parse "'é' != ${x}-1 or not(/data/age)" = .ok formula ∧
      formula.mentions = [.name "x" ⟨8, 12, 8⟩, .path "/data/age" ⟨22, 31, 22⟩] ∧
      compileBySlices? .nested "'é' != ${x}-1 or not(/data/age)" ["g", "x"] =
        some (.ok ⟨"'é' != ${x}-1 or not(/data/age)", "'é' != ../x -1 or not(../../age)",
          [⟨"x", "../x", .sameContainer⟩, ⟨"age", "../../age", .outer 1⟩]⟩) := by
  generalize hsource : "'é' != ${x}-1 or not(/data/age)" = source
  cases hformula : Formula.parse source with
  | error failure =>
    have hok : (Formula.parse source).isOk = true := by
      rw [← hsource]
      decide +kernel
    rw [hformula] at hok
    cases hok
  | ok formula =>
    obtain ⟨hmentions, -, -, hslices⟩ := mentions_splice_safely hformula
    refine ⟨formula, rfl, ?_, ?_⟩
    · rw [hmentions, ← hsource]
      decide +kernel
    · rw [(hslices .nested ["g", "x"]).1, ← hsource]
      decide +kernel

end Expression

end Questionnaire
