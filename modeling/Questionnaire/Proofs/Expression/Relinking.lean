import Questionnaire.Proofs.Expression.Neighbours

/-!
This module contains the lexemes of the text that `spliceRelative` writes: a reference becomes one
lexeme, its relative path, and every other lexeme is found again.
-/

namespace Questionnaire

namespace Lexeme

theorem StandsBefore.withGap {lexeme : Lexeme} {next : Option Char} (h : lexeme.StandsBefore next)
    (gap : List Char) : StandsBefore ⟨gap, lexeme.text, lexeme.kind⟩ next :=
  h

theorem StandsBefore.text_ne_nil {lexeme : Lexeme} {next : Option Char}
    (h : lexeme.StandsBefore next) : lexeme.text ≠ [] := by
  obtain ⟨c, text, htext, -⟩ := h
  rw [htext]
  simp

theorem Separate.eq_nil_of_text {lexeme : Lexeme} {lexemes : List Lexeme}
    (h : Separate (lexeme :: lexemes)) (htext : lexeme.text = []) : lexemes = [] := by
  cases h with
  | last _ => rfl
  | cons _ hstands _ => exact absurd htext hstands.text_ne_nil

end Lexeme

namespace Expression

def LinksByPath (entry : Lexeme × Option Reference) : Prop :=
  ∀ reference ∈ entry.2, entry.1.kind.namesNode = true ∧
    ∃ relative : RelativePath, relative.names ≠ [] ∧ NodePath.IsNamed relative.names ∧
      reference.path = relative.text

def LinksRelatively (entry : Lexeme × Option Reference) : Prop :=
  ∀ reference ∈ entry.2, entry.1.kind.namesNode = true ∧
    ∃ relative : RelativePath, reference.path = relative.text

theorem LinksByPath.linksRelatively {entry : Lexeme × Option Reference} (h : LinksByPath entry) :
    LinksRelatively entry := by
  intro reference hreference
  obtain ⟨hkind, relative, -, -, hpath⟩ := h reference hreference
  exact ⟨hkind, relative, hpath⟩

/--
The lexemes of the text that `spliceRelative` writes, beside their references. The space behind a
path belongs to the gap of the next lexeme, which is `gap` at the start.
-/
def relinked (last : Option Char) (gap : List Char) :
    List (Lexeme × Option Reference) → List (Lexeme × Option Reference)
  | [] => []
  | (lexeme, none) :: linked =>
    (⟨gap ++ lexeme.gap, lexeme.text, lexeme.kind⟩, none) ::
      relinked ((lexeme.gap ++ lexeme.text).getLast?.or last) [] linked
  | (lexeme, some reference) :: linked =>
    let before := guardSpace (lexeme.gap.getLast?.or last)
    let behind := guardSpace (nextChar? linked)
    (⟨gap ++ lexeme.gap ++ before, reference.path.toList, .path reference.path⟩, some reference) ::
      relinked (before ++ reference.path.toList ++ behind).getLast? behind linked

variable {linked : List (Lexeme × Option Reference)}

theorem guardSpace_cases (neighbour : Option Char) :
    guardSpace neighbour = [' '] ∨
      guardSpace neighbour = [] ∧ ∀ c ∈ neighbour, Text.isNameChar c = false := by
  cases neighbour with
  | none => exact Or.inr ⟨rfl, by simp⟩
  | some c =>
    cases hc : Text.isNameChar c with
    | true => exact Or.inl (by simp [guardSpace, hc])
    | false => exact Or.inr ⟨by simp [guardSpace, hc], by simp [hc]⟩

theorem guardSpace_eq_nil {neighbour : Option Char}
    (h : ∀ c ∈ neighbour, Text.isNameChar c = false) : guardSpace neighbour = [] := by
  cases neighbour with
  | none => rfl
  | some c => simp [guardSpace, h c rfl]

theorem guardSpace_guarded (neighbour : Option Char) :
    guardSpace ((guardSpace neighbour).head?.or neighbour) = [] := by
  apply guardSpace_eq_nil
  rcases guardSpace_cases neighbour with h | ⟨h, hneighbour⟩
  · rw [h]
    intro c hc
    cases hc
    decide
  · rw [h]
    exact hneighbour

theorem getLast?_guardSpace (neighbour : Option Char) :
    (guardSpace neighbour).getLast? = (guardSpace neighbour).head? := by
  rcases guardSpace_cases neighbour with h | ⟨h, -⟩ <;> rw [h] <;> rfl

theorem isBlank_guardSpace (neighbour : Option Char) :
    ∀ c ∈ guardSpace neighbour, Text.isBlank c = true := by
  intro c hc
  rcases guardSpace_cases neighbour with h | ⟨h, -⟩
  · rw [h] at hc
    cases List.mem_singleton.1 hc
    decide
  · rw [h] at hc
    cases hc

theorem chars_relinked {last : Option Char} {gap : List Char} (h : linked = [] → gap = []) :
    ((relinked last gap linked).map Prod.fst).flatMap Lexeme.chars =
      gap ++ spliceRelative last linked := by
  induction linked generalizing last gap with
  | nil =>
    rw [h rfl]
    rfl
  | cons entry linked ih =>
    obtain ⟨lexeme, reference⟩ := entry
    cases reference with
    | none =>
      rw [relinked, List.map_cons, List.flatMap_cons, ih (fun _ => rfl)]
      simp [Lexeme.chars, spliceRelative]
    | some reference =>
      have hbehind : linked = [] → guardSpace (nextChar? linked) = [] := by
        rintro rfl
        rfl
      rw [relinked, List.map_cons, List.flatMap_cons, ih hbehind]
      simp [Lexeme.chars, spliceRelative]

theorem nextChar?_eq (h : Lexeme.Separate (linked.map Prod.fst)) :
    nextChar? linked = ((linked.map Prod.fst).flatMap Lexeme.chars).head? := by
  cases linked with
  | nil => rfl
  | cons entry linked =>
    obtain ⟨⟨gap, text, kind⟩, reference⟩ := entry
    rw [List.map_cons] at h ⊢
    generalize hrest : linked.map Prod.fst = rest at *
    cases h with
    | last hgap => simp [nextChar?, Lexeme.chars]
    | cons hgap hstands _ =>
      obtain ⟨c, cs, htext, -⟩ := hstands
      dsimp only at htext
      subst htext
      cases gap <;> rfl

theorem head?_spliceRelative {last : Option Char} {expecting : Expecting}
    (hphrase : Phrase expecting (linked.map Prod.fst))
    (hseparate : Lexeme.Separate (linked.map Prod.fst))
    (hlinks : ∀ entry ∈ linked, LinksRelatively entry) :
    (spliceRelative last linked).head? = nextChar? linked ∨
      expecting = .operand ∧ ∀ c ∈ (spliceRelative last linked).head?, Lexeme.StaysApart c := by
  cases linked with
  | nil => exact Or.inl rfl
  | cons entry linked =>
    obtain ⟨⟨gap, text, kind⟩, reference⟩ := entry
    cases gap with
    | cons c gap =>
      left
      cases reference <;> rfl
    | nil =>
      cases reference with
      | none =>
        left
        rw [spliceRelative]
        dsimp only
        cases text with
        | cons c text => rfl
        | nil =>
          rw [List.map_cons] at hseparate
          have hnil : linked.map Prod.fst = [] := hseparate.eq_nil_of_text rfl
          rw [List.map_eq_nil_iff.1 hnil]
          rfl
      | some reference =>
        -- A path that is written without a space in front starts with a dot.
        right
        obtain ⟨hkind, relative, hpath⟩ := hlinks _ List.mem_cons_self reference rfl
        obtain ⟨c, cs, htext, -⟩ := Lexeme.exists_toList_text _
        rw [List.map_cons] at hphrase
        refine ⟨(hphrase.of_namesNode hkind).1, ?_⟩
        rw [spliceRelative]
        dsimp only
        rw [hpath, htext]
        intro d hd
        rcases guardSpace_cases (([] : List Char).getLast?.or last) with h | ⟨h, -⟩
        · rw [h] at hd
          cases hd
          exact ⟨by decide, by decide⟩
        · rw [h] at hd
          cases hd
          exact ⟨by decide, by decide⟩

theorem endsPath_guarded {last : Option Char} (hphrase : Phrase .operator (linked.map Prod.fst))
    (hseparate : Lexeme.Separate (linked.map Prod.fst))
    (hlinks : ∀ entry ∈ linked, LinksRelatively entry) :
    Lexeme.EndsPath (guardSpace (nextChar? linked) ++ spliceRelative last linked).head? := by
  intro c hc
  rcases guardSpace_cases (nextChar? linked) with h | ⟨h, hname⟩
  · rw [h] at hc
    cases hc
    exact ⟨by decide, by decide⟩
  · rw [h, List.nil_append] at hc
    rcases head?_spliceRelative hphrase hseparate hlinks with hhead | ⟨hoperand, -⟩
    · rw [hhead] at hc
      refine ⟨hname c hc, ?_⟩
      rw [nextChar?_eq hseparate] at hc
      exact Lexeme.ne_slash_of_operator hphrase hseparate c hc
    · cases hoperand

def reread (kind : Reference → TokenKind) (entry : Lexeme × Option Reference) : Lexeme :=
  { entry.1 with kind := (entry.2.map kind).getD entry.1.kind }

theorem chars_reread {kind : Reference → TokenKind} {last : Option Char} {gap : List Char}
    (h : linked = [] → gap = []) :
    ((relinked last gap linked).map (reread kind)).flatMap Lexeme.chars =
      gap ++ spliceRelative last linked := by
  rw [← chars_relinked h, List.flatMap_map, List.flatMap_map]
  rfl

theorem separate_reread {kind : Reference → TokenKind} {last : Option Char} {gap : List Char}
    {expecting : Expecting} (hphrase : Phrase expecting (linked.map Prod.fst))
    (hseparate : Lexeme.Separate (linked.map Prod.fst))
    (hlinks : ∀ entry ∈ linked, LinksRelatively entry)
    (hfound : ∀ entry ∈ linked, ∀ reference ∈ entry.2, ∀ gap next, Lexeme.EndsPath next →
      Lexeme.StandsBefore ⟨gap, reference.path.toList, kind reference⟩ next)
    (hgap : ∀ c ∈ gap, Text.isBlank c = true) :
    Lexeme.Separate ((relinked last gap linked).map (reread kind)) := by
  induction linked generalizing last gap expecting with
  | nil => cases hphrase
  | cons entry linked ih =>
    have htail := (List.forall_mem_cons.1 hlinks).2
    have hfound' := (List.forall_mem_cons.1 hfound).2
    obtain ⟨lexeme, reference⟩ := entry
    have hgaps : ∀ c ∈ gap ++ lexeme.gap, Text.isBlank c = true := by
      intro c hc
      rcases List.mem_append.1 hc with hc | hc
      · exact hgap c hc
      · exact hseparate.gap_eq c hc
    cases reference with
    | none =>
      rw [relinked, List.map_cons]
      cases linked with
      | nil =>
        cases hphrase with
        | last lexemeGap => exact .last hgaps
        | cons _ hrest => cases hrest
      | cons entry' linked =>
        obtain ⟨next, hnext, hrest⟩ := hphrase.after_of_ne (by simp)
        rw [List.map_cons] at hseparate
        cases hseparate with
        | cons _ hstands hseparate =>
          apply Lexeme.Separate.cons hgaps
          · rw [chars_reread (fun _ => rfl), List.nil_append]
            apply Lexeme.StandsBefore.withGap
            -- Either the lexeme stands in front of the same character as before, or a path has come
            -- behind it, and then it asks for an operand.
            rcases head?_spliceRelative hrest hseparate htail with hhead | ⟨rfl, hapart⟩
            · rw [hhead, nextChar?_eq hseparate]
              exact hstands
            · exact hstands.of_opens ⟨expecting, hnext⟩ hapart
          · exact ih hrest hseparate htail hfound' (by simp)
    | some reference =>
      have hkind := (hlinks _ List.mem_cons_self reference rfl).1
      rw [List.map_cons] at hphrase hseparate
      obtain ⟨-, hrest⟩ := hphrase.of_namesNode hkind
      have hseparate' := hseparate.tail hrest.ne_nil
      have hbehind : linked = [] → guardSpace (nextChar? linked) = [] := by
        rintro rfl
        rfl
      rw [relinked, List.map_cons]
      apply Lexeme.Separate.cons
      · intro c hc
        rcases List.mem_append.1 hc with hc | hc
        · exact hgaps c hc
        · exact isBlank_guardSpace _ c hc
      -- The guards keep the names in front of the path and behind it away from its text.
      · rw [chars_reread hbehind]
        apply hfound _ List.mem_cons_self reference rfl
        exact endsPath_guarded hrest hseparate' htail
      · exact ih hrest hseparate' htail hfound' (isBlank_guardSpace _)

theorem lexemes_reread {kind : Reference → TokenKind} {expecting : Expecting}
    (hphrase : Phrase expecting (linked.map Prod.fst))
    (hseparate : Lexeme.Separate (linked.map Prod.fst))
    (hlinks : ∀ entry ∈ linked, LinksRelatively entry)
    (hfound : ∀ entry ∈ linked, ∀ reference ∈ entry.2, ∀ gap next, Lexeme.EndsPath next →
      Lexeme.StandsBefore ⟨gap, reference.path.toList, kind reference⟩ next) :
    lexemes (String.ofList (spliceRelative none linked)) =
      (relinked none [] linked).map (reread kind) := by
  have hchars : ((relinked none [] linked).map (reread kind)).flatMap Lexeme.chars =
      spliceRelative none linked := chars_reread fun _ => rfl
  unfold lexemes
  rw [String.toList_ofList, ← hchars]
  apply Lexeme.split_flatMap_chars
  exact separate_reread hphrase hseparate hlinks hfound (by simp)

theorem nextChar?_relinked {last : Option Char} {gap : List Char}
    (hphrase : Phrase .operator (linked.map Prod.fst))
    (hlinks : ∀ entry ∈ linked, LinksByPath entry) :
    nextChar? (relinked last gap linked) = gap.head?.or (nextChar? linked) := by
  cases linked with
  | nil => cases hphrase
  | cons entry linked =>
    obtain ⟨lexeme, reference⟩ := entry
    cases reference with
    | none =>
      rw [relinked, nextChar?, nextChar?, List.append_assoc, List.head?_append]
    | some reference =>
      obtain ⟨hkind, -⟩ := hlinks _ List.mem_cons_self reference rfl
      rw [List.map_cons] at hphrase
      cases (hphrase.of_namesNode hkind).1

theorem spliceRelative_relinked {last last' : Option Char} {gap : List Char} {expecting : Expecting}
    (hphrase : Phrase expecting (linked.map Prod.fst))
    (hlinks : ∀ entry ∈ linked, LinksByPath entry) (hlast : last = gap.getLast?.or last') :
    spliceRelative last' (relinked last gap linked) = gap ++ spliceRelative last linked := by
  induction linked generalizing last last' gap expecting with
  | nil => cases hphrase
  | cons entry linked ih =>
    have htail := (List.forall_mem_cons.1 hlinks).2
    obtain ⟨lexeme, reference⟩ := entry
    cases reference with
    | none =>
      rw [relinked, spliceRelative, spliceRelative]
      dsimp only
      have hlast' : ((gap ++ lexeme.gap ++ lexeme.text).getLast?.or last') =
          (lexeme.gap ++ lexeme.text).getLast?.or last := by
        rw [hlast, List.append_assoc, List.getLast?_append, Option.or_assoc]
      rw [hlast']
      cases linked with
      | nil => simp [relinked, spliceRelative]
      | cons entry' linked =>
        obtain ⟨next, -, hrest⟩ := hphrase.after_of_ne (by simp)
        rw [ih hrest htail (by simp)]
        simp
    | some reference =>
      obtain ⟨hkind, relative, hnames, -, hpath⟩ := hlinks _ List.mem_cons_self reference rfl
      rw [List.map_cons] at hphrase
      obtain ⟨-, hrest⟩ := hphrase.of_namesNode hkind
      rw [relinked, spliceRelative, spliceRelative]
      dsimp only
      -- The guards of the first time are part of the gaps now, so that none is needed again.
      have hbefore : guardSpace ((gap ++ lexeme.gap ++
          guardSpace (lexeme.gap.getLast?.or last)).getLast?.or last') = [] := by
        rw [hlast, List.getLast?_append, List.getLast?_append, getLast?_guardSpace, Option.or_assoc,
          Option.or_assoc]
        exact guardSpace_guarded _
      have hbehind : guardSpace (nextChar? (relinked
          (guardSpace (lexeme.gap.getLast?.or last) ++ reference.path.toList ++
            guardSpace (nextChar? linked)).getLast? (guardSpace (nextChar? linked)) linked)) = [] := by
        rw [nextChar?_relinked hrest htail]
        exact guardSpace_guarded _
      rw [hbefore, hbehind, ih hrest htail]
      · simp
      · obtain ⟨c, cs, htext, -⟩ := Lexeme.exists_toList_text _
        have hd : ∃ d, reference.path.toList.getLast? = some d := by
          rw [hpath, htext]
          exact ⟨_, List.getLast?_eq_some_getLast (by simp)⟩
        obtain ⟨d, hd⟩ := hd
        rw [List.nil_append, List.append_nil, List.getLast?_append, List.getLast?_append, hd]
        cases (guardSpace (nextChar? linked)).getLast? <;> rfl

theorem kind_relinked (linked : List (Lexeme × Option Reference)) (last : Option Char)
    (gap : List Char) :
    ∀ entry ∈ relinked last gap linked, ∀ reference ∈ entry.2,
      entry.1.kind = .path reference.path := by
  induction linked generalizing last gap with
  | nil => simp [relinked]
  | cons entry linked ih =>
    intro entry' hentry' reference' hreference'
    obtain ⟨lexeme, reference⟩ := entry
    cases reference with
    | none =>
      rcases List.mem_cons.1 hentry' with rfl | hentry'
      · cases hreference'
      · exact ih _ _ entry' hentry' reference' hreference'
    | some reference =>
      rcases List.mem_cons.1 hentry' with rfl | hentry'
      · cases hreference'
        rfl
      · exact ih _ _ entry' hentry' reference' hreference'

theorem filterMap_snd_relinked (linked : List (Lexeme × Option Reference)) (last : Option Char)
    (gap : List Char) :
    (relinked last gap linked).filterMap Prod.snd = linked.filterMap Prod.snd := by
  induction linked generalizing last gap with
  | nil => rfl
  | cons entry linked ih =>
    obtain ⟨lexeme, reference⟩ := entry
    cases reference <;> simp [relinked, ih]

theorem lexemes_spliceRelative {expecting : Expecting}
    (hphrase : Phrase expecting (linked.map Prod.fst))
    (hseparate : Lexeme.Separate (linked.map Prod.fst))
    (hlinks : ∀ entry ∈ linked, LinksByPath entry) :
    lexemes (String.ofList (spliceRelative none linked)) =
      (relinked none [] linked).map Prod.fst := by
  have hfound : ∀ entry ∈ linked, ∀ reference ∈ entry.2, ∀ gap next, Lexeme.EndsPath next →
      Lexeme.StandsBefore ⟨gap, reference.path.toList, .path reference.path⟩ next := by
    intro entry hentry reference hreference gap next hnext
    obtain ⟨-, relative, hnames, hnamed, hpath⟩ := hlinks entry hentry reference hreference
    rw [hpath]
    exact Lexeme.standsBefore_relativePath hnames hnamed gap hnext
  rw [lexemes_reread hphrase hseparate (fun entry hentry => (hlinks entry hentry).linksRelatively)
    hfound]
  apply List.map_congr_left
  rintro ⟨lexeme, reference⟩ hentry
  cases reference with
  | none => rfl
  | some reference =>
    unfold reread
    rw [Option.map_some, Option.getD_some, ← kind_relinked linked none [] _ hentry reference rfl]

end Expression

end Questionnaire
