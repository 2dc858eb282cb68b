import Questionnaire.Proofs.Expression.Flat

/-!
This module contains that no white space comes to the ends of an expression when its mentions of
nodes are replaced.
-/

namespace Questionnaire

structure Text.HasFirmEnds (cs : List Char) : Prop where
  head : ∀ c ∈ cs.head?, isBlank c = false
  last : ∀ c ∈ cs.getLast?, isBlank c = false

theorem Text.IsTidy.hasFirmEnds {s : String} (h : IsTidy s) : HasFirmEnds s.toList where
  head := h.isBlank_head?
  last := h.isBlank_getLast?

theorem Text.isTidy_ofList {cs : List Char} (h : HasFirmEnds cs) (hne : cs ≠ []) :
    IsTidy (String.ofList cs) where
  ne_empty := by simpa using hne
  trim_eq := by
    apply trim_eq_self
    · simpa using h.head
    · simpa using h.last

theorem Formula.ne_empty_of_parse {source : String} {formula : Formula}
    (h : parse source = .ok formula) : source ≠ "" := by
  rintro rfl
  have hphrase := phrase_of_parse h
  have hlexemes : lexemes "" = [⟨[], [], .endOfInput⟩] := Lexeme.split_eq_last rfl
  rw [hlexemes] at hphrase
  cases hphrase with
  | cons hnext _ => cases hnext

namespace Lexeme

theorem getLast?_slashed_append {names : List String} (hne : names ≠ [])
    (hnamed : NodePath.IsNamed names) (front : List Char) :
    ∀ c ∈ (front ++ slashed names).getLast?, Text.isBlank c = false := by
  obtain ⟨before, name, rfl⟩ := (List.eq_nil_or_concat names).resolve_left hne
  have hname := hnamed name (by simp)
  -- The last character of the path belongs to its last name.
  have hslashed : front ++ slashed (before ++ [name]) =
      (front ++ slashed before ++ ['/']) ++ name.toList := by simp [slashed]
  intro c hc
  rw [List.concat_eq_append, hslashed, List.getLast?_append_of_ne_nil _
    (Text.toList_ne_nil_of_isName hname)] at hc
  apply Text.isBlank_eq_false_of_isNameChar
  exact Text.isNameChar_of_isName hname (List.mem_of_mem_getLast? hc)

theorem isBlank_getLast?_text {relative : RelativePath} (hne : relative.names ≠ [])
    (hnamed : NodePath.IsNamed relative.names) :
    ∀ c ∈ relative.text.toList.getLast?, Text.isBlank c = false := by
  obtain ⟨climbs, names⟩ := relative
  cases climbs with
  | zero =>
    rw [toList_text_zero hne]
    exact getLast?_slashed_append hne hnamed ['.']
  | succ climbs =>
    have happend : '.' :: '.' :: slashed (List.replicate climbs ".." ++ names) =
        ('.' :: '.' :: slashed (List.replicate climbs "..")) ++ slashed names := by
      simp [slashed]
    rw [toList_text_succ climbs hne, happend]
    exact getLast?_slashed_append hne hnamed _

end Lexeme

namespace Expression

variable {linked : List (Lexeme × Option Reference)}

theorem gap_eq_nil {entry : Lexeme × Option Reference}
    (hseparate : Lexeme.Separate ((entry :: linked).map Prod.fst))
    (hhead : ∀ c ∈ (((entry :: linked).map Prod.fst).flatMap Lexeme.chars).head?,
      Text.isBlank c = false) : entry.1.gap = [] := by
  cases hgap : entry.1.gap with
  | nil => rfl
  | cons c gap =>
    rw [List.map_cons] at hseparate hhead
    have hblank := hseparate.gap_eq c (by rw [hgap]; exact List.mem_cons_self)
    have hfirm := hhead c (by simp [Lexeme.chars, hgap])
    rw [hblank] at hfirm
    cases hfirm

theorem getLast?_append_or {cs cs' : List Char} {p : Char → Prop}
    (h : ∀ c ∈ (cs ++ cs').getLast?, p c) : ∀ c ∈ cs'.getLast?, p c := by
  intro c hc
  apply h
  rw [Option.mem_def] at hc ⊢
  rw [List.getLast?_append, hc]
  rfl

theorem chars_eq_nil_of_spliceNames (h : spliceNames (named linked) = []) :
    (linked.map Prod.fst).flatMap Lexeme.chars = [] := by
  induction linked with
  | nil => rfl
  | cons entry linked ih =>
    obtain ⟨lexeme, reference⟩ := entry
    rw [spliceNames_named_cons, List.append_eq_nil_iff] at h
    cases reference with
    | none =>
      rw [List.map_cons, List.flatMap_cons, ih h.2, List.append_nil]
      exact h.1
    | some reference =>
      have hne := (List.append_eq_nil_iff.1 h.1).2
      cases hne

theorem isBlank_getLast?_spliceNames
    (h : ∀ c ∈ ((linked.map Prod.fst).flatMap Lexeme.chars).getLast?, Text.isBlank c = false) :
    ∀ c ∈ (spliceNames (named linked)).getLast?, Text.isBlank c = false := by
  induction linked with
  | nil => simp [named, spliceNames]
  | cons entry linked ih =>
    rw [List.map_cons, List.flatMap_cons] at h
    have hrest := ih (getLast?_append_or h)
    obtain ⟨lexeme, reference⟩ := entry
    rw [spliceNames_named_cons]
    intro c hc
    cases hlast : (spliceNames (named linked)).getLast? with
    | some d =>
      rw [Option.mem_def, List.getLast?_append, hlast] at hc
      cases hc
      exact hrest _ hlast
    | none =>
      have hnil := List.getLast?_eq_none_iff.1 hlast
      rw [hnil, List.append_nil] at hc
      cases reference with
      | none =>
        rw [chars_eq_nil_of_spliceNames hnil, List.append_nil] at h
        exact h c hc
      | some reference =>
        have hbrace : lexeme.gap ++ referenceText reference.name =
            (lexeme.gap ++ '$' :: '{' :: reference.name.toList) ++ ['}'] := by
          simp [referenceText]
        rw [Option.map_some, Option.getD_some, hbrace, List.getLast?_concat] at hc
        cases hc
        decide

theorem hasFirmEnds_spliceNames (hseparate : Lexeme.Separate (linked.map Prod.fst))
    (h : Text.HasFirmEnds ((linked.map Prod.fst).flatMap Lexeme.chars)) :
    Text.HasFirmEnds (spliceNames (named linked)) := by
  refine ⟨?_, isBlank_getLast?_spliceNames h.last⟩
  cases linked with
  | nil => simp [named, spliceNames]
  | cons entry linked =>
    have hgap := gap_eq_nil hseparate h.head
    obtain ⟨⟨gap, text, kind⟩, reference⟩ := entry
    dsimp only at hgap
    subst hgap
    rw [spliceNames_named_cons]
    intro c hc
    cases reference with
    | some reference =>
      cases hc
      decide
    | none =>
      cases text with
      | cons d text => exact h.head c hc
      | nil =>
        rw [List.map_cons] at hseparate
        have hnil : linked.map Prod.fst = [] := hseparate.eq_nil_of_text rfl
        rw [List.map_eq_nil_iff.1 hnil] at hc
        cases hc

theorem chars_eq_nil_of_spliceRelative {last : Option Char}
    (hlinks : ∀ entry ∈ linked, LinksByPath entry) (h : spliceRelative last linked = []) :
    (linked.map Prod.fst).flatMap Lexeme.chars = [] := by
  induction linked generalizing last with
  | nil => rfl
  | cons entry linked ih =>
    obtain ⟨lexeme, reference⟩ := entry
    cases reference with
    | none =>
      rw [spliceRelative, List.append_eq_nil_iff] at h
      have hrest := ih (fun entry hentry => hlinks entry (List.mem_cons_of_mem _ hentry)) h.2
      rw [List.map_cons, List.flatMap_cons, hrest, List.append_nil]
      exact h.1
    | some reference =>
      obtain ⟨-, relative, hnames, -, hpath⟩ := hlinks _ List.mem_cons_self reference rfl
      obtain ⟨c, cs, htext, -⟩ := Lexeme.exists_toList_text _
      rw [spliceRelative, hpath, htext] at h
      simp at h

theorem nextChar?_eq_none (h : (linked.map Prod.fst).flatMap Lexeme.chars = []) :
    nextChar? linked = none := by
  cases linked with
  | nil => rfl
  | cons entry linked =>
    rw [List.map_cons, List.flatMap_cons, List.append_eq_nil_iff] at h
    rw [nextChar?, List.head?_eq_none_iff]
    exact h.1

theorem isBlank_getLast?_spliceRelative {last : Option Char}
    (hlinks : ∀ entry ∈ linked, LinksByPath entry)
    (h : ∀ c ∈ ((linked.map Prod.fst).flatMap Lexeme.chars).getLast?, Text.isBlank c = false) :
    ∀ c ∈ (spliceRelative last linked).getLast?, Text.isBlank c = false := by
  induction linked generalizing last with
  | nil => simp [spliceRelative]
  | cons entry linked ih =>
    rw [List.map_cons, List.flatMap_cons] at h
    have htail := (List.forall_mem_cons.1 hlinks).2
    -- What stands behind the last lexeme of the rest is this lexeme, if the rest is empty.
    have hstep : ∀ front last',
        (spliceRelative last' linked = [] → ∀ c ∈ front.getLast?, Text.isBlank c = false) →
          ∀ c ∈ (front ++ spliceRelative last' linked).getLast?, Text.isBlank c = false := by
      intro front last' hfront c hc
      rw [Option.mem_def, List.getLast?_append] at hc
      cases hlast : (spliceRelative last' linked).getLast? with
      | some d =>
        rw [hlast] at hc
        cases hc
        exact ih htail (getLast?_append_or h) _ hlast
      | none =>
        rw [hlast] at hc
        exact hfront (List.getLast?_eq_none_iff.1 hlast) c hc
    obtain ⟨lexeme, reference⟩ := entry
    cases reference with
    | none =>
      rw [spliceRelative]
      apply hstep
      intro hnil
      rw [chars_eq_nil_of_spliceRelative htail hnil, List.append_nil] at h
      exact h
    | some reference =>
      obtain ⟨-, relative, hnames, hnamed, hpath⟩ := hlinks _ List.mem_cons_self reference rfl
      obtain ⟨d, cs, htext, -⟩ := Lexeme.exists_toList_text _
      rw [spliceRelative]
      apply hstep
      intro hnil c hc
      have hnext := nextChar?_eq_none (chars_eq_nil_of_spliceRelative htail hnil)
      apply Lexeme.isBlank_getLast?_text hnames hnamed c
      have hbehind : guardSpace none = [] := rfl
      rw [hnext, hpath, hbehind, List.append_nil, ← List.append_assoc, Option.mem_def,
        List.getLast?_append_of_ne_nil _ (by rw [htext]; simp)] at hc
      exact hc

theorem hasFirmEnds_spliceRelative (hseparate : Lexeme.Separate (linked.map Prod.fst))
    (hlinks : ∀ entry ∈ linked, LinksByPath entry)
    (h : Text.HasFirmEnds ((linked.map Prod.fst).flatMap Lexeme.chars)) :
    Text.HasFirmEnds (spliceRelative none linked) := by
  refine ⟨?_, isBlank_getLast?_spliceRelative hlinks h.last⟩
  cases linked with
  | nil => simp [spliceRelative]
  | cons entry linked =>
    have hgap := gap_eq_nil hseparate h.head
    obtain ⟨⟨gap, text, kind⟩, reference⟩ := entry
    dsimp only at hgap
    subst hgap
    rw [spliceRelative.eq_def]
    intro c hc
    cases reference with
    | some reference =>
      obtain ⟨-, relative, hnames, -, hpath⟩ := hlinks _ List.mem_cons_self reference rfl
      obtain ⟨d, cs, htext, -⟩ := Lexeme.exists_toList_text _
      dsimp only at hc
      rw [hpath, htext] at hc
      cases hc
      decide
    | none =>
      cases text with
      | cons d text => exact h.head c hc
      | nil =>
        rw [List.map_cons] at hseparate
        have hnil : linked.map Prod.fst = [] := hseparate.eq_nil_of_text rfl
        rw [List.map_eq_nil_iff.1 hnil] at hc
        cases hc

variable {table : SymbolTable} {owner : NodePath} {source : String} {expression : Expression}

theorem isTidy_canonical (htable : table.Declared)
    (h : compile table source owner = .ok expression)
    (havoids : expression.AvoidsContainers table owner) (hsource : Text.IsTidy source) :
    Text.IsTidy expression.canonical := by
  obtain ⟨formula, linked, hformula, hmap, hlinked, rfl⟩ := linked_of_compile htable h havoids
  have hseparate := separate_lexemes hformula
  have hfirm := hsource.hasFirmEnds
  rw [← Lexeme.flatMap_split source.toList] at hfirm
  rw [← hmap] at hseparate
  have hchars : (linked.map Prod.fst).flatMap Lexeme.chars =
      (Lexeme.split source.toList).flatMap (fun lexeme => lexeme.gap ++ lexeme.text) := by
    rw [hmap]
    rfl
  rw [← hchars] at hfirm
  obtain ⟨-, formula', hformula', -⟩ := parse_spliceRelative htable hformula hmap hlinked
  apply Text.isTidy_ofList
  · apply hasFirmEnds_spliceRelative hseparate _ hfirm
    intro entry hentry
    exact (hlinked entry hentry).linksByPath
  · intro hnil
    apply Formula.ne_empty_of_parse hformula'
    rw [hnil]

theorem flatten_isTidy (htable : table.Declared)
    (h : compile table source owner = .ok expression)
    (havoids : expression.AvoidsContainers table owner)
    (hcanonical : Text.IsTidy expression.canonical) :
    ∃ flat, flatten table expression.canonical owner = .ok flat ∧ Text.IsTidy flat ∧
      compile table flat owner = .ok { expression with source := flat } := by
  obtain ⟨linked, flat, hmap, heq, hflat, hcompile⟩ := flatten_canonical htable h havoids
  refine ⟨flat, hflat, ?_, hcompile⟩
  obtain ⟨formula, linked', hformula, -⟩ := exists_relinked htable h havoids
  have hseparate := separate_lexemes hformula
  have hfirm := hcanonical.hasFirmEnds
  rw [← Lexeme.flatMap_split expression.canonical.toList] at hfirm
  rw [← hmap] at hseparate
  have hchars : (linked.map Prod.fst).flatMap Lexeme.chars =
      (Lexeme.split expression.canonical.toList).flatMap fun lexeme =>
        lexeme.gap ++ lexeme.text := by
    rw [hmap]
    rfl
  rw [← hchars] at hfirm
  obtain ⟨formula', -, hformula', -⟩ := compile_eq_ok_iff.1 hcompile
  rw [heq]
  apply Text.isTidy_ofList
  · exact hasFirmEnds_spliceNames hseparate hfirm
  · intro hnil
    apply Formula.ne_empty_of_parse hformula'
    rw [heq, hnil]

end Expression

end Questionnaire
