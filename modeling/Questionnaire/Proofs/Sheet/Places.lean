import Questionnaire.Proofs.Sheet.Reading

/-!
This module contains the places that failures of reading a workbook point at. Whatever the stage in
which a workbook is refused, the failure points at a row that its sheet has and that is not blank.
-/

namespace Questionnaire

section Compile

theorem Formula.failsOnly_parse (source : String) : FailsOnly (·.place = none) (parse source) := by
  unfold parse
  split
  · exact failsOnly_ok _
  · exact failsOnly_error rfl

namespace Expression

variable {table : SymbolTable} {owner : NodePath} {source : String}

theorem failsOnly_unresolved {α : Type} (mention source : String) :
    FailsOnly (·.place = none) (unresolved mention source : Except Failure α) :=
  failsOnly_error rfl

theorem failsOnly_target? (kind : TokenKind) :
    FailsOnly (·.place = none) (target? table owner source kind) := by
  unfold target?
  split
  · split
    · exact failsOnly_unresolved _ _
    · exact failsOnly_ok _
  · unfold pathTarget?
    split
    · exact failsOnly_ok _
    · dsimp only
      split
      · exact failsOnly_unresolved _ _
      · exact failsOnly_ok _
      · exact failsOnly_ok _
  · exact failsOnly_ok _

theorem failsOnly_reference? (kind : TokenKind) :
    FailsOnly (·.place = none) (reference? table owner source kind) := by
  unfold reference?
  apply (failsOnly_target? kind).bind
  intro target htarget
  split
  · exact failsOnly_ok _
  · split
    · exact failsOnly_unresolved _ _
    · exact failsOnly_ok _

theorem failsOnly_annotate {α : Type} {p : Failure → Prop}
    {step : TokenKind → Except Failure (Option α)} (hstep : ∀ kind, FailsOnly p (step kind))
    (lexemes : List Lexeme) : FailsOnly p (annotate step lexemes) := by
  induction lexemes with
  | nil => exact failsOnly_ok _
  | cons lexeme lexemes ih =>
    exact (hstep lexeme.kind).bind fun _ _ => ih.bind fun _ _ => failsOnly_ok _

theorem failsOnly_compile (table : SymbolTable) (source : String) (owner : NodePath) :
    FailsOnly (·.place = none) (compile table source owner) := by
  unfold compile
  apply (Formula.failsOnly_parse source).bind
  intro formula hformula
  exact (failsOnly_annotate failsOnly_reference? _).bind fun _ _ => failsOnly_ok _

end Expression

end Compile

namespace Draft

mutual

def places : Draft → List Place
  | question _ place _ _ => [place]
  | block _ _ place _ _ drafts => place :: placesAll drafts

def placesAll : List Draft → List Place
  | [] => []
  | draft :: drafts => places draft ++ placesAll drafts

end

theorem placesAll_append (drafts drafts' : List Draft) :
    placesAll (drafts ++ drafts') = placesAll drafts ++ placesAll drafts' := by
  induction drafts with
  | nil => rfl
  | cons draft drafts ih => rw [List.cons_append, placesAll, placesAll, ih, List.append_assoc]

theorem placesAll_singleton (draft : Draft) : placesAll [draft] = places draft := by
  rw [placesAll, placesAll, List.append_nil]

variable {compiler : Compiler} {lists : ChoiceLists}

theorem failsOnly_compile?
    (hcompiler : ∀ text path, FailsOnly (·.place = none) (compiler text path)) (path : NodePath)
    (text : Option String) : FailsOnly (·.place = none) (compile? compiler path text) := by
  unfold compile?
  split
  · exact failsOnly_ok _
  · exact (hcompiler _ path).bind fun _ _ => failsOnly_ok _

theorem failsOnly_requireChoices (question : String) (list : Option String) :
    FailsOnly (·.place = none) (lists.requireChoices question list) := by
  unfold ChoiceLists.requireChoices
  dsimp only
  split
  · exact failsOnly_ok _
  · exact failsOnly_error rfl

theorem failsOnly_compileQuestion
    (hcompiler : ∀ text path, FailsOnly (·.place = none) (compiler text path)) (path : NodePath)
    (asked : Question) (texts : ExpressionTexts) :
    FailsOnly (·.place = none) (compileQuestion compiler lists path asked texts) := by
  have htext := failsOnly_compile? hcompiler path
  have hexpressions : FailsOnly (·.place = none) (do
      let relevant ← compile? compiler path texts.relevant
      let constraint ← compile? compiler path texts.constraint
      let calculation ← compile? compiler path texts.calculation
      .ok { asked with relevant, constraint, calculation }) :=
    (htext texts.relevant).bind fun _ _ => (htext texts.constraint).bind fun _ _ =>
      (htext texts.calculation).bind fun _ _ => failsOnly_ok _
  unfold compileQuestion
  split
  · exact (failsOnly_requireChoices _ _).bind fun _ _ => hexpressions
  · exact hexpressions

mutual

theorem failsOnly_compile
    (hcompiler : ∀ text path, FailsOnly (·.place = none) (compiler text path)) (draft : Draft) :
    FailsOnly (fun failure => ∃ place ∈ draft.places, failure.place = some place)
      (compile compiler lists draft) := by
  cases draft with
  | question path place asked texts =>
    rw [compile]
    refine FailsOnly.bind ?_ fun _ _ => failsOnly_ok _
    refine ((failsOnly_compileQuestion hcompiler path asked texts).orPlacing place).mono ?_
    exact fun failure hplace => ⟨place, List.mem_cons_self, hplace⟩
  | block kind path place header text drafts =>
    rw [compile]
    refine FailsOnly.bind ?_ fun relevant _ => FailsOnly.bind ?_ fun children _ => failsOnly_ok _
    · refine ((failsOnly_compile? hcompiler path text).orPlacing place).mono ?_
      exact fun failure hplace => ⟨place, List.mem_cons_self, hplace⟩
    · refine (failsOnly_compileAll hcompiler drafts).mono ?_
      rintro failure ⟨place', hmem, hplace⟩
      exact ⟨place', List.mem_cons_of_mem _ hmem, hplace⟩

theorem failsOnly_compileAll
    (hcompiler : ∀ text path, FailsOnly (·.place = none) (compiler text path))
    (drafts : List Draft) :
    FailsOnly (fun failure => ∃ place ∈ placesAll drafts, failure.place = some place)
      (compileAll compiler lists drafts) := by
  cases drafts with
  | nil => exact failsOnly_ok _
  | cons draft drafts =>
    rw [compileAll]
    refine FailsOnly.bind ?_ fun node _ => FailsOnly.bind ?_ fun nodes _ => failsOnly_ok _
    · refine (failsOnly_compile hcompiler draft).mono ?_
      rintro failure ⟨place, hmem, hplace⟩
      exact ⟨place, List.mem_append_left _ hmem, hplace⟩
    · refine (failsOnly_compileAll hcompiler drafts).mono ?_
      rintro failure ⟨place, hmem, hplace⟩
      exact ⟨place, List.mem_append_right _ hmem, hplace⟩

end

end Draft

section Rows

variable {options : Options} {line : Nat}

theorem SurveyRow.failsOnly_parse (options : Options) (line : Nat) (row : Row) :
    FailsOnly (fun failure => ∃ node, failure.place = some (.ofRow "survey" line node))
      (parse options line row) := by
  unfold parse
  dsimp only
  split
  · exact failsOnly_error ⟨_, rfl⟩
  · apply FailsOnly.bind
    · refine (failsOnly_placing _ _).mono ?_
      exact fun failure hplace => ⟨_, hplace⟩
    · intro type htype
      split
      · exact failsOnly_ok _
      · exact failsOnly_error ⟨_, rfl⟩

theorem ChoiceRow.failsOnly_parse (line : Nat) (row : Row) :
    FailsOnly (·.place = some (.ofRow "choices" line none)) (parse line row) := by
  have hcell (column : String) :
      FailsOnly (·.place = some (.ofRow "choices" line none)) (requiredCell line row column) := by
    unfold requiredCell
    split
    · exact failsOnly_ok _
    · exact failsOnly_error rfl
  unfold parse
  exact (hcell "list_name").bind fun _ _ => (hcell "name").bind fun _ _ => failsOnly_ok _

theorem SettingsRow.failsOnly_parse (options : Options) (row : Option Row) :
    FailsOnly (fun failure => failure.place = some (.ofRow "settings" 2 none) ∧
      ∃ row' ∈ row, Row.isBlank row' = false) (parse options row) := by
  unfold parse
  split
  · exact failsOnly_ok _
  · next row =>
    dsimp only
    split
    · exact failsOnly_ok _
    · next hcells =>
      refine failsOnly_error ⟨rfl, row, rfl, ?_⟩
      unfold Row.isBlank
      -- Only a cell that is not blank can be at fault.
      cases hrow : Row.cells row with
      | nil =>
        rw [hrow] at hcells
        cases hcells
      | cons cell cells => rfl

end Rows

def Frame.placesAll : List Frame → List Place
  | [] => []
  | frame :: frames => frame.place :: Draft.placesAll frame.children ++ placesAll frames

namespace Outline

def places (outline : Outline) : List Place :=
  Draft.placesAll outline.children ++ Frame.placesAll outline.frames

variable {outline outline' : Outline} {line : Nat} {row : SurveyRow}

theorem mem_places_push {draft : Draft} {place : Place} :
    place ∈ (outline.push draft).places ↔ place ∈ outline.places ∨ place ∈ draft.places := by
  obtain ⟨children, frames, symbols⟩ := outline
  cases frames with
  | nil =>
    simp [places, push, Frame.placesAll, Draft.placesAll_append, Draft.placesAll_singleton]
  | cons frame frames =>
    simp [places, push, Frame.placesAll, Draft.placesAll_append, Draft.placesAll_singleton]
    tauto

theorem mem_places_of_takes (h : outline.Takes line row outline') :
    ∀ place ∈ outline'.places, place ∈ outline.places ∨ place = .ofRow "survey" line row.name := by
  intro place hplace
  cases h with
  | opening htype hname hdeclare =>
    simp only [places, Frame.placesAll, Draft.placesAll, List.nil_append, List.cons_append,
      List.mem_append, List.mem_cons] at hplace ⊢
    rw [hname]
    tauto
  -- The places of a frame are those of its draft.
  | closing htype hframes =>
    left
    rw [mem_places_push] at hplace
    simp only [places, hframes, Frame.placesAll, Frame.toDraft, Draft.places, List.cons_append,
      List.mem_append, List.mem_cons] at hplace ⊢
    tauto
  | question htype hname hsuits hdeclare =>
    rw [mem_places_push] at hplace
    rw [hname]
    rcases hplace with hplace | hplace
    · exact Or.inl hplace
    · exact Or.inr (List.mem_singleton.1 hplace)

theorem failsOnly_addRow (outline : Outline) (line : Nat) (row : SurveyRow) :
    FailsOnly (·.place = some (.ofRow "survey" line row.name)) (outline.addRow line row) := by
  intro failure h
  obtain ⟨left, h⟩ := addRow_eq_error_iff.1 h
  exact (refuses_of_run h).1

theorem failsOnly_complete (outline : Outline) :
    FailsOnly (fun failure => ∃ place ∈ outline.places, failure.place = some place)
      outline.complete := by
  unfold complete
  split
  · next frame frames hframes =>
    refine failsOnly_error ⟨frame.place, ?_, rfl⟩
    unfold places
    rw [hframes]
    exact List.mem_append_right _ List.mem_cons_self
  · exact failsOnly_ok _

theorem placesAll_of_complete {draft : SurveyDraft} (h : outline.complete = .ok draft) :
    Draft.placesAll draft.children = outline.places := by
  obtain ⟨children, frames, symbols⟩ := outline
  cases frames with
  | nil =>
    cases h
    exact (List.append_nil _).symm
  | cons _ _ => cases h

end Outline

namespace Workbook

def rowsOf (workbook : Workbook) : String → List Row
  | "survey" => workbook.survey
  | "choices" => workbook.choices
  | "settings" => workbook.settings.toList
  | _ => []

end Workbook

/--
Whether a place is a row of a workbook that is not blank. The header of a sheet is its row 1.
-/
def Place.IsRowOf (workbook : Workbook) (place : Place) : Prop :=
  ∃ sheet ∈ place.sheet, ∃ index row, place.row = some (index + 2) ∧
    (workbook.rowsOf sheet)[index]? = some row ∧ Row.isBlank row = false

namespace Workbook

variable {workbook : Workbook} {options : Options}

theorem exists_index_of_mem_numbered {rows : List Row} {line : Nat} {row : Row}
    (h : (line, row) ∈ numbered rows) :
    ∃ index, line = index + 2 ∧ rows[index]? = some row ∧ Row.isBlank row = false := by
  obtain ⟨hmem, hblank⟩ := List.mem_filter.1 h
  obtain ⟨⟨row', index⟩, hindex, heq⟩ := List.mem_map.1 hmem
  cases heq
  refine ⟨index, rfl, List.mem_zipIdx_iff_getElem?.1 hindex, ?_⟩
  simpa using hblank

theorem isRowOf_survey {line : Nat} {row : Row} (h : (line, row) ∈ numbered workbook.survey)
    (node : Option String) : (Place.ofRow "survey" line node).IsRowOf workbook := by
  obtain ⟨index, rfl, hindex, hblank⟩ := exists_index_of_mem_numbered h
  exact ⟨"survey", rfl, index, row, rfl, hindex, hblank⟩

theorem isRowOf_choices {line : Nat} {row : Row} (h : (line, row) ∈ numbered workbook.choices)
    (node : Option String) : (Place.ofRow "choices" line node).IsRowOf workbook := by
  obtain ⟨index, rfl, hindex, hblank⟩ := exists_index_of_mem_numbered h
  exact ⟨"choices", rfl, index, row, rfl, hindex, hblank⟩

def PointsAtRow (workbook : Workbook) (failure : Failure) : Prop :=
  ∃ place ∈ failure.place, place.IsRowOf workbook

theorem failsOnly_groupChoices :
    FailsOnly workbook.PointsAtRow (groupChoices (numbered workbook.choices)) := by
  unfold groupChoices
  refine failsOnly_foldlM (p := fun _ => True) (fun _ _ _ _ _ _ => trivial) ?_ trivial
  rintro groups ⟨line, row⟩ hrow -
  refine FailsOnly.bind ?_ fun _ _ => failsOnly_ok _
  refine (ChoiceRow.failsOnly_parse line row).mono ?_
  exact fun failure hplace => ⟨_, hplace, isRowOf_choices hrow none⟩

theorem failsOnly_settings (options : Options) :
    FailsOnly workbook.PointsAtRow (SettingsRow.parse options workbook.settings) := by
  refine (SettingsRow.failsOnly_parse options workbook.settings).mono ?_
  rintro failure ⟨hplace, row, hrow, hblank⟩
  refine ⟨_, hplace, "settings", rfl, 0, row, rfl, ?_, hblank⟩
  unfold rowsOf
  rw [Option.mem_def.1 hrow]
  rfl

def PlacesRows (workbook : Workbook) (outline : Outline) : Prop :=
  ∀ place ∈ outline.places, place.IsRowOf workbook

theorem placesRows_empty (root : String) : workbook.PlacesRows (.empty root) := by
  intro place hplace
  cases hplace

theorem placesRows_addRow {outline outline' : Outline} {line : Nat} {row : Row}
    {parsed : SurveyRow} (h : workbook.PlacesRows outline)
    (hrow : (line, row) ∈ numbered workbook.survey)
    (hadd : outline.addRow line parsed = .ok outline') : workbook.PlacesRows outline' := by
  intro place hplace
  rcases Outline.mem_places_of_takes (Outline.takes_of_addRow hadd) place hplace with hplace | rfl
  · exact h place hplace
  · exact isRowOf_survey hrow _

theorem placesRows_takeRow (outline : Outline) (line : Nat × Row)
    (hline : line ∈ numbered workbook.survey) (outline' : Outline)
    (h : workbook.PlacesRows outline) (htake : takeRow options outline line = .ok outline') :
    workbook.PlacesRows outline' := by
  obtain ⟨parsed, -, hadd⟩ := bind_eq_ok_iff.1 htake
  exact placesRows_addRow h hline hadd

theorem failsOnly_takeRow (outline : Outline) (line : Nat × Row)
    (hline : line ∈ numbered workbook.survey) :
    FailsOnly workbook.PointsAtRow (takeRow options outline line) := by
  apply FailsOnly.bind
  · refine (SurveyRow.failsOnly_parse options line.1 line.2).mono ?_
    rintro failure ⟨node, hplace⟩
    exact ⟨_, hplace, isRowOf_survey hline node⟩
  · intro parsed hparsed
    refine (Outline.failsOnly_addRow outline line.1 parsed).mono ?_
    exact fun failure hplace => ⟨_, hplace, isRowOf_survey hline _⟩

theorem failsOnly_outlineRows (options : Options) (root : String) :
    FailsOnly workbook.PointsAtRow (outlineRows options root (numbered workbook.survey)) :=
  failsOnly_foldlM placesRows_takeRow
    (fun outline line hline _ => failsOnly_takeRow outline line hline) (placesRows_empty root)

theorem failsOnly_finish {drafting : Drafting} {rules : DraftRules} {p : String → Choice → Prop}
    (hsound : drafting.IsSound rules p)
    (hplaces : ∀ place ∈ Draft.placesAll drafting.draft.children, place.IsRowOf workbook) :
    FailsOnly workbook.PointsAtRow
      (drafting.finish (Expression.compile drafting.symbols) options) := by
  have hcompiler := fun text path => Expression.failsOnly_compile drafting.symbols text path
  unfold Drafting.finish SurveyDraft.compile
  rw [hsound.relevant_eq]
  refine (failsOnly_ok none).bind fun relevant hrelevant =>
    FailsOnly.bind ?_ fun children hchildren =>
    FailsOnly.bind ?_ fun survey _ => failsOnly_ok _
  · refine (Draft.failsOnly_compileAll hcompiler drafting.draft.children).mono ?_
    rintro failure ⟨place, hmem, hplace⟩
    exact ⟨place, hplace, hplaces place hmem⟩
  · have hassemble : drafting.assemble (Expression.compile drafting.symbols) =
        .ok ⟨{ drafting.draft.header with relevant }, children, drafting.lists,
          drafting.settings⟩ := by
      unfold Drafting.assemble
      rw [hsound.relevant_eq, hchildren]
      cases hrelevant
      rfl
    rw [hsound.validate_eq hassemble]
    exact failsOnly_ok _

theorem placesRows_outlineRows {root : String} {outline : Outline}
    (h : outlineRows options root (numbered workbook.survey) = .ok outline) :
    workbook.PlacesRows outline :=
  foldlM_invariant_of_mem placesRows_takeRow (placesRows_empty root) h

theorem failsOnly_drafting (workbook : Workbook) (options : Options) :
    FailsOnly workbook.PointsAtRow (workbook.drafting options) := by
  unfold Workbook.drafting
  refine (failsOnly_settings options).bind fun settings _ =>
    failsOnly_groupChoices.bind fun groups _ =>
    (failsOnly_outlineRows options _).bind fun outline houtline =>
    FailsOnly.bind ?_ fun draft _ => failsOnly_ok _
  refine (Outline.failsOnly_complete outline).mono ?_
  rintro failure ⟨place, hmem, hplace⟩
  exact ⟨place, hplace, placesRows_outlineRows houtline place hmem⟩

theorem isRowOf_of_drafting {drafting : Drafting} (h : workbook.drafting options = .ok drafting) :
    ∀ place ∈ Draft.placesAll drafting.draft.children, place.IsRowOf workbook := by
  obtain ⟨settings, groups, outline, draft, -, -, houtline, hdraft, rfl⟩ := drafting_eq_ok_iff.1 h
  rw [Outline.placesAll_of_complete hdraft]
  exact placesRows_outlineRows houtline

theorem failsOnly_read (workbook : Workbook) (options : Options) :
    FailsOnly workbook.PointsAtRow (workbook.read options) := by
  rw [read_eq]
  apply (failsOnly_drafting workbook options).bind
  intro drafting hdrafting
  exact failsOnly_finish (isSound_drafting hdrafting).1 (isRowOf_of_drafting hdrafting)

theorem sheet_mem_of_isRowOf {place : Place} (h : place.IsRowOf workbook) :
    place.sheet ∈ [some "survey", some "choices", some "settings"] := by
  obtain ⟨sheet, hsheet, index, row, -, hindex, -⟩ := h
  rw [Option.mem_def.1 hsheet]
  unfold rowsOf at hindex
  split at hindex
  · decide
  · decide
  · decide
  · cases hindex

theorem read_failure_isRowOf {failure : Failure} (h : workbook.read options = .error failure) :
    ∃ place ∈ failure.place, place.sheet ∈ [some "survey", some "choices", some "settings"] ∧
      place.IsRowOf workbook := by
  obtain ⟨place, hplace, hrow⟩ := failsOnly_read workbook options failure h
  exact ⟨place, hplace, sheet_mem_of_isRowOf hrow, hrow⟩

def refused : List (Workbook × Failure) := [
  (⟨[], [], some (.ofList [("name", "1a")])⟩,
    RowFault.failure (.invalidRootName "1a") (.ofRow "settings" 2 none)),
  (⟨[], [.ofList [], .ofList [("list_name", "color"), ("label", "Red")]], none⟩,
    RowFault.failure (.missingChoiceField "name") (.ofRow "choices" 3 none)),
  (⟨[.ofList [("type", " ")], .ofList [("name", "age")]], [], none⟩,
    RowFault.failure .missingType (.ofRow "survey" 3 (some "age"))),
  (⟨[.ofList [("type", "end group")]], [], none⟩,
    ⟨.nesting "`end group` with no open group", some (.ofRow "survey" 2 none)⟩),
  (⟨[.ofList [("type", "text"), ("name", "age")], .ofList [],
      .ofList [("type", "integer"), ("name", "age")]], [], none⟩,
    ⟨.duplicateName "age", some (.ofRow "survey" 4 (some "age"))⟩),
  (⟨[.ofList [], .ofList [("type", "begin group"), ("name", "g")],
      .ofList [("type", "text"), ("name", "age")]], [], none⟩,
    ⟨.unterminated "g" "group", some (.ofRow "survey" 3 (some "g"))⟩),
  (⟨[.ofList [], .ofList [("type", "integer"), ("name", "age"), ("constraint", ". >")]], [], none⟩,
    ⟨.expressionSyntax "unexpected end of input" ". >" 4,
      some (.ofRow "survey" 3 (some "age"))⟩),
  (⟨[.ofList [("type", "begin group"), ("name", "g"), ("relevant", "$\x7bage\x7d > 5")], .ofList [],
      .ofList [("type", "end group")]], [], none⟩,
    ⟨.unresolvedReference "age" "$\x7bage\x7d > 5", some (.ofRow "survey" 2 (some "g"))⟩),
  (⟨[.ofList [("type", "text"), ("name", "age")], .ofList [],
      .ofList [("type", "select_one color"), ("name", "favourite")]], [], none⟩,
    ⟨.danglingChoiceList "favourite" "color", some (.ofRow "survey" 4 (some "favourite"))⟩)]

theorem read_failure_isRowOf_refused :
    refused.Forall fun sample =>
      sample.1.read {} = .error sample.2 ∧
        ∃ place ∈ sample.2.place,
          place.sheet ∈ [some "survey", some "choices", some "settings"] ∧
            place.IsRowOf sample.1 := by
  have hall : ∀ sample ∈ refused, failure? (sample.1.read {}) = some sample.2 := by
    decide +kernel
  rw [List.forall_iff_forall_mem]
  intro sample hsample
  have hread := failure?_eq_some_iff.1 (hall sample hsample)
  exact ⟨hread, read_failure_isRowOf hread⟩

end Workbook

end Questionnaire
