import Questionnaire.Proofs.Sheet.CellOrder
import Questionnaire.Proofs.Sheet.Reading

/-!
This module contains what becomes of columns that mean nothing when they are not refused. They have
no effect, except that a row with nothing else in it is not taken for a blank row.
-/

namespace Questionnaire

def Options.strict (options : Options) : Options :=
  { options with strictColumns := true }

def SurveyColumn.isKnown (heading : String) : Bool :=
  (headings.lookup (Column.ofHeading heading).base).isSome

def SettingsRow.columns : List String :=
  ["form_title", "form_id", "version", "default_language", "submission_url", "name"]

def Row.known (row : Row) : Row :=
  row.filterKeys SurveyColumn.isKnown

def Workbook.known (workbook : Workbook) : Workbook where
  survey := workbook.survey.map Row.known
  choices := workbook.choices
  settings := workbook.settings.map (OrderedMap.filterKeys SettingsRow.columns.contains)

namespace Row

/--
Whether a row of the survey sheet is not blank, but has nothing in the known columns.
-/
def IsForeign (row : Row) : Prop :=
  row.isBlank = false ∧ row.known.isBlank = true

instance (row : Row) : Decidable row.IsForeign :=
  inferInstanceAs (Decidable (_ ∧ _))

theorem cells_filterKeys (p : String → Bool) (row : Row) :
    cells (row.filterKeys p) = row.cells.filter fun cell => p cell.1 := by
  unfold cells OrderedMap.filterKeys
  rw [List.filter_filter, List.filter_filter]
  simp only [Bool.and_comm]

theorem cell?_known {column : String} (h : SurveyColumn.isKnown column = true) (row : Row) :
    row.known.cell? column = row.cell? column := by
  unfold cell? known
  rw [OrderedMap.get?_filterKeys h]

theorem cell?_of_isBlank {row : Row} (h : row.isBlank = true) (column : String) :
    row.cell? column = none := by
  rw [Option.eq_none_iff_forall_ne_some]
  intro value hvalue
  obtain ⟨hget, hshown⟩ := Option.filter_eq_some_iff.1 hvalue
  have hcell : (column, value) ∈ row.cells :=
    List.mem_filter.2 ⟨OrderedMap.get?_eq_some_iff.1 hget, hshown⟩
  unfold isBlank at h
  rw [List.isEmpty_iff.1 h] at hcell
  cases hcell

theorem isBlank_known {row : Row} (h : ¬row.IsForeign) : row.known.isBlank = row.isBlank := by
  cases hblank : row.isBlank with
  | true =>
    unfold isBlank at hblank ⊢
    unfold known
    rw [cells_filterKeys, List.isEmpty_iff.1 hblank]
    rfl
  | false => exact Bool.eq_false_iff.2 fun hknown => h ⟨hblank, hknown⟩

end Row

section Rows

variable {options : Options}

theorem SurveyRow.setCells_known (h : options.strictColumns = false) (row : SurveyRow)
    (cells : List (String × String)) :
    setCells options row cells =
      setCells options.strict row (cells.filter fun cell => SurveyColumn.isKnown cell.1) := by
  rw [setCells_eq_foldlM, setCells_eq_foldlM]
  apply foldlM_eq_filter
  · rintro row ⟨heading, value⟩ hknown
    obtain ⟨kind, hkind⟩ := Option.isSome_iff_exists.1 hknown
    simp only [setCells, hkind]
  · rintro row ⟨heading, value⟩ hunknown
    have hkind := Option.isNone_iff_eq_none.1 (Option.isSome_eq_false_iff.1 hunknown)
    simp only [setCells, hkind, h, Bool.false_eq_true, if_false]

theorem SurveyRow.parse_known (h : options.strictColumns = false) (line : Nat) (row : Row) :
    parse options line row = parse options.strict line row.known := by
  have htype : SurveyColumn.isKnown "type" = true := by decide +kernel
  have hname : SurveyColumn.isKnown "name" = true := by decide +kernel
  have hcells : row.known.cells = row.cells.filter fun cell => SurveyColumn.isKnown cell.1 :=
    Row.cells_filterKeys _ row
  unfold parse
  dsimp only
  rw [Row.cell?_known htype, Row.cell?_known hname, hcells]
  simp only [setCells_known h]

theorem SurveyRow.parse_of_isBlank (line : Nat) {row : Row} (h : row.isBlank = true) :
    parse options line row = .error (RowFault.missingType.failure (.ofRow "survey" line none)) := by
  unfold parse
  rw [Row.cell?_of_isBlank h, Row.cell?_of_isBlank h]
  rfl

theorem SettingsRow.setCells_known (h : options.strictColumns = false) (row : SettingsRow)
    (cells : List (String × String)) :
    cells.foldlM (fun row (column, value) => setCell options row column value) row =
      (cells.filter fun cell => columns.contains cell.1).foldlM
        (fun row (column, value) => setCell options.strict row column value) row := by
  apply foldlM_eq_filter
  · rintro row ⟨column, value⟩ hknown
    unfold columns at hknown
    unfold setCell
    dsimp only at hknown ⊢
    split
    case h_7 => simp_all
    all_goals rfl
  · rintro row ⟨column, value⟩ hunknown
    unfold setCell
    dsimp only at hunknown ⊢
    split
    case h_7 =>
      rw [h]
      rfl
    all_goals cases hunknown

theorem SettingsRow.parse_known (h : options.strictColumns = false) (row : Option Row) :
    parse options row =
      parse options.strict (row.map (OrderedMap.filterKeys SettingsRow.columns.contains)) := by
  cases row with
  | none => rfl
  | some row =>
    unfold parse
    dsimp only [Option.map_some]
    rw [Row.cells_filterKeys, setCells_known h]

end Rows

namespace Workbook

variable {workbook : Workbook} {options : Options} {front back : List Row} {row : Row}

theorem numbered_map {rows : List Row} {f : Row → Row}
    (h : ∀ row ∈ rows, (f row).isBlank = row.isBlank) :
    numbered (rows.map f) = (numbered rows).map fun line => (line.1, f line.2) := by
  unfold numbered
  rw [List.zipIdx_map, List.map_map, List.filter_map, List.filter_map, List.map_map]
  have hblank : ∀ entry ∈ rows.zipIdx, (!(f entry.1).isBlank) = !entry.1.isBlank := by
    intro entry hentry
    rw [h _ (List.mem_of_getElem? (List.mem_zipIdx_iff_getElem?.1 hentry))]
  exact congrArg _ (List.filter_congr hblank)

theorem exists_numbered_append (front back : List Row) :
    ∃ lines, numbered (front ++ back) = numbered front ++ lines := by
  unfold numbered
  rw [List.zipIdx_append, List.map_append, List.filter_append]
  exact ⟨_, rfl⟩

theorem exists_numbered_append_cons (hrow : row.isBlank = false) (front back : List Row) :
    ∃ lines, numbered (front ++ row :: back) =
      numbered front ++ (lineOf front.length, row) :: lines := by
  unfold numbered
  rw [List.zipIdx_append, List.map_append, List.filter_append, List.zipIdx_cons, List.map_cons,
    List.filter_cons, if_pos (by simp [hrow]), Nat.zero_add]
  exact ⟨_, rfl⟩

theorem outlineRows_known (h : options.strictColumns = false)
    (hrows : ∀ row ∈ front, ¬row.IsForeign) (root : String) :
    outlineRows options root (numbered front) =
      outlineRows options.strict root (numbered (front.map Row.known)) := by
  rw [numbered_map fun row hrow => Row.isBlank_known (hrows row hrow)]
  unfold outlineRows
  rw [List.foldlM_map]
  simp only [SurveyRow.parse_known h]

theorem outlineRows_append (options : Options) (root : String) (lines lines' : List (Nat × Row)) :
    outlineRows options root (lines ++ lines') =
      outlineRows options root lines >>= lines'.foldlM (takeRow options) :=
  List.foldlM_append

theorem outlineRows_of_isForeign (h : options.strictColumns = false)
    (hfront : ∀ row ∈ front, ¬row.IsForeign) (hrow : row.IsForeign) (back : List Row)
    (root : String) :
    (∃ failure, outlineRows options root (numbered (front ++ row :: back)) = .error failure ∧
      outlineRows options.strict root (numbered ((front ++ row :: back).map Row.known)) =
        .error failure) ∨
    outlineRows options root (numbered (front ++ row :: back)) =
      .error (RowFault.missingType.failure (.ofRow "survey" (lineOf front.length) none)) := by
  obtain ⟨lines, hlines⟩ := exists_numbered_append_cons hrow.1 front back
  obtain ⟨lines', hlines'⟩ :=
    exists_numbered_append (front.map Row.known) ((row :: back).map Row.known)
  rw [List.map_append, hlines, hlines', outlineRows_append, outlineRows_append,
    ← outlineRows_known h hfront]
  cases outlineRows options root (numbered front) with
  | error failure => exact Or.inl ⟨failure, rfl, rfl⟩
  | ok outline =>
    right
    rw [ok_bind, List.foldlM_cons]
    unfold takeRow
    rw [SurveyRow.parse_known h, SurveyRow.parse_of_isBlank _ hrow.2]
    rfl

theorem read_lenient (h : options.strictColumns = false) :
    ((∀ row ∈ workbook.survey, ¬row.IsForeign) →
      workbook.read options = workbook.known.read options.strict) ∧
    ∀ front row back, workbook.survey = front ++ row :: back →
      (∀ row' ∈ front, ¬row'.IsForeign) → row.IsForeign →
        (∃ failure, workbook.read options = .error failure ∧
          workbook.known.read options.strict = .error failure) ∨
        workbook.read options =
          .error (RowFault.missingType.failure (.ofRow "survey" (lineOf front.length) none)) := by
  have hsettings : SettingsRow.parse options.strict workbook.known.settings =
      SettingsRow.parse options workbook.settings :=
    (SettingsRow.parse_known h workbook.settings).symm
  constructor
  · intro hrows
    unfold read
    rw [hsettings]
    simp only [outlineRows_known h hrows]
    rfl
  · intro front row back hsurvey hfront hrow
    unfold read
    rw [hsettings]
    cases SettingsRow.parse options workbook.settings with
    | error failure => exact Or.inl ⟨failure, rfl, rfl⟩
    | ok settings =>
      have hchoices : workbook.known.choices = workbook.choices := rfl
      rw [ok_bind, ok_bind, hchoices]
      cases groupChoices (numbered workbook.choices) with
      | error failure => exact Or.inl ⟨failure, rfl, rfl⟩
      | ok groups =>
        rw [ok_bind, ok_bind]
        have hknown : workbook.known.survey = (front ++ row :: back).map Row.known := by
          rw [← hsurvey]
          rfl
        rw [hknown, hsurvey]
        have hroot : options.strict.rootName = options.rootName := rfl
        rw [hroot]
        rcases outlineRows_of_isForeign h hfront hrow back
            (settings.rootName.getD options.rootName) with ⟨failure, hfails, hfails'⟩ | hfails
        · rw [hfails, hfails']
          exact Or.inl ⟨failure, rfl, rfl⟩
        · right
          rw [hfails]
          rfl

def annotated : Workbook where
  survey := [.ofList [("type", "text"), ("name", "visitor"), ("media::image", "visitor.png")]]
  choices := []
  settings := some (.ofList [("form_title", "Visits"), ("style", "pages")])

def commented : Workbook :=
  { annotated with survey := annotated.survey ++ [.ofList [("comment", "Ask for a document.")]] }

theorem exists_read_known_commented :
    ∃ reading, commented.known.read Options.lenient.strict = .ok reading := by
  have hall : (commented.known.read Options.lenient.strict).toOption.any fun _ => true := by
    decide +kernel
  obtain ⟨reading, hread, -⟩ := exists_eq_ok_of_any hall
  exact ⟨reading, hread⟩

theorem read_lenient_annotated :
    Options.lenient.strictColumns = false ∧
      (∀ row ∈ annotated.survey, ¬row.IsForeign) ∧
      annotated.read .lenient = annotated.known.read Options.lenient.strict ∧
      (∃ row ∈ commented.survey, row.IsForeign) ∧
      commented.read .lenient =
        .error (RowFault.missingType.failure (.ofRow "survey" (lineOf 1) none)) := by
  have hforeign : Row.IsForeign (.ofList [("comment", "Ask for a document.")]) := by
    decide +kernel
  have hfront : ∀ row ∈ annotated.survey, ¬row.IsForeign := by
    decide +kernel
  have hlenient : Options.lenient.strictColumns = false := rfl
  refine ⟨hlenient, hfront, (read_lenient hlenient).1 hfront,
    ⟨_, List.mem_append_right _ List.mem_cons_self, hforeign⟩, ?_⟩
  refine ((read_lenient hlenient).2 annotated.survey _ [] rfl hfront hforeign).resolve_left ?_
  rintro ⟨failure, -, hfailure⟩
  obtain ⟨reading, hread⟩ := exists_read_known_commented
  have hsame := hread.symm.trans hfailure
  cases hsame

theorem read_lenient_refuses_comment :
    commented.read .lenient =
        .error (RowFault.missingType.failure (.ofRow "survey" (lineOf 1) none)) ∧
      ∃ reading, commented.known.read Options.lenient.strict = .ok reading := by
  refine ⟨failure?_eq_some_iff.1 ?_, exists_read_known_commented⟩
  decide +kernel

end Workbook

end Questionnaire
