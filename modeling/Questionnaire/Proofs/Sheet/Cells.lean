import Questionnaire.Proofs.Sheet.Rows
import Questionnaire.Sheet.Writing

/-!
This module contains the reading of written rows: a row of the survey sheet is read back from the
cells that its fields are written to.
-/

namespace Questionnaire

namespace Column

theorem splitDoubleColon_eq_none {cs : List Char} (h : ':' ∉ cs) : splitDoubleColon cs = none := by
  induction cs with
  | nil => rfl
  | cons c cs ih =>
    rw [List.mem_cons, not_or] at h
    have hc : c ≠ ':' := fun hc => h.1 hc.symm
    simp [splitDoubleColon, hc, ih h.2]

theorem splitDoubleColon_append {base : List Char} (h : ':' ∉ base) (rest : List Char) :
    splitDoubleColon (base ++ ':' :: ':' :: rest) = some (base, rest) := by
  induction base with
  | nil => rfl
  | cons c base ih =>
    rw [List.mem_cons, not_or] at h
    have hc : c ≠ ':' := fun hc => h.1 hc.symm
    simp [splitDoubleColon, hc, ih h.2]

theorem ofHeading_heading {column : Column} (hcolon : ':' ∉ column.base.toList)
    (hbase : Text.trim column.base = column.base)
    (hlanguage : ∀ language ∈ column.language, Text.trim language = language) :
    ofHeading column.heading = column := by
  obtain ⟨base, language⟩ := column
  cases language with
  | none =>
    unfold ofHeading heading
    dsimp only
    rw [splitDoubleColon_eq_none hcolon]
    dsimp only
    rw [hbase]
  | some language =>
    have hheading : (base ++ "::" ++ language).toList =
        base.toList ++ ':' :: ':' :: language.toList := by simp
    unfold ofHeading heading
    dsimp only
    rw [hheading, splitDoubleColon_append hcolon]
    dsimp only
    rw [String.ofList_toList, String.ofList_toList, hbase, hlanguage language rfl]

end Column

structure IsSegment (base : String) (cells : List (String × String)) : Prop where
  base_eq : ∀ cell ∈ cells, (Column.ofHeading cell.1).base = base
  nodup : (cells.map Prod.fst).Nodup
  isBlankText_eq : ∀ cell ∈ cells, Text.isBlankText cell.2 = false

/--
Whether cells make a row without loss: they stand in different columns, and none of them is blank.
-/
structure IsRow (cells : List (String × String)) : Prop where
  nodup : (cells.map Prod.fst).Nodup
  isBlankText_eq : ∀ cell ∈ cells, Text.isBlankText cell.2 = false

namespace Row

theorem cells_ofList {cells : List (String × String)} (h : IsRow cells) :
    Row.cells (OrderedMap.ofList cells) = cells := by
  unfold Row.cells
  rw [OrderedMap.entries_ofList h.nodup, List.filter_eq_self]
  intro cell hcell
  simpa using h.isBlankText_eq cell hcell

theorem cell?_ofList {cells : List (String × String)} (h : IsRow cells) {column value : String}
    (hcell : (column, value) ∈ cells) :
    Row.cell? (OrderedMap.ofList cells) column = some value := by
  have hget : (OrderedMap.ofList cells).get? column = some value := by
    rw [OrderedMap.get?_eq_some_iff, OrderedMap.entries_ofList h.nodup]
    exact hcell
  unfold Row.cell?
  rw [hget, Option.filter_some, h.isBlankText_eq _ hcell]
  rfl

theorem isBlank_ofList {cells : List (String × String)} (h : IsRow cells) (hne : cells ≠ []) :
    Row.isBlank (OrderedMap.ofList cells) = false := by
  unfold Row.isBlank
  rw [cells_ofList h]
  simpa using hne

end Row

theorem isRow_flatMap {segments : List (String × List (String × String))}
    (hbases : (segments.map Prod.fst).Nodup)
    (h : ∀ segment ∈ segments, IsSegment segment.1 segment.2) :
    IsRow (segments.flatMap Prod.snd) := by
  constructor
  · induction segments with
    | nil => simp
    | cons segment segments ih =>
      rw [List.map_cons, List.nodup_cons] at hbases
      have htail := fun segment hsegment => h segment (List.mem_cons_of_mem _ hsegment)
      have hsegment := h segment List.mem_cons_self
      rw [List.flatMap_cons, List.map_append, List.nodup_append]
      refine ⟨hsegment.nodup, ih hbases.2 htail, ?_⟩
      rintro heading hheading heading' hheading' rfl
      -- One heading cannot name two fields.
      obtain ⟨cell, hcell, rfl⟩ := List.mem_map.1 hheading
      obtain ⟨cell', hcell', heq⟩ := List.mem_map.1 hheading'
      obtain ⟨segment', hsegment', hcell'⟩ := List.mem_flatMap.1 hcell'
      apply hbases.1
      refine List.mem_map.2 ⟨segment', hsegment', ?_⟩
      rw [← (htail segment' hsegment').base_eq cell' hcell', heq, hsegment.base_eq cell hcell]
  · intro cell hcell
    obtain ⟨segment, hsegment, hcell⟩ := List.mem_flatMap.1 hcell
    exact (h segment hsegment).isBlankText_eq cell hcell

structure Column.IsBase (base : String) : Prop where
  colon_notMem : ':' ∉ base.toList
  trim_eq : Text.trim base = base

theorem Column.IsBase.ofHeading_eq {base : String} (h : IsBase base) :
    Column.ofHeading base = ⟨base, none⟩ := by
  have hheading : ofHeading (heading ⟨base, none⟩) = ⟨base, none⟩ :=
    ofHeading_heading h.colon_notMem h.trim_eq (by simp)
  rw [show heading ⟨base, none⟩ = base from rfl] at hheading
  exact hheading

namespace Survey

theorem ofHeading_textColumn {base language : String} (hbase : Column.IsBase base)
    (hlanguage : Text.trim language = language) :
    Column.ofHeading (textColumn base language).heading = textColumn base language := by
  apply Column.ofHeading_heading
  · exact hbase.colon_notMem
  · exact hbase.trim_eq
  · intro language' hlanguage'
    unfold textColumn at hlanguage'
    dsimp only at hlanguage'
    split at hlanguage'
    · cases hlanguage'
    · cases hlanguage'
      exact hlanguage

theorem getD_language_textColumn (base language : String) :
    (textColumn base language).language.getD defaultLanguage = language := by
  unfold textColumn
  dsimp only
  split
  · next h =>
    rw [h]
    rfl
  · rfl

theorem isSegment_textCells {base : String} {text : Localized} (hbase : Column.IsBase base)
    (htext : text.IsTidy) : IsSegment base (textCells base text) := by
  have hlanguage : ∀ entry ∈ text.entries, Text.trim entry.1 = entry.1 := by
    intro entry hentry
    exact htext.language_eq _ (List.mem_map.2 ⟨entry, hentry, rfl⟩)
  unfold textCells
  constructor
  · intro cell hcell
    obtain ⟨entry, hentry, rfl⟩ := List.mem_map.1 hcell
    dsimp only
    rw [ofHeading_textColumn hbase (hlanguage entry hentry)]
    rfl
  · rw [List.map_map]
    apply List.Nodup.of_map fun heading =>
      (Column.ofHeading heading).language.getD defaultLanguage
    rw [List.map_map]
    -- Two languages have two headings, since the language can be read back from its heading.
    have hmap : text.entries.map ((fun heading =>
          (Column.ofHeading heading).language.getD defaultLanguage) ∘
        (Prod.fst ∘ fun entry => ((textColumn base entry.1).heading, entry.2))) =
          text.languages := by
      apply List.map_congr_left
      intro entry hentry
      dsimp only [Function.comp_apply]
      rw [ofHeading_textColumn hbase (hlanguage entry hentry), getD_language_textColumn]
    rw [hmap]
    exact text.nodup_languages
  · intro cell hcell
    obtain ⟨entry, hentry, rfl⟩ := List.mem_map.1 hcell
    exact (htext.value_isTidy entry hentry).isBlankText_eq_false

theorem puts_textCells (puts : Localized → List (String × String) → Localized → Prop)
    {base : String} (hbase : Column.IsBase base) {text : Localized} (htext : text.IsTidy)
    (hnil : ∀ text, puts text [] text)
    (hcons : ∀ heading language value cells start text,
      Column.ofHeading heading = textColumn base language →
        puts (start.insert language (Text.trim value)) cells text →
          puts start ((heading, value) :: cells) text) :
    puts .empty (textCells base text) text := by
  -- The run starts with any text, for it goes on behind the cells of other languages.
  have hrun : ∀ (entries : List (String × String)) (start : Localized),
      (∀ entry ∈ entries, Text.trim entry.1 = entry.1 ∧ Text.trim entry.2 = entry.2) →
        puts start (entries.map fun entry => ((textColumn base entry.1).heading, entry.2))
          (start.insertAll entries) := by
    intro entries
    induction entries with
    | nil => exact fun start _ => hnil start
    | cons entry entries ih =>
      intro start hentries
      obtain ⟨language, value⟩ := entry
      obtain ⟨hlanguage, hvalue⟩ := hentries _ List.mem_cons_self
      apply hcons _ language _ _ _ _ (ofHeading_textColumn hbase hlanguage)
      rw [hvalue]
      exact ih _ fun entry hentry => hentries entry (List.mem_cons_of_mem _ hentry)
  have hentries := hrun text.entries .empty (by
    intro entry hentry
    exact ⟨htext.language_eq _ (List.mem_map.2 ⟨entry, hentry, rfl⟩),
      (htext.value_isTidy entry hentry).trim_eq⟩)
  rw [show Localized.empty.insertAll text.entries = text from Localized.ofList_entries text]
    at hentries
  exact hentries

theorem isSegment_singleton {base value : String} (hbase : Column.IsBase base)
    (hvalue : Text.isBlankText value = false) : IsSegment base [(base, value)] where
  base_eq := by
    intro cell hcell
    cases List.mem_singleton.1 hcell
    rw [hbase.ofHeading_eq]
  nodup := by simp
  isBlankText_eq := by
    intro cell hcell
    cases List.mem_singleton.1 hcell
    exact hvalue

theorem isSegment_nil (base : String) : IsSegment base [] :=
  ⟨by simp, by simp, by simp⟩

theorem isSegment_optionCell {base : String} {value : Option String} (hbase : Column.IsBase base)
    (hvalue : ∀ text ∈ value, Text.IsTidy text) : IsSegment base (optionCell base value) := by
  cases value with
  | none => exact isSegment_nil base
  | some value => exact isSegment_singleton hbase (hvalue value rfl).isBlankText_eq_false

end Survey

namespace SurveyColumn

theorem isBase_of_mem_headings {entry : String × SurveyColumn} (h : entry ∈ headings) :
    Column.IsBase entry.1 := by
  have hall : ∀ entry ∈ headings, ':' ∉ entry.1.toList ∧ Text.trim entry.1 = entry.1 := by
    decide +kernel
  exact ⟨(hall entry h).1, (hall entry h).2⟩

theorem nodup_headings : (headings.map Prod.fst).Nodup := by
  decide

end SurveyColumn

namespace SurveyRow

variable {options : Options} {row : SurveyRow}

theorem setCells_append (options : Options) (row : SurveyRow)
    (cells cells' : List (String × String)) :
    setCells options row (cells ++ cells') =
      setCells options row cells >>= (setCells options · cells') := by
  induction cells generalizing row with
  | nil => rfl
  | cons cell cells ih =>
    obtain ⟨heading, value⟩ := cell
    rw [List.cons_append, setCells, setCells]
    split
    · split
      · rfl
      · exact ih row
    · split
      · rfl
      · rw [bind_assoc]
        congr 1
        funext next
        exact ih next

theorem setCells_append_of_ok {row' : SurveyRow} {cells cells' : List (String × String)}
    (h : setCells options row cells = .ok row') :
    setCells options row (cells ++ cells') = setCells options row' cells' := by
  rw [setCells_append, h, ok_bind]

theorem setCells_cons {heading value : String} {column : Column} {kind : SurveyColumn}
    {cells : List (String × String)} (hcolumn : Column.ofHeading heading = column)
    (hkind : SurveyColumn.headings.lookup column.base = some kind)
    (hlanguage : column.language = none ∨ kind.isTranslatable = true) :
    setCells options row ((heading, value) :: cells) =
      setCell row kind (column.language.getD defaultLanguage) value >>=
        (setCells options · cells) := by
  rw [setCells, hcolumn, hkind]
  have hallowed : (column.language.isSome && !kind.isTranslatable) = false := by
    rcases hlanguage with h | h <;> simp [h]
  dsimp only
  rw [if_neg (by simp [hallowed])]

theorem setCells_singleton {base value : String} (kind : SurveyColumn)
    (hkind : (base, kind) ∈ SurveyColumn.headings) :
    setCells options row [(base, value)] = setCell row kind defaultLanguage value := by
  have hlookup := OrderedMap.lookup_eq_some_of_mem SurveyColumn.nodup_headings hkind
  have hbase := SurveyColumn.isBase_of_mem_headings hkind
  rw [setCells_cons hbase.ofHeading_eq hlookup (Or.inl rfl)]
  exact bind_pure _

theorem setCells_textCells {base : String} (kind : SurveyColumn) (put : Localized → SurveyRow)
    (hstart : put .empty = row) (hkind : (base, kind) ∈ SurveyColumn.headings)
    (htranslatable : kind.isTranslatable = true)
    (hput : ∀ text language value, setCell (put text) kind language value =
      .ok (put (text.insert language (Text.trim value))))
    {text : Localized} (htext : text.IsTidy) :
    setCells options row (Survey.textCells base text) = .ok (put text) := by
  have hlookup := OrderedMap.lookup_eq_some_of_mem SurveyColumn.nodup_headings hkind
  have hbase := SurveyColumn.isBase_of_mem_headings hkind
  rw [← hstart]
  apply Survey.puts_textCells (fun start cells text =>
    setCells options (put start) cells = .ok (put text)) hbase htext
  · exact fun _ => rfl
  · intro heading language value cells start text hcolumn hcells
    rw [setCells_cons hcolumn hlookup (Or.inr htranslatable), Survey.getD_language_textColumn,
      hput, ok_bind, hcells]

theorem setCells_optionCell {base : String} (kind : SurveyColumn)
    (put : Option String → SurveyRow) (hstart : put none = row)
    (hkind : (base, kind) ∈ SurveyColumn.headings)
    {value : Option String} (hvalue : ∀ text ∈ value, Text.IsTidy text)
    (hput : ∀ text ∈ value, setCell row kind defaultLanguage text =
      .ok (put (some (Text.trim text)))) :
    setCells options row (Survey.optionCell base value) = .ok (put value) := by
  cases value with
  | none => exact congrArg Except.ok hstart.symm
  | some text =>
    rw [show Survey.optionCell base (some text) = [(base, text)] from rfl,
      setCells_singleton kind hkind, hput text rfl, (hvalue text rfl).trim_eq]

section Fields

variable {text : Localized} {value : Option String}

theorem setCells_name (hvalue : ∀ name ∈ value, Text.isName name = true) (hrow : row.name = none) :
    setCells options row (Survey.optionCell "name" value) = .ok { row with name := value } := by
  apply setCells_optionCell .name fun name => { row with name }
  · rw [← hrow]
  · decide
  · intro name hname
    exact Text.isTidy_of_isName (hvalue name hname)
  · intro name hname
    have hvalid := hvalue name hname
    rw [setCell, (Text.isTidy_of_isName hvalid).trim_eq, if_pos hvalid]

theorem setCells_label (htext : text.IsTidy) (hrow : row.label = .empty) :
    setCells options row (Survey.textCells "label" text) = .ok { row with label := text } :=
  setCells_textCells .label (fun label => { row with label }) (by rw [← hrow]) (by decide) rfl
    (fun _ _ _ => rfl) htext

theorem setCells_hint (htext : text.IsTidy) (hrow : row.hint = .empty) :
    setCells options row (Survey.textCells "hint" text) = .ok { row with hint := text } :=
  setCells_textCells .hint (fun hint => { row with hint }) (by rw [← hrow]) (by decide) rfl
    (fun _ _ _ => rfl) htext

theorem setCells_required (required : Bool) (hrow : row.required = false) :
    setCells options row (if required then [("required", "yes")] else []) =
      .ok { row with required } := by
  cases required with
  | false =>
    have hkept : { row with required := false } = row := by rw [← hrow]
    rw [hkept]
    rfl
  | true => exact (setCells_singleton .required (by decide)).trans rfl

theorem setCells_relevant (hvalue : ∀ text ∈ value, Text.IsTidy text) (hrow : row.relevant = none) :
    setCells options row (Survey.optionCell "relevant" value) =
      .ok { row with relevant := value } :=
  setCells_optionCell .relevant (fun relevant => { row with relevant }) (by rw [← hrow])
    (by decide) hvalue fun _ _ => rfl

theorem setCells_constraint (hvalue : ∀ text ∈ value, Text.IsTidy text)
    (hrow : row.constraint = none) :
    setCells options row (Survey.optionCell "constraint" value) =
      .ok { row with constraint := value } :=
  setCells_optionCell .constraint (fun constraint => { row with constraint }) (by rw [← hrow])
    (by decide) hvalue fun _ _ => rfl

theorem setCells_constraintMessage (htext : text.IsTidy) (hrow : row.constraintMessage = .empty) :
    setCells options row (Survey.textCells "constraint_message" text) =
      .ok { row with constraintMessage := text } :=
  setCells_textCells .constraintMessage (fun constraintMessage => { row with constraintMessage })
    (by rw [← hrow]) (by decide) rfl (fun _ _ _ => rfl) htext

theorem setCells_calculation (hvalue : ∀ text ∈ value, Text.IsTidy text)
    (hrow : row.calculation = none) :
    setCells options row (Survey.optionCell "calculation" value) =
      .ok { row with calculation := value } :=
  setCells_optionCell .calculation (fun calculation => { row with calculation }) (by rw [← hrow])
    (by decide) hvalue fun _ _ => rfl

theorem setCells_default (hvalue : ∀ text ∈ value, Text.IsTidy text) (hrow : row.default = none) :
    setCells options row (Survey.optionCell "default" value) = .ok { row with default := value } :=
  setCells_optionCell .default (fun default => { row with default }) (by rw [← hrow])
    (by decide) hvalue fun _ _ => rfl

theorem setCells_appearance (hvalue : ∀ text ∈ value, Text.IsTidy text)
    (hrow : row.appearance = none) :
    setCells options row (Survey.optionCell "appearance" value) =
      .ok { row with appearance := value } :=
  setCells_optionCell .appearance (fun appearance => { row with appearance }) (by rw [← hrow])
    (by decide) hvalue fun _ _ => rfl

end Fields

def segments (row : SurveyRow) (type : String) : List (String × List (String × String)) := [
  ("type", [("type", type)]),
  ("name", Survey.optionCell "name" row.name),
  ("label", Survey.textCells "label" row.label),
  ("hint", Survey.textCells "hint" row.hint),
  ("required", if row.required then [("required", "yes")] else []),
  ("relevant", Survey.optionCell "relevant" row.relevant),
  ("constraint", Survey.optionCell "constraint" row.constraint),
  ("constraint_message", Survey.textCells "constraint_message" row.constraintMessage),
  ("calculation", Survey.optionCell "calculation" row.calculation),
  ("default", Survey.optionCell "default" row.default),
  ("appearance", Survey.optionCell "appearance" row.appearance)]

def cells (row : SurveyRow) (type : String) : List (String × String) :=
  (row.segments type).flatMap Prod.snd

theorem isRow_cells (hrow : row.IsTidy) {type : String} (htype : Text.isBlankText type = false) :
    IsRow (row.cells type) := by
  have hbase : ∀ base kind, (base, kind) ∈ SurveyColumn.headings → Column.IsBase base :=
    fun base kind hkind => SurveyColumn.isBase_of_mem_headings hkind
  have hname : ∀ name ∈ row.name, Text.IsTidy name := fun name hname =>
    Text.isTidy_of_isName (hrow.name name hname)
  have hrequired : IsSegment "required" (if row.required then [("required", "yes")] else []) := by
    split
    · exact Survey.isSegment_singleton (hbase "required" .required (by decide)) (by decide)
    · exact Survey.isSegment_nil _
  apply isRow_flatMap
  · exact SurveyColumn.nodup_headings
  · unfold segments
    rw [List.forall_mem_cons, List.forall_mem_cons, List.forall_mem_cons, List.forall_mem_cons,
      List.forall_mem_cons, List.forall_mem_cons, List.forall_mem_cons, List.forall_mem_cons,
      List.forall_mem_cons, List.forall_mem_cons, List.forall_mem_cons]
    refine ⟨?_, ?_, ?_, ?_, hrequired, ?_, ?_, ?_, ?_, ?_, ?_, by simp⟩
    · exact Survey.isSegment_singleton (hbase "type" .type (by decide)) htype
    · exact Survey.isSegment_optionCell (hbase "name" .name (by decide)) hname
    · exact Survey.isSegment_textCells (hbase "label" .label (by decide)) hrow.label
    · exact Survey.isSegment_textCells (hbase "hint" .hint (by decide)) hrow.hint
    · exact Survey.isSegment_optionCell (hbase "relevant" .relevant (by decide)) hrow.relevant
    · exact Survey.isSegment_optionCell (hbase "constraint" .constraint (by decide)) hrow.constraint
    · exact Survey.isSegment_textCells (hbase "constraint_message" .constraintMessage (by decide))
        hrow.constraintMessage
    · exact Survey.isSegment_optionCell (hbase "calculation" .calculation (by decide)) hrow.calculation
    · exact Survey.isSegment_optionCell (hbase "default" .default (by decide)) hrow.default
    · exact Survey.isSegment_optionCell (hbase "appearance" .appearance (by decide)) hrow.appearance

theorem setCells_cells (options : Options) (hrow : row.IsTidy) {type : String} :
    setCells options { type := row.type } (row.cells type) = .ok row := by
  have htype : setCells options { type := row.type } [("type", type)] = .ok { type := row.type } :=
    setCells_singleton .type (by decide)
  unfold cells segments
  simp only [List.flatMap_cons, List.flatMap_nil]
  -- The cells fill the fields in the order of the columns, each on top of those in front of it.
  rw [setCells_append_of_ok htype, setCells_append_of_ok (setCells_name hrow.name rfl),
    setCells_append_of_ok (setCells_label hrow.label rfl),
    setCells_append_of_ok (setCells_hint hrow.hint rfl),
    setCells_append_of_ok (setCells_required row.required rfl),
    setCells_append_of_ok (setCells_relevant hrow.relevant rfl),
    setCells_append_of_ok (setCells_constraint hrow.constraint rfl),
    setCells_append_of_ok (setCells_constraintMessage hrow.constraintMessage rfl),
    setCells_append_of_ok (setCells_calculation hrow.calculation rfl),
    setCells_append_of_ok (setCells_default hrow.default rfl),
    setCells_append_of_ok (setCells_appearance hrow.appearance rfl)]
  rfl

theorem parse_ofList_cells (options : Options) (line : Nat) (hrow : row.IsTidy) {type : String}
    (htype : Text.isBlankText type = false) (hparse : TypeCell.parse type = .ok row.type) :
    parse options line (OrderedMap.ofList (row.cells type)) = .ok row := by
  have hcells := isRow_cells hrow htype
  have hcell : Row.cell? (OrderedMap.ofList (row.cells type)) "type" = some type :=
    Row.cell?_ofList hcells (List.mem_append_left _ List.mem_cons_self)
  unfold parse
  dsimp only
  rw [hcell]
  dsimp only
  rw [placing_eq_ok_iff.2 hparse, ok_bind, Row.cells_ofList hcells, setCells_cells options hrow]

theorem cells_ne_nil (row : SurveyRow) (type : String) : row.cells type ≠ [] := by
  simp [cells, segments]

end SurveyRow

end Questionnaire
