import Questionnaire.Proofs.Sheet.Flattening

/-!
This module contains which rows an outline takes and what it makes of them: it takes exactly the
well-formed sequences, and the hierarchy that it builds holds the rows again, in order.
-/

namespace Questionnaire

def SurveyRow.recorded (row : SurveyRow) : SurveyRow :=
  match row.type with
  | .opening kind =>
    { type := .opening kind, name := row.name, label := row.label, hint := row.hint
      relevant := row.relevant, appearance := row.appearance }
  | .closing kind => { type := .closing kind }
  | .question _ _ => row

namespace Draft

mutual

def rows : Draft → List SurveyRow
  | question _ _ asked texts => [Survey.rowOf asked texts]
  | block kind _ _ header relevant drafts =>
    Survey.openingOf kind header relevant :: rowsAll drafts ++ [{ type := .closing kind }]

def rowsAll : List Draft → List SurveyRow
  | [] => []
  | draft :: drafts => rows draft ++ rowsAll drafts

end

theorem rowsAll_append (drafts drafts' : List Draft) :
    rowsAll (drafts ++ drafts') = rowsAll drafts ++ rowsAll drafts' := by
  induction drafts with
  | nil => rfl
  | cons draft drafts ih => rw [List.cons_append, rowsAll, rowsAll, ih, List.append_assoc]

theorem rowsAll_singleton (draft : Draft) : rowsAll [draft] = rows draft := by
  rw [rowsAll, rowsAll, List.append_nil]

end Draft

namespace Frame

def rowsAll : List Frame → List SurveyRow
  | [] => []
  | frame :: frames =>
    rowsAll frames ++ Survey.openingOf frame.kind frame.header frame.relevant ::
      Draft.rowsAll frame.children

inductive Nested : List Frame → List OpenBlock → Prop
  | nil : Nested [] []
  | cons {frame : Frame} {frames : List Frame} {block : OpenBlock} {opened : List OpenBlock}
      (hkind : frame.kind = block.kind) (hpath : frame.path = OpenBlock.pathOf (block :: opened))
      (h : Nested frames opened) : Nested (frame :: frames) (block :: opened)

end Frame

namespace Outline

def rows (outline : Outline) : List SurveyRow :=
  Draft.rowsAll outline.children ++ Frame.rowsAll outline.frames

def addRows (outline : Outline) (rows : List (Nat × SurveyRow)) : Except Failure Outline :=
  rows.foldlM (fun outline (line, row) => outline.addRow line row) outline

variable {outline outline' : Outline} {row : SurveyRow} {line : Nat} {opened : List OpenBlock}

theorem addRows_append (outline : Outline) (front back : List (Nat × SurveyRow)) :
    outline.addRows (front ++ back) =
      outline.addRows front >>= fun outline => outline.addRows back :=
  List.foldlM_append

theorem rows_of_complete {draft : SurveyDraft} (h : outline.complete = .ok draft) :
    Draft.rowsAll draft.children = outline.rows := by
  obtain ⟨children, frames, symbols⟩ := outline
  cases frames with
  | nil =>
    cases h
    exact (List.append_nil _).symm
  | cons _ _ => cases h

theorem rows_push (outline : Outline) (draft : Draft) :
    (outline.push draft).rows = outline.rows ++ draft.rows := by
  obtain ⟨children, frames, symbols⟩ := outline
  cases frames with
  | nil => simp [rows, push, Frame.rowsAll, Draft.rowsAll_append, Draft.rowsAll_singleton]
  | cons frame frames =>
    simp [rows, push, Frame.rowsAll, Draft.rowsAll_append, Draft.rowsAll_singleton]

theorem rows_of_takes (h : outline.Takes line row outline') :
    outline'.rows = outline.rows ++ [row.recorded] := by
  unfold SurveyRow.recorded
  cases h with
  | opening htype hname hdeclare =>
    rw [htype, hname]
    simp [rows, Frame.rowsAll, Draft.rowsAll, Survey.openingOf]
  -- The rows of the frame are there already, and only its last one is new.
  | closing htype hframes =>
    rw [htype, rows_push]
    simp [rows, hframes, Frame.rowsAll, Frame.toDraft, Draft.rows]
  | question htype hname hsuits hdeclare =>
    rw [htype, rows_push]
    obtain ⟨type, name⟩ := row
    dsimp only at htype hname
    subst htype hname
    rfl

theorem path_of_nested (h : Frame.Nested outline.frames opened) :
    outline.path = OpenBlock.pathOf opened := by
  obtain ⟨children, frames, symbols⟩ := outline
  cases h with
  | nil => rfl
  | cons _ hpath _ => exact hpath

theorem length_of_nested {frames : List Frame} (h : Frame.Nested frames opened) :
    frames.length = opened.length := by
  induction h with
  | nil => rfl
  | cons _ _ _ ih => rw [List.length_cons, List.length_cons, ih]

theorem nesting_of_nested (h : Frame.Nested outline.frames opened) :
    outline.nesting = OpenBlock.nestingOf opened := by
  have hlength := length_of_nested h
  obtain ⟨children, frames, symbols⟩ := outline
  cases h with
  | nil => rfl
  | cons hkind _ _ =>
    rw [nesting, OpenBlock.nestingOf]
    dsimp only at hlength ⊢
    rw [hlength, hkind]
    rfl

theorem nested_push (h : Frame.Nested outline.frames opened) (draft : Draft) :
    Frame.Nested (outline.push draft).frames opened := by
  obtain ⟨children, frames, symbols⟩ := outline
  cases h with
  | nil => exact .nil
  | cons hkind hpath h => exact .cons hkind hpath h

theorem nested_of_takes (hnested : Frame.Nested outline.frames opened)
    (h : outline.Takes line row outline') :
    Frame.Nested outline'.frames (row.openedBehind opened) := by
  have hpath := path_of_nested hnested
  unfold SurveyRow.openedBehind
  cases h with
  | opening htype hname hdeclare =>
    rw [htype, hname]
    refine .cons rfl ?_ hnested
    rw [hpath]
    simp [OpenBlock.pathOf, NodePath.child]
  | closing htype hframes =>
    rw [htype]
    rw [hframes] at hnested
    cases hnested with
    | cons _ _ hnested => exact nested_push hnested _
  | question htype hname hsuits hdeclare =>
    rw [htype]
    apply nested_push
    exact hnested

theorem symbols_of_takes (hnested : Frame.Nested outline.frames opened)
    (h : outline.Takes line row outline') :
    outline'.symbols = ⟨outline.symbols.root,
      outline.symbols.symbols ++ (row.symbol? (OpenBlock.pathOf opened)).toList⟩ := by
  rw [← path_of_nested hnested]
  unfold SurveyRow.symbol?
  cases h with
  | opening htype hname hdeclare =>
    obtain ⟨-, -, -, rfl⟩ := SymbolTable.declare_eq_ok_iff.1 hdeclare
    rw [htype, hname]
    rfl
  | closing htype hframes =>
    rw [htype, symbols_push]
    simp
  | question htype hname hsuits hdeclare =>
    obtain ⟨-, -, -, rfl⟩ := SymbolTable.declare_eq_ok_iff.1 hdeclare
    rw [htype, hname, symbols_push]
    rfl

structure Follows (root : String) (rows : List SurveyRow) (outline : Outline) : Prop where
  rows_eq : outline.rows = rows.map SurveyRow.recorded
  nested : Frame.Nested outline.frames (openAfter rows)
  symbols_eq : outline.symbols = ⟨root, symbolsFrom [] rows⟩

theorem openAfter_snoc (rows : List SurveyRow) (row : SurveyRow) :
    openAfter (rows ++ [row]) = row.openedBehind (openAfter rows) :=
  List.foldl_concat ..

theorem symbolsFrom_snoc (rows : List SurveyRow) (row : SurveyRow) :
    symbolsFrom [] (rows ++ [row]) =
      symbolsFrom [] rows ++ (row.symbol? (OpenBlock.pathOf (openAfter rows))).toList := by
  -- With other containers open in front, as the induction needs it.
  have hsnoc : ∀ opened, symbolsFrom opened (rows ++ [row]) = symbolsFrom opened rows ++
      (row.symbol? (OpenBlock.pathOf
        (rows.foldl (fun opened row => row.openedBehind opened) opened))).toList := by
    induction rows with
    | nil =>
      intro opened
      simp [symbolsFrom]
    | cons head rows ih =>
      intro opened
      rw [List.cons_append, symbolsFrom, symbolsFrom, ih, List.foldl_cons, List.append_assoc]
  exact hsnoc []

theorem follows_empty (root : String) : Follows root [] (empty root) where
  rows_eq := rfl
  nested := .nil
  symbols_eq := rfl

theorem follows_of_takes {root : String} {before : List SurveyRow}
    (hbefore : Follows root before outline) (h : outline.Takes line row outline') :
    Follows root (before ++ [row]) outline' where
  rows_eq := by rw [rows_of_takes h, hbefore.rows_eq, List.map_append, List.map_singleton]
  nested := by
    rw [openAfter_snoc]
    exact nested_of_takes hbefore.nested h
  symbols_eq := by rw [symbols_of_takes hbefore.nested h, hbefore.symbols_eq, symbolsFrom_snoc]

theorem follows_addRows {root : String} {before : List SurveyRow} {rows : List (Nat × SurveyRow)}
    (hbefore : Follows root before outline) (h : outline.addRows rows = .ok outline') :
    Follows root (before ++ rows.map Prod.snd) outline' := by
  induction rows generalizing before outline with
  | nil =>
    cases h
    rw [List.map_nil, List.append_nil]
    exact hbefore
  | cons head rows ih =>
    obtain ⟨line, row⟩ := head
    obtain ⟨next, hnext, hrest⟩ := bind_eq_ok_iff.1 h
    have := ih (follows_of_takes hbefore (addRow_eq_ok_iff.1 hnext)) hrest
    simpa using this

theorem exists_takes_of_isSound (hnested : Frame.Nested outline.frames opened) (hrow : row.IsSound)
    (hfresh : ∀ name ∈ row.declaredName?, outline.symbols.lookup? name = none)
    (hclosing : ∀ kind, row.type = .closing kind →
      (opened.map OpenBlock.kind).head? = some kind) :
    ∃ outline', outline.Takes line row outline' := by
  unfold SurveyRow.declaredName? at hfresh
  cases htype : row.type with
  | opening kind =>
    rw [SurveyRow.isSound_opening htype] at hrow
    obtain ⟨name, hname⟩ := Option.ne_none_iff_exists'.1 hrow
    rw [htype] at hfresh
    refine ⟨_, .opening htype hname (SymbolTable.declare_child_eq_ok_iff.2 ⟨?_, rfl⟩)⟩
    exact hfresh name hname
  | closing kind =>
    have hhead := hclosing kind htype
    obtain ⟨children, frames, symbols⟩ := outline
    cases hnested with
    | nil => cases hhead
    | @cons frame frames block opened hkind _ _ =>
      cases hhead
      rw [← hkind] at htype
      exact ⟨_, .closing htype rfl⟩
  | question type list =>
    obtain ⟨hnamed, hsuits⟩ := (SurveyRow.isSound_question htype).1 hrow
    obtain ⟨name, hname⟩ := Option.ne_none_iff_exists'.1 hnamed
    rw [htype] at hfresh
    refine ⟨_, .question htype hname hsuits (SymbolTable.declare_child_eq_ok_iff.2 ⟨?_, rfl⟩)⟩
    exact hfresh name hname

theorem isSound_of_takes (h : outline.Takes line row outline') : row.IsSound := by
  cases h with
  | opening htype hname _ => exact (SurveyRow.isSound_opening htype).2 (by simp [hname])
  | closing htype _ => exact SurveyRow.isSound_closing htype
  | question htype hname hsuits _ =>
    exact (SurveyRow.isSound_question htype).2 ⟨by simp [hname], hsuits⟩

theorem lookup?_of_takes (h : outline.Takes line row outline') :
    (∀ name ∈ row.declaredName?, outline.symbols.lookup? name = none) ∧
      ∀ name, outline'.symbols.lookup? name = none ↔
        outline.symbols.lookup? name = none ∧ row.declaredName? ≠ some name := by
  unfold SurveyRow.declaredName?
  cases h with
  | closing htype _ =>
    rw [htype, symbols_push]
    simp
  | opening htype hname hdeclare =>
    have hnew := (SymbolTable.declare_child_eq_ok_iff.1 hdeclare).1
    rw [htype]
    simp [hname, hnew, SymbolTable.lookup?_declare_child hdeclare]
  | question htype hname hsuits hdeclare =>
    have hnew := (SymbolTable.declare_child_eq_ok_iff.1 hdeclare).1
    rw [htype, symbols_push]
    simp [hname, hnew, SymbolTable.lookup?_declare_child hdeclare]

theorem closing_of_takes (hnested : Frame.Nested outline.frames opened)
    (h : outline.Takes line row outline') :
    ∀ kind, row.type = .closing kind → (opened.map OpenBlock.kind).head? = some kind := by
  intro kind htype
  cases h with
  | opening htype' _ _ | question htype' _ _ _ =>
    rw [htype] at htype'
    cases htype'
  | closing htype' hframes =>
    rw [htype] at htype'
    cases htype'
    rw [hframes] at hnested
    cases hnested with
    | cons hkind _ _ =>
      rw [hkind]
      rfl

theorem closesAll_cons (opened : List OpenBlock) (row : SurveyRow) (rows : List SurveyRow) :
    ClosesAll (opened.map OpenBlock.kind) (row :: rows) ↔
      (∀ kind, row.type = .closing kind → (opened.map OpenBlock.kind).head? = some kind) ∧
        ClosesAll ((row.openedBehind opened).map OpenBlock.kind) rows := by
  unfold SurveyRow.openedBehind
  cases htype : row.type with
  | opening kind => simp [closesAll_opening htype]
  | closing kind => simp [closesAll_closing htype]
  | question type list => simp [closesAll_question htype]

structure AreFresh (table : SymbolTable) (rows : List SurveyRow) : Prop where
  nodup : (rows.filterMap SurveyRow.declaredName?).Nodup
  lookup?_eq : ∀ name ∈ rows.filterMap SurveyRow.declaredName?, table.lookup? name = none

theorem areFresh_cons (h : outline.Takes line row outline') (rows : List SurveyRow) :
    AreFresh outline.symbols (row :: rows) ↔ AreFresh outline'.symbols rows := by
  obtain ⟨hnew, hlookup⟩ := lookup?_of_takes h
  have hnames : (row :: rows).filterMap SurveyRow.declaredName? =
      row.declaredName?.toList ++ rows.filterMap SurveyRow.declaredName? := by
    cases hname : row.declaredName? <;> simp [hname]
  constructor
  · rintro ⟨hnodup, hold⟩
    rw [hnames] at hnodup hold
    obtain ⟨-, hnodup, hdisjoint⟩ := List.nodup_append.1 hnodup
    refine ⟨hnodup, ?_⟩
    intro name hmem
    refine (hlookup name).2 ⟨hold name (List.mem_append_right _ hmem), ?_⟩
    intro hname
    exact hdisjoint name (Option.mem_toList.2 hname) name hmem rfl
  · rintro ⟨hnodup, hold⟩
    refine ⟨?_, ?_⟩
    · rw [hnames]
      refine List.nodup_append.2 ⟨?_, hnodup, ?_⟩
      · cases row.declaredName? <;> simp
      · rintro own hname _ hmem rfl
        exact ((hlookup own).1 (hold own hmem)).2 (Option.mem_toList.1 hname)
    · rw [hnames, List.forall_mem_append]
      refine ⟨?_, ?_⟩
      · intro name hname
        exact hnew name (Option.mem_toList.1 hname)
      · intro name hmem
        exact ((hlookup name).1 (hold name hmem)).1

theorem exists_complete_iff (hnested : Frame.Nested outline.frames opened) :
    (∃ draft, outline.complete = .ok draft) ↔ opened = [] := by
  obtain ⟨children, frames, symbols⟩ := outline
  cases hnested with
  | nil => simp [complete]
  | cons _ _ _ => simp [complete]

theorem exists_addRows_iff {rows : List (Nat × SurveyRow)}
    (hnested : Frame.Nested outline.frames opened) :
    (∃ outline' draft, outline.addRows rows = .ok outline' ∧ outline'.complete = .ok draft) ↔
      ClosesAll (opened.map OpenBlock.kind) (rows.map Prod.snd) ∧
        (∀ row ∈ rows.map Prod.snd, row.IsSound) ∧
          AreFresh outline.symbols (rows.map Prod.snd) := by
  induction rows generalizing outline opened with
  | nil =>
    constructor
    · rintro ⟨outline', draft, hrows, hdraft⟩
      cases hrows
      rw [(exists_complete_iff hnested).1 ⟨draft, hdraft⟩]
      exact ⟨rfl, by simp, .nil, by simp⟩
    · rintro ⟨hcloses, -, -⟩
      obtain ⟨draft, hdraft⟩ := (exists_complete_iff hnested).2 (List.map_eq_nil_iff.1 hcloses)
      exact ⟨outline, draft, rfl, hdraft⟩
  | cons head rows ih =>
    obtain ⟨line, row⟩ := head
    rw [List.map_cons, closesAll_cons, List.forall_mem_cons]
    constructor
    · rintro ⟨outline', draft, hrows, hdraft⟩
      obtain ⟨next, hnext, hrest⟩ := bind_eq_ok_iff.1 hrows
      have htakes := addRow_eq_ok_iff.1 hnext
      obtain ⟨hcloses, hsound, hfresh⟩ :=
        (ih (nested_of_takes hnested htakes)).1 ⟨outline', draft, hrest, hdraft⟩
      exact ⟨⟨closing_of_takes hnested htakes, hcloses⟩, ⟨isSound_of_takes htakes, hsound⟩,
        (areFresh_cons htakes _).2 hfresh⟩
    · rintro ⟨⟨hclosing, hcloses⟩, ⟨hrow, hsound⟩, hfresh⟩
      have hnew : ∀ name ∈ row.declaredName?, outline.symbols.lookup? name = none := by
        intro name hname
        exact hfresh.lookup?_eq name (List.mem_filterMap.2 ⟨row, List.mem_cons_self, hname⟩)
      obtain ⟨next, htakes⟩ := exists_takes_of_isSound hnested hrow hnew hclosing
      obtain ⟨outline', draft, hrest, hdraft⟩ := (ih (nested_of_takes hnested htakes)).2
        ⟨hcloses, hsound, (areFresh_cons htakes _).1 hfresh⟩
      exact ⟨outline', draft, bind_eq_ok_iff.2 ⟨next, addRow_eq_ok_iff.2 htakes, hrest⟩, hdraft⟩

theorem outline_rebuilds_rows (root : String) (rows : List (Nat × SurveyRow)) :
    ((∃ outline draft, (empty root).addRows rows = .ok outline ∧ outline.complete = .ok draft) ↔
        IsWellFormed (rows.map Prod.snd)) ∧
      ∀ outline draft, (empty root).addRows rows = .ok outline → outline.complete = .ok draft →
        Draft.rowsAll draft.children = (rows.map Prod.snd).map SurveyRow.recorded ∧
        outline.symbols = ⟨root, symbolsFrom [] (rows.map Prod.snd)⟩ ∧
        ∀ front back, rows = front ++ back → ∃ outline', (empty root).addRows front = .ok outline' ∧
          outline'.nesting = OpenBlock.nestingOf (openAfter (front.map Prod.snd)) := by
  refine ⟨?_, ?_⟩
  · have hempty : Frame.Nested (empty root).frames [] := .nil
    rw [exists_addRows_iff hempty]
    constructor
    · rintro ⟨hcloses, hsound, hfresh⟩
      exact ⟨closesAll_nil_iff.1 hcloses, hsound, hfresh.nodup⟩
    · rintro ⟨hnested, hsound, hnodup⟩
      exact ⟨closesAll_nil_iff.2 hnested, hsound, hnodup, fun _ _ => rfl⟩
  · intro outline draft hrows hdraft
    have hfollows := follows_addRows (follows_empty root) hrows
    rw [List.nil_append] at hfollows
    refine ⟨?_, hfollows.symbols_eq, ?_⟩
    · rw [rows_of_complete hdraft, hfollows.rows_eq]
    · rintro front back rfl
      obtain ⟨outline', hfront, -⟩ := bind_eq_ok_iff.1 (addRows_append .. ▸ hrows)
      have hfollows' := follows_addRows (follows_empty root) hfront
      exact ⟨outline', hfront, nesting_of_nested hfollows'.nested⟩

end Outline

def nestedRows : List (Nat × SurveyRow) := [
  (2, { type := .question .text none, name := some "age" }),
  (3, { type := .opening .group, name := some "g" }),
  (4, { type := .question .text none, name := some "x" }),
  (5, { type := .closing .group })]

namespace Outline

theorem outline_rebuilds_rows_nested :
    ∃ outline draft, (empty "data").addRows nestedRows = .ok outline ∧
      outline.complete = .ok draft ∧
      Draft.rowsAll draft.children = nestedRows.map Prod.snd ∧ outline.symbols = .nested ∧
      ∃ outline', (empty "data").addRows (nestedRows.take 3) = .ok outline' ∧
        outline'.nesting = .inside .group 1 := by
  have hsuits : ∀ row : SurveyRow, row.appearance = none → row.calculation = none →
      row.Suits .text := by
    intro row happearance hcalculation
    exact ⟨rfl, by simp, fun _ => hcalculation, fun _ => happearance⟩
  have hsound : ∀ row ∈ nestedRows.map Prod.snd, row.IsSound := by
    refine List.forall_mem_cons.2 ⟨?_, List.forall_mem_cons.2 ⟨?_, List.forall_mem_cons.2
      ⟨?_, List.forall_mem_singleton.2 ?_⟩⟩⟩
    · exact (SurveyRow.isSound_question rfl).2 ⟨by decide, hsuits _ rfl rfl⟩
    · exact (SurveyRow.isSound_opening rfl).2 (by decide)
    · exact (SurveyRow.isSound_question rfl).2 ⟨by decide, hsuits _ rfl rfl⟩
    · exact SurveyRow.isSound_closing rfl
  have hwell : IsWellFormed (nestedRows.map Prod.snd) := by
    refine ⟨?_, hsound, by decide⟩
    exact .question rfl (.block rfl rfl (.question rfl .nil) .nil)
  obtain ⟨haccepts, hrebuilds⟩ := outline_rebuilds_rows "data" nestedRows
  obtain ⟨outline, draft, hrows, hdraft⟩ := haccepts.2 hwell
  obtain ⟨hchildren, hsymbols, hprefixes⟩ := hrebuilds outline draft hrows hdraft
  obtain ⟨outline', hfront, hnesting⟩ := hprefixes (nestedRows.take 3) (nestedRows.drop 3) rfl
  exact ⟨outline, draft, hrows, hdraft, hchildren, hsymbols, outline', hfront, hnesting⟩

theorem outline_forgets_constraint :
    ¬ ∃ read : List Draft → List SurveyRow, ∀ rows outline draft,
      (empty "data").addRows rows = .ok outline → outline.complete = .ok draft →
        read draft.children = rows.map Prod.snd := by
  rintro ⟨read, h⟩
  have hplain := h [(2, { type := .opening .group, name := some "g" }),
    (3, { type := .closing .group })] _ _ rfl rfl
  have hconstrained := h [
    (2, { type := .opening .group, name := some "g", constraint := some ". > 1" }),
    (3, { type := .closing .group })] _ _ rfl rfl
  have heq := hplain.symm.trans hconstrained
  cases heq

end Outline

end Questionnaire
