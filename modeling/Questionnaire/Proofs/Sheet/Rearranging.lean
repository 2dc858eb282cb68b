import Questionnaire.Proofs.Sheet.Alike
import Questionnaire.Proofs.Sheet.RoundTrip

/-!
This module contains the order of siblings in a survey sheet. Blocks of rows that stand side by side
may change places: the nodes that they are read as change places and nothing else changes, since all
names are known when the first expression is compiled.
-/

namespace Questionnaire

namespace Row

def typeCell? (row : Row) : Option TypeCell :=
  (row.cell? "type").bind fun cell => (TypeCell.parse cell).toOption

theorem typeCell?_of_parse {options : Options} {line : Nat} {row : Row} {parsed : SurveyRow}
    (h : SurveyRow.parse options line row = .ok parsed) : row.typeCell? = some parsed.type := by
  obtain ⟨cell, hcell, htype⟩ := SurveyRow.exists_typeCell_of_parse h
  unfold typeCell?
  rw [hcell, Option.bind_some, htype]
  rfl

/--
The rows of one node: a question, or a container from the row that opens it to the row that closes
it.
-/
inductive IsBlock : List Row → Prop
  | question {row : Row} {type : QuestionType} {list : Option String}
      (htype : row.typeCell? = some (.question type list)) : IsBlock [row]
  | container {start close : Row} {kind : BlockKind} {blocks : List (List Row)}
      (hstart : start.typeCell? = some (.opening kind))
      (hblocks : ∀ block ∈ blocks, IsBlock block)
      (hclose : close.typeCell? = some (.closing kind)) :
      IsBlock (start :: blocks.flatten ++ [close])

/--
Rows that differ in the order of siblings. One step permutes blocks that stand side by side, between
any other rows; in these containers may open and close, so that it permutes siblings at any level.
-/
inductive Rearranged : List Row → List Row → Prop
  | permute {blocks blocks' : List (List Row)} (front back : List Row)
      (hblocks : ∀ block ∈ blocks, IsBlock block) (hperm : blocks.Perm blocks') :
      Rearranged (front ++ blocks.flatten ++ back) (front ++ blocks'.flatten ++ back)
  | trans {rows rows' rows'' : List Row} (h : Rearranged rows rows')
      (h' : Rearranged rows' rows'') : Rearranged rows rows''

end Row

namespace Outline

theorem alike_extend_of_perm (outline : Outline) {drafts drafts' : List Draft}
    {symbols symbols' : SymbolTable} (hdrafts : drafts.Perm drafts')
    (hsymbols : symbols.Agrees symbols') :
    (outline.extend drafts symbols).Alike True (outline.extend drafts' symbols') := by
  have hself := alike_self True outline
  have happend (children : List Draft) :
      Draft.AllAlike True (children ++ drafts) (children ++ drafts') :=
    (Draft.allAlike_self True children).append (Draft.allAlike_of_perm trivial hdrafts)
  obtain ⟨children, frames, own⟩ := outline
  cases frames with
  | nil =>
    rw [extend_top, extend_top]
    exact ⟨happend children, .nil, hsymbols⟩
  | cons frame frames =>
    rw [extend_cons ⟨children, frames, own⟩ frame, extend_cons ⟨children, frames, own⟩ frame]
    obtain ⟨hchildren, hframes, -⟩ := hself
    cases hframes with
    | cons hframe hframes =>
      exact ⟨hchildren, .cons { hframe with children := happend _ } hframes, hsymbols⟩

end Outline

namespace Workbook

variable {options : Options} {path : NodePath}

/--
Whether rows, taken in the container at `path`, add drafts to whatever outline has their names still
free.
-/
def Add (options : Options) (path : NodePath) (lines : List (Nat × Row)) (drafts : List Draft) :
    Prop :=
  ∀ (outline : Outline) (symbols : SymbolTable), outline.path = path →
    outline.symbols.DeclaresAll (Draft.symbolsAll drafts) symbols →
      lines.foldlM (takeRow options) outline = .ok (outline.extend drafts symbols)

theorem Add.append {lines lines' : List (Nat × Row)} {drafts drafts' : List Draft}
    (h : Add options path lines drafts) (h' : Add options path lines' drafts') :
    Add options path (lines ++ lines') (drafts ++ drafts') := by
  intro outline symbols hpath hdeclares
  rw [Draft.symbolsAll_append] at hdeclares
  obtain ⟨next, hnext, hdeclares⟩ := SymbolTable.declaresAll_append.1 hdeclares
  rw [List.foldlM_append, h outline next hpath hnext, ok_bind,
    h' _ symbols ((Outline.path_extend ..).trans hpath) hdeclares, Outline.extend_append]

def Extend (options : Options) (rows : List Row) : Prop :=
  ∀ (lines : List (Nat × Row)) (outline last : Outline), lines.map Prod.snd = rows →
    lines.foldlM (takeRow options) outline = .ok last →
      ∃ drafts symbols, Add options outline.path lines drafts ∧
        outline.symbols.DeclaresAll (Draft.symbolsAll drafts) symbols ∧
        last = outline.extend drafts symbols

theorem extend_nil : Extend options [] := by
  intro lines outline last hlines htake
  cases List.map_eq_nil_iff.1 hlines
  cases htake
  refine ⟨[], outline.symbols, ?_, rfl, rfl⟩
  intro outline' symbols hpath hdeclares
  cases hdeclares
  rfl

theorem Extend.append {rows rows' : List Row} (h : Extend options rows)
    (h' : Extend options rows') : Extend options (rows ++ rows') := by
  intro lines outline last hlines htake
  obtain ⟨front, back, rfl, hfront, hback⟩ := List.map_eq_append_iff.1 hlines
  rw [List.foldlM_append] at htake
  obtain ⟨next, hnext, htake⟩ := bind_eq_ok_iff.1 htake
  obtain ⟨drafts, symbols, hadd, hdeclares, rfl⟩ := h front outline next hfront hnext
  obtain ⟨drafts', symbols', hadd', hdeclares', rfl⟩ := h' back _ last hback htake
  rw [Outline.path_extend] at hadd'
  refine ⟨drafts ++ drafts', symbols', hadd.append hadd', ?_, Outline.extend_append ..⟩
  rw [Draft.symbolsAll_append]
  exact SymbolTable.declaresAll_append.2 ⟨symbols, hdeclares, hdeclares'⟩

theorem takeRow_eq_ok_iff {outline outline' : Outline} {line : Nat × Row} :
    takeRow options outline line = .ok outline' ↔
      ∃ parsed, SurveyRow.parse options line.1 line.2 = .ok parsed ∧
        outline.Takes line.1 parsed outline' := by
  unfold takeRow
  simp only [bind_eq_ok_iff, Outline.addRow_eq_ok_iff]

theorem add_question {line : Nat × Row} {parsed : SurveyRow} {type : QuestionType}
    {list : Option String} {name : String}
    (hparse : SurveyRow.parse options line.1 line.2 = .ok parsed)
    (htype : parsed.type = .question type list) (hname : parsed.name = some name)
    (hsuits : parsed.Suits type) :
    Add options path [line]
      [.question (NodePath.child path name) (.ofRow "survey" line.1 (some name))
        { name, type, label := parsed.label, hint := parsed.hint, required := parsed.required
          constraintMessage := parsed.constraintMessage, default := parsed.default
          appearance := parsed.appearance, list }
        ⟨parsed.relevant, parsed.constraint, parsed.calculation⟩] := by
  rintro outline symbols rfl hdeclares
  rw [Draft.symbolsAll_singleton, Draft.symbols] at hdeclares
  obtain ⟨next, hdeclare, rfl⟩ := hdeclares
  have htakes : outline.Takes line.1 parsed _ := .question htype hname hsuits hdeclare
  rw [List.foldlM_cons, takeRow_eq_ok_iff.2 ⟨parsed, hparse, htakes⟩, Outline.push_symbols]
  rfl

theorem Add.container {line line' : Nat × Row} {inner : List (Nat × Row)}
    {parsed parsed' : SurveyRow} {kind : BlockKind} {name : String} {drafts : List Draft}
    (h : Add options (NodePath.child path name) inner drafts)
    (hparse : SurveyRow.parse options line.1 line.2 = .ok parsed)
    (hparse' : SurveyRow.parse options line'.1 line'.2 = .ok parsed')
    (htype : parsed.type = .opening kind) (htype' : parsed'.type = .closing kind)
    (hname : parsed.name = some name) :
    Add options path (line :: inner ++ [line'])
      [.block kind (NodePath.child path name) (.ofRow "survey" line.1 (some name))
        { name, label := parsed.label, hint := parsed.hint, appearance := parsed.appearance }
        parsed.relevant drafts] := by
  rintro outline symbols rfl hdeclares
  rw [Draft.symbolsAll_singleton, Draft.symbols] at hdeclares
  obtain ⟨next, hdeclare, hdeclares⟩ := hdeclares
  have hopen : outline.Takes line.1 parsed _ := .opening htype hname hdeclare
  -- The rows of the children are taken while the container is open.
  rw [List.cons_append, List.foldlM_cons, takeRow_eq_ok_iff.2 ⟨parsed, hparse, hopen⟩, ok_bind,
    List.foldlM_append, h _ symbols rfl hdeclares, ok_bind, Outline.extend_cons]
  generalize hfilled : Outline.mk outline.children _ symbols = filled
  have hclose : filled.Takes line'.1 parsed' _ :=
    .closing htype' (congrArg Outline.frames hfilled).symm
  rw [List.foldlM_cons, takeRow_eq_ok_iff.2 ⟨parsed', hparse', hclose⟩, ← hfilled]
  exact congrArg Except.ok (Outline.push_symbols outline _ symbols)

theorem Add.exists_extend {lines : List (Nat × Row)} {outline last : Outline} {drafts : List Draft}
    (h : Add options outline.path lines drafts) (symbols : SymbolTable)
    (hdeclares : outline.symbols.DeclaresAll (Draft.symbolsAll drafts) symbols)
    (htake : lines.foldlM (takeRow options) outline = .ok last) :
    ∃ drafts symbols, Add options outline.path lines drafts ∧
      outline.symbols.DeclaresAll (Draft.symbolsAll drafts) symbols ∧
      last = outline.extend drafts symbols := by
  refine ⟨drafts, symbols, h, hdeclares, ?_⟩
  rw [h outline symbols rfl hdeclares] at htake
  exact (Except.ok.inj htake).symm

theorem extend_question {row : Row} {type : QuestionType} {list : Option String}
    (htype : row.typeCell? = some (.question type list)) : Extend options [row] := by
  intro lines outline last hlines htake
  obtain ⟨line, rfl, rfl⟩ := List.map_eq_singleton_iff.1 hlines
  have hfirst := htake
  rw [List.foldlM_cons] at hfirst
  obtain ⟨next, hnext, -⟩ := bind_eq_ok_iff.1 hfirst
  obtain ⟨parsed, hparse, htakes⟩ := takeRow_eq_ok_iff.1 hnext
  rw [Row.typeCell?_of_parse hparse, Option.some.injEq] at htype
  cases htakes with
  | opening htype' => rw [htype'] at htype; cases htype
  | closing htype' => rw [htype'] at htype; cases htype
  | question htype' hname hsuits hdeclare =>
    exact (add_question hparse htype' hname hsuits).exists_extend _ ⟨_, hdeclare, rfl⟩ htake

theorem Extend.container {start close : Row} {kind kind' : BlockKind} {rows : List Row}
    (h : Extend options rows) (hstart : start.typeCell? = some (.opening kind))
    (hclose : close.typeCell? = some (.closing kind')) :
    Extend options (start :: rows ++ [close]) := by
  intro lines outline last hlines htake
  obtain ⟨front, back, rfl, hfront, hback⟩ := List.map_eq_append_iff.1 hlines
  obtain ⟨line, inner, rfl, rfl, hinner⟩ := List.map_eq_cons_iff.1 hfront
  obtain ⟨line', rfl, rfl⟩ := List.map_eq_singleton_iff.1 hback
  have hrun := htake
  rw [List.cons_append, List.foldlM_cons] at hrun
  obtain ⟨opened, hopened, hrun⟩ := bind_eq_ok_iff.1 hrun
  rw [List.foldlM_append] at hrun
  obtain ⟨filled, hfilled, hrun⟩ := bind_eq_ok_iff.1 hrun
  rw [List.foldlM_cons] at hrun
  obtain ⟨closed, hclosed, -⟩ := bind_eq_ok_iff.1 hrun
  obtain ⟨parsed, hparse, htakes⟩ := takeRow_eq_ok_iff.1 hopened
  obtain ⟨parsed', hparse', htakes'⟩ := takeRow_eq_ok_iff.1 hclosed
  rw [Row.typeCell?_of_parse hparse, Option.some.injEq] at hstart
  rw [Row.typeCell?_of_parse hparse', Option.some.injEq] at hclose
  cases htakes with
  | closing htype => rw [htype] at hstart; cases hstart
  | question htype => rw [htype] at hstart; cases hstart
  | opening htype hname hdeclare =>
    obtain ⟨drafts, symbols, hadd, hdeclares, rfl⟩ := h inner _ filled hinner hfilled
    rw [Outline.extend_cons] at htakes'
    cases htakes' with
    | opening htype' => rw [htype'] at hclose; cases hclose
    | question htype' => rw [htype'] at hclose; cases hclose
    | closing htype' hframes =>
      cases hframes
      refine (hadd.container hparse hparse' htype htype' hname).exists_extend symbols ?_ htake
      rw [Draft.symbolsAll_singleton, Draft.symbols]
      exact ⟨_, hdeclare, hdeclares⟩

theorem extend_flatten {blocks : List (List Row)}
    (h : ∀ block ∈ blocks, Extend options block) : Extend options blocks.flatten := by
  induction blocks with
  | nil => exact extend_nil
  | cons block blocks ih =>
    have hblocks := ih fun block' hblock' => h block' (List.mem_cons_of_mem _ hblock')
    exact (h block List.mem_cons_self).append hblocks

theorem extend_of_isBlock {rows : List Row} (h : Row.IsBlock rows) : Extend options rows := by
  induction h with
  | question htype => exact extend_question htype
  | container hstart hblocks hclose ih => exact (extend_flatten ih).container hstart hclose

def TakenAlike (options : Options) (rows rows' : List Row) : Prop :=
  ∀ (lines lines' : List (Nat × Row)) (outline outline' last : Outline),
    lines.map Prod.snd = rows → lines'.map Prod.snd = rows' → outline.Alike True outline' →
      lines.foldlM (takeRow options) outline = .ok last →
        ∃ last', lines'.foldlM (takeRow options) outline' = .ok last' ∧ last.Alike True last'

theorem readsAs_of_eq {line line' : Nat × Row} (h : line.2 = line'.2) :
    ReadsAs options line line' := by
  intro parsed hparse
  rw [SurveyRow.parse_eq_ok_iff] at hparse ⊢
  rw [← h]
  exact hparse

theorem takenAlike_self (options : Options) (rows : List Row) : TakenAlike options rows rows := by
  rintro lines lines' outline outline' last rfl hlines halike htake
  refine exists_takeRows halike ?_ htake
  have hsame : (lines.map Prod.snd).Forall₂ Eq (lines'.map Prod.snd) := by
    rw [List.forall₂_eq_eq_eq, hlines]
  rw [List.forall₂_map_left_iff, List.forall₂_map_right_iff] at hsame
  exact hsame.imp fun _ _ => readsAs_of_eq

theorem TakenAlike.trans {rows rows' rows'' : List Row} (h : TakenAlike options rows rows')
    (h' : TakenAlike options rows' rows'') : TakenAlike options rows rows'' := by
  intro lines lines'' outline outline'' last hlines hlines'' halike htake
  have hmiddle : (rows'.map fun row => (0, row)).map Prod.snd = rows' := by
    rw [List.map_map]
    exact List.map_id _
  obtain ⟨middle, htake', halike'⟩ := h lines _ outline outline'' last hlines hmiddle halike htake
  obtain ⟨last', htake'', halike''⟩ :=
    h' _ lines'' outline'' outline'' middle hmiddle hlines'' (Outline.alike_self _ _) htake'
  exact ⟨last', htake'', halike'.trans halike''⟩

theorem TakenAlike.append {front front' back back' : List Row}
    (hfront : TakenAlike options front front') (hback : TakenAlike options back back') :
    TakenAlike options (front ++ back) (front' ++ back') := by
  intro lines lines' outline outline' last hlines hlines' halike htake
  obtain ⟨first, second, rfl, hfirst, hsecond⟩ := List.map_eq_append_iff.1 hlines
  obtain ⟨first', second', rfl, hfirst', hsecond'⟩ := List.map_eq_append_iff.1 hlines'
  rw [List.foldlM_append] at htake ⊢
  obtain ⟨next, hnext, htake⟩ := bind_eq_ok_iff.1 htake
  obtain ⟨next', hnext', halike'⟩ := hfront _ _ _ _ _ hfirst hfirst' halike hnext
  rw [hnext', ok_bind]
  exact hback _ _ _ _ _ hsecond hsecond' halike' htake

theorem takenAlike_swap {rows rows' : List Row} (h : Extend options rows)
    (h' : Extend options rows') : TakenAlike options (rows ++ rows') (rows' ++ rows) := by
  intro lines lines' outline outline' last hlines hlines' halike htake
  obtain ⟨back, front, rfl, hback, hfront⟩ := List.map_eq_append_iff.1 hlines'
  -- First the same rows at the new lines, still in the old order.
  obtain ⟨last', htake', halike'⟩ := takenAlike_self options (rows ++ rows') lines (front ++ back)
    outline outline' last hlines (by rw [List.map_append, hfront, hback]) halike htake
  rw [List.foldlM_append] at htake'
  obtain ⟨next, hnext, htake'⟩ := bind_eq_ok_iff.1 htake'
  obtain ⟨drafts, symbols, hadd, hdeclares, rfl⟩ := h front outline' next hfront hnext
  obtain ⟨drafts', symbols', hadd', hdeclares', rfl⟩ := h' back _ last' hback htake'
  rw [Outline.path_extend] at hadd'
  -- All names are free for either order of their declaration.
  have hboth := SymbolTable.declaresAll_append.2 ⟨symbols, hdeclares, hdeclares'⟩
  obtain ⟨symbols'', hswapped, hagrees⟩ :=
    SymbolTable.exists_declaresAll_of_perm hboth List.perm_append_comm
  rw [← Draft.symbolsAll_append] at hswapped
  refine ⟨outline'.extend (drafts' ++ drafts) symbols'',
    hadd'.append hadd outline' symbols'' rfl hswapped, ?_⟩
  rw [Outline.extend_append] at halike'
  exact halike'.trans (outline'.alike_extend_of_perm List.perm_append_comm hagrees)

theorem takenAlike_flatten {blocks blocks' : List (List Row)}
    (hblocks : ∀ block ∈ blocks, Extend options block) (h : blocks.Perm blocks') :
    TakenAlike options blocks.flatten blocks'.flatten := by
  induction h with
  | nil => exact takenAlike_self options []
  | cons block h ih =>
    have hrest := ih fun block' hblock' => hblocks block' (List.mem_cons_of_mem _ hblock')
    exact (takenAlike_self options block).append hrest
  | swap block block' blocks =>
    have hblock := hblocks block (by simp)
    have hblock' := hblocks block' (by simp)
    simp only [List.flatten_cons, ← List.append_assoc]
    exact (takenAlike_swap hblock' hblock).append (takenAlike_self options _)
  | trans h h' ih ih' =>
    exact (ih hblocks).trans (ih' fun block hblock => hblocks block (h.mem_iff.2 hblock))

theorem takenAlike_of_rearranged {rows rows' : List Row} (h : Row.Rearranged rows rows') :
    TakenAlike options rows rows' := by
  induction h with
  | permute front back hblocks hperm =>
    have hflatten : TakenAlike options _ _ :=
      takenAlike_flatten (fun block hblock => extend_of_isBlock (hblocks block hblock)) hperm
    exact ((takenAlike_self options front).append hflatten).append (takenAlike_self options back)
  | trans h h' ih ih' => exact ih.trans ih'

structure Rearranged (workbook workbook' : Workbook) : Prop where
  survey : Row.Rearranged (workbook.survey.filter fun row => !Row.isBlank row)
    (workbook'.survey.filter fun row => !Row.isBlank row)
  choices_eq : workbook'.choices = workbook.choices
  settings_eq : workbook'.settings = workbook.settings

variable {workbook workbook' : Workbook} {reading : Reading}

theorem Rearranged.readsAlike (h : workbook.Rearranged workbook') (options : Options) :
    ReadsAlike True options workbook workbook' where
  settings := by
    intro parsed hparsed
    rw [h.settings_eq]
    exact hparsed
  choices := by
    intro groups hgroups
    rw [h.choices_eq]
    exact ⟨groups, hgroups, groups.isSame_self⟩
  survey := fun root outline houtline =>
    takenAlike_of_rearranged h.survey _ _ _ _ outline
      (map_snd_numbered_eq _) (map_snd_numbered_eq _) (Outline.alike_self True (.empty root))
      houtline

theorem eq_of_name_of_read (h : workbook.read options = .ok reading)
    {located located' : LocatedNode} (hlocated : located ∈ reading.survey.nodes)
    (hlocated' : located' ∈ reading.survey.nodes)
    (hname : located.node.name = located'.node.name) : located = located' := by
  obtain ⟨drafting, hdrafting, hfinish⟩ := read_eq_ok h
  have hsound := (isSound_drafting hdrafting).1
  have hsymbols := (hsound.isCompiledFrom (Drafting.finish_eq_ok hfinish)).symbols_eq
  have hlookup := Survey.lookup?_of_symbols hsymbols hlocated
  rw [hname, Survey.lookup?_of_symbols hsymbols hlocated', Option.some.injEq] at hlookup
  exact Survey.eq_of_path_eq hsymbols hlocated hlocated' (congrArg Symbol.path hlookup).symm

theorem read_rearranged (hread : workbook.read options = .ok reading)
    (h : workbook.Rearranged workbook') :
    ∃ reading', workbook'.read options = .ok reading' ∧
      reading.survey.Alike True reading'.survey ∧
      reading'.survey.lists = reading.survey.lists ∧ reading'.warnings = reading.warnings ∧
      (reading.survey.nodes.map LocatedNode.alone).Perm
        (reading'.survey.nodes.map LocatedNode.alone) ∧
      ∀ located ∈ reading.survey.nodes, ∀ located' ∈ reading'.survey.nodes,
        located'.node.name = located.node.name → located'.alone = located.alone := by
  obtain ⟨reading', hread', halike, hwarnings, ⟨groups, hgroups, hlists⟩, groups', hgroups',
    hlists'⟩ := (h.readsAlike options).exists_read hread
  rw [h.choices_eq, hgroups] at hgroups'
  cases hgroups'
  have hperm := halike.children.perm_locatedAll []
  refine ⟨reading', hread', halike, hlists'.trans hlists.symm, hwarnings, hperm, ?_⟩
  intro located hlocated located' hlocated' hname
  obtain ⟨twin, htwin, halone⟩ :=
    List.mem_map.1 (hperm.mem_iff.2 (List.mem_map_of_mem hlocated'))
  rw [← halone]
  -- A name is found under one node only.
  have hname' : twin.node.name = located.node.name := by
    rw [← hname, ← located'.node.name_alone, ← twin.node.name_alone]
    exact congrArg (fun located => located.node.name) halone
  rw [eq_of_name_of_read hread htwin hlocated hname']

def householdRow (index : Nat) : Row :=
  household.survey.getD index default

def turnedHousehold : Workbook :=
  { household with survey := [1, 3, 2, 4, 0].map householdRow }

theorem rearranged_household : household.Rearranged turnedHousehold where
  survey := by
    have hhead : Row.IsBlock [householdRow 0] :=
      .question (by decide +kernel : _ = some (TypeCell.question .text none))
    have hage : Row.IsBlock [householdRow 2] :=
      .question (by decide +kernel : _ = some (TypeCell.question .integer none))
    have hlevel : Row.IsBlock [householdRow 3] :=
      .question (by decide +kernel : _ = some (TypeCell.question .selectOne (some "school")))
    have hinside : ∀ block ∈ [[householdRow 2], [householdRow 3]], Row.IsBlock block := by
      simp [hage, hlevel]
    have hturned : ∀ block ∈ [[householdRow 3], [householdRow 2]], Row.IsBlock block := by
      simp [hage, hlevel]
    have hmember : Row.IsBlock (householdRow 1 :: [[householdRow 3], [householdRow 2]].flatten ++
        [householdRow 4]) :=
      .container (by decide +kernel : _ = some (TypeCell.opening .repeating)) hturned
        (by decide +kernel)
    have hfirst := Row.Rearranged.permute [householdRow 0, householdRow 1] [householdRow 4] hinside
      (.swap _ _ [])
    have hsecond := Row.Rearranged.permute [] []
      (List.forall_mem_cons.2 ⟨hhead, List.forall_mem_singleton.2 hmember⟩) (.swap _ _ [])
    have hboth := hfirst.trans hsecond
    have hrows : household.survey.filter (fun row => !Row.isBlank row) =
        [0, 1, 2, 3, 4].map householdRow := by
      decide +kernel
    have hrows' : turnedHousehold.survey.filter (fun row => !Row.isBlank row) =
        [1, 3, 2, 4, 0].map householdRow := by
      decide +kernel
    rw [hrows, hrows']
    exact hboth
  choices_eq := rfl
  settings_eq := rfl

theorem read_rearranged_household :
    ∃ reading, household.read {} = .ok reading ∧ household.Rearranged turnedHousehold ∧
      ∃ reading', turnedHousehold.read {} = .ok reading' ∧
        reading.survey.Alike True reading'.survey ∧
        reading'.survey.lists = reading.survey.lists ∧ reading'.warnings = reading.warnings ∧
        (reading.survey.nodes.map LocatedNode.alone).Perm
          (reading'.survey.nodes.map LocatedNode.alone) ∧
        ∀ located ∈ reading.survey.nodes, ∀ located' ∈ reading'.survey.nodes,
          located'.node.name = located.node.name → located'.alone = located.alone := by
  obtain ⟨reading, hread⟩ := exists_read_household
  exact ⟨reading, hread, rearranged_household, read_rearranged hread rearranged_household⟩

end Workbook

end Questionnaire
