import Questionnaire.Proofs.Text
import Questionnaire.SymbolTable
import Mathlib.Data.List.Induction

/-!
This module contains the theory of relative paths: the steps that their texts consist of, and where
they lead.
-/

namespace Questionnaire

theorem splitAtChar_eq_singleton {separator : Char} {cs : List Char} (h : separator ∉ cs) :
    splitAtChar separator cs = [cs] := by
  induction cs with
  | nil => rfl
  | cons c cs ih =>
    simp only [List.mem_cons, not_or] at h
    unfold splitAtChar
    rw [if_neg (Ne.symm h.1), ih h.2]
    rfl

theorem splitAtChar_append {separator : Char} {part cs : List Char} (h : separator ∉ part) :
    splitAtChar separator (part ++ separator :: cs) = part :: splitAtChar separator cs := by
  induction part with
  | nil => simp [splitAtChar]
  | cons c part ih =>
    simp only [List.mem_cons, not_or] at h
    rw [List.cons_append, splitAtChar, if_neg (Ne.symm h.1), ih h.2]
    rfl

theorem splitAtChar_intercalate {separator : Char} {parts : List (List Char)} (hne : parts ≠ [])
    (h : ∀ part ∈ parts, separator ∉ part) :
    splitAtChar separator ([separator].intercalate parts) = parts := by
  induction parts with
  | nil => exact absurd rfl hne
  | cons part parts ih =>
    have hpart := h part List.mem_cons_self
    cases parts with
    | nil =>
      rw [List.intercalate_singleton]
      exact splitAtChar_eq_singleton hpart
    | cons next parts =>
      rw [List.intercalate_cons_cons, List.append_assoc, List.singleton_append,
        splitAtChar_append hpart, ih (by simp)]
      intro part hmem
      exact h part (List.mem_cons_of_mem _ hmem)

theorem splitAtChar_ne_nil (separator : Char) (cs : List Char) : splitAtChar separator cs ≠ [] := by
  induction cs with
  | nil => simp [splitAtChar]
  | cons c cs ih =>
    unfold splitAtChar
    split
    · simp
    · obtain ⟨part, parts, heq⟩ := List.exists_cons_of_ne_nil ih
      simp [heq]

theorem notMem_of_mem_splitAtChar {separator : Char} {cs : List Char} :
    ∀ part ∈ splitAtChar separator cs, separator ∉ part := by
  induction cs with
  | nil => simp [splitAtChar]
  | cons c cs ih =>
    obtain ⟨part, parts, heq⟩ := List.exists_cons_of_ne_nil (splitAtChar_ne_nil separator cs)
    unfold splitAtChar
    rw [heq] at ih ⊢
    split
    · exact List.forall_mem_cons.2 ⟨by simp, ih⟩
    · next hc =>
      obtain ⟨hpart, hparts⟩ := List.forall_mem_cons.1 ih
      rw [List.modifyHead_cons]
      refine List.forall_mem_cons.2 ⟨?_, hparts⟩
      rw [List.mem_cons, not_or]
      exact ⟨Ne.symm hc, hpart⟩

theorem intercalate_splitAtChar (separator : Char) (cs : List Char) :
    [separator].intercalate (splitAtChar separator cs) = cs := by
  induction cs with
  | nil => rfl
  | cons c cs ih =>
    obtain ⟨part, parts, heq⟩ := List.exists_cons_of_ne_nil (splitAtChar_ne_nil separator cs)
    unfold splitAtChar
    rw [heq] at ih ⊢
    split
    · next hc =>
      rw [List.intercalate_cons_cons, ih, hc]
      rfl
    · rw [List.modifyHead_cons]
      cases parts with
      | nil =>
        rw [List.intercalate_singleton] at ih ⊢
        rw [ih]
      | cons next parts =>
        rw [List.intercalate_cons_cons] at ih ⊢
        rw [List.cons_append, List.cons_append, ih]

theorem map_splitAtChar_eq_iff {text : String} {steps : List String} :
    (splitAtChar '/' text.toList).map String.ofList = steps ↔
      steps ≠ [] ∧ (∀ step ∈ steps, '/' ∉ step.toList) ∧ text = "/".intercalate steps := by
  have hslash : "/".toList = ['/'] := rfl
  constructor
  · rintro rfl
    refine ⟨by simpa using splitAtChar_ne_nil '/' text.toList, ?_, ?_⟩
    · intro step hstep
      obtain ⟨part, hpart, rfl⟩ := List.mem_map.1 hstep
      rw [String.toList_ofList]
      exact notMem_of_mem_splitAtChar part hpart
    · rw [← String.toList_inj, String.toList_intercalate, List.map_map, hslash]
      simp [Function.comp_def, intercalate_splitAtChar]
  · rintro ⟨hne, hsteps, rfl⟩
    rw [String.toList_intercalate, hslash, splitAtChar_intercalate (by simpa using hne)]
    · simp
    · intro part hpart
      obtain ⟨step, hstep, rfl⟩ := List.mem_map.1 hpart
      exact hsteps step hstep

namespace NodePath

def IsNamed (path : NodePath) : Prop :=
  ∀ name ∈ path, Text.isName name = true

instance (path : NodePath) : Decidable path.IsNamed :=
  inferInstanceAs (Decidable (∀ name ∈ path, Text.isName name = true))

def Encloses (path inner : NodePath) : Prop :=
  path <+: inner ∧ path ≠ inner

instance (path inner : NodePath) : Decidable (path.Encloses inner) :=
  inferInstanceAs (Decidable (path <+: inner ∧ path ≠ inner))

theorem isNamed_append {path path' : NodePath} :
    IsNamed (path ++ path') ↔ IsNamed path ∧ IsNamed path' := by
  unfold IsNamed
  simp only [List.mem_append]
  constructor
  · intro h
    exact ⟨fun name hname => h name (Or.inl hname), fun name hname => h name (Or.inr hname)⟩
  · rintro ⟨h, h'⟩ name (hname | hname)
    · exact h name hname
    · exact h' name hname

theorem IsNamed.slash_not_mem {path : NodePath} (h : path.IsNamed) :
    ∀ name ∈ path, '/' ∉ name.toList := by
  intro name hname
  apply Text.not_mem_of_isName (h name hname)
  decide

theorem relativeTo_eq {path target : NodePath} (hne : target ≠ [])
    (hout : ¬ Encloses target path) :
    ∃ common up down, path = common ++ up ∧ target = common ++ down ∧ down ≠ [] ∧
      path.relativeTo target = ⟨up.length, down⟩ := by
  obtain ⟨common, hpath, htarget⟩ := exists_append_dropCommon path target
  unfold relativeTo
  split
  -- The node itself: up to its container, and down again by its name.
  · next hdrop =>
    rw [hdrop] at hpath htarget
    simp only [List.append_nil] at hpath htarget
    subst htarget
    have hlast := List.dropLast_concat_getLast hne
    refine ⟨target.dropLast, [target.getLast hne], [target.getLast hne], ?_, hlast.symm, ?_, ?_⟩
    · rw [hpath, hlast]
    · simp
    · rw [List.getLast?_eq_some_getLast hne]
      rfl
  · next names hnames hdrop =>
    rw [hdrop] at hpath htarget
    refine ⟨common, [], names, hpath, htarget, ?_, rfl⟩
    intro hnil
    exact hnames hnil
  · next up names _ hup hdrop =>
    rw [hdrop] at hpath htarget
    refine ⟨common, up, names, hpath, htarget, ?_, rfl⟩
    intro hnil
    subst hnil
    apply hout
    simp only [List.append_nil] at htarget
    subst htarget
    rw [hpath]
    constructor
    · exact List.prefix_append target up
    · intro heq
      have := List.self_eq_append_right.1 heq
      contradiction

theorem isNameStep_of_isName {name : String} (h : Text.isName name = true) :
    name ≠ "" ∧ name ≠ "." ∧ name ≠ ".." := by
  refine ⟨?_, ?_, ?_⟩ <;> rintro rfl <;> revert h <;> decide

/--
Where a walk along the steps of a relative path leads: `.` stays, `..` climbs to the container, and
any other step enters the node of its name.
-/
inductive Leads : NodePath → List String → NodePath → Prop
  | here (path : NodePath) : Leads path [] path
  | stay {path target : NodePath} {steps : List String} (h : Leads path steps target) :
      Leads path ("." :: steps) target
  | climb {path target : NodePath} {name : String} {steps : List String}
      (h : Leads path steps target) : Leads (path.child name) (".." :: steps) target
  | enter {path target : NodePath} {name : String} {steps : List String}
      (hname : name ≠ "" ∧ name ≠ "." ∧ name ≠ "..") (h : Leads (path.child name) steps target) :
      Leads path (name :: steps) target

def LeadsTo (path : NodePath) (text : String) (target : NodePath) : Prop :=
  ∃ steps, steps ≠ [] ∧ (∀ step ∈ steps, '/' ∉ step.toList) ∧ text = "/".intercalate steps ∧
    Leads path steps target

theorem parent?_child (path : NodePath) (name : String) :
    (path.child name).parent? = some path := by
  simp [parent?, child]

theorem eq_child_of_parent? {path parent : NodePath} (h : path.parent? = some parent) :
    ∃ name, path = parent.child name := by
  unfold parent? at h
  split at h
  · cases h
  · next hne =>
    cases h
    rw [List.isEmpty_iff] at hne
    exact ⟨path.getLast hne, (List.dropLast_concat_getLast hne).symm⟩

theorem follow?_eq_some_iff {path target : NodePath} {steps : List String} :
    path.follow? steps = some target ↔ Leads path steps target := by
  constructor
  · intro h
    induction steps generalizing path with
    | nil =>
      cases h
      exact .here _
    | cons step steps ih =>
      unfold follow? at h
      split at h
      · next hdot =>
        rw [hdot]
        exact .stay (ih h)
      · next hdot =>
        split at h
        · next hdots =>
          obtain ⟨parent, hparent, h⟩ := Option.bind_eq_some_iff.1 h
          obtain ⟨name, hchild⟩ := eq_child_of_parent? hparent
          rw [hdots, hchild]
          exact .climb (ih h)
        · next hdots =>
          split at h
          · cases h
          · next hempty => exact .enter ⟨hempty, hdot, hdots⟩ (ih h)
  · intro h
    induction h with
    | here path => rfl
    | stay _ ih =>
      rw [follow?, if_pos rfl]
      exact ih
    | climb _ ih =>
      rw [follow?, if_neg (by decide), if_pos rfl, parent?_child]
      exact ih
    | enter hname _ ih =>
      rw [follow?, if_neg hname.2.1, if_neg hname.2.2, if_neg hname.1]
      exact ih

theorem resolve?_eq_some_iff {path target : NodePath} {text : String} :
    path.resolve? text = some target ↔ path.LeadsTo text target := by
  unfold resolve? LeadsTo
  rw [follow?_eq_some_iff]
  constructor
  · intro h
    obtain ⟨hne, hsteps, htext⟩ := map_splitAtChar_eq_iff.1 (rfl : _ = _)
    exact ⟨_, hne, hsteps, htext, h⟩
  · rintro ⟨steps, hne, hsteps, htext, h⟩
    rw [map_splitAtChar_eq_iff.2 ⟨hne, hsteps, htext⟩]
    exact h

instance (path : NodePath) (text : String) (target : NodePath) :
    Decidable (path.LeadsTo text target) :=
  decidable_of_iff _ resolve?_eq_some_iff

theorem resolve?_of_slash {text : String} (path : NodePath) (h : text.toList.head? = some '/') :
    path.resolve? text = none := by
  obtain ⟨cs, hcs⟩ := List.head?_eq_some_iff.1 h
  unfold resolve?
  rw [hcs]
  rfl

theorem ofAbsolute?_eq_some {root text : String} {path : NodePath}
    (h : ofAbsolute? root text = some path) :
    '/' ∉ root.toList ∧ text = absolute root path := by
  unfold ofAbsolute? at h
  split at h
  · next cs hcs =>
    split at h
    · cases h
    · next first steps hsteps =>
      split at h
      · next hfirst =>
        cases h
        rw [← String.toList_ofList (l := cs)] at hsteps
        obtain ⟨-, hnames, htext⟩ := map_splitAtChar_eq_iff.1 hsteps
        rw [Bool.and_eq_true, beq_iff_eq] at hfirst
        rw [hfirst.1] at hnames htext
        refine ⟨hnames root List.mem_cons_self, ?_⟩
        unfold absolute
        rw [← htext, ← String.toList_inj, hcs]
        simp
      · cases h
  · cases h

theorem ofAbsolute?_absolute {root : String} {path : NodePath} (hroot : '/' ∉ root.toList)
    (hnamed : path.IsNamed) : ofAbsolute? root (absolute root path) = some path := by
  have hsplit : (splitAtChar '/' ("/".intercalate (root :: path)).toList).map String.ofList =
      root :: path :=
    map_splitAtChar_eq_iff.2
      ⟨by simp, List.forall_mem_cons.2 ⟨hroot, hnamed.slash_not_mem⟩, rfl⟩
  have htext : (absolute root path).toList = '/' :: ("/".intercalate (root :: path)).toList := by
    simp [absolute]
  unfold ofAbsolute?
  rw [htext]
  simp only [hsplit]
  rw [if_pos]
  rw [Bool.and_eq_true, beq_self_eq_true, List.all_eq_true]
  refine ⟨rfl, ?_⟩
  intro name hname
  obtain ⟨hempty, hdot, hdots⟩ := isNameStep_of_isName (hnamed name hname)
  simp [isNameStep, hempty, hdot, hdots]

theorem follow?_replicate_append (path up : NodePath) (steps : List String) :
    follow? (path ++ up) (List.replicate up.length ".." ++ steps) = follow? path steps := by
  induction up using List.reverseRecOn with
  | nil => simp
  | append_singleton up name ih =>
    rw [List.length_append, List.length_singleton, List.replicate_succ, List.cons_append]
    simp only [follow?]
    rw [if_neg (by decide), if_pos trivial, ← ih]
    simp [parent?, ← List.append_assoc]

theorem follow?_names {names : NodePath} (h : names.IsNamed) (path : NodePath) :
    follow? path names = some (path ++ names) := by
  induction names generalizing path with
  | nil => simp [follow?]
  | cons name names ih =>
    obtain ⟨hempty, hdot, hdots⟩ := isNameStep_of_isName (h name List.mem_cons_self)
    have hnames : IsNamed names := fun other hother => h other (List.mem_cons_of_mem _ hother)
    unfold follow?
    rw [if_neg hdot, if_neg hdots, if_neg hempty, ih hnames]
    simp [child]

end NodePath

namespace RelativePath

def steps (relative : RelativePath) : List String :=
  (if relative.climbs = 0 then ["."] else List.replicate relative.climbs "..") ++ relative.names

theorem text_eq_intercalate {relative : RelativePath} (h : relative.names ≠ []) :
    relative.text = "/".intercalate relative.steps := by
  obtain ⟨climbs, names⟩ := relative
  unfold text steps
  dsimp only at h ⊢
  cases climbs with
  | zero =>
    rw [if_pos rfl, if_pos rfl, List.singleton_append, String.intercalate_cons_of_ne_nil h]
    rfl
  | succ climbs =>
    rw [if_neg (by omega), if_neg (by omega)]
    induction climbs with
    | zero =>
      rw [List.replicate_one, List.replicate_one, List.singleton_append,
        String.intercalate_cons_of_ne_nil h]
      rfl
    | succ climbs ih =>
      rw [List.replicate_succ (n := climbs + 1), List.replicate_succ (n := climbs + 1),
        List.cons_append, String.intercalate_cons_of_ne_nil (by simp [h]), ← ih, String.join_cons,
        String.append_assoc]
      rfl

theorem steps_ne_nil (relative : RelativePath) : relative.steps ≠ [] := by
  unfold steps
  split
  · simp
  · next h =>
    apply List.append_ne_nil_of_left_ne_nil
    simpa using h

theorem slash_not_mem_steps {relative : RelativePath}
    (h : ∀ name ∈ relative.names, '/' ∉ name.toList) :
    ∀ step ∈ relative.steps, '/' ∉ step.toList := by
  intro step hstep
  unfold steps at hstep
  rcases List.mem_append.1 hstep with hstep | hstep
  · have : step = "." ∨ step = ".." := by
      split at hstep
      · left
        simpa using hstep
      · right
        exact List.eq_of_mem_replicate hstep
    rcases this with rfl | rfl <;> decide
  · exact h step hstep

theorem splitAtChar_text {relative : RelativePath} (hne : relative.names ≠ [])
    (h : ∀ name ∈ relative.names, '/' ∉ name.toList) :
    (splitAtChar '/' relative.text.toList).map String.ofList = relative.steps :=
  map_splitAtChar_eq_iff.2
    ⟨steps_ne_nil relative, slash_not_mem_steps h, text_eq_intercalate hne⟩

end RelativePath

namespace NodePath

theorem follow?_steps (common up : NodePath) {down : NodePath} (h : down.IsNamed) :
    follow? (common ++ up) (RelativePath.steps ⟨up.length, down⟩) = some (common ++ down) := by
  unfold RelativePath.steps
  dsimp only
  cases up with
  | nil =>
    rw [List.length_nil, if_pos rfl, List.append_nil, List.singleton_append, follow?, if_pos rfl]
    exact follow?_names h common
  | cons name up =>
    rw [List.length_cons, if_neg (by omega), ← List.length_cons, follow?_replicate_append]
    exact follow?_names h common

theorem isNamed_relativeTo {path target : NodePath} (hne : target ≠ []) (hnamed : target.IsNamed)
    (hout : ¬ Encloses target path) :
    (path.relativeTo target).names ≠ [] ∧ IsNamed (path.relativeTo target).names := by
  obtain ⟨common, up, down, -, rfl, hdown, heq⟩ := relativeTo_eq hne hout
  rw [heq]
  exact ⟨hdown, (isNamed_append.1 hnamed).2⟩

theorem resolve?_text_relativeTo {path target : NodePath} (hne : target ≠ [])
    (hnamed : target.IsNamed) (hout : ¬ Encloses target path) :
    path.resolve? (path.relativeTo target).text = some target := by
  obtain ⟨hnames, hvalid⟩ := isNamed_relativeTo hne hnamed hout
  unfold resolve?
  rw [RelativePath.splitAtChar_text hnames hvalid.slash_not_mem]
  obtain ⟨common, up, down, rfl, rfl, -, heq⟩ := relativeTo_eq hne hout
  rw [heq]
  exact follow?_steps common up (isNamed_append.1 hnamed).2

end NodePath

end Questionnaire
