/-!
This module contains text in several languages.
-/

namespace Questionnaire

def defaultLanguage : String := "default"

def insertAscending (name : String) : List String → List String
  | [] => [name]
  | n :: names =>
    if name < n then name :: n :: names
    else if name = n then n :: names
    else n :: insertAscending name names

theorem mem_insertAscending {name other : String} {names : List String} :
    other ∈ insertAscending name names ↔ other = name ∨ other ∈ names := by
  induction names with
  | nil => simp [insertAscending]
  | cons n names ih =>
    unfold insertAscending
    split
    · simp
    · split
      · rename_i h
        simp [h]
      · rw [List.mem_cons, ih, List.mem_cons]
        exact or_left_comm

theorem pairwise_insertAscending {name : String} {names : List String}
    (h : names.Pairwise (· < ·)) : (insertAscending name names).Pairwise (· < ·) := by
  induction names with
  | nil => simp [insertAscending]
  | cons n names ih =>
    obtain ⟨hn, hnames⟩ := List.pairwise_cons.1 h
    unfold insertAscending
    split
    · rename_i hlt
      refine List.pairwise_cons.2 ⟨fun other hother => ?_, h⟩
      rcases List.mem_cons.1 hother with rfl | hother
      · exact hlt
      · exact String.lt_trans hlt (hn _ hother)
    · rename_i hge
      split
      · exact h
      · rename_i hne
        refine List.pairwise_cons.2 ⟨fun other hother => ?_, ih hnames⟩
        rcases mem_insertAscending.1 hother with rfl | hother
        · exact Decidable.byContradiction fun hlt =>
            hne (String.le_antisymm (String.not_lt.1 hlt) (String.not_lt.1 hge))
        · exact hn _ hother

def ascending (names : List String) : List String :=
  names.foldr insertAscending []

theorem mem_ascending {name : String} {names : List String} :
    name ∈ ascending names ↔ name ∈ names := by
  induction names with
  | nil => simp [ascending]
  | cons n names ih =>
    rw [List.mem_cons, ← ih]
    exact mem_insertAscending

theorem pairwise_ascending (names : List String) : (ascending names).Pairwise (· < ·) := by
  induction names with
  | nil => exact .nil
  | cons n names ih => exact pairwise_insertAscending ih

structure Localized where
  entries : List (String × String)
  ascends : (entries.map Prod.fst).Pairwise (· < ·)
  nonempty : ∀ entry ∈ entries, entry.2 ≠ ""
deriving DecidableEq

namespace Localized

def empty : Localized := ⟨[], by simp, by simp⟩

instance : Inhabited Localized := ⟨empty⟩

def get? (t : Localized) (language : String) : Option String :=
  t.entries.lookup language

def insertEntry (language value : String) : List (String × String) → List (String × String)
  | [] => [(language, value)]
  | (l, v) :: entries =>
    if language < l then (language, value) :: (l, v) :: entries
    else if language = l then (language, value) :: entries
    else (l, v) :: insertEntry language value entries

theorem mem_insertEntry {language value : String} {entries : List (String × String)}
    {entry : String × String} (h : entry ∈ insertEntry language value entries) :
    entry = (language, value) ∨ entry ∈ entries := by
  induction entries with
  | nil => simpa [insertEntry] using h
  | cons head entries ih =>
    obtain ⟨l, v⟩ := head
    unfold insertEntry at h
    split at h
    · simpa using h
    · split at h
      · rcases List.mem_cons.1 h with h | h
        · exact Or.inl h
        · exact Or.inr (List.mem_cons_of_mem _ h)
      · rcases List.mem_cons.1 h with h | h
        · exact Or.inr (by simp [h])
        · rcases ih h with h | h
          · exact Or.inl h
          · exact Or.inr (List.mem_cons_of_mem _ h)

theorem ascends_insertEntry {language value : String} {entries : List (String × String)}
    (h : (entries.map Prod.fst).Pairwise (· < ·)) :
    ((insertEntry language value entries).map Prod.fst).Pairwise (· < ·) := by
  induction entries with
  | nil => simp [insertEntry]
  | cons head entries ih =>
    obtain ⟨l, v⟩ := head
    simp only [List.map_cons, List.pairwise_cons] at h
    obtain ⟨hl, hentries⟩ := h
    unfold insertEntry
    split
    · rename_i hlt
      simp only [List.map_cons, List.pairwise_cons]
      refine ⟨fun l' hl' => ?_, hl, hentries⟩
      rcases List.mem_cons.1 hl' with rfl | hl'
      · exact hlt
      · exact String.lt_trans hlt (hl _ hl')
    · rename_i hge
      split
      · rename_i heq
        subst heq
        simp only [List.map_cons, List.pairwise_cons]
        exact ⟨hl, hentries⟩
      · rename_i hne
        simp only [List.map_cons, List.pairwise_cons]
        refine ⟨fun l' hl' => ?_, ih hentries⟩
        obtain ⟨entry, hentry, rfl⟩ := List.mem_map.1 hl'
        rcases mem_insertEntry hentry with rfl | hentry
        · exact Decidable.byContradiction fun hlt =>
            hne (String.le_antisymm (String.not_lt.1 hlt) (String.not_lt.1 hge))
        · exact hl _ (List.mem_map.2 ⟨_, hentry, rfl⟩)

def insert (t : Localized) (language value : String) : Localized :=
  if h : value = "" then t
  else
    ⟨insertEntry language value t.entries, ascends_insertEntry t.ascends, fun entry hentry => by
      rcases mem_insertEntry hentry with rfl | hentry
      · exact h
      · exact t.nonempty _ hentry⟩

theorem lookup_insertEntry (language other value : String) (entries : List (String × String)) :
    (insertEntry language value entries).lookup other =
      if other = language then some value else entries.lookup other := by
  induction entries with
  | nil =>
    by_cases h : other = language
    · simp [insertEntry, h]
    · simp [insertEntry, List.lookup_cons, beq_eq_false_iff_ne.2 h, h]
  | cons entry entries ih =>
    obtain ⟨l, v⟩ := entry
    unfold insertEntry
    split
    · by_cases h : other = language
      · simp [h]
      · simp [List.lookup_cons, beq_eq_false_iff_ne.2 h, h]
    · split
      · rename_i hl
        subst hl
        by_cases h : other = language
        · simp [h]
        · simp [List.lookup_cons, beq_eq_false_iff_ne.2 h, h]
      · rename_i hl
        rw [List.lookup_cons, List.lookup_cons, ih]
        by_cases hother : other = l
        · subst hother
          have : ¬ other = language := fun h => hl h.symm
          simp [this]
        · simp [beq_eq_false_iff_ne.2 hother]

@[simp]
theorem get?_empty (language : String) : empty.get? language = none := rfl

theorem get?_insert (t : Localized) (language other : String) {value : String} (h : value ≠ "") :
    (t.insert language value).get? other =
      if other = language then some value else t.get? other := by
  simp only [insert, h, dite_false]
  exact lookup_insertEntry language other value t.entries

theorem lookup_eq_none {entries : List (String × String)} {language : String}
    (h : ∀ l ∈ entries.map Prod.fst, language < l) : entries.lookup language = none := by
  induction entries with
  | nil => rfl
  | cons entry entries ih =>
    obtain ⟨l, v⟩ := entry
    simp only [List.map_cons, List.mem_cons, forall_eq_or_imp] at h
    have : language ≠ l := String.ne_of_lt h.1
    simp [List.lookup_cons, beq_eq_false_iff_ne.2 this, ih h.2]

theorem entries_eq_of_lookup_eq {as bs : List (String × String)}
    (ha : (as.map Prod.fst).Pairwise (· < ·)) (hb : (bs.map Prod.fst).Pairwise (· < ·))
    (h : ∀ language, as.lookup language = bs.lookup language) : as = bs := by
  induction as generalizing bs with
  | nil =>
    cases bs with
    | nil => rfl
    | cons b bs =>
      obtain ⟨language, value⟩ := b
      simpa using h language
  | cons a as ih =>
    cases bs with
    | nil => simpa using h a.1
    | cons b bs =>
      obtain ⟨l, v⟩ := a
      obtain ⟨l', v'⟩ := b
      simp only [List.map_cons, List.pairwise_cons] at ha hb
      have hl : l = l' := by
        refine String.le_antisymm (String.not_lt.1 fun hlt => ?_) (String.not_lt.1 fun hlt => ?_)
        · have hnone : ((l, v) :: as).lookup l' = none := by
            apply lookup_eq_none
            simp only [List.map_cons, List.mem_cons, forall_eq_or_imp]
            exact ⟨hlt, fun _ hx => String.lt_trans hlt (ha.1 _ hx)⟩
          simpa [hnone] using h l'
        · have hnone : ((l', v') :: bs).lookup l = none := by
            apply lookup_eq_none
            simp only [List.map_cons, List.mem_cons, forall_eq_or_imp]
            exact ⟨hlt, fun _ hx => String.lt_trans hlt (hb.1 _ hx)⟩
          simpa [hnone] using h l
      subst hl
      have hv : v = v' := by simpa using h l
      subst hv
      congr 1
      refine ih ha.2 hb.2 fun language => ?_
      by_cases hlanguage : language = l
      · subst hlanguage
        rw [lookup_eq_none ha.1, lookup_eq_none hb.1]
      · simpa [List.lookup_cons, beq_eq_false_iff_ne.2 hlanguage] using h language

theorem ext_get? {a b : Localized} (h : ∀ language, a.get? language = b.get? language) : a = b := by
  obtain ⟨as, ha, _⟩ := a
  obtain ⟨bs, hb, _⟩ := b
  cases entries_eq_of_lookup_eq ha hb h
  rfl

def ofList (entries : List (String × String)) : Localized :=
  entries.foldl (fun t (language, value) => t.insert language value) empty

def plain (value : String) : Localized :=
  empty.insert defaultLanguage value

def defaultText? (t : Localized) : Option String :=
  t.get? defaultLanguage

def languages (t : Localized) : List String :=
  t.entries.map Prod.fst

def isEmpty (t : Localized) : Bool :=
  t.entries.isEmpty

def isMultilingual (t : Localized) : Bool :=
  t.languages.any (· != defaultLanguage)

end Localized

end Questionnaire
