import Questionnaire.Proofs.OrderedMap
import Questionnaire.Proofs.Text
import Questionnaire.Localized

/-!
This module contains the theory of texts in several languages: a text is made of its entries again,
and trimming leaves tidy texts alone.
-/

namespace Questionnaire

theorem nodup_ascending (names : List String) : (ascending names).Nodup :=
  (pairwise_ascending names).imp String.ne_of_lt

theorem ascending_congr {names names' : List String} (h : ∀ name, name ∈ names ↔ name ∈ names') :
    ascending names = ascending names' := by
  apply List.Perm.eq_of_pairwise _ (pairwise_ascending names) (pairwise_ascending names')
  · apply (List.perm_ext_iff_of_nodup (nodup_ascending names) (nodup_ascending names')).2
    intro name
    rw [mem_ascending, mem_ascending, h]
  · intro name name' _ _ hlt hlt'
    exact absurd (String.lt_trans hlt hlt') (String.lt_irrefl name)

namespace Localized

theorem isEmpty_iff {t : Localized} : t.isEmpty = true ↔ t.entries = [] :=
  List.isEmpty_iff

theorem nodup_languages (t : Localized) : t.languages.Nodup :=
  t.ascends.imp String.ne_of_lt

theorem get?_eq_some_iff {t : Localized} {language value : String} :
    t.get? language = some value ↔ (language, value) ∈ t.entries := by
  constructor
  · exact OrderedMap.mem_of_lookup_eq_some
  · exact OrderedMap.lookup_eq_some_of_mem t.nodup_languages

def insertAll (t : Localized) (entries : List (String × String)) : Localized :=
  entries.foldl (fun t (language, value) => t.insert language value) t

theorem insertAll_cons (t : Localized) (language value : String) (entries : List (String × String)) :
    t.insertAll ((language, value) :: entries) = (t.insert language value).insertAll entries :=
  rfl

theorem get?_insertAll {entries : List (String × String)} {t : Localized} {language : String}
    (hnodup : (entries.map Prod.fst).Nodup) (hne : ∀ entry ∈ entries, entry.2 ≠ "") :
    (t.insertAll entries).get? language =
      (entries.lookup language).or (t.get? language) := by
  induction entries generalizing t with
  | nil => rfl
  | cons entry entries ih =>
    obtain ⟨l, v⟩ := entry
    rw [List.map_cons, List.nodup_cons] at hnodup
    rw [insertAll_cons, ih hnodup.2 fun entry hentry => hne entry (List.mem_cons_of_mem _ hentry),
      get?_insert _ _ _ (hne _ List.mem_cons_self)]
    by_cases hl : language = l
    · subst hl
      rw [OrderedMap.lookup_eq_none_of_notMem hnodup.1, if_pos rfl, List.lookup_cons_self]
      rfl
    · rw [if_neg hl, List.lookup_cons, beq_eq_false_iff_ne.2 hl]

theorem insertAll_eq_of_perm {entries entries' : List (String × String)}
    (hnodup : (entries.map Prod.fst).Nodup) (hne : ∀ entry ∈ entries, entry.2 ≠ "")
    (h : entries.Perm entries') (t : Localized) : t.insertAll entries = t.insertAll entries' := by
  apply ext_get?
  intro language
  rw [get?_insertAll hnodup hne, get?_insertAll ((h.map Prod.fst).nodup_iff.1 hnodup)
    fun entry hentry => hne entry (h.mem_iff.2 hentry), OrderedMap.lookup_eq_of_perm hnodup h]

theorem ofList_entries (t : Localized) : ofList t.entries = t := by
  apply ext_get?
  intro language
  have hget : (ofList t.entries).get? language =
      (t.entries.lookup language).or (empty.get? language) :=
    get?_insertAll t.nodup_languages t.nonempty
  rw [get?_empty, Option.or_none] at hget
  exact hget

theorem mem_of_get?_insertAll {entries : List (String × String)} {t : Localized}
    {language value : String}
    (h : (t.insertAll entries).get? language = some value) :
    (language, value) ∈ entries ∨ t.get? language = some value := by
  induction entries generalizing t with
  | nil => exact Or.inr h
  | cons entry entries ih =>
    obtain ⟨l, v⟩ := entry
    rcases ih h with hmem | hget
    · exact Or.inl (List.mem_cons_of_mem _ hmem)
    · by_cases hv : v = ""
      · rw [hv] at hget
        exact Or.inr hget
      · rw [get?_insert _ _ _ hv] at hget
        split at hget
        · next hl =>
          cases hget
          rw [hl]
          exact Or.inl List.mem_cons_self
        · exact Or.inr hget

theorem get?_insertAll_ne_none {entries : List (String × String)} {t : Localized}
    {language : String} (hne : ∀ entry ∈ entries, entry.2 ≠ "")
    (h : (∃ value, (language, value) ∈ entries) ∨ t.get? language ≠ none) :
    (t.insertAll entries).get? language ≠ none := by
  induction entries generalizing t with
  | nil => simpa [insertAll] using h
  | cons entry entries ih =>
    obtain ⟨l, v⟩ := entry
    apply ih fun entry hentry => hne entry (List.mem_cons_of_mem _ hentry)
    rw [get?_insert _ _ _ (hne _ List.mem_cons_self)]
    rcases h with ⟨value, hmem⟩ | hget
    · rcases List.mem_cons.1 hmem with heq | hmem
      · cases heq
        simp
      · exact Or.inl ⟨value, hmem⟩
    · right
      split
      · simp
      · exact hget

theorem ofList_eq {entries : List (String × String)} {t : Localized}
    (hsound : ∀ entry ∈ entries, t.get? entry.1 = some entry.2)
    (hcomplete : ∀ entry ∈ t.entries, entry ∈ entries) : ofList entries = t := by
  have hne : ∀ entry ∈ entries, entry.2 ≠ "" := by
    intro entry hentry
    exact t.nonempty _ (get?_eq_some_iff.1 (hsound entry hentry))
  apply ext_get?
  intro language
  cases hget : t.get? language with
  | none =>
    rw [Option.eq_none_iff_forall_ne_some]
    intro value hvalue
    rcases mem_of_get?_insertAll hvalue with hmem | hempty
    · rw [hsound _ hmem] at hget
      cases hget
    · cases hempty
  | some value =>
    have hmem := hcomplete _ (get?_eq_some_iff.1 hget)
    obtain ⟨value', hvalue'⟩ := Option.ne_none_iff_exists'.1
      (get?_insertAll_ne_none (t := empty) hne (Or.inl ⟨value, hmem⟩))
    rcases mem_of_get?_insertAll hvalue' with hmem' | hempty
    · rw [hsound _ hmem'] at hget
      cases hget
      exact hvalue'
    · cases hempty

@[mk_iff]
structure IsTidy (t : Localized) : Prop where
  language_eq : ∀ language ∈ t.languages, Text.trim language = language
  value_isTidy : ∀ entry ∈ t.entries, Text.IsTidy entry.2

instance (t : Localized) : Decidable t.IsTidy :=
  decidable_of_iff _ (isTidy_iff t).symm

theorem isTidy_empty : IsTidy empty := by
  constructor
  · intro language hlanguage
    cases hlanguage
  · intro entry hentry
    cases hentry

theorem mem_entries_insert {t : Localized} {language value : String} {entry : String × String}
    (h : entry ∈ (t.insert language value).entries) :
    entry = (language, value) ∨ entry ∈ t.entries := by
  unfold insert at h
  split at h
  · exact Or.inr h
  · exact mem_insertEntry h

theorem IsTidy.insert {t : Localized} (h : t.IsTidy) {language value : String}
    (hlanguage : Text.trim language = language) (hvalue : Text.IsTidy value) :
    (t.insert language value).IsTidy := by
  constructor
  · intro language' hlanguage'
    obtain ⟨entry, hentry, rfl⟩ := List.mem_map.1 hlanguage'
    rcases mem_entries_insert hentry with rfl | hentry
    · exact hlanguage
    · exact h.language_eq _ (List.mem_map.2 ⟨entry, hentry, rfl⟩)
  · intro entry hentry
    rcases mem_entries_insert hentry with rfl | hentry
    · exact hvalue
    · exact h.value_isTidy entry hentry

end Localized

end Questionnaire
