import Questionnaire.OrderedMap
import Mathlib.Data.List.Induction
import Mathlib.Data.List.Nodup
import Mathlib.Data.List.Perm.Subperm

/-!
This module contains the theory of ordered maps: what a list of entries becomes as a map, and how
entries and look-ups go together. It starts with lists whose elements correspond to each other.
-/

namespace Questionnaire

section Correspondence

theorem forall₂_comp {α β γ : Type} {p : α → β → Prop} {q : β → γ → Prop} {as : List α} {bs : List β}
    {cs : List γ} (h : as.Forall₂ p bs) (h' : bs.Forall₂ q cs) :
    as.Forall₂ (fun a c => ∃ b, p a b ∧ q b c) cs := by
  induction h generalizing cs with
  | nil =>
    cases h'
    exact .nil
  | cons hhead _ ih =>
    cases h' with
    | cons hhead' htail => exact .cons ⟨_, hhead, hhead'⟩ (ih htail)

theorem exists_mem_of_forall₂ {α β : Type} {r : α → β → Prop} {as : List α} {bs : List β}
    (h : as.Forall₂ r bs) : ∀ a ∈ as, ∃ b ∈ bs, r a b := by
  induction h with
  | nil => simp
  | cons hhead _ ih =>
    rw [List.forall_mem_cons]
    refine ⟨⟨_, List.mem_cons_self, hhead⟩, ?_⟩
    intro a ha
    obtain ⟨b, hb, hr⟩ := ih a ha
    exact ⟨b, List.mem_cons_of_mem _ hb, hr⟩

theorem eq_of_perm_of_length_le_one {α : Type} {as bs : List α} (h : as.Perm bs)
    (hlength : as.length ≤ 1) : as = bs := by
  match as with
  | [] => exact (List.nil_perm.1 h).symm
  | [a] => exact List.singleton_perm.1 h
  | _ :: _ :: as => simp at hlength

end Correspondence

namespace OrderedMap

variable {α β : Type}

theorem insertEntry_of_notMem {key : String} {value : α} {entries : List (String × α)}
    (h : key ∉ entries.map Prod.fst) : insertEntry key value entries = entries ++ [(key, value)] := by
  induction entries with
  | nil => rfl
  | cons entry entries ih =>
    obtain ⟨k, v⟩ := entry
    rw [List.map_cons, List.mem_cons, not_or] at h
    rw [insertEntry, if_neg (fun hk => h.1 hk.symm), ih h.2, List.cons_append]

theorem insertEntry_append_of_notMem {key : String} {old value : α} {entries : List (String × α)}
    (h : key ∉ entries.map Prod.fst) :
    insertEntry key value (entries ++ [(key, old)]) = entries ++ [(key, value)] := by
  induction entries with
  | nil => simp [insertEntry]
  | cons entry entries ih =>
    rw [List.map_cons, List.mem_cons, not_or] at h
    rw [List.cons_append, insertEntry, if_neg fun heq => h.1 heq.symm, ih h.2, List.cons_append]

def insertAll (m : OrderedMap α) (entries : List (String × α)) : OrderedMap α :=
  entries.foldl (fun m (key, value) => m.insert key value) m

theorem entries_insertAll {entries : List (String × α)} {m : OrderedMap α}
    (h : ((m.entries ++ entries).map Prod.fst).Nodup) :
    (m.insertAll entries).entries = m.entries ++ entries := by
  induction entries generalizing m with
  | nil => simp [insertAll]
  | cons entry entries ih =>
    obtain ⟨key, value⟩ := entry
    have hkey : key ∉ m.entries.map Prod.fst := by
      rw [List.map_append, List.nodup_append] at h
      intro hmem
      exact h.2.2 _ hmem _ (by simp) rfl
    have hinsert : (m.insert key value).entries = m.entries ++ [(key, value)] :=
      insertEntry_of_notMem hkey
    have hnext : ((m.insert key value).insertAll entries).entries =
        (m.insert key value).entries ++ entries := by
      apply ih
      rw [hinsert, List.append_assoc, List.singleton_append]
      exact h
    rw [hinsert, List.append_assoc, List.singleton_append] at hnext
    exact hnext

theorem entries_ofList {entries : List (String × α)} (h : (entries.map Prod.fst).Nodup) :
    (ofList entries).entries = entries :=
  entries_insertAll h

theorem eq_of_entries_eq {a b : OrderedMap α} (h : a.entries = b.entries) : a = b := by
  cases a
  cases b
  cases h
  rfl

theorem ofList_entries (m : OrderedMap α) : ofList m.entries = m :=
  eq_of_entries_eq (entries_ofList m.nodup)

def filterKeys (p : String → Bool) (m : OrderedMap α) : OrderedMap α where
  entries := m.entries.filter fun entry => p entry.1
  nodup := List.Nodup.sublist (List.filter_sublist.map Prod.fst) m.nodup

theorem lookup_eq_some_of_mem {key : String} {value : α} {entries : List (String × α)}
    (hnodup : (entries.map Prod.fst).Nodup) (h : (key, value) ∈ entries) :
    entries.lookup key = some value := by
  induction entries with
  | nil => cases h
  | cons entry entries ih =>
    obtain ⟨k, v⟩ := entry
    rw [List.map_cons, List.nodup_cons] at hnodup
    rcases List.mem_cons.1 h with heq | hmem
    · cases heq
      exact List.lookup_cons_self
    · have hne : key ≠ k := by
        rintro rfl
        exact hnodup.1 (List.mem_map.2 ⟨_, hmem, rfl⟩)
      rw [List.lookup_cons, beq_eq_false_iff_ne.2 hne]
      exact ih hnodup.2 hmem

theorem mem_of_lookup_eq_some {key : String} {value : α} {entries : List (String × α)}
    (h : entries.lookup key = some value) : (key, value) ∈ entries := by
  induction entries with
  | nil => cases h
  | cons entry entries ih =>
    obtain ⟨k, v⟩ := entry
    by_cases hk : key = k
    · subst hk
      rw [List.lookup_cons_self] at h
      cases h
      exact List.mem_cons_self
    · rw [List.lookup_cons, beq_eq_false_iff_ne.2 hk] at h
      exact List.mem_cons_of_mem _ (ih h)

theorem lookup_eq_none_of_notMem {key : String} {entries : List (String × α)}
    (h : key ∉ entries.map Prod.fst) : entries.lookup key = none := by
  cases hlookup : entries.lookup key with
  | none => rfl
  | some value => exact absurd (List.mem_map_of_mem (mem_of_lookup_eq_some hlookup)) h

theorem get?_eq_some_iff {m : OrderedMap α} {key : String} {value : α} :
    m.get? key = some value ↔ (key, value) ∈ m.entries := by
  constructor
  · exact mem_of_lookup_eq_some
  · exact lookup_eq_some_of_mem m.nodup

theorem get?_eq_none_iff {m : OrderedMap α} {key : String} :
    m.get? key = none ↔ key ∉ m.keys := by
  constructor
  · intro h hmem
    obtain ⟨⟨k, v⟩, hentry, rfl⟩ := List.mem_map.1 hmem
    rw [get?_eq_some_iff.2 hentry] at h
    cases h
  · exact lookup_eq_none_of_notMem

theorem get?_filterKeys {p : String → Bool} {key : String} (h : p key = true) (m : OrderedMap α) :
    (m.filterKeys p).get? key = m.get? key := by
  apply Option.ext
  intro value
  rw [get?_eq_some_iff, get?_eq_some_iff]
  unfold filterKeys
  rw [List.mem_filter]
  exact and_iff_left h

theorem agrees_self {same : α → α → Bool} (hsame : ∀ value, same value value = true)
    (m : OrderedMap α) : m.agrees same m = true := by
  unfold agrees
  rw [Bool.and_eq_true]
  refine ⟨by simp, ?_⟩
  rw [List.all_eq_true]
  rintro ⟨key, value⟩ hentry
  dsimp only
  rw [get?_eq_some_iff.2 hentry]
  exact hsame value

theorem exists_mem_of_agrees {same : α → β → Bool} {a : OrderedMap α} {b : OrderedMap β}
    (h : a.agrees same b = true) {key : String} {value : α} (hmem : (key, value) ∈ a.entries) :
    ∃ value', (key, value') ∈ b.entries ∧ same value value' = true := by
  unfold agrees at h
  rw [Bool.and_eq_true, List.all_eq_true] at h
  have hany : (b.get? key).any (same value) = true := h.2 _ hmem
  cases hget : b.get? key with
  | none =>
    rw [hget] at hany
    cases hany
  | some value' =>
    rw [hget] at hany
    exact ⟨value', get?_eq_some_iff.1 hget, hany⟩

theorem perm_of_get?_eq {a b : OrderedMap α} (h : ∀ key, a.get? key = b.get? key) :
    a.entries.Perm b.entries := by
  apply (List.perm_ext_iff_of_nodup (List.Nodup.of_map _ a.nodup) (List.Nodup.of_map _ b.nodup)).2
  rintro ⟨key, value⟩
  rw [← get?_eq_some_iff, h, get?_eq_some_iff]

section InsertAll

variable {m : OrderedMap α} {entries entries' : List (String × α)}

theorem lookup_eq_of_perm (hnodup : (entries.map Prod.fst).Nodup) (h : entries.Perm entries')
    (key : String) : entries.lookup key = entries'.lookup key := by
  have hnodup' : (entries'.map Prod.fst).Nodup := (h.map Prod.fst).nodup_iff.1 hnodup
  apply Option.ext
  intro value
  constructor
  · intro hvalue
    exact lookup_eq_some_of_mem hnodup' (h.mem_iff.1 (mem_of_lookup_eq_some hvalue))
  · intro hvalue
    exact lookup_eq_some_of_mem hnodup (h.mem_iff.2 (mem_of_lookup_eq_some hvalue))

theorem get?_insertAll (hnodup : (entries.map Prod.fst).Nodup) (m : OrderedMap α) (key : String) :
    (m.insertAll entries).get? key = (entries.lookup key).or (m.get? key) := by
  induction entries generalizing m with
  | nil => rfl
  | cons entry entries ih =>
    obtain ⟨k, v⟩ := entry
    obtain ⟨hk, hentries⟩ := List.nodup_cons.1 hnodup
    have hinsert : m.insertAll ((k, v) :: entries) = (m.insert k v).insertAll entries := rfl
    rw [hinsert, ih hentries, get?_insert]
    by_cases hkey : key = k
    · subst hkey
      rw [lookup_eq_none_of_notMem hk, if_pos rfl, List.lookup_cons_self]
      rfl
    · rw [if_neg hkey, List.lookup_cons, beq_eq_false_iff_ne.2 hkey]

theorem perm_insertAll (hnodup : (entries.map Prod.fst).Nodup) (h : entries.Perm entries')
    (m : OrderedMap α) : (m.insertAll entries).entries.Perm (m.insertAll entries').entries := by
  apply perm_of_get?_eq
  intro key
  rw [get?_insertAll hnodup, get?_insertAll ((h.map Prod.fst).nodup_iff.1 hnodup),
    lookup_eq_of_perm hnodup h]

theorem filter_insertEntry {key : String} {value : α} {names : List String} (h : key ∈ names)
    (entries : List (String × α)) :
    (insertEntry key value entries).filter (fun entry => entry.1 ∉ names) =
      entries.filter fun entry => entry.1 ∉ names := by
  induction entries with
  | nil => simp [insertEntry, h]
  | cons entry entries ih =>
    obtain ⟨k, v⟩ := entry
    unfold insertEntry
    split
    · next heq => simp [heq, h]
    · rw [List.filter_cons, List.filter_cons, ih]

theorem filter_insertAll {names : List String} (h : ∀ entry ∈ entries, entry.1 ∈ names)
    (m : OrderedMap α) :
    (m.insertAll entries).entries.filter (fun entry => entry.1 ∉ names) =
      m.entries.filter fun entry => entry.1 ∉ names := by
  induction entries generalizing m with
  | nil => rfl
  | cons entry entries ih =>
    obtain ⟨k, v⟩ := entry
    have hinsert : m.insertAll ((k, v) :: entries) = (m.insert k v).insertAll entries := rfl
    rw [hinsert, ih fun entry hentry => h entry (List.mem_cons_of_mem _ hentry)]
    exact filter_insertEntry (h _ List.mem_cons_self) m.entries

theorem ofList_append (entries entries' : List (String × α)) :
    ofList (entries ++ entries') = (ofList entries).insertAll entries' :=
  List.foldl_append

end InsertAll

section Agreement

variable {same : α → β → Bool} {a : OrderedMap α} {b : OrderedMap β}

theorem keys_perm_of_agrees (h : a.agrees same b = true) : a.keys.Perm b.keys := by
  have hsubset : a.keys ⊆ b.keys := by
    intro key hkey
    obtain ⟨⟨key, value⟩, hentry, rfl⟩ := List.mem_map.1 hkey
    obtain ⟨value', hvalue', -⟩ := exists_mem_of_agrees h hentry
    exact List.mem_map_of_mem hvalue'
  apply (List.subperm_of_subset a.nodup hsubset).perm_of_length_le
  unfold agrees at h
  rw [Bool.and_eq_true, beq_iff_eq] at h
  unfold keys
  rw [List.length_map, List.length_map]
  omega

theorem agrees_iff : a.agrees same b = true ↔
    ∀ key, Option.Rel (fun value value' => same value value' = true) (a.get? key) (b.get? key) := by
  constructor
  · intro h key
    cases hget : a.get? key with
    | none =>
      have hkey : key ∉ b.keys := by
        rw [← (keys_perm_of_agrees h).mem_iff]
        exact get?_eq_none_iff.1 hget
      rw [get?_eq_none_iff.2 hkey]
      exact .none
    | some value =>
      obtain ⟨value', hvalue', hsame⟩ := exists_mem_of_agrees h (get?_eq_some_iff.1 hget)
      rw [get?_eq_some_iff.2 hvalue']
      exact .some hsame
  · intro h
    have hkeys : a.keys.Perm b.keys := by
      apply (List.perm_ext_iff_of_nodup a.nodup b.nodup).2
      intro key
      have hkey := h key
      have hnone : a.get? key = none ↔ b.get? key = none := by
        generalize a.get? key = value? at hkey
        generalize b.get? key = value?' at hkey
        cases hkey <;> simp
      rw [get?_eq_none_iff, get?_eq_none_iff] at hnone
      exact not_iff_not.1 hnone
    have hlength := hkeys.length_eq
    unfold keys at hlength
    rw [List.length_map, List.length_map] at hlength
    unfold agrees
    rw [hlength, beq_self_eq_true, Bool.true_and, List.all_eq_true]
    rintro ⟨key, value⟩ hentry
    dsimp only
    have hkey := h key
    rw [get?_eq_some_iff.2 hentry] at hkey
    cases hget : b.get? key with
    | none =>
      rw [hget] at hkey
      cases hkey
    | some value' =>
      rw [hget] at hkey
      cases hkey with
      | some hsame => exact hsame

theorem agrees_beq_iff [DecidableEq α] {a b : OrderedMap α} :
    a.agrees (· == ·) b = true ↔ ∀ key, a.get? key = b.get? key := by
  rw [agrees_iff]
  apply forall_congr'
  intro key
  cases a.get? key with
  | none => cases b.get? key <;> simp
  | some value => cases b.get? key <;> simp

def entriesBy (m : OrderedMap α) (names : List String) : List (String × α) :=
  names.filterMap fun key => (m.get? key).map (key, ·)

theorem entriesBy_keys (m : OrderedMap α) : m.entriesBy m.keys = m.entries := by
  unfold entriesBy keys
  rw [List.filterMap_map]
  have hentry : ∀ entry ∈ m.entries,
      ((fun key => (m.get? key).map (key, ·)) ∘ Prod.fst) entry = some entry := by
    intro entry hentry
    rw [Function.comp_apply, get?_eq_some_iff.2 hentry]
    rfl
  rw [List.filterMap_congr hentry, List.filterMap_some]

theorem forall₂_entriesBy {r : α → β → Prop} {m : OrderedMap β} {entries : List (String × α)}
    (h : ∀ entry ∈ entries, ∃ value, (entry.1, value) ∈ m.entries ∧ r entry.2 value) :
    entries.Forall₂ (fun entry entry' => entry.1 = entry'.1 ∧ r entry.2 entry'.2)
      (m.entriesBy (entries.map Prod.fst)) := by
  induction entries with
  | nil => exact .nil
  | cons entry entries ih =>
    obtain ⟨value, hvalue, hrelated⟩ := h _ List.mem_cons_self
    have hrest := ih fun entry hentry => h entry (List.mem_cons_of_mem _ hentry)
    unfold entriesBy at hrest ⊢
    rw [List.map_cons, List.filterMap_cons, get?_eq_some_iff.2 hvalue]
    exact .cons ⟨rfl, hrelated⟩ hrest

theorem exists_perm_of_agrees (h : a.agrees same b = true) :
    ∃ entries, entries.Perm b.entries ∧ a.entries.Forall₂
      (fun entry entry' => entry.1 = entry'.1 ∧ same entry.2 entry'.2 = true) entries := by
  refine ⟨b.entriesBy a.keys, ?_, ?_⟩
  · rw [← entriesBy_keys b]
    exact (keys_perm_of_agrees h).filterMap fun key => (b.get? key).map (key, ·)
  · exact forall₂_entriesBy (r := fun value value' => same value value' = true)
      fun entry hentry => exists_mem_of_agrees h hentry

end Agreement

theorem mem_entries_insert {m : OrderedMap α} {key : String} {value : α} {entry : String × α}
    (h : entry ∈ (m.insert key value).entries) : entry = (key, value) ∨ entry ∈ m.entries := by
  obtain ⟨k, v⟩ := entry
  have hget := get?_eq_some_iff.2 h
  rw [get?_insert] at hget
  split at hget
  · next hk =>
    cases hget
    left
    rw [hk]
  · right
    exact get?_eq_some_iff.1 hget

section FilterMap

variable {ι : Type} {items : List ι} {key : ι → String} {value? : ι → Option α}

theorem nodup_filterMap (hnodup : (items.map key).Nodup) :
    ((items.filterMap fun item => (value? item).map (key item, ·)).map Prod.fst).Nodup := by
  apply List.Nodup.sublist _ hnodup
  clear hnodup
  induction items with
  | nil => exact .slnil
  | cons item items ih =>
    rw [List.filterMap_cons]
    cases value? item with
    | none => exact ih.cons _
    | some value => exact ih.cons_cons _

theorem lookup_filterMap (hnodup : (items.map key).Nodup) {item : ι} (hitem : item ∈ items) :
    (items.filterMap fun item => (value? item).map (key item, ·)).lookup (key item) =
      value? item := by
  apply Option.ext
  intro value
  constructor
  · intro hvalue
    obtain ⟨item', hitem', heq⟩ := List.mem_filterMap.1 (mem_of_lookup_eq_some hvalue)
    obtain ⟨value', hvalue', heq⟩ := Option.map_eq_some_iff.1 heq
    obtain ⟨hkey, rfl⟩ := Prod.mk.inj heq
    rw [← List.inj_on_of_nodup_map hnodup hitem' hitem hkey]
    exact hvalue'
  · intro hvalue
    apply lookup_eq_some_of_mem (nodup_filterMap hnodup)
    exact List.mem_filterMap.2 ⟨item, hitem, by rw [hvalue]; rfl⟩

theorem get?_ofList_filterMap (hnodup : (items.map key).Nodup) {item : ι} (hitem : item ∈ items) :
    (ofList (items.filterMap fun item => (value? item).map (key item, ·))).get? (key item) =
      value? item := by
  unfold get?
  rw [entries_ofList (nodup_filterMap hnodup)]
  exact lookup_filterMap hnodup hitem

theorem get?_ofList_items (key? : ι → Option String) (items : List ι) (key : String) :
    (ofList (items.filterMap fun item => (key? item).map (·, item))).get? key =
      (items.filter (key? · == some key)).getLast? := by
  induction items using List.reverseRecOn with
  | nil => rfl
  | append_singleton items item ih =>
    rw [List.filterMap_append, ofList_append, List.filter_append]
    cases hown : key? item with
    | none => simpa [insertAll, hown] using ih
    | some own =>
      have hinsert (m : OrderedMap ι) :
          m.insertAll ([item].filterMap fun item => (key? item).map (·, item)) =
            m.insert own item := by
        simp [insertAll, hown]
      rw [hinsert, get?_insert]
      by_cases hkey : key = own
      · simp [hown, hkey]
      · simp [hown, hkey, Ne.symm hkey, ih]

theorem map_get?_ofList_items {key? : ι → Option String} {put : ι → ι}
    (hput : ∀ item, key? (put item) = key? item) (items : List ι) (key : String) :
    ((ofList (items.filterMap fun item => (key? item).map (·, item))).get? key).map put =
      (ofList ((items.map put).filterMap fun item => (key? item).map (·, item))).get? key := by
  rw [get?_ofList_items, get?_ofList_items, List.filter_map, List.getLast?_map]
  unfold Function.comp
  simp only [hput]

theorem get?_ofList_items_of_perm {key? : ι → Option String} {items items' : List ι}
    (hnodup : (items.filterMap key?).Nodup) (h : items.Perm items') (key : String) :
    (ofList (items.filterMap fun item => (key? item).map (·, item))).get? key =
      (ofList (items'.filterMap fun item => (key? item).map (·, item))).get? key := by
  rw [get?_ofList_items, get?_ofList_items]
  have hlength : (items.filter (key? · == some key)).length ≤ 1 := by
    have hcount := List.nodup_iff_count_le_one.1 hnodup key
    rwa [List.count_filterMap, List.countP_eq_length_filter] at hcount
  rw [eq_of_perm_of_length_le_one (h.filter _) hlength]

end FilterMap

end OrderedMap

end Questionnaire
