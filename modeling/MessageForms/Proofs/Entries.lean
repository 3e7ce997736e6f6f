import Mathlib.Data.List.Induction
import Mathlib.Data.List.Nodup
import MessageForms.Dictionary
import MessageForms.Entries

/-!
# Laws of entries and dictionaries

Merged entries are determined by two things: the order of their keys, which is the order of
first appearance, and the value of each key, which is the last one. A dictionary is
determined by its look-ups alone.
-/

namespace MessageForms

universe u

variable {α : Type u}

namespace Entries

/-- Each key at its first place with the value that was last given to it. -/
def latest (entries : List (Text × α)) : List (Text × α) :=
  (entries.map Prod.fst).eraseDups.filterMap fun key =>
    (entries.reverse.lookup key).map fun value => (key, value)

/-- Putting a value leaves the keys as they are, or adds the new one at the end. -/
theorem keys_put (key : Text) (value : α) (entries : List (Text × α)) :
    (put key value entries).map Prod.fst =
      if key ∈ entries.map Prod.fst then entries.map Prod.fst
      else entries.map Prod.fst ++ [key] := by
  induction entries with
  | nil => simp [put]
  | cons entry entries inductionHypothesis =>
    by_cases same : entry.1 = key
    · simp [put, same]
    · simp only [put, same, if_false, List.map_cons, inductionHypothesis, List.mem_cons,
        Ne.symm same, false_or]
      split <;> rfl

/-- Putting a value repeats no key. -/
theorem nodup_put {key : Text} {value : α} {entries : List (Text × α)}
    (distinct : (entries.map Prod.fst).Nodup) :
    ((put key value entries).map Prod.fst).Nodup := by
  rw [keys_put]
  split
  next => exact distinct
  next fresh => exact List.nodup_append_comm.mp (List.nodup_cons.mpr ⟨fresh, distinct⟩)

/-- Only the entry that is put is new. -/
theorem mem_put {key : Text} {value : α} {entries : List (Text × α)} {entry : Text × α}
    (member : entry ∈ put key value entries) : entry = (key, value) ∨ entry ∈ entries := by
  induction entries with
  | nil => simpa [put] using member
  | cons head entries inductionHypothesis => grind [put]

/-- A new key is put at the end. -/
theorem put_of_not_mem {key : Text} (value : α) {entries : List (Text × α)}
    (fresh : key ∉ entries.map Prod.fst) :
    put key value entries = entries ++ [(key, value)] := by
  induction entries with
  | nil => rfl
  | cons entry entries inductionHypothesis =>
    rw [List.map_cons, List.mem_cons, not_or] at fresh
    simp [put, Ne.symm fresh.1, inductionHypothesis fresh.2]

/-- Only the key that is put changes its value. -/
theorem lookup_put (key other : Text) (value : α) (entries : List (Text × α)) :
    (put key value entries).lookup other =
      if other = key then some value else entries.lookup other := by
  induction entries with
  | nil => by_cases same : other = key <;> simp [put, same]
  | cons entry entries inductionHypothesis =>
    by_cases same : entry.1 = key
    · grind [put]
    · grind [put]

/-- The last entry of a list is put last. -/
theorem merge_append_singleton (entries : List (Text × α)) (entry : Text × α) :
    merge (entries ++ [entry]) = put entry.1 entry.2 (merge entries) := by
  simp [merge]

/-- The keys stand in the order of their first appearance. -/
theorem keys_merge (entries : List (Text × α)) :
    (merge entries).map Prod.fst = (entries.map Prod.fst).eraseDups := by
  induction entries using List.reverseRecOn with
  | nil => rfl
  | append_singleton entries entry inductionHypothesis =>
    rw [merge_append_singleton, keys_put, inductionHypothesis, List.map_append,
      List.eraseDups_append]
    by_cases seen : entry.1 ∈ entries.map Prod.fst
    · simp [List.removeAll, seen]
    · simp [List.removeAll, seen, List.eraseDups_cons]

/-- Each key has the value that was last given to it. -/
theorem lookup_merge (entries : List (Text × α)) (key : Text) :
    (merge entries).lookup key = entries.reverse.lookup key := by
  induction entries using List.reverseRecOn with
  | nil => rfl
  | append_singleton entries entry inductionHypothesis =>
    rw [merge_append_singleton, lookup_put, inductionHypothesis]
    grind

/-- Merged entries have no key twice. -/
theorem nodup_merge (entries : List (Text × α)) : ((merge entries).map Prod.fst).Nodup := by
  induction entries using List.reverseRecOn with
  | nil => simp [merge]
  | append_singleton entries entry inductionHypothesis =>
    rw [merge_append_singleton]
    exact nodup_put inductionHypothesis

/-- Merging makes up no entries. -/
theorem mem_of_mem_merge {entries : List (Text × α)} {entry : Text × α}
    (member : entry ∈ merge entries) : entry ∈ entries := by
  induction entries using List.reverseRecOn with
  | nil => cases member
  | append_singleton entries last inductionHypothesis =>
    rw [merge_append_singleton] at member
    rcases mem_put member with rfl | old
    · simp
    · exact List.mem_append_left _ (inductionHypothesis old)

/-- Entries without a repeated key are merged already. -/
theorem merge_of_nodup {entries : List (Text × α)} (distinct : (entries.map Prod.fst).Nodup) :
    merge entries = entries := by
  induction entries using List.reverseRecOn with
  | nil => rfl
  | append_singleton entries entry inductionHypothesis =>
    rw [List.map_append, List.nodup_append] at distinct
    have fresh : entry.1 ∉ entries.map Prod.fst := fun member =>
      distinct.2.2 _ member _ List.mem_cons_self rfl
    rw [merge_append_singleton, inductionHypothesis distinct.1, put_of_not_mem _ fresh]

/-- A key is present once it was put, and no other key comes or goes. -/
theorem mem_keys_put {key other : Text} {value : α} {entries : List (Text × α)} :
    other ∈ (put key value entries).map Prod.fst ↔ other = key ∨ other ∈ entries.map Prod.fst := by
  rw [keys_put]
  split
  next present => exact ⟨.inr, Or.rec (· ▸ present) id⟩
  next => simp [or_comm]

/-- The value that is put last counts. -/
theorem put_put (key : Text) (value replaced : α) (entries : List (Text × α)) :
    put key value (put key replaced entries) = put key value entries := by
  induction entries with
  | nil => simp [put]
  | cons entry entries inductionHypothesis =>
    by_cases same : entry.1 = key
    · simp [put, same]
    · simp [put, same, inductionHypothesis]

/-- A present key may be given its value before or after another key is given one. -/
theorem put_comm {key other : Text} (value added : α) (different : other ≠ key)
    {entries : List (Text × α)} (present : key ∈ entries.map Prod.fst) :
    put other added (put key value entries) = put key value (put other added entries) := by
  induction entries with
  | nil => cases present
  | cons entry entries inductionHypothesis =>
    by_cases same : entry.1 = key
    · simp [put, same, Ne.symm different]
    · have later : key ∈ entries.map Prod.fst := by
        simpa [Ne.symm same] using present
      by_cases isOther : entry.1 = other
      · simp [put, isOther, different]
      · simp [put, same, isOther, inductionHypothesis later]

/-- Entries after changes to them, made in order: a present key takes its new value in place, a
new one comes at the end. -/
def update (entries changes : List (Text × α)) : List (Text × α) :=
  changes.foldl (fun updated change => put change.1 change.2 updated) entries

/-- A present key may be given its value before or after changes that leave it alone. -/
theorem update_put {key : Text} (value : α) {changes : List (Text × α)}
    (unchanged : key ∉ changes.map Prod.fst) {entries : List (Text × α)}
    (present : key ∈ entries.map Prod.fst) :
    update (put key value entries) changes = put key value (update entries changes) := by
  induction changes generalizing entries with
  | nil => rfl
  | cons change changes inductionHypothesis =>
    rw [List.map_cons, List.mem_cons, not_or] at unchanged
    calc
      update (put change.1 change.2 (put key value entries)) changes
        = update (put key value (put change.1 change.2 entries)) changes := by
          rw [put_comm value change.2 (Ne.symm unchanged.1) present]
      _ = put key value (update (put change.1 change.2 entries) changes) :=
          inductionHypothesis unchanged.2 (mem_keys_put.mpr (.inr present))

/-- A change that is put to a list of changes may be made after all of them. -/
theorem update_of_put {key : Text} (value : α) {changes : List (Text × α)}
    (distinct : (changes.map Prod.fst).Nodup) (entries : List (Text × α)) :
    update entries (put key value changes) = put key value (update entries changes) := by
  induction changes generalizing entries with
  | nil => rfl
  | cons change changes inductionHypothesis =>
    rw [List.map_cons, List.nodup_cons] at distinct
    by_cases same : change.1 = key
    · have unchanged : key ∉ changes.map Prod.fst := same ▸ distinct.1
      rw [put, if_pos same]
      calc
        update (put key value entries) changes
          = update (put key value (put key change.2 entries)) changes := by rw [put_put]
        _ = put key value (update (put key change.2 entries) changes) :=
            update_put value unchanged (mem_keys_put.mpr (.inl rfl))
        _ = put key value (update entries (change :: changes)) := by
            rw [update, update, List.foldl_cons, same]
    · rw [put, if_neg same]
      exact inductionHypothesis distinct.2 _

/-- Changes may be merged before they are made. -/
theorem update_merge (entries changes : List (Text × α)) :
    update entries (merge changes) = update entries changes := by
  induction changes using List.reverseRecOn with
  | nil => rfl
  | append_singleton changes change inductionHypothesis =>
    rw [merge_append_singleton, update_of_put _ (nodup_merge changes), inductionHypothesis]
    simp [update]

/-- Merging two lists updates the merged entries of the one by those of the other. -/
theorem merge_append (earlier later : List (Text × α)) :
    merge (earlier ++ later) = update (merge earlier) (merge later) := by
  rw [update_merge, merge, List.foldl_append]
  rfl

/-- A value that depends on the entry's value alone may be computed before or after
merging. -/
theorem merge_map {β : Type u} (change : α → β) (entries : List (Text × α)) :
    merge (entries.map fun entry => (entry.1, change entry.2)) =
      (merge entries).map fun entry => (entry.1, change entry.2) := by
  have putMap : ∀ (key : Text) (value : α) (merged : List (Text × α)),
      put key (change value) (merged.map fun entry => (entry.1, change entry.2)) =
        (put key value merged).map fun entry => (entry.1, change entry.2) := by
    intro key value merged
    induction merged with
    | nil => rfl
    | cons entry merged inductionHypothesis =>
      by_cases same : entry.1 = key
      · simp [put, same]
      · simp [put, same, inductionHypothesis]
  induction entries using List.reverseRecOn with
  | nil => rfl
  | append_singleton entries entry inductionHypothesis =>
    rw [List.map_append, List.map_singleton, merge_append_singleton, merge_append_singleton,
      inductionHypothesis, putMap]

/-- What a look-up finds is an entry. -/
theorem mem_of_lookup {κ : Type} [BEq κ] [LawfulBEq κ] {entries : List (κ × α)} {key : κ}
    {value : α} (found : entries.lookup key = some value) : (key, value) ∈ entries := by
  obtain ⟨earlier, later, rfl, -⟩ := List.lookup_eq_some_iff.mp found
  exact List.mem_append_right _ List.mem_cons_self

/-- Where no key is repeated, looking up finds every entry. -/
theorem mem_iff_lookup {entries : List (Text × α)} (distinct : (entries.map Prod.fst).Nodup)
    {entry : Text × α} : entry ∈ entries ↔ entries.lookup entry.1 = some entry.2 := by
  rw [List.lookup_eq_some_iff]
  constructor
  · intro member
    obtain ⟨earlier, later, rfl⟩ := List.append_of_mem member
    refine ⟨earlier, later, rfl, fun other inEarlier => bne_iff_ne.mpr fun same => ?_⟩
    rw [List.map_append, List.nodup_append] at distinct
    exact distinct.2.2 _ (List.mem_map_of_mem inEarlier) _ List.mem_cons_self same.symm
  · rintro ⟨earlier, later, rfl, -⟩
    simp

/-- The value that is given to a key last is that of the last item which gives one. -/
theorem lookup_reverse_filterMap {read : Text → Option (Text × α)} {parts : List Text}
    {key : Text} {value : α} :
    (parts.filterMap read).reverse.lookup key = some value ↔
      ∃ earlier part later, parts = earlier ++ part :: later ∧ read part = some (key, value) ∧
        ∀ other ∈ later, ∀ replaced, read other ≠ some (key, replaced) := by
  rw [List.lookup_eq_some_iff]
  constructor
  · rintro ⟨later, earlier, found, others⟩
    have forwards : parts.filterMap read = earlier.reverse ++ (key, value) :: later.reverse := by
      rw [← List.reverse_reverse (parts.filterMap read), found]
      simp
    obtain ⟨before, behind, rfl, -, rest⟩ := List.filterMap_eq_append_iff.mp forwards
    obtain ⟨skipped, part, after, rfl, -, isPart, isLater⟩ := List.filterMap_eq_cons_iff.mp rest
    refine ⟨before ++ skipped, part, after, by simp, isPart, fun other member replaced again => ?_⟩
    have inLater : (key, replaced) ∈ later.reverse :=
      isLater ▸ List.mem_filterMap.mpr ⟨other, member, again⟩
    simpa using others _ (List.mem_reverse.mp inLater)
  · rintro ⟨earlier, part, later, rfl, isPart, others⟩
    refine ⟨(later.filterMap read).reverse, (earlier.filterMap read).reverse, by simp [isPart], ?_⟩
    intro entry member
    obtain ⟨other, inLater, isOther⟩ := List.mem_filterMap.mp (List.mem_reverse.mp member)
    refine bne_iff_ne.mpr fun same => others other inLater entry.2 ?_
    rw [isOther, same]

/-- The value that a key was given last is that of its last entry. -/
theorem lookup_reverse_eq_some_iff {entries : List (Text × α)} {key : Text} {value : α} :
    entries.reverse.lookup key = some value ↔
      ∃ earlier later, entries = earlier ++ (key, value) :: later ∧ key ∉ later.map Prod.fst := by
  rw [List.lookup_eq_some_iff]
  constructor
  · rintro ⟨later, earlier, found, others⟩
    refine ⟨earlier.reverse, later.reverse, ?_, ?_⟩
    · rw [← List.reverse_reverse entries, found]
      simp
    · intro again
      obtain ⟨entry, inLater, same⟩ := List.mem_map.mp again
      simpa [same] using others entry (List.mem_reverse.mp inLater)
  · rintro ⟨earlier, later, rfl, others⟩
    refine ⟨later.reverse, earlier.reverse, by simp, fun entry inLater => ?_⟩
    refine bne_iff_ne.mpr fun same => others ?_
    exact List.mem_map.mpr ⟨entry, List.mem_reverse.mp inLater, same.symm⟩

/-- Entries without a repeated key are determined by their keys and their look-ups. -/
theorem eq_filterMap_lookup {entries : List (Text × α)}
    (distinct : (entries.map Prod.fst).Nodup) :
    entries = (entries.map Prod.fst).filterMap fun key =>
      (entries.lookup key).map fun value => (key, value) := by
  induction entries with
  | nil => rfl
  | cons entry entries inductionHypothesis =>
    rw [List.map_cons, List.nodup_cons] at distinct
    have others : ∀ key ∈ entries.map Prod.fst,
        (List.lookup key (entry :: entries)).map (fun value => (key, value)) =
          (entries.lookup key).map fun value => (key, value) := by
      intro key member
      have different : key ≠ entry.1 := fun same => distinct.1 (same ▸ member)
      rw [List.lookup_cons, beq_eq_false_iff_ne.mpr different]
    rw [List.map_cons, List.filterMap_cons, List.lookup_cons, beq_self_eq_true,
      List.filterMap_congr others, ← inductionHypothesis distinct.2]
    rfl

/-- Merging keeps each key at its first place with its last value, and nothing else. -/
theorem merge_eq_latest (entries : List (Text × α)) : merge entries = latest entries := by
  rw [eq_filterMap_lookup (nodup_merge entries), keys_merge, latest]
  simp only [lookup_merge]

/-- Nothing is merged exactly where no key is repeated. -/
theorem latest_eq_self_iff {entries : List (Text × α)} :
    latest entries = entries ↔ (entries.map Prod.fst).Nodup := by
  rw [← merge_eq_latest]
  constructor
  · intro same
    rw [← same]
    exact nodup_merge entries
  · exact merge_of_nodup

end Entries

namespace Dictionary

/-- Dictionaries with the same entries are equal. -/
@[ext] theorem ext {left right : Dictionary α} (entries : left.entries = right.entries) :
    left = right := by
  cases left
  cases right
  cases entries
  rfl

/-- Only the key that is inserted changes its value. -/
theorem lookup_insertEntry (key other : Text) (value : α) (entries : List (Text × α)) :
    (insertEntry key value entries).lookup other =
      if other = key then some value else entries.lookup other := by
  induction entries with
  | nil => by_cases same : other = key <;> simp [insertEntry, same]
  | cons entry entries inductionHypothesis =>
    simp only [insertEntry]
    split
    next below =>
      have different : entry.1 ≠ key := fun same => List.lt_irrefl key (same ▸ below)
      grind
    next => split <;> grind

/-- Only the key that is inserted changes its value. -/
theorem find?_insert (dictionary : Dictionary α) (key other : Text) (value : α) :
    (dictionary.insert key value).find? other =
      if other = key then some value else dictionary.find? other :=
  lookup_insertEntry key other value dictionary.entries

/-- An empty dictionary has no values. -/
@[simp] theorem find?_empty (key : Text) : (empty : Dictionary α).find? key = none := rfl

/-- The last entry of a list is inserted last. -/
theorem ofList_append_singleton (entries : List (Text × α)) (entry : Text × α) :
    ofList (entries ++ [entry]) = (ofList entries).insert entry.1 entry.2 := by
  simp [ofList]

/-- A key has the value of the last entry that a list has for it. -/
theorem find?_ofList (entries : List (Text × α)) (key : Text) :
    (ofList entries).find? key = entries.reverse.lookup key := by
  induction entries using List.reverseRecOn with
  | nil => rfl
  | append_singleton entries entry inductionHypothesis =>
    rw [ofList_append_singleton, find?_insert, inductionHypothesis]
    grind

/-- A dictionary of a list has the entries of the list. -/
theorem mem_ofList {entries : List (Text × α)} {entry : Text × α}
    (member : entry ∈ (ofList entries).entries) : entry ∈ entries := by
  induction entries using List.reverseRecOn with
  | nil => cases member
  | append_singleton entries last inductionHypothesis =>
    rw [ofList_append_singleton] at member
    rcases mem_insertEntry member with rfl | old
    · simp
    · exact List.mem_append_left _ (inductionHypothesis old)

/-- A key above all others is inserted at the end. -/
theorem insertEntry_of_above {key : Text} (value : α) {entries : List (Text × α)}
    (above : ∀ entry ∈ entries, entry.1 < key) :
    insertEntry key value entries = entries ++ [(key, value)] := by
  induction entries with
  | nil => rfl
  | cons entry entries inductionHypothesis =>
    have rest := inductionHypothesis fun other member =>
      above other (List.mem_cons_of_mem _ member)
    simp [insertEntry, above entry List.mem_cons_self, rest]

/-- Entries in ascending order are the entries of their dictionary. -/
theorem entries_ofList {entries : List (Text × α)}
    (ascending : entries.Pairwise fun left right => left.1 < right.1) :
    (ofList entries).entries = entries := by
  induction entries using List.reverseRecOn with
  | nil => rfl
  | append_singleton entries last inductionHypothesis =>
    obtain ⟨earlier, -, above⟩ := List.pairwise_append.mp ascending
    rw [ofList_append_singleton]
    calc
      insertEntry last.1 last.2 (ofList entries).entries
        = insertEntry last.1 last.2 entries := by rw [inductionHypothesis earlier]
      _ = entries ++ [last] :=
        insertEntry_of_above _ fun entry member => above entry member last List.mem_cons_self

/-- A dictionary is the dictionary of its own entries. -/
theorem ofList_entries (dictionary : Dictionary α) : ofList dictionary.entries = dictionary :=
  Dictionary.ext (entries_ofList dictionary.ascending)

/-- The keys of a dictionary are not repeated. -/
theorem nodup_keys (dictionary : Dictionary α) : (dictionary.entries.map Prod.fst).Nodup := by
  refine List.pairwise_map.mpr (dictionary.ascending.imp fun below same => ?_)
  rw [same] at below
  exact List.lt_irrefl _ below

/-- Dictionaries with the same look-ups are equal. -/
theorem ext_find? {left right : Dictionary α} (same : ∀ key, left.find? key = right.find? key) :
    left = right := by
  have members : ∀ entry, entry ∈ left.entries ↔ entry ∈ right.entries := by
    intro entry
    rw [Entries.mem_iff_lookup left.nodup_keys, Entries.mem_iff_lookup right.nodup_keys]
    exact Eq.congr_left (same entry.1)
  have permuted : left.entries.Perm right.entries :=
    (List.perm_ext_iff_of_nodup left.nodup_keys.of_map right.nodup_keys.of_map).mpr members
  refine Dictionary.ext (permuted.eq_of_pairwise ?_ left.ascending right.ascending)
  intro entry other _ _ below above
  exact absurd above (List.lt_asymm below)

/-- Merging the entries of a list changes nothing for a dictionary. -/
theorem ofList_merge (entries : List (Text × α)) :
    ofList (Entries.merge entries) = ofList entries := by
  refine ext_find? fun key => ?_
  rw [find?_ofList, find?_ofList, ← Entries.lookup_merge, ← Entries.lookup_merge,
    Entries.merge_of_nodup (Entries.nodup_merge entries)]

end Dictionary

end MessageForms
