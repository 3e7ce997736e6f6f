/-!
# What a list yields

Items of a list may have a result or none. What the list yields is said without a function that
finds the results: it is the list of the results of those items that have one, in the order of the
items. Where a function finds them, the list yields what the function maps it to.
-/

namespace MessageForms

universe u v

variable {α : Type u} {β : Type v}

/-- The results of the items that have one, in order. -/
inductive Collects (gives : α → β → Prop) : List α → List β → Prop where
  | nil : Collects gives [] []
  | found {item : α} {result : β} {items : List α} {results : List β} (given : gives item result)
    (rest : Collects gives items results) : Collects gives (item :: items) (result :: results)
  | passed {item : α} {items : List α} {results : List β} (without : ∀ result, ¬ gives item result)
    (rest : Collects gives items results) : Collects gives (item :: items) results

/-- A list yields what a function that finds the results maps it to, and nothing else. -/
theorem collects_iff {gives : α → β → Prop} {find? : α → Option β}
    (finds : ∀ item result, find? item = some result ↔ gives item result) {items : List α}
    {results : List β} : Collects gives items results ↔ items.filterMap find? = results := by
  constructor
  · intro collected
    induction collected with
    | nil => rfl
    | found given _ inductionHypothesis =>
      rw [List.filterMap_cons_some ((finds _ _).mpr given), inductionHypothesis]
    | passed without _ inductionHypothesis =>
      have unfound := Option.eq_none_iff_forall_ne_some.mpr fun result found =>
        without result ((finds _ _).mp found)
      rw [List.filterMap_cons_none unfound, inductionHypothesis]
  · rintro rfl
    induction items with
    | nil => exact .nil
    | cons item items inductionHypothesis =>
      cases found : find? item with
      | none =>
        rw [List.filterMap_cons_none found]
        apply Collects.passed _ inductionHypothesis
        intro result given
        rw [(finds item result).mpr given] at found
        cases found
      | some result =>
        rw [List.filterMap_cons_some found]
        exact .found ((finds item result).mp found) inductionHypothesis

/-- What a list yields are results of its items. -/
theorem Collects.exists_of_mem {gives : α → β → Prop} {items : List α} {results : List β}
    (collected : Collects gives items results) {result : β} (member : result ∈ results) :
    ∃ item ∈ items, gives item result := by
  induction collected with
  | nil => cases member
  | found given _ inductionHypothesis =>
    rcases List.mem_cons.mp member with rfl | later
    · exact ⟨_, List.mem_cons_self, given⟩
    · obtain ⟨item, inItems, gives⟩ := inductionHypothesis later
      exact ⟨item, List.mem_cons_of_mem _ inItems, gives⟩
  | passed _ _ inductionHypothesis =>
    obtain ⟨item, inItems, gives⟩ := inductionHypothesis member
    exact ⟨item, List.mem_cons_of_mem _ inItems, gives⟩

end MessageForms
