import MessageForms.Text

/-!
# Dictionaries

A dictionary maps texts to values. Its entries are kept in ascending order of their keys'
bytes, one entry to a key, so two dictionaries with the same contents are equal.
-/

namespace MessageForms

universe u

/-- A finite map from texts with its entries in ascending order of the keys. -/
structure Dictionary (α : Type u) where
  entries : List (Text × α)
  ascending : entries.Pairwise fun left right => left.1 < right.1

namespace Dictionary

variable {α : Type u}

instance [DecidableEq α] : DecidableEq (Dictionary α) := fun left right =>
  decidable_of_iff (left.entries = right.entries) <| by
    cases left
    cases right
    simp

/-- The dictionary without entries. -/
def empty : Dictionary α := ⟨[], .nil⟩

instance : Inhabited (Dictionary α) := ⟨empty⟩

/-- The value of a key, if it has one. -/
def find? (dictionary : Dictionary α) (key : Text) : Option α :=
  dictionary.entries.lookup key

/-- Puts an entry at its place in ascending entries, over an entry with the same key. -/
def insertEntry (key : Text) (value : α) : List (Text × α) → List (Text × α)
  | [] => [(key, value)]
  | entry :: rest =>
    if entry.1 < key then entry :: insertEntry key value rest
    else if entry.1 = key then (key, value) :: rest
    else (key, value) :: entry :: rest

/-- An inserted list holds the new key and keys that were there before. -/
theorem mem_insertEntry {key : Text} {value : α} {entries : List (Text × α)}
    {entry : Text × α} (member : entry ∈ insertEntry key value entries) :
    entry = (key, value) ∨ entry ∈ entries := by
  induction entries with
  | nil => simpa [insertEntry] using member
  | cons head rest inductionHypothesis =>
    simp only [insertEntry] at member
    split at member
    · rcases List.mem_cons.mp member with same | inRest
      · exact .inr (same ▸ List.mem_cons_self)
      · rcases inductionHypothesis inRest with same | old
        · exact .inl same
        · exact .inr (List.mem_cons_of_mem _ old)
    · split at member
      · rcases List.mem_cons.mp member with same | inRest
        · exact .inl same
        · exact .inr (List.mem_cons_of_mem _ inRest)
      · rcases List.mem_cons.mp member with same | old
        · exact .inl same
        · exact .inr old

/-- Insertion keeps entries in ascending order. -/
theorem pairwise_insertEntry (key : Text) (value : α) {entries : List (Text × α)}
    (ascending : entries.Pairwise fun left right => left.1 < right.1) :
    (insertEntry key value entries).Pairwise fun left right => left.1 < right.1 := by
  induction entries with
  | nil => simp [insertEntry]
  | cons head rest inductionHypothesis =>
    have headBelow := (List.pairwise_cons.mp ascending).1
    have restAscending := (List.pairwise_cons.mp ascending).2
    simp only [insertEntry]
    split
    next below =>
      refine List.pairwise_cons.mpr ⟨fun entry member => ?_, inductionHypothesis restAscending⟩
      rcases mem_insertEntry member with rfl | old
      · exact below
      · exact headBelow entry old
    next notBelow =>
      split
      next same =>
        exact List.pairwise_cons.mpr
          ⟨fun entry member => same ▸ headBelow entry member, restAscending⟩
      next different =>
        have above : key < head.1 :=
          Std.lt_of_le_of_ne (List.not_lt.mp notBelow) fun same => different same.symm
        refine List.pairwise_cons.mpr ⟨fun entry member => ?_, ascending⟩
        rcases List.mem_cons.mp member with rfl | old
        · exact above
        · exact List.lt_trans above (headBelow entry old)

/-- Gives a value to a key, over the value it may have had. -/
def insert (dictionary : Dictionary α) (key : Text) (value : α) : Dictionary α :=
  ⟨insertEntry key value dictionary.entries,
    pairwise_insertEntry key value dictionary.ascending⟩

/-- The dictionary of a list of entries, of which a later one replaces an earlier one with
the same key. -/
def ofList (entries : List (Text × α)) : Dictionary α :=
  entries.foldl (fun dictionary entry => dictionary.insert entry.1 entry.2) empty

end Dictionary

end MessageForms
