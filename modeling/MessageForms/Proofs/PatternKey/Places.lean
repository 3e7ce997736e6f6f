import MessageForms.Proofs.Collects
import MessageForms.Proofs.PatternKey
import MessageForms.Proofs.Text.Parts

/-!
# Places and values of a key

A key is a list of parts, some of which spell a clause. Of the clauses for one selector the first
decides where it stands in the key that is read, and the last decides its value. What is read is
tidy: each selector stands there once, and no text in it could be taken for more than one.
-/

namespace MessageForms

namespace PatternKey

/-- The clauses that the parts of a key spell, in order. -/
def SpellsAll (key : Text) (clauses : List (Text × Text)) : Prop :=
  ∃ parts, Text.IsParted Byte.comma key parts ∧ Collects Spells parts clauses

/-- The selectors of clauses in the order of their first appearance, each with the value of its
last one. -/
structure KeepsPlaces (clauses : List (Text × Text)) (pattern : PatternKey) : Prop where
  selectors : pattern.selectors = (clauses.map Prod.fst).eraseDups
  values : ∀ clause ∈ pattern, ∃ earlier later, clauses = earlier ++ clause :: later ∧
    clause.1 ∉ later.map Prod.fst

/-- A text that is neither empty nor needs trimming, and has no mark in it. -/
structure IsTidy (text : Text) : Prop where
  nonempty : text ≠ []
  trimmed : text.IsTrimmed
  noComma : Byte.comma ∉ text
  noEquals : Byte.equals ∉ text

/-- The clauses of a key are those that reading it finds before it merges them. -/
theorem spellsAll_iff {key : Text} {clauses : List (Text × Text)} :
    SpellsAll key clauses ↔ (Text.split Byte.comma key).filterMap clause? = clauses := by
  constructor
  · rintro ⟨parts, areParts, spelled⟩
    rw [Text.isParted_iff.mp areParts]
    exact (collects_iff fun _ _ => clause?_eq_some_iff).mp spelled
  · intro found
    exact ⟨_, Text.isParted_iff.mpr rfl, (collects_iff fun _ _ => clause?_eq_some_iff).mpr found⟩

/-- Merging clauses keeps first places and last values, and there is no other way to do so. -/
theorem keepsPlaces_iff {clauses : List (Text × Text)} {pattern : PatternKey} :
    KeepsPlaces clauses pattern ↔ Entries.merge clauses = pattern := by
  constructor
  · rintro ⟨selectors, values⟩
    have keys : (Entries.merge clauses).map Prod.fst = pattern.map Prod.fst :=
      (Entries.keys_merge clauses).trans selectors.symm
    have distinct := Entries.nodup_merge clauses
    have patternDistinct : (pattern.map Prod.fst).Nodup := keys ▸ distinct
    -- The keys are in the same order, so only the values are left to compare.
    rw [Entries.eq_filterMap_lookup distinct, Entries.eq_filterMap_lookup patternDistinct, keys]
    apply List.filterMap_congr
    intro selector member
    obtain ⟨clause, inPattern, rfl⟩ := List.mem_map.mp member
    have last := Entries.lookup_reverse_eq_some_iff.mpr (values clause inPattern)
    rw [Entries.lookup_merge, last, (Entries.mem_iff_lookup patternDistinct).mp inPattern]
  · rintro rfl
    refine ⟨Entries.keys_merge clauses, fun clause member => ?_⟩
    rw [Entries.mem_iff_lookup (Entries.nodup_merge clauses), Entries.lookup_merge] at member
    exact Entries.lookup_reverse_eq_some_iff.mp member

/-- The texts of a spelled clause are tidy if its part has no comma. -/
theorem Spells.isTidy {part : Text} {clause : Text × Text} (spells : Spells part clause)
    (unseparated : Byte.comma ∉ part) : IsTidy clause.1 ∧ IsTidy clause.2 := by
  obtain ⟨left, middle, rest, rfl, leftUnmarked, middleUnmarked, -, rfl, nonempty, valued⟩ := spells
  simp only [List.mem_append, List.mem_cons, not_or] at unseparated
  obtain ⟨leftUnseparated, -, middleUnseparated, -⟩ := unseparated
  constructor
  · exact ⟨nonempty, Text.isTrimmed_trim left, fun inside => leftUnseparated
      (Text.mem_of_mem_trim inside), fun inside => leftUnmarked (Text.mem_of_mem_trim inside)⟩
  · exact ⟨valued, Text.isTrimmed_trim middle, fun inside => middleUnseparated
      (Text.mem_of_mem_trim inside), fun inside => middleUnmarked (Text.mem_of_mem_trim inside)⟩

/-- What is read of a key is tidy. -/
theorem isTidy_of_mem_parse {key : Text} {clause : Text × Text} (member : clause ∈ parse key) :
    IsTidy clause.1 ∧ IsTidy clause.2 := by
  obtain ⟨part, inKey, read⟩ := List.mem_filterMap.mp (Entries.mem_of_mem_merge member)
  exact (clause?_eq_some_iff.mp read).isTidy (Text.not_mem_of_mem_split inKey)

/-- Reading two keys with a comma between them updates the one by the other. -/
theorem parse_append_cons (left right : Text) :
    parse (left ++ Byte.comma :: right) = Entries.update (parse left) (parse right) := by
  simp only [parse, Text.split_append_cons, List.filterMap_append, Entries.merge_append]

/-- A key is read with the selectors that its parts spell, in the order of their first
appearance and with their last values, and with nothing else. So no selector is repeated, all
texts are tidy, and a key that is continued behind a comma is updated by what follows. -/
theorem parse_keeps_places :
    (∀ key pattern, parse key = pattern ↔
      ∃ clauses, SpellsAll key clauses ∧ KeepsPlaces clauses pattern) ∧
    (∀ key, (parse key).selectors.Nodup) ∧
    (∀ key, ∀ clause ∈ parse key, IsTidy clause.1 ∧ IsTidy clause.2) ∧
    ∀ left right, parse (left ++ Byte.comma :: right) =
      Entries.update (parse left) (parse right) := by
  refine ⟨fun key pattern => ?_, fun key => Entries.nodup_merge _, fun key clause =>
    isTidy_of_mem_parse, parse_append_cons⟩
  simp only [spellsAll_iff, keepsPlaces_iff, exists_eq_left', parse]

/-- A key with parts that are blank, lack a selector, a value or an equals sign, or have more
after the value, and with a selector that comes again. -/
theorem parse_keeps_places_untidyKey :
    let key := Text.ofString " a = 1 ,,=2,b,c = ,\td=x y=z,a=3"
    parse key = [(Text.ofString "a", Text.ofString "3"), (Text.ofString "d", Text.ofString "x y")] ∧
      (Text.ofString "a", Text.ofString "3") ∈ parse key ∧
      IsTidy (Text.ofString "a") ∧ IsTidy (Text.ofString "3") := by
  intro key
  have read : parse key =
      [(Text.ofString "a", Text.ofString "3"), (Text.ofString "d", Text.ofString "x y")] := by
    decide +kernel
  have member : (Text.ofString "a", Text.ofString "3") ∈ parse key := by
    rw [read]
    exact List.mem_cons_self
  exact ⟨read, member, parse_keeps_places.2.2.1 key _ member⟩

end PatternKey

end MessageForms
