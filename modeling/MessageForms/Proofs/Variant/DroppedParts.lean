import MessageForms.Proofs.Text.Parts
import MessageForms.Proofs.Variant.Choice

/-!
# Parts of keys that are dropped

A part of a key that spells no clause is dropped, even if it is not blank, and so the key asks for
less than it may have been meant to. This is reported to nobody: with nothing in place of such parts
a variant does the same and reports the same, only that the warning that no key fits quotes the
first key as it stands. There is a warning exactly if there would be one without such parts.
-/

namespace MessageForms

namespace PatternKey

/-- A part of a key is dropped although it is not blank. -/
structure Drops (key part : Text) : Prop where
  member : part ∈ Text.split Byte.comma key
  nonblank : part.trim ≠ []
  unspelled : ∀ clause, ¬ Spells part clause

/-- Whether a part is dropped shows when it is read. -/
theorem drops_iff {key part : Text} :
    Drops key part ↔
      part ∈ Text.split Byte.comma key ∧ part.trim ≠ [] ∧ clause? part = none := by
  have unread : clause? part = none ↔ ∀ clause, ¬ Spells part clause := by
    rw [Option.eq_none_iff_forall_ne_some]
    exact forall_congr' fun clause => not_congr clause?_eq_some_iff
  rw [unread]
  exact ⟨fun drops => ⟨drops.member, drops.nonblank, drops.unspelled⟩,
    fun ⟨member, nonblank, unspelled⟩ => ⟨member, nonblank, unspelled⟩⟩

/-- A part of a key if it spells a clause, and nothing otherwise. -/
def clauseOrNothing (part : Text) : Text :=
  if (clause? part).isSome then part else []

/-- A key with nothing in place of the parts that spell no clause. -/
def withoutDropped (key : Text) : Text :=
  List.intercalate [Byte.comma] ((Text.split Byte.comma key).map clauseOrNothing)

/-- The clause of a part is kept. -/
theorem clause?_clauseOrNothing (part : Text) : clause? (clauseOrNothing part) = clause? part := by
  cases read : clause? part with
  | none => simp [clauseOrNothing, read]; rfl
  | some clause => simp [clauseOrNothing, read]

/-- The key has as many parts as before. -/
theorem split_withoutDropped (key : Text) :
    Text.split Byte.comma (withoutDropped key) =
      (Text.split Byte.comma key).map clauseOrNothing := by
  have parted := Text.isParted_iff.mpr (Eq.refl (Text.split Byte.comma key))
  refine Text.isParted_iff.mp ⟨?_, ?_, rfl⟩
  · exact fun nothing => parted.nonempty (List.map_eq_nil_iff.mp nothing)
  · intro part member
    obtain ⟨original, inKey, rfl⟩ := List.mem_map.mp member
    unfold clauseOrNothing
    split
    next => exact parted.unseparated original inKey
    next => exact List.not_mem_nil

/-- The key is read as before. -/
theorem parse_withoutDropped (key : Text) : parse (withoutDropped key) = parse key := by
  have clauses : clause? ∘ clauseOrNothing = clause? := funext clause?_clauseOrNothing
  rw [parse, split_withoutDropped, List.filterMap_map, clauses, parse]

/-- Nothing more is dropped. -/
theorem not_drops_withoutDropped (key part : Text) : ¬ Drops (withoutDropped key) part := by
  rintro ⟨member, nonblank, unspelled⟩
  rw [split_withoutDropped] at member
  obtain ⟨original, -, rfl⟩ := List.mem_map.mp member
  cases read : clause? original with
  | none =>
    rw [clauseOrNothing, read] at nonblank
    exact nonblank rfl
  | some clause =>
    -- A part that is kept spells its clause.
    rw [← clause?_clauseOrNothing] at read
    exact unspelled clause (clause?_eq_some_iff.mp read)

end PatternKey

namespace Variant

variable (variant : Variant) (setting : Setting)

/-- A key is looked at: to find the selectors, if they are not explicit, or because no key before it
holds. -/
inductive Examines (key : Text) : Prop where
  | forSelectors {template : Text} (inferred : variant.selectors = [])
    (member : (key, template) ∈ variant.table)
  | forMatch {index : Nat} {template : Text}
    (found : variant.table[index]? = some (key, template))
    (reached : ∀ winner, (variant.resolve setting).value = some ⟨winner, true⟩ → index ≤ winner)

/-- A variant with nothing in place of the parts of its keys that spell no clause. -/
def withoutDropped : Variant where
  declarations := variant.declarations
  selectors := variant.selectors
  table := variant.table.map fun entry => (PatternKey.withoutDropped entry.1, entry.2)

/-- Without entries there are no keys to change. -/
theorem withoutDropped_of_empty {variant : Variant} (empty : variant.table = []) :
    variant.withoutDropped = variant := by
  rw [withoutDropped, empty, List.map_nil, ← empty]

/-- The selectors are the same. -/
theorem selectorNames_withoutDropped :
    variant.withoutDropped.selectorNames = variant.selectorNames := by
  have asked : variant.withoutDropped.table.selectors = variant.table.selectors := by
    simp only [withoutDropped, MatchTable.selectors, List.flatMap_map,
      PatternKey.parse_withoutDropped]
  rw [selectorNames, selectorNames, asked]
  rfl

/-- The selectors are evaluated alike. -/
theorem evaluateSelectors_withoutDropped :
    variant.withoutDropped.evaluateSelectors setting = variant.evaluateSelectors setting := by
  rw [evaluateSelectors, evaluateSelectors, selectorNames_withoutDropped]
  apply evaluateNames_congr
  intro name _
  rfl

/-- The same key is the first that holds. -/
theorem firstMatch?_withoutDropped (values : SelectorValues) :
    variant.withoutDropped.table.firstMatch? values = variant.table.firstMatch? values := by
  simp only [withoutDropped, MatchTable.firstMatch?, List.findIdx?_map, Function.comp_def,
    PatternKey.parse_withoutDropped]

/-- The same entry is to be shown. -/
theorem value_resolve_withoutDropped :
    (variant.withoutDropped.resolve setting).value = (variant.resolve setting).value := by
  by_cases empty : variant.table = []
  · rw [withoutDropped_of_empty empty]
  · have nonempty : variant.withoutDropped.table ≠ [] := fun nothing =>
      empty (List.map_eq_nil_iff.mp nothing)
    rw [value_resolve_of_ne_nil empty, value_resolve_of_ne_nil nonempty,
      evaluateSelectors_withoutDropped, firstMatch?_withoutDropped]

/-- The same text is shown. -/
theorem value_render_withoutDropped :
    (variant.withoutDropped.render setting).value = (variant.render setting).value := by
  have templates : variant.withoutDropped.table.map Prod.snd = variant.table.map Prod.snd := by
    rw [withoutDropped, List.map_map]
    rfl
  rw [value_render_eq, value_render_eq, value_resolve_withoutDropped, templates]

/-- The first entry is shown for want of a better one only if there is one. -/
theorem table_ne_nil_of_fallback
    (unfit : (variant.resolve setting).value = some ⟨0, false⟩) : variant.table ≠ [] := by
  have selects := selects_resolve variant setting
  rw [unfit] at selects
  cases selects with
  | fallback nonempty => exact nonempty

/-- If there are entries, selectors are evaluated, and then it may be reported that no key fits. -/
theorem events_resolve_of_cons {firstKey firstTemplate : Text} {rest : MatchTable}
    (table : variant.table = (firstKey, firstTemplate) :: rest) :
    (variant.resolve setting).events =
      variant.selectorNames.flatMap (variant.selectorEvents setting) ++
        if (variant.resolve setting).value = some ⟨0, false⟩ then
          [.report (.noMatchingEntry firstKey)]
        else [] := by
  rw [events_resolve, resolveEvents, table]

/-- The same happens with nothing in place of the parts that spell no clause, save for the key that
is quoted. -/
theorem events_resolve_withoutDropped_of_cons {firstKey firstTemplate : Text} {rest : MatchTable}
    (table : variant.table = (firstKey, firstTemplate) :: rest) :
    (variant.withoutDropped.resolve setting).events =
      variant.selectorNames.flatMap (variant.selectorEvents setting) ++
        if (variant.resolve setting).value = some ⟨0, false⟩ then
          [.report (.noMatchingEntry (PatternKey.withoutDropped firstKey))]
        else [] := by
  have tidyTable : variant.withoutDropped.table =
      (PatternKey.withoutDropped firstKey, firstTemplate) ::
        rest.map fun entry => (PatternKey.withoutDropped entry.1, entry.2) := by
    rw [withoutDropped, table, List.map_cons]
  have evaluated : variant.withoutDropped.selectorEvents setting = variant.selectorEvents setting :=
    rfl
  rw [events_resolve_of_cons _ _ tidyTable, selectorNames_withoutDropped,
    value_resolve_withoutDropped, evaluated]

/-- A host that listens is warned exactly if there are no entries, if no key fits, or if evaluating
a selector gives a warning. -/
theorem exists_warning_iff :
    (∃ line ∈ Relay.listening.lines (variant.resolve setting).events, line.severity = .warning) ↔
      variant.table = [] ∨ (variant.resolve setting).value = some ⟨0, false⟩ ∨
        ∃ name ∈ variant.selectorNames, ∃ line ∈ variant.selectorLines setting name,
          line.severity = .warning := by
  rw [events_resolve, lines_resolveEvents, resolveLines]
  cases table : variant.table with
  | nil => exact iff_of_true ⟨_, List.mem_singleton_self _, rfl⟩ (.inl rfl)
  | cons first rest =>
    dsimp only
    by_cases fallback : (variant.resolve setting).value = some ⟨0, false⟩
    · rw [if_pos fallback]
      refine iff_of_true ⟨_, List.mem_append_right _ (List.mem_singleton_self _), rfl⟩ ?_
      exact .inr (.inl fallback)
    · rw [if_neg fallback, List.append_nil]
      constructor
      · rintro ⟨line, member, isWarning⟩
        obtain ⟨name, named, ofName⟩ := List.mem_flatMap.mp member
        exact .inr (.inr ⟨name, named, line, ofName, isWarning⟩)
      · rintro (empty | shown | ⟨name, named, line, ofName, isWarning⟩)
        · cases empty
        · exact absurd shown fallback
        · exact ⟨line, List.mem_flatMap.mpr ⟨name, named, ofName⟩, isWarning⟩

/-- Parts that are dropped go unreported. Rendering and detection report what finding the entry to
show does. With nothing in place of the parts that spell no clause, no part is dropped any more, and
yet a variant shows the same text and finds the same entry with the same reports; only the warning
that no key fits quotes the first key as it stands. So a host that listens is warned exactly if
there are no entries, if no key fits, or if evaluating a selector gives a warning. -/
theorem dropped_parts_go_unreported (variant : Variant) (setting : Setting) :
    ((variant.render setting).events = (variant.resolve setting).events ∧
      (variant.activeKey setting).events = (variant.resolve setting).events) ∧
    (∀ entry ∈ variant.withoutDropped.table, ∀ part, ¬ PatternKey.Drops entry.1 part) ∧
    (variant.withoutDropped.render setting).value = (variant.render setting).value ∧
    (variant.withoutDropped.resolve setting).value = (variant.resolve setting).value ∧
    ((variant.resolve setting).value ≠ some ⟨0, false⟩ →
      (variant.withoutDropped.resolve setting).events = (variant.resolve setting).events) ∧
    ((variant.resolve setting).value = some ⟨0, false⟩ → ∃ events firstKey,
      variant.forms.head? = some firstKey ∧
      (variant.resolve setting).events = events ++ [.report (.noMatchingEntry firstKey)] ∧
      (variant.withoutDropped.resolve setting).events =
        events ++ [.report (.noMatchingEntry (PatternKey.withoutDropped firstKey))]) ∧
    ((∃ line ∈ Relay.listening.lines (variant.resolve setting).events, line.severity = .warning) ↔
      variant.table = [] ∨ (variant.resolve setting).value = some ⟨0, false⟩ ∨
        ∃ name ∈ variant.selectorNames, ∃ line ∈ variant.selectorLines setting name,
          line.severity = .warning) := by
  have same := variant.value_resolve_withoutDropped setting
  refine ⟨⟨by rw [events_render, events_resolve], by rw [activeKey_eq]⟩, ?_,
    variant.value_render_withoutDropped setting, same, ?_, ?_, variant.exists_warning_iff setting⟩
  · intro entry member part
    obtain ⟨original, -, rfl⟩ := List.mem_map.mp member
    exact PatternKey.not_drops_withoutDropped original.1 part
  · intro fits
    cases table : variant.table with
    | nil => rw [withoutDropped_of_empty table]
    | cons first rest =>
      rw [events_resolve_of_cons _ _ table, events_resolve_withoutDropped_of_cons _ _ table,
        if_neg fits, if_neg fits]
  · intro unfit
    obtain ⟨⟨firstKey, firstTemplate⟩, rest, table⟩ :=
      List.exists_cons_of_ne_nil (variant.table_ne_nil_of_fallback setting unfit)
    refine ⟨variant.selectorNames.flatMap (variant.selectorEvents setting), firstKey, ?_, ?_, ?_⟩
    · rw [forms, table]
      rfl
    · rw [events_resolve_of_cons _ _ table, if_pos unfit]
    · rw [events_resolve_withoutDropped_of_cons _ _ table, if_pos unfit]

/-- A variant whose first key lacks a value, so that it holds for every amount. -/
def catchAll : Variant where
  declarations := []
  selectors := ["n"]
  table := [("n", "all"), ("n=1", "one")]

/-- The written form of `catchAll`. -/
def writtenCatchAll : Text :=
  Text.ofString "[\x7b\"selectors\":[\"n\"]," ++
    Text.ofString "\"match\":\x7b\"n\":\"all\",\"n=1\":\"one\"\x7d\x7d]"

/-- A variant none of whose keys fits one item, with a dropped part in the first key. -/
def twoOrThree : Variant where
  declarations := []
  selectors := ["n"]
  table := [("some, n=2", "two"), ("n=3", "three")]

/-- The setting of one item. -/
def oneItem : Setting := ⟨.ofList [("n", .number .one)], "en", .builtIn⟩

/-- The key that lost its only clause takes every amount without a report, as the key without this
part does, also when the variant is read from its written form. Where no key fits, the dropped part
is seen in the key that is quoted. -/
theorem dropped_parts_go_unreported_catchAll :
    (catchAll.resolve oneItem).value ≠ some ⟨0, false⟩ ∧
      (catchAll.resolve oneItem).events = [] ∧
      (StoredValue.render writtenCatchAll oneItem).value = Text.ofString "all" ∧
      (StoredValue.render writtenCatchAll oneItem).events = [] ∧
      (twoOrThree.resolve oneItem).value = some ⟨0, false⟩ ∧
      ∃ events, (twoOrThree.resolve oneItem).events =
          events ++ [.report (.noMatchingEntry "some, n=2")] ∧
        (twoOrThree.withoutDropped.resolve oneItem).events =
          events ++ [.report (.noMatchingEntry ", n=2")] := by
  have fits : (catchAll.resolve oneItem).value ≠ some ⟨0, false⟩ := by decide +kernel
  have unfit : (twoOrThree.resolve oneItem).value = some ⟨0, false⟩ := by decide +kernel
  obtain ⟨-, -, -, -, unreported, -⟩ := dropped_parts_go_unreported catchAll oneItem
  obtain ⟨-, -, -, -, -, quoted, -⟩ := dropped_parts_go_unreported twoOrThree oneItem
  refine ⟨fits, (unreported fits).symm.trans (by decide +kernel), by decide +kernel,
    by decide +kernel, unfit, ?_⟩
  obtain ⟨events, firstKey, isFirst, reported, tidied⟩ := quoted unfit
  cases isFirst
  have tidyKey : PatternKey.withoutDropped "some, n=2" = Text.ofString ", n=2" := by
    decide +kernel
  rw [tidyKey] at tidied
  exact ⟨events, reported, tidied⟩

/-- Not every dropped part of a key that is looked at is reported: neither rendering nor detection
warns of the first key of `catchAll`. -/
theorem not_every_dropped_part_is_reported :
    ¬ ∀ (variant : Variant) (setting : Setting) (key part : Text),
      variant.Examines setting key → PatternKey.Drops key part →
        (∃ line ∈ Relay.listening.lines (variant.render setting).events,
          line.severity = .warning) ∨
        ∃ line ∈ Relay.listening.lines (variant.activeKey setting).events,
          line.severity = .warning := by
  intro reported
  have examined : catchAll.Examines oneItem "n" := by
    have found : catchAll.table[0]? = some (Text.ofString "n", Text.ofString "all") := rfl
    exact .forMatch found fun winner _ => Nat.zero_le winner
  have dropped : PatternKey.Drops "n" "n" := PatternKey.drops_iff.mpr (by decide +kernel)
  have rendered : Relay.listening.lines (catchAll.render oneItem).events = [] := by decide +kernel
  have detected : Relay.listening.lines (catchAll.activeKey oneItem).events = [] := by
    decide +kernel
  obtain ⟨line, member, -⟩ | ⟨line, member, -⟩ := reported catchAll oneItem "n" "n" examined dropped
  · rw [rendered] at member
    cases member
  · rw [detected] at member
    cases member

end Variant

end MessageForms
