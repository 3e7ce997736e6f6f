import MessageForms.Proofs.Variant.Resolution

/-!
# Changes that do not show

What a variant shows depends on which of its keys fit, and whether a key fits depends on the
declarations and on the selectors that this key asks for. So entries behind the one to show
change nothing, and of the explicit selectors only those count that a key asks for. This holds
although either change may alter which selectors are evaluated, and in which order.
-/

namespace MessageForms

namespace Variant

variable {variant other : Variant} {setting : Setting}

/-- A variant shows what another one shows: the same entry with the same key and text. -/
structure ShowsLike (variant other : Variant) (setting : Setting) : Prop where
  resolve : (variant.resolve setting).value = (other.resolve setting).value
  activeKey : (variant.activeKey setting).value = (other.activeKey setting).value
  render : (variant.render setting).value = (other.render setting).value

/-- Variants that resolve to the same place of their tables, and have the same entry there,
show the same. -/
theorem ShowsLike.of_resolve
    (resolve : (variant.resolve setting).value = (other.resolve setting).value)
    (entry : ∀ resolution, (other.resolve setting).value = some resolution →
      variant.table[resolution.index]? = other.table[resolution.index]?) :
    variant.ShowsLike other setting := by
  have active : (variant.activeEntry setting).value = (other.activeEntry setting).value := by
    simp only [activeEntry, Traced.value_bind, Traced.value_pure, resolve]
    exact Option.bind_congr entry
  refine ⟨resolve, ?_, ?_⟩
  · simp only [Variant.activeKey, Traced.value_bind, Traced.value_pure, active]
  · simp only [Variant.render, Traced.value_bind, Traced.value_pure, active]

/-- The entry to show stays the same in every table that agrees up to this entry. -/
theorem Selects.of_agrees_upTo {index : Nat} {table : MatchTable}
    (selects : variant.Selects setting (some ⟨index, true⟩))
    (agrees : ∀ place ≤ index, table[place]? = variant.table[place]?) :
    { variant with table }.Selects setting (some ⟨index, true⟩) := by
  cases selects with
  | first found fits least =>
    refine .first ((agrees index (Nat.le_refl _)).trans found) fits ?_
    intro earlier before entry isEntry
    rw [agrees earlier (Nat.le_of_lt before)] at isEntry
    exact least earlier before entry isEntry

/-- What is shown stays the same in every table that agrees up to the entry to show. -/
theorem showsLike_of_agrees_upTo {index : Nat} {table : MatchTable}
    (resolved : (variant.resolve setting).value = some ⟨index, true⟩)
    (agrees : ∀ place ≤ index, table[place]? = variant.table[place]?) :
    { variant with table }.ShowsLike variant setting := by
  have selects := (value_resolve_eq_iff ..).mp resolved
  have same := (value_resolve_eq_iff ..).mpr (selects.of_agrees_upTo agrees)
  refine .of_resolve (same.trans resolved.symm) fun resolution isResolution => ?_
  cases resolved.symm.trans isResolution
  exact agrees index (Nat.le_refl _)

/-- Where no key fits, the first key that holds among appended entries decides. -/
theorem Selects.append_of_fallback {added : MatchTable} {place : Nat} {entry : Text × Text}
    (selects : variant.Selects setting (some ⟨0, false⟩))
    (found : added[place]? = some entry)
    (fits : variant.Fits setting entry.1)
    (least : ∀ earlier < place, ∀ other, added[earlier]? = some other →
      ¬ variant.Fits setting other.1) :
    { variant with table := variant.table ++ added }.Selects setting
      (some ⟨variant.table.length + place, true⟩) := by
  cases selects with
  | fallback nonempty unfit =>
    refine .first ?_ fits fun earlier before other isOther => ?_
    · rw [List.getElem?_append_right (Nat.le_add_right _ _), Nat.add_sub_cancel_left]
      exact found
    · obtain inside | behind := Nat.lt_or_ge earlier variant.table.length
      · rw [List.getElem?_append_left inside] at isOther
        exact unfit other (List.mem_of_getElem? isOther)
      · rw [List.getElem?_append_right behind] at isOther
        exact least _ (Nat.sub_lt_left_of_lt_add behind before) other isOther

/-- Where no key fits, and none of appended entries either, the first entry remains. -/
theorem Selects.append_of_unfit {added : MatchTable}
    (selects : variant.Selects setting (some ⟨0, false⟩))
    (unfitAdded : ∀ entry ∈ added, ¬ variant.Fits setting entry.1) :
    { variant with table := variant.table ++ added }.Selects setting (some ⟨0, false⟩) := by
  cases selects with
  | fallback nonempty unfit =>
    refine .fallback (List.append_ne_nil_of_left_ne_nil nonempty added) fun entry member => ?_
    obtain inTable | inAdded := List.mem_append.mp member
    · exact unfit entry inTable
    · exact unfitAdded entry inAdded

/-- Entries behind the one to show may be added or cut off: the same is shown. If no key fits,
the first key that holds among added entries decides, for the values of the selectors that the
longer table has, and the first entry of all remains if there is none. -/
theorem appended_entries_come_last (variant : Variant) (setting : Setting) :
    (∀ index, (variant.resolve setting).value = some ⟨index, true⟩ →
      (∀ added, { variant with table := variant.table ++ added }.ShowsLike variant setting) ∧
        { variant with table := variant.table.take (index + 1) }.ShowsLike variant setting) ∧
    ((variant.resolve setting).value = some ⟨0, false⟩ → ∀ added,
      let longer := { variant with table := variant.table ++ added }
      let holds := fun entry : Text × Text =>
        (PatternKey.parse entry.1).holds (longer.evaluateSelectors setting).value = true
      (∀ place entry, added[place]? = some entry → holds entry →
          (∀ earlier < place, ∀ other, added[earlier]? = some other → ¬ holds other) →
          (longer.resolve setting).value = some ⟨variant.table.length + place, true⟩) ∧
        ((∀ entry ∈ added, ¬ holds entry) →
          (longer.resolve setting).value = some ⟨0, false⟩)) := by
  constructor
  · intro index resolved
    have selects := (value_resolve_eq_iff ..).mp resolved
    have inTable : index < variant.table.length := by
      cases selects with
      | first found => exact (List.getElem?_eq_some_iff.mp found).1
    refine ⟨fun added => ?_, ?_⟩
    · refine showsLike_of_agrees_upTo resolved fun place upTo => ?_
      exact List.getElem?_append_left (Nat.lt_of_le_of_lt upTo inTable)
    · refine showsLike_of_agrees_upTo resolved fun place upTo => ?_
      exact List.getElem?_take_of_lt (Nat.lt_succ_of_le upTo)
  · intro resolved added longer holds
    have selects := (value_resolve_eq_iff ..).mp resolved
    -- The longer table evaluates other selectors, but its keys hold by what they mean.
    have holds_iff : ∀ entry ∈ added, holds entry ↔ variant.Fits setting entry.1 :=
      fun entry member => holds_iff_fits (List.mem_append_right variant.table member)
    constructor
    · intro place entry found holding least
      refine (value_resolve_eq_iff ..).mpr (selects.append_of_fallback found ?_ ?_)
      · exact (holds_iff entry (List.mem_of_getElem? found)).mp holding
      · intro earlier before other isOther fits
        have member := List.mem_of_getElem? isOther
        exact least earlier before other isOther ((holds_iff other member).mpr fits)
    · intro none
      refine (value_resolve_eq_iff ..).mpr (selects.append_of_unfit fun entry member fits => ?_)
      exact none entry member ((holds_iff entry member).mpr fits)

/-- A variant that selects by its keys, for a count of one or two. -/
def oneOrTwo : Variant := ⟨[], [], [("n=1", "one"), ("n=2", "two")]⟩

/-- Entries that ask for a selector of their own. -/
def byKind : MatchTable := [("kind=a,n=3", "three"), ("n=*, kind = b", "many")]

/-- The setting of a count and a kind. -/
def counting (count : Double) : Setting :=
  ⟨.ofList [("n", .number count), ("kind", .text "b")], "en", .builtIn⟩

/-- A count of one takes the first of two entries, which may be followed by more or by none.
Where no entry fits, the second of the added ones is the first that holds. -/
theorem appended_entries_come_last_oneOrTwo :
    (oneOrTwo.resolve (counting .one)).value = some ⟨0, true⟩ ∧
      ({ oneOrTwo with table := oneOrTwo.table ++ byKind }.render (counting .one)).value =
        Text.ofString "one" ∧
      ({ oneOrTwo with table := oneOrTwo.table.take 1 }.activeKey (counting .one)).value =
        some (Text.ofString "n=1") ∧
      (oneOrTwo.resolve (counting .zero)).value = some ⟨0, false⟩ ∧
      ({ oneOrTwo with table := oneOrTwo.table ++ byKind }.resolve (counting .zero)).value =
        some ⟨3, true⟩ := by
  have matched : (oneOrTwo.resolve (counting .one)).value = some ⟨0, true⟩ := by decide +kernel
  have unmatched : (oneOrTwo.resolve (counting .zero)).value = some ⟨0, false⟩ := by
    decide +kernel
  obtain ⟨longer, shorter⟩ :=
    (appended_entries_come_last oneOrTwo (counting .one)).1 0 matched
  have added := (appended_entries_come_last oneOrTwo (counting .zero)).2 unmatched byKind
  refine ⟨matched, (longer byKind).render.trans (by decide +kernel),
    shorter.activeKey.trans (by decide +kernel), unmatched, ?_⟩
  refine added.1 1 ("n=*, kind = b", "many") rfl (by decide +kernel) ?_
  intro earlier before other isOther
  obtain rfl := Nat.lt_one_iff.mp before
  cases isOther
  decide +kernel

/-- Whether keys of the table fit depends on the selectors only as far as the keys ask for
them. -/
theorem fits_iff_of_selectors {left right : List Text} {entry : Text × Text}
    (member : entry ∈ variant.table)
    (agree : ∀ name ∈ variant.table.selectors,
      (left = [] ∨ name ∈ left) ↔ (right = [] ∨ name ∈ right)) :
    { variant with selectors := left }.Fits setting entry.1 ↔
      { variant with selectors := right }.Fits setting entry.1 := by
  apply forall_congr'
  intro selector
  apply forall_congr'
  intro value
  apply imp_congr_right
  intro counts
  have inTable : selector ∈ variant.table.selectors :=
    MatchTable.mem_selectors_iff.mpr ⟨entry, member, value, counts⟩
  exact or_congr_right (and_congr_right fun _ => agree selector inTable)

/-- Variants with the same table of which the same keys fit show the same. -/
theorem showsLike_of_fits_iff (table : variant.table = other.table)
    (fits : ∀ entry ∈ other.table, variant.Fits setting entry.1 ↔ other.Fits setting entry.1) :
    variant.ShowsLike other setting := by
  refine .of_resolve ((value_resolve_eq_iff ..).mpr ?_) fun _ _ => by rw [table]
  have selects := selects_resolve other setting
  generalize (other.resolve setting).value = answer at selects
  cases selects with
  | nothing empty => exact .nothing (table.trans empty)
  | first found fit least =>
    refine .first (table ▸ found) ((fits _ (List.mem_of_getElem? found)).mpr fit) ?_
    intro earlier before entry isEntry fitsEarlier
    rw [table] at isEntry
    exact least earlier before entry isEntry
      ((fits entry (List.mem_of_getElem? isEntry)).mp fitsEarlier)
  | fallback nonempty unfit =>
    refine .fallback (table ▸ nonempty) fun entry member fit => ?_
    rw [table] at member
    exact unfit entry member ((fits entry member).mp fit)

/-- Selectors that are listed in any way show the same as those that the keys of the table ask
for, if they are all listed. Two lists show the same if they agree on these. -/
theorem selectors_matter_as_asked_for (variant : Variant) (setting : Setting)
    (left : List Text) (listed : left ≠ []) :
    ((∀ name ∈ variant.table.selectors, name ∈ left) →
      { variant with selectors := left }.ShowsLike { variant with selectors := [] } setting) ∧
    ∀ right, right ≠ [] → (∀ name ∈ variant.table.selectors, name ∈ left ↔ name ∈ right) →
      { variant with selectors := left }.ShowsLike { variant with selectors := right }
        setting := by
  constructor
  · intro all
    refine showsLike_of_fits_iff rfl fun entry member => fits_iff_of_selectors member ?_
    intro name asked
    exact iff_of_true (.inr (all name asked)) (.inl rfl)
  · intro right otherListed agree
    refine showsLike_of_fits_iff rfl fun entry member => fits_iff_of_selectors member ?_
    intro name asked
    simp only [listed, otherListed, false_or, agree name asked]

/-- A list in another order, with a repetition and an unknown name, shows the same as none. Two
lists that leave out the same one of two names show the same. -/
theorem selectors_matter_as_asked_for_byKind :
    MatchTable.selectors byKind = ["kind", "n"] ∧
      ({ oneOrTwo with table := byKind, selectors := ["m", "n", "kind", "n"] }.activeKey
          (counting .one)).value = some (Text.ofString "n=*, kind = b") ∧
      ({ oneOrTwo with table := byKind, selectors := ["n", "m"] }.activeKey
          (counting .one)).value = some (Text.ofString "kind=a,n=3") := by
  have asked : MatchTable.selectors byKind = ["kind", "n"] := by decide +kernel
  have all := selectors_matter_as_asked_for { oneOrTwo with table := byKind } (counting .one)
    ["m", "n", "kind", "n"] (by decide)
  have some := selectors_matter_as_asked_for { oneOrTwo with table := byKind } (counting .one)
    ["n", "m"] (by decide)
  refine ⟨asked, (all.1 ?_).activeKey.trans (by decide +kernel),
    (some.2 ["n"] (by decide) ?_).activeKey.trans (by decide +kernel)⟩
  · intro name member
    rw [asked] at member
    revert name
    decide +kernel
  · intro name member
    rw [asked] at member
    revert name
    decide +kernel

end Variant

end MessageForms
