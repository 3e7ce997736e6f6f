import MessageForms.Proofs.Declaration.WellFormed
import MessageForms.Proofs.Json.Reading
import MessageForms.StoredValue

/-!
# Storage of variants

What comes back from the written form of a variant can be said without the writer and the
reader: it is the variant without what the form leaves out. A variant that was read has
nothing to leave out, so writing and reading it again changes nothing. Where documents end
matters to texts with a NUL byte in them only, and the written form has none.
-/

namespace MessageForms

namespace Traced

/-- The values of a list of traced results. -/
theorem value_all {α : Type} (results : List (Traced α)) :
    (all results).value = results.map value := by
  induction results with
  | nil => rfl
  | cons first rest inductionHypothesis => simp [all, inductionHypothesis]

end Traced

namespace Declaration

/-- Every text but the empty one is read. -/
theorem value_parseAll (texts : List Text) :
    (parseAll texts).value = (texts.filter (· != [])).map fun text => (parse text).value := by
  rw [parseAll, Traced.value_all, List.map_map]
  rfl

/-- Something that was read is written as something. -/
theorem write_parse_ne_nil {text : Text} (nonempty : text ≠ []) :
    (parse text).value.write ≠ [] := by
  have begun : ∀ word rest : Text, word ≠ [] → word ++ rest ≠ [] := fun word rest isWord =>
    List.append_ne_nil_of_left_ne_nil isWord rest
  rcases parse_eq_or text with ⟨declaration, read, same⟩ | same
  · rw [same]
    obtain ⟨rest, -, -, rfl⟩ | ⟨rest, derivation, -, -, rfl⟩ := cases_of_parse? read
    · exact begun inputWord _ (by decide +kernel)
    · rw [write_derived]
      exact begun localWord _ (by decide +kernel)
  · rw [same]
    exact nonempty

end Declaration

namespace Variant

/-- All texts in a variant. -/
def texts (variant : Variant) : List Text :=
  variant.declarations.flatMap Declaration.texts ++ variant.selectors ++
    variant.table.flatMap fun entry => [entry.1, entry.2]

/-- A variant whose texts are all well-formed. -/
def IsUtf8 (variant : Variant) : Prop :=
  ∀ text ∈ variant.texts, Utf8.isValid text

instance : DecidablePred IsUtf8 := fun variant =>
  inferInstanceAs (Decidable (∀ text ∈ variant.texts, Utf8.isValid text))

/-- What the written form of a variant keeps: the declarations and selectors that are not
written as the empty text, the declarations as they read, and each key of the table once,
at its first place with its last template. -/
def stored (variant : Variant) : Variant where
  declarations :=
    (variant.declarations.filter fun declaration => declaration.write != []).map
      fun declaration => (Declaration.parse declaration.write).value
  selectors := variant.selectors.filter (· != [])
  table := Entries.latest variant.table

/-- A variant of which the written form leaves nothing out. -/
structure IsStorable (variant : Variant) : Prop where
  declarations : ∀ declaration ∈ variant.declarations, declaration.write ≠ [] ∧
    (Declaration.parse declaration.write).value = declaration
  selectors : [] ∉ variant.selectors
  distinct : variant.forms.Nodup

/-- The texts of a variant are those of its declarations, its selectors, and the keys and
templates of its table. -/
theorem isUtf8_iff {variant : Variant} :
    variant.IsUtf8 ↔
      (∀ declaration ∈ variant.declarations, declaration.IsUtf8) ∧
        (∀ selector ∈ variant.selectors, Utf8.isValid selector) ∧
        ∀ entry ∈ variant.table, Utf8.isValid entry.1 ∧ Utf8.isValid entry.2 := by
  simp only [IsUtf8, texts, List.forall_mem_append, List.mem_flatMap, Declaration.IsUtf8]
  constructor
  · rintro ⟨⟨declarations, selectors⟩, table⟩
    refine ⟨?_, selectors, ?_⟩
    · intro declaration member text inDeclaration
      exact declarations text ⟨declaration, member, inDeclaration⟩
    · intro entry member
      exact ⟨table _ ⟨entry, member, by simp⟩, table _ ⟨entry, member, by simp⟩⟩
  · rintro ⟨declarations, selectors, table⟩
    refine ⟨⟨?_, selectors⟩, ?_⟩
    · rintro text ⟨declaration, member, inDeclaration⟩
      exact declarations declaration member text inDeclaration
    · rintro text ⟨entry, member, inEntry⟩
      simp only [List.mem_cons, List.not_mem_nil, or_false] at inEntry
      rcases inEntry with rfl | rfl
      · exact (table entry member).1
      · exact (table entry member).2

/-- A list is left as it is by passing over and changing items exactly if it has none that
are passed over or changed. -/
theorem map_filter_eq_self_iff {α : Type} {keep : α → Bool} {change : α → α} {items : List α} :
    (items.filter keep).map change = items ↔
      ∀ item ∈ items, keep item = true ∧ change item = item := by
  constructor
  · intro same item member
    have lengths : (items.filter keep).length = items.length := by
      rw [← List.length_map change, same]
    have kept := List.length_filter_eq_length_iff.mp lengths
    rw [List.filter_eq_self.mpr kept] at same
    have unchanged : items.map change = items.map id := by rw [same, List.map_id]
    exact ⟨kept item member, List.map_inj_left.mp unchanged item member⟩
  · intro each
    rw [List.filter_eq_self.mpr fun item member => (each item member).1]
    exact (List.map_congr_left fun item member => (each item member).2).trans (List.map_id items)

/-- The written form leaves nothing out of a variant exactly if it is storable. -/
theorem stored_eq_iff {variant : Variant} : variant.stored = variant ↔ variant.IsStorable := by
  obtain ⟨declarations, selectors, table⟩ := variant
  simp only [stored, mk.injEq, map_filter_eq_self_iff, List.filter_eq_self,
    Entries.latest_eq_self_iff, bne_iff_ne]
  constructor
  · rintro ⟨reproduced, nonempty, distinct⟩
    exact ⟨reproduced, fun member => nonempty [] member rfl, distinct⟩
  · rintro ⟨reproduced, nonempty, distinct⟩
    exact ⟨reproduced, fun selector member same => nonempty (same ▸ member), distinct⟩

/-- The members of the object that stores a variant. -/
def members (variant : Variant) : List (Text × Json) :=
  let strings (texts : List Text) : Json := .array (texts.map Json.string)
  let declarations :=
    if variant.declarations = [] then []
    else [(declarationsName, strings (variant.declarations.map Declaration.write))]
  let selectors :=
    if variant.selectors = [] then [] else [(selectorsName, strings variant.selectors)]
  let table :=
    Json.object (Entries.merge (variant.table.map fun entry => (entry.1, Json.string entry.2)))
  declarations ++ selectors ++ [(matchName, table)]

/-- A variant is stored as an object in a list. -/
theorem toJson_eq (variant : Variant) :
    variant.toJson = .array [.object variant.members] := rfl

section Members

variable (variant : Variant)

/-- The table is always stored. -/
theorem lookup_matchName :
    variant.members.lookup matchName =
      some (.object ((Entries.merge variant.table).map fun entry =>
        (entry.1, Json.string entry.2))) := by
  have notDeclarations : (matchName == declarationsName) = false := by decide +kernel
  have notSelectors : (matchName == selectorsName) = false := by decide +kernel
  rw [← Entries.merge_map]
  simp only [members]
  split <;> split <;> simp [List.lookup_cons, notDeclarations, notSelectors]

/-- The declarations are stored as their texts. -/
theorem items_declarations :
    ((variant.members.lookup declarationsName).getD .null).items =
      (variant.declarations.map Declaration.write).map Json.string := by
  have notSelectors : (declarationsName == selectorsName) = false := by decide +kernel
  have notMatch : (declarationsName == matchName) = false := by decide +kernel
  simp only [members]
  split
  next missing => split <;> simp [List.lookup_cons, notSelectors, notMatch, missing, Json.items]
  next => simp [Json.items]

/-- The selectors are stored as they are. -/
theorem items_selectors :
    ((variant.members.lookup selectorsName).getD .null).items =
      variant.selectors.map Json.string := by
  have notDeclarations : (selectorsName == declarationsName) = false := by decide +kernel
  have notMatch : (selectorsName == matchName) = false := by decide +kernel
  simp only [members]
  split <;> split
  next missing => simp [List.lookup_cons, notMatch, missing, Json.items]
  next => simp [Json.items]
  next missing => simp [List.lookup_cons, notDeclarations, notMatch, missing, Json.items]
  next => simp [List.lookup_cons, notDeclarations, Json.items]

/-- Lists without declarations or selectors are not stored. -/
theorem members_sublist :
    variant.members.Sublist
      [(declarationsName, .array ((variant.declarations.map Declaration.write).map Json.string)),
        (selectorsName, .array (variant.selectors.map Json.string)),
        (matchName, .object ((Entries.merge variant.table).map fun entry =>
          (entry.1, Json.string entry.2)))] := by
  rw [← Entries.merge_map]
  simp only [members]
  split <;> split <;> simp

end Members

/-- The value that stores a variant, taken back without writing it. -/
theorem ofWrapped?_toJson (variant : Variant) :
    (ofWrapped? variant.toJson).value = some variant.stored := by
  have texts : ∀ texts : List Text, (texts.map Json.string).filterMap Json.text? = texts := by
    intro texts
    rw [List.filterMap_map]
    exact List.filterMap_some
  have table : (tableOfJson (.object ((Entries.merge variant.table).map fun entry =>
      (entry.1, Json.string entry.2)))).value = variant.stored.table := by
    rw [Entries.merge_eq_latest]
    exact (List.map_map).trans (List.map_id _)
  have declarations : (declarationsOfJson
      ((variant.members.lookup declarationsName).getD .null)).value =
        variant.stored.declarations := by
    rw [declarationsOfJson, items_declarations, texts, Declaration.value_parseAll,
      List.filter_map, List.map_map]
    rfl
  have selectors : selectorsOfJson ((variant.members.lookup selectorsName).getD .null) =
      variant.stored.selectors := by
    rw [selectorsOfJson, items_selectors, texts]
    rfl
  simp [toJson_eq, ofWrapped?, Json.items, Json.member?, lookup_matchName, Json.isTruthy,
    ofMembers, table, declarations, selectors]

/-- Well-formed strings make a value of well-formed strings. -/
theorem over_strings {texts : List Text} (valid : ∀ text ∈ texts, Utf8.isValid text) :
    (Json.array (texts.map Json.string)).Over Json.Token.EndsItself := by
  apply Json.Over.array
  intro item member
  obtain ⟨text, inTexts, rfl⟩ := List.mem_map.mp member
  exact .atom (valid text inTexts)

/-- Well-formed keys and templates make a value of well-formed strings. -/
theorem over_table {table : MatchTable}
    (valid : ∀ entry ∈ table, Utf8.isValid entry.1 ∧ Utf8.isValid entry.2) :
    (Json.object ((Entries.merge table).map fun entry => (entry.1, Json.string entry.2))).Over
      Json.Token.EndsItself := by
  have merged : ∀ entry ∈ Entries.merge table, Utf8.isValid entry.1 ∧ Utf8.isValid entry.2 :=
    fun entry member => valid entry (Entries.mem_of_mem_merge member)
  apply Json.Over.object
  · rw [List.map_map]
    exact Entries.nodup_merge table
  · intro member inMembers
    obtain ⟨entry, inMerged, rfl⟩ := List.mem_map.mp inMembers
    exact (merged entry inMerged).1
  · intro member inMembers
    obtain ⟨entry, inMerged, rfl⟩ := List.mem_map.mp inMembers
    exact .atom (merged entry inMerged).2

/-- The value that stores a well-formed variant is made of well-formed strings. -/
theorem over_toJson {variant : Variant} (utf8 : variant.IsUtf8) :
    variant.toJson.Over Json.Token.EndsItself := by
  obtain ⟨declarations, selectors, table⟩ := isUtf8_iff.mp utf8
  have names := (members_sublist variant).map Prod.fst
  have object : (Json.object variant.members).Over Json.Token.EndsItself := by
    apply Json.Over.object
    · have distinct : [declarationsName, selectorsName, matchName].Nodup := by decide +kernel
      exact distinct.sublist names
    · intro member inMembers
      have ascii : ∀ name ∈ [declarationsName, selectorsName, matchName], name.IsAscii := by
        decide +kernel
      exact Utf8.isValid_of_ascii (ascii member.1 (names.mem (List.mem_map_of_mem inMembers)))
    · intro member inMembers
      have oneOfThree := (members_sublist variant).mem inMembers
      simp only [List.mem_cons, List.not_mem_nil, or_false] at oneOfThree
      rcases oneOfThree with rfl | rfl | rfl
      · apply over_strings
        intro text inTexts
        obtain ⟨declaration, inDeclarations, rfl⟩ := List.mem_map.mp inTexts
        exact Declaration.isValid_write (declarations declaration inDeclarations)
      · exact over_strings selectors
      · exact over_table table
  rw [toJson_eq]
  exact .array (List.forall_mem_singleton.mpr object)

/-- A text looks like a variant exactly if only blanks stand before the opening. -/
theorem startsWith_opening_iff {text : Text} : text.trim.startsWith opening ↔
    ∃ blanks rest : Text, blanks.IsBlank ∧
      text = blanks ++ Byte.openBracket :: Byte.openBrace :: rest := by
  constructor
  · intro opens
    obtain ⟨rest, follows⟩ := Option.isSome_iff_exists.mp opens
    have trimmed : text.trim = opening ++ rest := Text.following?_eq_some_iff.mp follows
    obtain ⟨leading, trailing, leadingBlank, -, whole⟩ := Text.exists_trim text
    rw [trimmed] at whole
    exact ⟨leading, rest ++ trailing, leadingBlank, by simpa [opening] using whole⟩
  · rintro ⟨blanks, rest, blank, rfl⟩
    have atStart : Text.trimStart (blanks ++ Byte.openBracket :: Byte.openBrace :: rest) =
        Byte.openBracket :: Byte.openBrace :: rest := Text.trimStart_append blank _
    have atEnd : Text.trimEnd (Byte.openBracket :: Byte.openBrace :: rest) =
        Byte.openBracket :: Byte.openBrace :: Text.trimEnd rest :=
      Text.trimEnd_append_cons rfl [Byte.openBracket] rest
    rw [Text.trim, atStart, atEnd]
    rfl

/-- The written form of a variant looks like one. -/
theorem startsWith_encode (variant : Variant) :
    variant.encode.trim.startsWith opening := by
  let rest : Text := ((Json.memberTokens variant.members).tail ++
    [Json.Token.closeObject, Json.Token.closeArray]).flatMap Json.Token.write
  have written : variant.encode = Byte.openBracket :: Byte.openBrace :: rest := by
    simp [rest, encode, toJson_eq, Json.write, Json.tokens, Json.itemTokens, Json.Token.write]
  exact startsWith_opening_iff.mpr ⟨[], rest, Text.isBlank_nil, written⟩

/-- A variant is read from its written form as from the value that stores it. -/
theorem ofText?_write {variant : Variant} (utf8 : variant.IsUtf8) (ending : Json.Ending) :
    ofText? variant.encode ending = ofWrapped? variant.toJson := by
  rw [ofText?, if_pos (startsWith_encode variant), encode,
    Json.read?_write (over_toJson utf8) ending]

/-- What a text without a NUL byte holds does not depend on where documents end. -/
theorem ofText?_of_not_mem {text : Text} (unended : Byte.nul ∉ text) (ending : Json.Ending) :
    ofText? text ending = ofText? text := by
  simp only [ofText?, Json.read?_of_not_mem unended ending]

/-- Neither the opening nor a blank before it is a NUL byte. -/
theorem startsWith_opening_untilNul (text : Text) :
    text.untilNul.trim.startsWith opening = text.trim.startsWith opening := by
  rw [Bool.eq_iff_iff, startsWith_opening_iff, startsWith_opening_iff]
  constructor
  · rintro ⟨blanks, rest, blank, cut⟩
    obtain ⟨behind, whole, -⟩ := Text.exists_before_append Byte.nul text
    have before : Text.before Byte.nul text =
        blanks ++ Byte.openBracket :: Byte.openBrace :: rest := cut
    exact ⟨blanks, rest ++ behind, blank, by rw [whole, before]; simp⟩
  · rintro ⟨blanks, rest, blank, rfl⟩
    have unended : Byte.nul ∉ blanks ++ opening := by
      rw [List.mem_append, not_or]
      exact ⟨fun member => absurd (blank _ member) (by decide), by decide⟩
    have cut : Text.untilNul (blanks ++ opening ++ rest) = blanks ++ opening ++ rest.untilNul :=
      Text.before_append_of_not_mem unended rest
    exact ⟨blanks, rest.untilNul, blank, by simpa [opening] using cut⟩

/-- A text whose document ends at a NUL byte holds what stands before the first one. -/
theorem ofText?_atNul (text : Text) : ofText? text .atNul = ofText? text.untilNul := by
  have read : Json.read? text .atNul = Json.read? text.untilNul := rfl
  rw [ofText?, ofText?, startsWith_opening_untilNul, read]

/-- The written form of a variant, and the value that stores it, are read as what they keep
of the variant, wherever documents end. That is all of it exactly if it is storable. -/
theorem ofText?_encode {variant : Variant} (utf8 : variant.IsUtf8) (ending : Json.Ending) :
    (ofText? variant.encode ending).value = some variant.stored ∧
      (ofJson? variant.toJson ending).value = some variant.stored ∧
      (variant.stored = variant ↔ variant.IsStorable) := by
  have wrapped := ofWrapped?_toJson variant
  exact ⟨by rw [ofText?_write utf8, wrapped], wrapped, stored_eq_iff⟩

/-- A variant that loses something of each kind in its written form: an empty declaration,
one that reads as another, an empty selector and the first template of a repeated key. -/
def crowded : Variant where
  declarations :=
    [.input " n", .unknown [], .unknown "local broken", .unknown "input  count ",
      .derived ⟨"rank", "n", "plural", .ofList [("type", "ordinal")]⟩]
  selectors := ["n", [], "n"]
  table := [("n=1", "first"), ("*", "\"é\\\n"), ("n=1", "second")]

/-- What is left of the crowded variant. -/
theorem ofText?_encode_crowded :
    crowded.IsUtf8 ∧
      (ofText? crowded.encode).value = some
        { declarations :=
            [.input "n", .unknown "local broken", .input "count",
              .derived ⟨"rank", "n", "plural", .ofList [("type", "ordinal")]⟩]
          selectors := ["n", "n"]
          table := [("n=1", "second"), ("*", "\"é\\\n")] } := by
  have utf8 : crowded.IsUtf8 := by decide +kernel
  exact ⟨utf8, (ofText?_encode utf8 .withText).1.trans (by decide +kernel)⟩

end Variant

end MessageForms
