import MessageForms.Proofs.Variant.Storage

/-!
# Saving again

Whatever text a variant is read from, its declarations come from texts that are not empty,
its selectors are not empty, and its table repeats no key. The written form keeps all of
such a variant, so it can take the place of the text, wherever documents end. Only what
stands behind a NUL byte can make a difference between readers.
-/

namespace MessageForms

/-- What an object holds under a name is well-formed, and so is the null that stands for nothing. -/
theorem Json.Over.member_getD {json : Json} (isOver : json.Over Token.IsUtf8) (name : Text) :
    ((json.member? name).getD .null).Over Token.IsUtf8 := by
  cases found : json.member? name with
  | none => exact .atom trivial
  | some value => exact isOver.member? found

namespace Variant

/-- A declaration that is read comes from a well-formed text with something in it. -/
theorem exists_of_mem_declarationsOfJson {json : Json} (isOver : json.Over Json.Token.IsUtf8)
    {declaration : Declaration} (member : declaration ∈ (declarationsOfJson json).value) :
    ∃ text, text ≠ [] ∧ Utf8.isValid text ∧ (Declaration.parse text).value = declaration := by
  rw [declarationsOfJson, Declaration.value_parseAll] at member
  obtain ⟨text, inTexts, rfl⟩ := List.mem_map.mp member
  obtain ⟨inItems, nonempty⟩ := List.mem_filter.mp inTexts
  obtain ⟨item, isItem, spelled⟩ := List.mem_filterMap.mp inItems
  exact ⟨text, bne_iff_ne.mp nonempty, (isOver.items item isItem).text? spelled, rfl⟩

/-- A selector that is read is well-formed and not empty. -/
theorem of_mem_selectorsOfJson {json : Json} (isOver : json.Over Json.Token.IsUtf8)
    {selector : Text} (member : selector ∈ selectorsOfJson json) :
    Utf8.isValid selector ∧ selector ≠ [] := by
  obtain ⟨inItems, nonempty⟩ := List.mem_filter.mp member
  obtain ⟨item, isItem, spelled⟩ := List.mem_filterMap.mp inItems
  exact ⟨(isOver.items item isItem).text? spelled, bne_iff_ne.mp nonempty⟩

/-- A template is well-formed, whatever kind of value it is read from. -/
theorem isValid_templateOfJson {json : Json} (isOver : json.Over Json.Token.IsUtf8) :
    Utf8.isValid (templateOfJson json) := by
  unfold templateOfJson
  split
  next text => exact isOver.text? rfl
  next => rfl
  next => exact Json.isValid_write_of_over isOver

/-- A table that is read repeats no key, and is well-formed. -/
theorem tableOfJson_spec {json : Json} (isOver : json.Over Json.Token.IsUtf8) :
    ((tableOfJson json).value.map Prod.fst).Nodup ∧
      ∀ entry ∈ (tableOfJson json).value, Utf8.isValid entry.1 ∧ Utf8.isValid entry.2 := by
  cases isOver with
  | @object members distinct names values =>
    have keys : ((tableOfJson (.object members)).value.map Prod.fst) = members.map Prod.fst := by
      simp [tableOfJson, Function.comp_def]
    refine ⟨keys ▸ distinct, fun entry member => ?_⟩
    obtain ⟨stored, inMembers, rfl⟩ := List.mem_map.mp member
    exact ⟨names stored inMembers, isValid_templateOfJson (values stored inMembers)⟩
  | _ => exact ⟨List.nodup_nil, nofun⟩

/-- Either a text is a plain template, or a variant is read from the first item of a list in a
well-formed document. -/
theorem ofText?_cases (text : Text) (ending : Json.Ending) :
    ofText? text ending = pure none ∨
      ∃ json first rest table, Json.read? text ending = some json ∧ json.items = first :: rest ∧
        first.member? matchName = some table ∧
        ofText? text ending = (do pure (some (← ofMembers first table))) := by
  unfold ofText?
  split
  next =>
    split
    next json isJson =>
      unfold ofWrapped?
      split
      next => exact .inl rfl
      next first rest items =>
        split
        next => exact .inl rfl
        next table isTable =>
          split
          next => exact .inr ⟨json, first, rest, table, isJson, items, isTable, rfl⟩
          next => exact .inl rfl
    next => exact .inl rfl
  next => exact .inl rfl

/-- A variant is read from the first item of a list in a well-formed document. -/
theorem exists_of_ofText? {text : Text} {ending : Json.Ending} {variant : Variant}
    (read : (ofText? text ending).value = some variant) :
    ∃ json first rest table, Json.read? text ending = some json ∧ json.items = first :: rest ∧
      first.member? matchName = some table ∧ (ofMembers first table).value = variant := by
  obtain plain | ⟨json, first, rest, table, isJson, items, isTable, decoded⟩ :=
    ofText?_cases text ending
  · rw [plain] at read
    cases read
  · rw [decoded] at read
    cases read
    exact ⟨json, first, rest, table, isJson, items, isTable, rfl⟩

/-- A variant that is read from a text is well-formed, and its written form keeps all of
it. -/
theorem isStorable_of_ofText? {text : Text} {ending : Json.Ending} {variant : Variant}
    (read : (ofText? text ending).value = some variant) :
    variant.IsUtf8 ∧ variant.IsStorable := by
  obtain ⟨json, first, rest, table, isJson, items, isTable, rfl⟩ := exists_of_ofText? read
  have firstOver : first.Over Json.Token.IsUtf8 :=
    (Json.over_of_read? isJson).items first (items ▸ List.mem_cons_self)
  have memberOver := firstOver.member_getD
  obtain ⟨distinct, entries⟩ := tableOfJson_spec (firstOver.member? isTable)
  constructor
  · refine isUtf8_iff.mpr ⟨?_, ?_, entries⟩
    · intro declaration member
      obtain ⟨text, -, valid, rfl⟩ := exists_of_mem_declarationsOfJson (memberOver _) member
      exact Declaration.isUtf8_parse valid
    · intro selector member
      exact (of_mem_selectorsOfJson (memberOver _) member).1
  · refine ⟨?_, ?_, distinct⟩
    · intro declaration member
      obtain ⟨text, nonempty, -, rfl⟩ := exists_of_mem_declarationsOfJson (memberOver _) member
      exact ⟨Declaration.write_parse_ne_nil nonempty, Declaration.parse_write_parse text⟩
    · intro member
      exact (of_mem_selectorsOfJson (memberOver _) member).2 rfl

/-- A variant that is read from a text is read again from its written form. -/
theorem ofText?_encode_of_ofText? {text : Text} {ending : Json.Ending} {variant : Variant}
    (read : (ofText? text ending).value = some variant) :
    (ofText? variant.encode ending).value = some variant := by
  obtain ⟨utf8, storable⟩ := isStorable_of_ofText? read
  rw [ofText?_write utf8, ofWrapped?_toJson, stored_eq_iff.mpr storable]

/-- The empty text holds no variant. -/
theorem ofText?_nil (ending : Json.Ending) : ofText? [] ending = pure none := by
  have shut : Text.startsWith (Text.trim []) opening = false := by decide +kernel
  simp [ofText?, shut]

/-- A text that holds a variant has something in it. -/
theorem ne_nil_of_ofText? {text : Text} {ending : Json.Ending} {variant : Variant}
    (read : (ofText? text ending).value = some variant) : text ≠ [] := by
  rintro rfl
  rw [ofText?_nil] at read
  cases read

/-- A text that holds a variant is rendered by it. -/
theorem render_of_ofText? {text : Text} {ending : Json.Ending} {variant : Variant}
    (read : (ofText? text ending).value = some variant) (setting : Setting) :
    (StoredValue.render text setting ending).value = (variant.render setting).value := by
  rw [StoredValue.render, if_neg (ne_nil_of_ofText? read), Traced.value_bind, read]

/-- A value that arrives as a terminated text is rendered the same way wherever documents end. -/
theorem render_untilNul (value : Text) (setting : Setting) (ending : Json.Ending) :
    StoredValue.render value.untilNul setting ending =
      StoredValue.render value.untilNul setting := by
  have unended : Byte.nul ∉ value.untilNul := Text.not_mem_before Byte.nul value
  simp only [StoredValue.render, ofText?_of_not_mem unended ending]

/-- The written form of a variant may take the place of the text that the variant was read
from, wherever documents end: it is read as the same variant, it is written no differently
after that, it renders to the same text, and the active key, the forms and the templates are
the same. -/
theorem encode_replaces_text {text : Text} {ending : Json.Ending} {variant : Variant}
    (read : (ofText? text ending).value = some variant) :
    (ofText? variant.encode ending).value = some variant ∧
      (ofText? variant.encode ending).value.map encode = some variant.encode ∧
      (∀ setting, (StoredValue.render variant.encode setting ending).value =
        (StoredValue.render text setting ending).value) ∧
      (∀ setting,
        ((ofText? variant.encode ending).value.map fun saved => (saved.activeKey setting).value) =
          (ofText? text ending).value.map fun original => (original.activeKey setting).value) ∧
      (ofText? variant.encode ending).value.map forms = (ofText? text ending).value.map forms ∧
      ∀ key, ((ofText? variant.encode ending).value.map fun saved => saved.template? key) =
        (ofText? text ending).value.map fun original => original.template? key := by
  have again := ofText?_encode_of_ofText? read
  refine ⟨again, by rw [again]; rfl, fun setting => ?_, fun setting => ?_, ?_, fun key => ?_⟩
  · rw [render_of_ofText? again, render_of_ofText? read]
  all_goals rw [again, read]

/-- A text that holds a variant together with much that is passed over or replaced. -/
def untidyText : Text :=
  Text.ofString " [\x7b \"match\" : \x7b\"n=1\":\"old\", \"*\":null, " ++
    Text.ofString "\"n=1\":[true, \"\\u00e9\"]\x7d,\n" ++
    Text.ofString "\"declarations\":[\"\", \"input  n \", 7, " ++
    Text.ofString "\"local broken\", " ++
    Text.ofString "\"local k=n :plural  type=ordinal=x junk\"],\n" ++
    Text.ofString "\"selectors\":[\"\", true, \"n\"] \x7d, \x7b\x7d] "

/-- The variant in the untidy text. -/
def untidyVariant : Variant where
  declarations :=
    [.input "n", .unknown "local broken",
      .derived ⟨"k", "n", "plural", .ofList [("type", "ordinal")]⟩]
  selectors := ["n"]
  table := [("n=1", "[true,\"é\"]"), ("*", [])]

/-- The untidy text may be replaced by the written form of its variant, alone and with what is no
JSON behind a NUL byte, where the document ends at that byte. Otherwise the longer text holds no
variant. -/
theorem encode_replaces_untidyText :
    (ofText? untidyText).value = some untidyVariant ∧ untidyVariant.encode ≠ untidyText ∧
      (ofText? untidyVariant.encode).value = some untidyVariant ∧
      (ofText? (untidyText ++ Byte.nul :: "]") .atNul).value = some untidyVariant ∧
      (ofText? (untidyText ++ Byte.nul :: "]")).value = none ∧
      (ofText? untidyVariant.encode .atNul).value = some untidyVariant := by
  have read : (ofText? untidyText).value = some untidyVariant := by decide +kernel
  have cut : Text.untilNul (untidyText ++ Byte.nul :: "]") = untidyText :=
    Text.before_append (by decide +kernel) _
  have readToNul : (ofText? (untidyText ++ Byte.nul :: "]") .atNul).value = some untidyVariant := by
    rw [ofText?_atNul, cut, read]
  exact ⟨read, by decide +kernel, (encode_replaces_text read).1, readToNul, by decide +kernel,
    (encode_replaces_text readToNul).1⟩

end Variant

end MessageForms
