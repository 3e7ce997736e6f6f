import MessageForms.Proofs.Declaration.Canonical

/-!
# Declarations in well-formed UTF-8

The marks and blanks at which a declaration is taken apart are ASCII, so the parts of a
well-formed text are well-formed, and so is what is written from them.
-/

namespace MessageForms

namespace Declaration

/-- All texts in a declaration. -/
def texts : Declaration → List Text
  | input name => [name]
  | derived derivation =>
    [derivation.name, derivation.source, derivation.transform] ++
      derivation.options.entries.flatMap fun entry => [entry.1, entry.2]
  | unknown text => [text]

/-- A declaration whose texts are all well-formed. -/
def IsUtf8 (declaration : Declaration) : Prop :=
  ∀ text ∈ declaration.texts, Utf8.isValid text

instance : DecidablePred IsUtf8 := fun declaration =>
  inferInstanceAs (Decidable (∀ text ∈ declaration.texts, Utf8.isValid text))

/-- The texts of a derived value are its name, its source, its transform and its options. -/
theorem isUtf8_derived_iff {derivation : Derivation} :
    (derived derivation).IsUtf8 ↔
      Utf8.isValid derivation.name ∧ Utf8.isValid derivation.source ∧
        Utf8.isValid derivation.transform ∧
        ∀ entry ∈ derivation.options.entries, Utf8.isValid entry.1 ∧ Utf8.isValid entry.2 := by
  constructor
  · intro utf8
    refine ⟨utf8 _ (by simp [texts]), utf8 _ (by simp [texts]), utf8 _ (by simp [texts]), ?_⟩
    intro entry member
    have inTexts : ∀ text ∈ [entry.1, entry.2], text ∈ (derived derivation).texts :=
      fun text inEntry =>
        List.mem_append_right _ (List.mem_flatMap.mpr ⟨entry, member, inEntry⟩)
    exact ⟨utf8 _ (inTexts _ (by simp)), utf8 _ (inTexts _ (by simp))⟩
  · rintro ⟨name, source, transform, options⟩ text member
    rcases List.mem_append.mp member with inParts | inOptions
    · simp only [List.mem_cons, List.not_mem_nil, or_false] at inParts
      rcases inParts with rfl | rfl | rfl
      · exact name
      · exact source
      · exact transform
    · obtain ⟨entry, inEntries, inEntry⟩ := List.mem_flatMap.mp inOptions
      simp only [List.mem_cons, List.not_mem_nil, or_false] at inEntry
      rcases inEntry with rfl | rfl
      · exact (options entry inEntries).1
      · exact (options entry inEntries).2

/-- A declaration is written well-formed if its texts are. -/
theorem isValid_write {declaration : Declaration} (utf8 : declaration.IsUtf8) :
    Utf8.isValid declaration.write := by
  cases declaration with
  | input name =>
    have nameValid : Utf8.isValid name := utf8 name (by simp [texts])
    exact Utf8.isValid_append rfl nameValid
  | derived derivation =>
    obtain ⟨name, source, transform, options⟩ := isUtf8_derived_iff.mp utf8
    have written : Utf8.isValid (derivation.options.entries.flatMap fun entry =>
        Byte.space :: optionWord entry) := by
      apply Utf8.isValid_flatMap
      intro entry member
      rw [Utf8.isValid_cons_iff rfl]
      exact (Utf8.isValid_append_cons_iff rfl _ _).mpr (options entry member)
    have behind : Utf8.isValid (application derivation) := Utf8.isValid_append transform written
    rw [write_derived]
    refine Utf8.isValid_append rfl ((Utf8.isValid_append_cons_iff rfl _ _).mpr ⟨?_, ?_⟩)
    · exact Utf8.isValid_append name rfl
    · rw [Utf8.isValid_cons_iff rfl, Utf8.isValid_append_cons_iff rfl, Utf8.isValid_cons_iff rfl]
      exact ⟨source, behind⟩
  | unknown text => exact utf8 text (by simp [texts])

/-- The words of a well-formed text make a well-formed derivation. -/
theorem isUtf8_ofWords {name source text : Text} (nameValid : Utf8.isValid name)
    (sourceValid : Utf8.isValid source) (textValid : Utf8.isValid text) :
    (derived (ofWords name source text.words)).IsUtf8 := by
  have words : ∀ word ∈ text.words, Utf8.isValid word := fun word member =>
    Utf8.isValid_of_mem_words textValid member
  have transform : Utf8.isValid (text.words.headD []) := by
    cases spelled : text.words with
    | nil => rfl
    | cons word rest => exact words word (by simp [spelled])
  refine isUtf8_derived_iff.mpr ⟨nameValid, sourceValid, transform, ?_⟩
  intro entry member
  obtain ⟨word, inWords, read⟩ := List.mem_filterMap.mp (Dictionary.mem_ofList member)
  obtain ⟨rest, cut, rfl, -, -⟩ := exists_of_option? read
  obtain ⟨key, restValid⟩ :=
    Utf8.isValid_of_after? rfl cut (words word (List.mem_of_mem_tail inWords))
  exact ⟨key, Utf8.isValid_before rfl restValid⟩

/-- What follows the word `local` in a well-formed text is read into a well-formed
derivation. -/
theorem isUtf8_of_parseDerivation {text : Text} {derivation : Derivation}
    (valid : Utf8.isValid text) (read : parseDerivation text = .ok derivation) :
    (derived derivation).IsUtf8 := by
  unfold parseDerivation at read
  split at read
  next => cases read
  next rest afterEquals =>
    dsimp only at read
    obtain ⟨name, restValid⟩ := Utf8.isValid_of_after? rfl afterEquals valid
    split at read
    next => cases read
    next application afterColon =>
      cases read
      obtain ⟨source, behind⟩ :=
        Utf8.isValid_of_after? rfl afterColon (Utf8.isValid_trim restValid)
      exact isUtf8_ofWords (Utf8.isValid_trim name) (Utf8.isValid_trim source) behind

/-- A well-formed text is read into a well-formed declaration. -/
theorem isUtf8_parse {text : Text} (valid : Utf8.isValid text) :
    (parse text).value.IsUtf8 := by
  rcases parse_eq_or text with ⟨declaration, read, same⟩ | same
  · rw [same]
    obtain ⟨rest, rfl, -, rfl⟩ | ⟨rest, derivation, rfl, parsed, rfl⟩ := cases_of_parse? read
    · have ascii : inputWord.IsAscii := by decide +kernel
      have name := Utf8.isValid_trim (Utf8.isValid_of_ascii_append ascii valid)
      simpa [IsUtf8, texts] using name
    · have ascii : localWord.IsAscii := by decide +kernel
      have behind := Utf8.isValid_trim (Utf8.isValid_of_ascii_append ascii valid)
      exact isUtf8_of_parseDerivation behind parsed
  · rw [same]
    simpa [IsUtf8, texts] using valid

end Declaration

end MessageForms
