import MessageForms.Proofs.Declaration.Canonical

/-!
# The forms of a declaration

Each text is an input, a derived value, or lacks something of the form that it begins, and it is
read accordingly. A derived value may have blanks around each of its parts, and its options are
those that the words after the transform spell, the last one for each key.
-/

namespace MessageForms

namespace Declaration

/-- A word spells an option: the key stands before the first equals sign, and the value between
it and the second one or the end. -/
def SpellsOption (word key value : Text) : Prop :=
  key ≠ [] ∧ value ≠ [] ∧ Byte.equals ∉ key ∧ Byte.equals ∉ value ∧
    (word = key ++ Byte.equals :: value ∨
      ∃ rest, word = key ++ Byte.equals :: (value ++ Byte.equals :: rest))

/-- The options that words give: for each key, the value of the last word that spells one. -/
def AreOptions (words : List Text) (options : Dictionary Text) : Prop :=
  ∀ key value, options.find? key = some value ↔
    ∃ earlier word later, words = earlier ++ word :: later ∧ SpellsOption word key value ∧
      ∀ other ∈ later, ∀ replaced, ¬ SpellsOption other key replaced

/-- A derived value as it may be spelled: its parts, and the blanks around them. -/
structure Spelling where
  name : Text
  source : Text
  transform : Text
  /-- The words after the transform, each with the blanks before it. -/
  words : List (Text × Text)
  beforeName : Text
  afterName : Text
  beforeSource : Text
  afterSource : Text
  beforeTransform : Text
  atEnd : Text
  nameTrimmed : name.trim = name
  nameUnmarked : Byte.equals ∉ name
  sourceTrimmed : source.trim = source
  sourceUnmarked : Byte.colon ∉ source
  transformSolid : transform.IsSolid
  transformNonempty : transform ≠ []
  apart : Text.AreApart words
  blanks : ∀ blanks ∈ [beforeName, afterName, beforeSource, afterSource, beforeTransform, atEnd],
    blanks.IsBlank

/-- The text that is spelled. -/
def Spelling.text (spelling : Spelling) : Text :=
  localWord ++ ((spelling.beforeName ++ spelling.name ++ spelling.afterName) ++ Byte.equals ::
    ((spelling.beforeSource ++ spelling.source ++ spelling.afterSource) ++ Byte.colon ::
      (spelling.beforeTransform ++ spelling.transform ++ Text.spread spelling.words ++
        spelling.atEnd)))

/-- A text declares an input: something that is not blank follows the word. -/
def IsInput (text : Text) : Prop :=
  ∃ rest, text = inputWord ++ rest ∧ ¬ rest.IsBlank

/-- A text declares a derived value: between the blanks at both ends of what follows the word,
a colon stands behind the first equals sign. -/
def IsLocal (text : Text) : Prop :=
  ∃ rest left right : Text, text = localWord ++ rest ∧
    rest.trim = left ++ Byte.equals :: right ∧ Byte.equals ∉ left ∧ Byte.colon ∈ right

/-- What a text lacks of the form that it begins. -/
inductive Lacks : Text → DeclarationFault → Prop where
  | inputName {rest : Text} (blank : rest.IsBlank) : Lacks (inputWord ++ rest) .missingInputName
  | equals {rest : Text} (unmarked : Byte.equals ∉ rest) :
      Lacks (localWord ++ rest) .missingEquals
  | colon {left right : Text} (first : Byte.equals ∉ left) (unmarked : Byte.colon ∉ right) :
      Lacks (localWord ++ (left ++ Byte.equals :: right)) .missingColon
  | form {text : Text} (noInput : ¬ inputWord <+: text) (noLocal : ¬ localWord <+: text) :
      Lacks text .unknownFormat

/-- An option is read as it is spelled. -/
theorem option?_eq_some_iff {word : Text} {entry : Text × Text} :
    option? word = some entry ↔ SpellsOption word entry.1 entry.2 := by
  constructor
  · intro read
    obtain ⟨rest, cut, rfl, keyNonempty, valueNonempty⟩ := exists_of_option? read
    refine ⟨keyNonempty, valueNonempty, Text.not_mem_before _ _, Text.not_mem_before _ _, ?_⟩
    have whole := Text.eq_of_after? cut
    obtain ⟨behind, restWhole, rfl | ended⟩ := Text.exists_before_append Byte.equals rest
    · rw [List.append_nil] at restWhole
      exact .inl (restWhole ▸ whole)
    · obtain ⟨behind, rfl⟩ := List.head?_eq_some_iff.mp ended
      refine .inr ⟨behind, ?_⟩
      rw [← restWhole]
      exact whole
  · rintro ⟨keyNonempty, valueNonempty, keyUnmarked, valueUnmarked, spelled⟩
    have cut : ∃ rest, word = entry.1 ++ Byte.equals :: (entry.2 ++ rest) ∧
        (rest = [] ∨ rest.head? = some Byte.equals) := by
      obtain rfl | ⟨rest, rfl⟩ := spelled
      · exact ⟨[], by simp, .inl rfl⟩
      · exact ⟨Byte.equals :: rest, rfl, .inr rfl⟩
    obtain ⟨rest, rfl, ended⟩ := cut
    simp [option?, Text.after?_append keyUnmarked, Text.before_append keyUnmarked,
      Text.before_append_of_ended valueUnmarked ended, keyNonempty, valueNonempty]

/-- The options that are read from words are those that the words give. -/
theorem areOptions_ofList (words : List Text) :
    AreOptions words (Dictionary.ofList (words.filterMap option?)) := by
  intro key value
  rw [Dictionary.find?_ofList, Entries.lookup_reverse_filterMap]
  simp only [option?_eq_some_iff, Ne]

/-- A derived value is read from any spelling of it. -/
theorem parse?_spelling (spelling : Spelling) :
    parse? spelling.text = .ok (derived ⟨spelling.name, spelling.source, spelling.transform,
      Dictionary.ofList ((spelling.words.map Prod.snd).filterMap option?)⟩) := by
  obtain ⟨name, source, transform, words, beforeName, afterName, beforeSource, afterSource,
    beforeTransform, atEnd, nameTrimmed, nameUnmarked, sourceTrimmed, sourceUnmarked,
    transformSolid, transformNonempty, apart, blanks⟩ := spelling
  simp only [List.forall_mem_cons] at blanks
  obtain ⟨beforeNameBlank, afterNameBlank, beforeSourceBlank, afterSourceBlank,
    beforeTransformBlank, atEndBlank, -⟩ := blanks
  have behind : Text.words (beforeTransform ++ transform ++ Text.spread words ++ atEnd) =
      transform :: words.map Prod.snd := by
    rw [Text.words_append_of_blank_end atEndBlank, List.append_assoc,
      Text.words_append_of_blank beforeTransformBlank,
      Text.words_append_spread transformSolid transformNonempty apart]
  have read := parseDerivation_padded nameTrimmed nameUnmarked sourceTrimmed sourceUnmarked
    beforeNameBlank afterNameBlank beforeSourceBlank afterSourceBlank
    (beforeTransform ++ transform ++ Text.spread words ++ atEnd)
  rw [behind] at read
  rw [Spelling.text, parse?_localWord, read]
  rfl

/-- Every text declares an input or a derived value, or lacks something. -/
theorem isInput_or_isLocal_or_lacks (text : Text) :
    IsInput text ∨ IsLocal text ∨ ∃ fault, Lacks text fault := by
  by_cases input : inputWord <+: text
  · obtain ⟨rest, rfl⟩ := input
    by_cases blank : Text.IsBlank rest
    · exact .inr (.inr ⟨_, .inputName blank⟩)
    · exact .inl ⟨rest, rfl, blank⟩
  by_cases isLocal : localWord <+: text
  · obtain ⟨rest, rfl⟩ := isLocal
    by_cases marked : Byte.equals ∈ rest
    · obtain ⟨left, right, rfl, first⟩ := List.eq_append_cons_of_mem marked
      by_cases colon : Byte.colon ∈ right
      · refine .inr (.inl ⟨_, Text.trimStart left, Text.trimEnd right, rfl,
          Text.trim_append_cons rfl _ _,
          fun member => first ((Text.trimStart_isSuffix _).mem member), ?_⟩)
        rw [← Text.mem_trim_iff rfl, Text.trim_trimEnd, Text.mem_trim_iff rfl]
        exact colon
      · exact .inr (.inr ⟨_, .colon first colon⟩)
    · exact .inr (.inr ⟨_, .equals marked⟩)
  · exact .inr (.inr ⟨_, .form input isLocal⟩)

/-- A text that lacks something is not read. -/
theorem parse?_of_lacks {text : Text} {fault : DeclarationFault} (lacks : Lacks text fault) :
    parse? text = .error fault := by
  cases lacks with
  | inputName blank => rw [parse?_inputWord, if_pos (Text.trim_eq_nil_iff.mpr blank)]
  | @equals rest unmarked =>
    have noCut : Text.after? Byte.equals rest.trim = none :=
      Text.after?_eq_none_iff.mpr fun member => unmarked (Text.mem_of_mem_trim member)
    rw [parse?_localWord, parseDerivation, noCut]
    rfl
  | @colon left right first unmarked =>
    have firstLeft : Byte.equals ∉ left.trimStart := fun member =>
      first ((Text.trimStart_isSuffix _).mem member)
    have noCut : Text.after? Byte.colon right.trim = none :=
      Text.after?_eq_none_iff.mpr fun member => unmarked (Text.mem_of_mem_trim member)
    rw [parse?_localWord, Text.trim_append_cons rfl, parseDerivation,
      Text.after?_append firstLeft]
    simp only [Text.trim_trimEnd, noCut]
    rfl
  | form noInput noLocal =>
    have notInput : Text.following? inputWord text = none := by
      refine Option.eq_none_iff_forall_ne_some.mpr fun rest follows => noInput ⟨rest, ?_⟩
      exact (Text.following?_eq_some_iff.mp follows).symm
    have notLocal : Text.following? localWord text = none := by
      refine Option.eq_none_iff_forall_ne_some.mpr fun rest follows => noLocal ⟨rest, ?_⟩
      exact (Text.following?_eq_some_iff.mp follows).symm
    rw [parse?, notInput, notLocal]

/-- A text that declares a derived value is read as one. -/
theorem parse?_of_isLocal {text : Text} (isLocal : IsLocal text) :
    ∃ derivation, parse? text = .ok (derived derivation) := by
  obtain ⟨rest, left, right, rfl, parts, first, colon⟩ := isLocal
  have inTrimmed : Byte.colon ∈ right.trim := (Text.mem_trim_iff rfl).mpr colon
  obtain ⟨source, behind, cut, unmarked⟩ := List.eq_append_cons_of_mem inTrimmed
  rw [parse?_localWord, parts, parseDerivation, Text.after?_append first]
  simp only [cut, Text.after?_append unmarked]
  exact ⟨_, rfl⟩

/-- How texts are read. -/
structure ReadsForms : Prop where
  /-- A derived value is read from any spelling of it, without a report. -/
  spelled (spelling : Spelling) : ∃ options,
    parse spelling.text =
        ⟨derived ⟨spelling.name, spelling.source, spelling.transform, options⟩, []⟩ ∧
      AreOptions (spelling.words.map Prod.snd) options
  /-- A text with the marks of a derived value is read as one. -/
  derived (text : Text) (isLocal : IsLocal text) : ∃ derivation,
    parse text = ⟨.derived derivation, []⟩
  /-- What follows the word of an input is its name, without the blanks around it. -/
  input (rest : Text) (nonblank : ¬ rest.IsBlank) :
    parse (inputWord ++ rest) = ⟨.input rest.trim, []⟩
  /-- Every other text is kept, with one warning that says what it lacks. -/
  unknown (text : Text) (noInput : ¬ IsInput text) (noLocal : ¬ IsLocal text) : ∃ fault,
    parse text = ⟨.unknown text, [.report (.invalidDeclaration fault text)]⟩ ∧
      (Diagnostic.invalidDeclaration fault text).severity = .warning ∧ Lacks text fault

/-- What is read without a fault is read without a report. -/
theorem parse_of_parse? {text : Text} {declaration : Declaration}
    (read : parse? text = .ok declaration) : parse text = ⟨declaration, []⟩ := by
  rw [parse, read]
  rfl

/-- Texts are read by their forms, however they are spaced. -/
theorem readsForms : ReadsForms where
  spelled spelling := ⟨_, parse_of_parse? (parse?_spelling spelling), areOptions_ofList _⟩
  derived text isLocal := by
    obtain ⟨derivation, read⟩ := parse?_of_isLocal isLocal
    exact ⟨derivation, parse_of_parse? read⟩
  input rest nonblank := by
    refine parse_of_parse? ?_
    rw [parse?_inputWord, if_neg fun nothing => nonblank (Text.trim_eq_nil_iff.mp nothing)]
  unknown text noInput noLocal := by
    obtain isInput | isLocal | ⟨fault, lacks⟩ := isInput_or_isLocal_or_lacks text
    · exact absurd isInput noInput
    · exact absurd isLocal noLocal
    · refine ⟨fault, ?_, rfl, lacks⟩
      rw [parse, parse?_of_lacks lacks]
      rfl

/-- A spelling with blanks of all kinds, a word that is no option, and one option given twice. -/
def crowded : Spelling where
  name := "kind"
  source := "n=m"
  transform := "plural"
  words := [(" ", "type=ordinal"), ("\t ", "=x"), ("\n", "type=cardinal=y")]
  beforeName := "\t"
  afterName := " \r"
  beforeSource := "\n\n"
  afterSource := " "
  beforeTransform := []
  atEnd := "\x0b\x0c"
  nameTrimmed := by decide +kernel
  nameUnmarked := by decide +kernel
  sourceTrimmed := by decide +kernel
  sourceUnmarked := by decide +kernel
  transformSolid := by decide +kernel
  transformNonempty := by decide +kernel
  apart := by decide +kernel
  blanks := by decide +kernel

/-- The last type counts. Without a colon, the text is kept. -/
theorem readsForms_crowded :
    crowded.text =
        "local \tkind \r=\n\nn=m :plural type=ordinal\t =x\ntype=cardinal=y\x0b\x0c" ∧
      (∃ options,
        parse crowded.text = ⟨derived ⟨"kind", "n=m", "plural", options⟩, []⟩ ∧
          options.find? "type" = some (Text.ofString "cardinal")) ∧
      ∃ fault, parse "local kind = n plural" =
        ⟨.unknown "local kind = n plural",
          [.report (.invalidDeclaration fault "local kind = n plural")]⟩ := by
  obtain ⟨options, read, given⟩ := readsForms.spelled crowded
  have lastType : options.find? "type" = some (Text.ofString "cardinal") := by
    refine (given "type" "cardinal").mpr
      ⟨["type=ordinal", "=x"], "type=cardinal=y", [], by rfl, ?_, nofun⟩
    exact ⟨by decide +kernel, by decide +kernel, by decide +kernel, by decide +kernel,
      .inr ⟨"y", by decide +kernel⟩⟩
  have noColon : ¬ IsLocal "local kind = n plural" := by
    rintro ⟨rest, left, right, whole, parts, -, colon⟩
    have inText : Byte.colon ∈ Text.ofString "local kind = n plural" := by
      rw [whole]
      refine List.mem_append_right _ (Text.mem_of_mem_trim ?_)
      rw [parts]
      exact List.mem_append_right _ (List.mem_cons_of_mem _ colon)
    exact absurd inText (by decide +kernel)
  have noInput : ¬ IsInput "local kind = n plural" := by
    rintro ⟨rest, whole, -⟩
    have begun : inputWord <+: Text.ofString "local kind = n plural" := ⟨rest, whole.symm⟩
    exact absurd begun (by decide +kernel)
  obtain ⟨fault, kept, -⟩ := readsForms.unknown _ noInput noColon
  exact ⟨by decide +kernel, ⟨options, read, lastType⟩, fault, kept⟩

end Declaration

end MessageForms
