import MessageForms.Declaration
import MessageForms.Proofs.Entries
import MessageForms.Proofs.Text.Utf8

/-!
# Canonical declarations

A declaration is canonical if it could have been read from a text: its parts have no blanks
around them and none of the marks that end them. Reading gives canonical declarations only,
and a canonical declaration is read back from its own text.
-/

namespace MessageForms

namespace Derivation

/-- A key or a value of an option: one word without an equals sign. -/
structure IsOptionPart (text : Text) : Prop where
  nonempty : text ≠ []
  solid : text.IsSolid
  unmarked : Byte.equals ∉ text

/-- A derivation that could have been read. -/
structure IsCanonical (derivation : Derivation) : Prop where
  nameTrimmed : derivation.name.trim = derivation.name
  nameUnmarked : Byte.equals ∉ derivation.name
  sourceTrimmed : derivation.source.trim = derivation.source
  sourceUnmarked : Byte.colon ∉ derivation.source
  transformSolid : derivation.transform.IsSolid
  /-- The first word behind the colon is the transform, so there are no options without it. -/
  transformFirst : derivation.transform = [] → derivation.options.entries = []
  options : ∀ entry ∈ derivation.options.entries, IsOptionPart entry.1 ∧ IsOptionPart entry.2

end Derivation

namespace Declaration

/-- A declaration that could have been read. -/
def IsCanonical : Declaration → Prop
  | input name => name.trim = name ∧ name ≠ []
  | derived derivation => derivation.IsCanonical
  | unknown text => (parse text).value = unknown text

/-- The words of an option. -/
def optionWord (entry : Text × Text) : Text :=
  entry.1 ++ Byte.equals :: entry.2

/-- The declaration of an input is one. -/
theorem parse?_inputWord (rest : Text) :
    parse? (inputWord ++ rest) =
      if rest.trim = [] then .error .missingInputName else .ok (input rest.trim) := by
  have begun : Text.following? inputWord (inputWord ++ rest) = some rest :=
    Text.following?_eq_some_iff.mpr rfl
  rw [parse?, begun]

/-- The declaration of a derived value is no declaration of an input. -/
theorem parse?_localWord (rest : Text) :
    parse? (localWord ++ rest) = (parseDerivation rest.trim).map derived := by
  have notInput : Text.following? inputWord (localWord ++ rest) = none := rfl
  have begun : Text.following? localWord (localWord ++ rest) = some rest :=
    Text.following?_eq_some_iff.mpr rfl
  rw [parse?, notInput, begun]

/-- An option is read from its own word. -/
theorem option?_optionWord {entry : Text × Text} (key : Derivation.IsOptionPart entry.1)
    (value : Derivation.IsOptionPart entry.2) : option? (optionWord entry) = some entry := by
  simp [option?, optionWord, Text.after?_append key.unmarked, Text.before_append key.unmarked,
    Text.before_of_not_mem value.unmarked, key.nonempty, value.nonempty]

/-- The word of an option has no blanks in it. -/
theorem solid_optionWord {entry : Text × Text} (key : Derivation.IsOptionPart entry.1)
    (value : Derivation.IsOptionPart entry.2) :
    Text.IsSolid (optionWord entry) ∧ optionWord entry ≠ [] := by
  refine ⟨?_, by simp [optionWord]⟩
  intro byte member
  rw [optionWord, List.mem_append, List.mem_cons] at member
  rcases member with inKey | rfl | inValue
  · exact key.solid byte inKey
  · rfl
  · exact value.solid byte inValue

/-- The space between two words is blank. -/
theorem space_isBlank : Text.IsBlank [Byte.space] := by
  simp [Text.IsBlank, Byte.isBlank]

/-- What is written behind the colon: the transform and the options, one word each. -/
def application (derivation : Derivation) : Text :=
  derivation.transform ++
    derivation.options.entries.flatMap fun entry => Byte.space :: optionWord entry

/-- The text of a derivation, cut at its marks. -/
theorem write_derived (derivation : Derivation) :
    (derived derivation).write =
      localWord ++ ((derivation.name ++ [Byte.space]) ++ Byte.equals ::
        (Byte.space :: (derivation.source ++ Byte.colon ::
          (Byte.space :: application derivation)))) := by
  have equalsMark : Text.ofString " = " = [Byte.space, Byte.equals, Byte.space] := rfl
  have colonMark : Text.ofString ": " = [Byte.colon, Byte.space] := rfl
  simp [write, equalsMark, colonMark, application, optionWord]

/-- The words behind the colon are read as the transform and the options. -/
theorem ofWords_application {derivation : Derivation} (canonical : derivation.IsCanonical) :
    ofWords derivation.name derivation.source
      (Text.words (Byte.space :: application derivation)) = derivation := by
  by_cases missing : derivation.transform = []
  · have noOptions := canonical.transformFirst missing
    have noWords : Text.words (Byte.space :: application derivation) = [] := by
      rw [application, missing, noOptions]
      rfl
    have empty : Dictionary.empty = derivation.options := Dictionary.ext noOptions.symm
    simp [noWords, ofWords, Dictionary.ofList, empty, ← missing]
  · -- Each word stands behind one space.
    let words := (derivation.transform :: derivation.options.entries.map optionWord).map
      fun word => ([Byte.space], word)
    have spelled : Byte.space :: application derivation = Text.spread words := by
      simp [words, application, Text.spread, List.flatMap_map]
    have apart : Text.AreApart words := by
      intro word member
      obtain ⟨content, isWord, rfl⟩ := List.mem_map.mp member
      refine ⟨space_isBlank, by simp, ?_⟩
      rcases List.mem_cons.mp isWord with rfl | isOption
      · exact ⟨canonical.transformSolid, missing⟩
      · obtain ⟨entry, inOptions, rfl⟩ := List.mem_map.mp isOption
        obtain ⟨key, value⟩ := canonical.options entry inOptions
        exact solid_optionWord key value
    have options : (derivation.options.entries.map optionWord).filterMap option? =
        derivation.options.entries := by
      have read : ∀ entry ∈ derivation.options.entries,
          (option? ∘ optionWord) entry = some entry := fun entry member =>
        option?_optionWord (canonical.options entry member).1 (canonical.options entry member).2
      rw [List.filterMap_map, List.filterMap_congr read, List.filterMap_some]
    have read : words.map Prod.snd =
        derivation.transform :: derivation.options.entries.map optionWord := by
      rw [List.map_map]
      exact List.map_id _
    rw [spelled, Text.words_spread apart, read]
    simp only [ofWords, List.headD_cons, List.tail_cons, options, Dictionary.ofList_entries]

/-- The name and the source are read from between the blanks around them, and the words from
behind the colon. -/
theorem parseDerivation_padded {name source : Text} (nameTrimmed : name.trim = name)
    (nameUnmarked : Byte.equals ∉ name) (sourceTrimmed : source.trim = source)
    (sourceUnmarked : Byte.colon ∉ source) {beforeName afterName beforeSource afterSource : Text}
    (beforeNameBlank : beforeName.IsBlank) (afterNameBlank : afterName.IsBlank)
    (beforeSourceBlank : beforeSource.IsBlank) (afterSourceBlank : afterSource.IsBlank)
    (behind : Text) :
    parseDerivation (Text.trim ((beforeName ++ name ++ afterName) ++ Byte.equals ::
      ((beforeSource ++ source ++ afterSource) ++ Byte.colon :: behind))) =
        .ok (ofWords name source behind.words) := by
  obtain ⟨nameRead, nameEnds⟩ :=
    Text.trimStart_padded beforeNameBlank afterNameBlank nameTrimmed rfl nameUnmarked
  obtain ⟨sourceRead, sourceEnds⟩ :=
    Text.trimStart_padded beforeSourceBlank afterSourceBlank sourceTrimmed rfl sourceUnmarked
  have colonIsSolid : Byte.isBlank Byte.colon = false := rfl
  rw [Text.trim_append_cons rfl, parseDerivation, Text.after?_append nameEnds,
    Text.before_append nameEnds]
  simp only [Text.trim_trimEnd, Text.trim_append_cons colonIsSolid,
    Text.after?_append sourceEnds, Text.before_append sourceEnds, nameRead, sourceRead,
    Text.words_trimEnd]

/-- A canonical derivation is read from its own text. -/
theorem parse?_write_derived {derivation : Derivation} (canonical : derivation.IsCanonical) :
    parse? (derived derivation).write = .ok (derived derivation) := by
  have read := parseDerivation_padded canonical.nameTrimmed canonical.nameUnmarked
    canonical.sourceTrimmed canonical.sourceUnmarked Text.isBlank_nil space_isBlank space_isBlank
    Text.isBlank_nil (Byte.space :: application derivation)
  simp only [List.nil_append, List.append_nil, List.cons_append,
    ofWords_application canonical] at read
  rw [write_derived, parse?_localWord, read]
  rfl

/-- A canonical declaration is read back from its own text. -/
theorem parse_write {declaration : Declaration} (canonical : declaration.IsCanonical) :
    (parse declaration.write).value = declaration := by
  cases declaration with
  | input name =>
    obtain ⟨trimmed, nonempty⟩ := canonical
    simp [parse, write, parse?_inputWord, trimmed, nonempty]
  | derived derivation =>
    rw [parse, parse?_write_derived canonical]
    rfl
  | unknown text => exact canonical

/-- An option is what stands before the first equals sign of its word, and between the first
and the second. -/
theorem exists_of_option? {word : Text} {entry : Text × Text} (read : option? word = some entry) :
    ∃ rest, Text.after? Byte.equals word = some rest ∧
      entry = (Text.before Byte.equals word, Text.before Byte.equals rest) ∧
      entry.1 ≠ [] ∧ entry.2 ≠ [] := by
  unfold option? at read
  split at read
  next => cases read
  next rest cut =>
    dsimp only at read
    split at read
    next => cases read
    next nonempty =>
      cases read
      exact ⟨rest, cut, rfl, not_or.mp nonempty⟩

/-- The key and the value of an option that is read from a word. -/
theorem isOptionPart_of_option? {word : Text} {entry : Text × Text} (solid : word.IsSolid)
    (read : option? word = some entry) :
    Derivation.IsOptionPart entry.1 ∧ Derivation.IsOptionPart entry.2 := by
  obtain ⟨rest, cut, rfl, keyNonempty, valueNonempty⟩ := exists_of_option? read
  have whole := Text.eq_of_after? cut
  have keySolid : Text.IsSolid (Text.before Byte.equals word) := fun byte member =>
    solid byte ((List.takeWhile_subset _) member)
  have valueSolid : Text.IsSolid (Text.before Byte.equals rest) := fun byte member => by
    refine solid byte ?_
    rw [whole]
    exact List.mem_append_right _ (List.mem_cons_of_mem _ ((List.takeWhile_subset _) member))
  exact ⟨⟨keyNonempty, keySolid, Text.not_mem_before _ _⟩,
    ⟨valueNonempty, valueSolid, Text.not_mem_before _ _⟩⟩

/-- The words of a text make a canonical derivation, if the name and the source are. -/
theorem isCanonical_ofWords {name source text : Text} (nameTrimmed : name.trim = name)
    (nameUnmarked : Byte.equals ∉ name) (sourceTrimmed : source.trim = source)
    (sourceUnmarked : Byte.colon ∉ source) :
    (ofWords name source text.words).IsCanonical := by
  have solid : ∀ word ∈ text.words, word.IsSolid ∧ word ≠ [] := fun word member =>
    Text.solid_of_mem_words member
  have options : ∀ entry ∈ (ofWords name source text.words).options.entries,
      Derivation.IsOptionPart entry.1 ∧ Derivation.IsOptionPart entry.2 := by
    intro entry member
    obtain ⟨word, inWords, read⟩ := List.mem_filterMap.mp (Dictionary.mem_ofList member)
    exact isOptionPart_of_option? (solid word (List.mem_of_mem_tail inWords)).1 read
  refine ⟨nameTrimmed, nameUnmarked, sourceTrimmed, sourceUnmarked, ?_, ?_, options⟩
  · cases spelled : text.words with
    | nil => exact nofun
    | cons word words => exact (solid word (by simp [spelled])).1
  · intro missing
    cases spelled : text.words with
    | nil => rfl
    | cons word words =>
      rw [spelled] at missing solid
      exact absurd missing (solid word List.mem_cons_self).2

/-- Reading what follows the word `local` gives canonical derivations only. -/
theorem isCanonical_of_parseDerivation {text : Text} {derivation : Derivation}
    (read : parseDerivation text = .ok derivation) : derivation.IsCanonical := by
  have unmarked : ∀ (mark : Byte) (text : Text), mark ∉ (Text.before mark text).trim :=
    fun mark text member => Text.not_mem_before mark text (Text.mem_of_mem_trim member)
  unfold parseDerivation at read
  split at read
  next => cases read
  next rest afterEquals =>
    dsimp only at read
    split at read
    next => cases read
    next application afterColon =>
      cases read
      exact isCanonical_ofWords (Text.trim_trim _) (unmarked _ _) (Text.trim_trim _)
        (unmarked _ _)

/-- Whatever is read begins with one of the two words. -/
theorem cases_of_parse? {text : Text} {declaration : Declaration}
    (read : parse? text = .ok declaration) :
    (∃ rest, text = inputWord ++ rest ∧ rest.trim ≠ [] ∧ declaration = input rest.trim) ∨
      ∃ rest derivation, text = localWord ++ rest ∧
        parseDerivation rest.trim = .ok derivation ∧ declaration = derived derivation := by
  unfold parse? at read
  split at read
  next rest isInput =>
    split at read
    next => cases read
    next nonempty =>
      cases read
      exact .inl ⟨rest, Text.following?_eq_some_iff.mp isInput, nonempty, rfl⟩
  next notInput =>
    split at read
    next rest isLocal =>
      cases parsed : parseDerivation rest.trim with
      | error fault =>
        rw [parsed] at read
        cases read
      | ok derivation =>
        rw [parsed] at read
        cases read
        exact .inr ⟨rest, derivation, Text.following?_eq_some_iff.mp isLocal, parsed, rfl⟩
    next => cases read

/-- Whatever is read is not kept as it stands. -/
theorem ne_unknown_of_parse? {text : Text} {declaration : Declaration}
    (read : parse? text = .ok declaration) (kept : Text) : declaration ≠ unknown kept := by
  obtain ⟨rest, -, -, rfl⟩ | ⟨rest, derivation, -, -, rfl⟩ := cases_of_parse? read
  · nofun
  · nofun

/-- A text is read as what it says, or kept. -/
theorem parse_eq_or (text : Text) :
    (∃ declaration, parse? text = .ok declaration ∧ (parse text).value = declaration) ∨
      (parse text).value = unknown text := by
  cases read : parse? text with
  | ok declaration => exact .inl ⟨declaration, rfl, by rw [parse, read]; rfl⟩
  | error fault => exact .inr (by rw [parse, read]; rfl)

/-- Reading gives canonical declarations only. -/
theorem isCanonical_parse (text : Text) : (parse text).value.IsCanonical := by
  rcases parse_eq_or text with ⟨declaration, read, same⟩ | same
  · rw [same]
    obtain ⟨rest, -, nonempty, rfl⟩ | ⟨rest, derivation, -, parsed, rfl⟩ := cases_of_parse? read
    · exact ⟨Text.trim_trim _, nonempty⟩
    · exact isCanonical_of_parseDerivation parsed
  · rw [same]
    exact same

/-- What is read from a text is read again from its own text. -/
theorem parse_write_parse (text : Text) :
    (parse (parse text).value.write).value = (parse text).value :=
  parse_write (isCanonical_parse text)

/-- A declaration is read back from its own text exactly if it is canonical, and then exactly if
it can be read from a text at all. -/
theorem reproduced_iff_isCanonical :
    (∀ text, (parse (parse text).value.write).value = (parse text).value) ∧
      ∀ declaration : Declaration,
        ((parse declaration.write).value = declaration ↔ declaration.IsCanonical) ∧
          (declaration.IsCanonical ↔ ∃ text, (parse text).value = declaration) := by
  refine ⟨parse_write_parse, fun declaration => ⟨⟨?_, parse_write⟩, ?_, ?_⟩⟩
  · intro reproduced
    have canonical := isCanonical_parse declaration.write
    rwa [reproduced] at canonical
  · intro canonical
    exact ⟨declaration.write, parse_write canonical⟩
  · rintro ⟨text, rfl⟩
    exact isCanonical_parse text

end Declaration

end MessageForms
