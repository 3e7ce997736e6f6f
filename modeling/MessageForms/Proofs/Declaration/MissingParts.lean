import MessageForms.Proofs.Declaration.Forms

/-!
# Missing parts

A derived value is told by its two marks alone, the equals sign behind its name and the colon behind
its source. Whatever stands at the marks is a part, also if nothing does. So a text that has the
marks but lacks a name, a source or a transform is read as a derived value without it, and this is
not reported. A text that lacks a mark, and an input that lacks its name, are kept with a warning.
-/

namespace MessageForms

/-- A text without words is blank. -/
theorem Text.words_eq_nil_iff {text : Text} : words text = [] ↔ text.IsBlank := by
  constructor
  · intro wordless
    induction text with
    | nil => exact isBlank_nil
    | cons byte text inductionHypothesis =>
      by_cases blank : Byte.isBlank byte
      · rw [words_cons_of_blank blank] at wordless
        exact List.forall_mem_cons.mpr ⟨blank, inductionHypothesis wordless⟩
      · simp [words, firstWord, blank] at wordless
  · intro blank
    have same := words_append_of_blank blank []
    rwa [List.append_nil] at same

/-- The first word of a text is missing exactly if the text is blank. -/
theorem Text.headD_words_eq_nil_iff {text : Text} :
    (words text).headD [] = [] ↔ text.IsBlank := by
  rw [← words_eq_nil_iff]
  cases isWords : words text with
  | nil => simp
  | cons word later =>
    have first : word ∈ words text := isWords ▸ List.mem_cons_self
    simp [(solid_of_mem_words first).2]

namespace Declaration

/-- A text with both marks of a derived value: what stands before the first equals sign, between it
and the next colon, and behind that colon. -/
structure IsMarked (text name source application : Text) : Prop where
  whole : text = localWord ++ (name ++ Byte.equals :: (source ++ Byte.colon :: application))
  nameUnmarked : Byte.equals ∉ name
  sourceUnmarked : Byte.colon ∉ source

/-- A derivation has the parts that stand at the marks of a text, without the blanks around
them. -/
structure Takes (derivation : Derivation) (name source application : Text) : Prop where
  name : derivation.name = name.trim
  source : derivation.source = source.trim
  transform : derivation.transform = application.words.headD []
  options : AreOptions application.words.tail derivation.options

/-- A text has every part of the form that it begins: the name of an input, or the name, the source
and the transform of a derived value. -/
inductive HasParts : Text → Prop where
  | input {rest : Text} (name : ¬ rest.IsBlank) : HasParts (inputWord ++ rest)
  | derived {text name source application : Text}
      (marked : IsMarked text name source application) (named : ¬ name.IsBlank)
      (sourced : ¬ source.IsBlank) (transformed : ¬ application.IsBlank) : HasParts text

variable {text name source application : Text} {derivation : Derivation}

/-- Only one list of options is given by words. -/
theorem AreOptions.unique {words : List Text} {left right : Dictionary Text}
    (leftGiven : AreOptions words left) (rightGiven : AreOptions words right) : left = right := by
  refine Dictionary.ext_find? fun key => Option.ext fun value => ?_
  exact (leftGiven key value).trans (rightGiven key value).symm

/-- Only one derivation has the parts at the marks of a text. -/
theorem Takes.unique {other : Derivation} (takes : Takes derivation name source application)
    (otherTakes : Takes other name source application) : derivation = other := by
  cases derivation
  cases other
  obtain ⟨rfl, rfl, rfl, given⟩ := takes
  obtain ⟨rfl, rfl, rfl, otherGiven⟩ := otherTakes
  obtain rfl := given.unique otherGiven
  rfl

/-- A part of a derivation is missing exactly if its place in the text is blank, and there are no
options without a transform. -/
theorem Takes.missing_iff (takes : Takes derivation name source application) :
    (derivation.name = [] ↔ name.IsBlank) ∧ (derivation.source = [] ↔ source.IsBlank) ∧
      (derivation.transform = [] ↔ application.IsBlank) ∧
      (derivation.transform = [] → derivation.options = Dictionary.empty) := by
  refine ⟨by rw [takes.name, Text.trim_eq_nil_iff], by rw [takes.source, Text.trim_eq_nil_iff],
    by rw [takes.transform, Text.headD_words_eq_nil_iff], fun untransformed => ?_⟩
  rw [takes.transform, Text.headD_words_eq_nil_iff, ← Text.words_eq_nil_iff] at untransformed
  have given := takes.options
  rw [untransformed] at given
  exact given.unique (areOptions_ofList [])

/-- A text with both marks is read, whatever stands at them. -/
theorem IsMarked.parse?_eq (marked : IsMarked text name source application) :
    parse? text = .ok (.derived (ofWords name.trim source.trim application.words)) := by
  obtain ⟨rfl, nameUnmarked, sourceUnmarked⟩ := marked
  obtain ⟨beforeName, afterName, beforeNameBlank, afterNameBlank, isName⟩ := Text.exists_trim name
  obtain ⟨beforeSource, afterSource, beforeSourceBlank, afterSourceBlank, isSource⟩ :=
    Text.exists_trim source
  have read := parseDerivation_padded (Text.trim_trim name)
    (fun member => nameUnmarked (Text.mem_of_mem_trim member)) (Text.trim_trim source)
    (fun member => sourceUnmarked (Text.mem_of_mem_trim member)) beforeNameBlank afterNameBlank
    beforeSourceBlank afterSourceBlank application
  rw [← isName, ← isSource] at read
  rw [parse?_localWord, read]
  rfl

/-- The words behind the colon give the transform and the options. -/
theorem takes_ofWords (name source application : Text) :
    Takes (ofWords name.trim source.trim application.words) name source application :=
  ⟨rfl, rfl, rfl, areOptions_ofList _⟩

/-- What begins as a derived value has both marks or lacks one. -/
theorem exists_isMarked_or_lacks (rest : Text) :
    (∃ name source application, IsMarked (localWord ++ rest) name source application) ∨
      ∃ fault, Lacks (localWord ++ rest) fault := by
  by_cases marked : Byte.equals ∈ rest
  · obtain ⟨name, behind, rfl, nameUnmarked⟩ := List.eq_append_cons_of_mem marked
    by_cases colon : Byte.colon ∈ behind
    · obtain ⟨source, application, rfl, sourceUnmarked⟩ := List.eq_append_cons_of_mem colon
      exact .inl ⟨name, source, application, rfl, nameUnmarked, sourceUnmarked⟩
    · exact .inr ⟨_, .colon nameUnmarked colon⟩
  · exact .inr ⟨_, .equals marked⟩

/-- A text lacks no more than keeps it from being read. -/
theorem lacks_iff {fault : DeclarationFault} : Lacks text fault ↔ parse? text = .error fault := by
  refine ⟨parse?_of_lacks, fun unread => ?_⟩
  obtain ⟨rest, rfl, nonblank⟩ | isLocal | ⟨other, lacks⟩ := isInput_or_isLocal_or_lacks text
  · rw [parse?_inputWord, if_neg fun nothing => nonblank (Text.trim_eq_nil_iff.mp nothing)]
      at unread
    cases unread
  · obtain ⟨derivation, read⟩ := parse?_of_isLocal isLocal
    cases unread.symm.trans read
  · cases unread.symm.trans (parse?_of_lacks lacks)
    exact lacks

/-- A derived value is read from a text with both marks, and from no other. -/
theorem parse?_eq_derived_iff :
    parse? text = .ok (.derived derivation) ↔
      ∃ name source application, IsMarked text name source application ∧
        Takes derivation name source application := by
  constructor
  · intro read
    obtain ⟨rest, -, -, impossible⟩ | ⟨rest, -, rfl, -, -⟩ := cases_of_parse? read
    · cases impossible
    · obtain ⟨name, source, application, marked⟩ | ⟨fault, lacks⟩ := exists_isMarked_or_lacks rest
      · cases read.symm.trans marked.parse?_eq
        exact ⟨name, source, application, marked, takes_ofWords name source application⟩
      · cases read.symm.trans (parse?_of_lacks lacks)
  · rintro ⟨name, source, application, marked, takes⟩
    rw [marked.parse?_eq, takes.unique (takes_ofWords name source application)]

/-- An input is read from a text that gives it a name. -/
theorem parse?_eq_input_iff :
    parse? text = .ok (.input name) ↔
      ∃ rest, text = inputWord ++ rest ∧ rest.trim = name ∧ name ≠ [] := by
  constructor
  · intro read
    obtain ⟨rest, rfl, nonempty, same⟩ | ⟨_, _, -, -, impossible⟩ := cases_of_parse? read
    · cases same
      exact ⟨rest, rfl, rfl, nonempty⟩
    · cases impossible
  · rintro ⟨rest, rfl, rfl, nonempty⟩
    rw [parse?_inputWord, if_neg nonempty]

/-- What is read is the declaration that the text has the form of, and nothing is reported. -/
theorem parse_eq_iff {declaration : Declaration} (read : ∀ kept, declaration ≠ unknown kept) :
    (parse text).value = declaration ↔ parse? text = .ok declaration := by
  rw [parse]
  cases parse? text with
  | ok other => simp
  | error fault =>
    refine iff_of_false (fun same => read text same.symm) ?_
    simp

/-- What a text must have so that it is read as a declaration. -/
structure RequiresMarks (text : Text) : Prop where
  /-- A derived value is read exactly from a text with both marks, and has the parts at them. -/
  derived (derivation : Derivation) : (parse text).value = .derived derivation ↔
    ∃ name source application, IsMarked text name source application ∧
      Takes derivation name source application
  /-- A part is missing from a derived value where its place in the text is blank. -/
  missing (name source application : Text) (derivation : Derivation)
    (takes : Takes derivation name source application) :
    (derivation.name = [] ↔ name.IsBlank) ∧ (derivation.source = [] ↔ source.IsBlank) ∧
      (derivation.transform = [] ↔ application.IsBlank) ∧
      (derivation.transform = [] → derivation.options = Dictionary.empty)
  /-- An input is read exactly from a text that gives it a name. -/
  input (name : Text) : (parse text).value = .input name ↔
    ∃ rest, text = inputWord ++ rest ∧ rest.trim = name ∧ name ≠ []
  /-- Exactly a text that lacks a mark, the name of an input or the beginning of either form is
  kept. -/
  unknown (kept : Text) : (parse text).value = .unknown kept ↔
    kept = text ∧ ∃ fault, Lacks text fault
  /-- A text that is kept is reported, by one warning that says what it lacks. -/
  warned (fault : DeclarationFault) (lacks : Lacks text fault) :
    (parse text).events = [.report (.invalidDeclaration fault text)] ∧
      (Diagnostic.invalidDeclaration fault text).severity = .warning
  /-- Nothing else is reported. -/
  unwarned (lacksNothing : ∀ fault, ¬ Lacks text fault) : (parse text).events = []

/-- Only the marks of a derived value are required. -/
theorem requiresMarks (text : Text) : RequiresMarks text where
  derived derivation := (parse_eq_iff fun _ => by simp).trans parse?_eq_derived_iff
  missing _ _ _ _ takes := takes.missing_iff
  input name := (parse_eq_iff fun _ => by simp).trans parse?_eq_input_iff
  unknown kept := by
    simp only [lacks_iff, parse]
    cases read : parse? text with
    | ok declaration =>
      exact iff_of_false (ne_unknown_of_parse? read kept) (by simp)
    | error fault => simp [eq_comm]
  warned fault lacks := by
    rw [parse, parse?_of_lacks lacks]
    exact ⟨rfl, rfl⟩
  unwarned lacksNothing := by
    simp only [lacks_iff] at lacksNothing
    rw [parse]
    cases read : parse? text with
    | ok declaration => rfl
    | error fault => exact absurd read (lacksNothing fault)

/-- Bare marks are read as a derived value without any part. Without a colon the text is kept. -/
theorem requiresMarks_bareMarks :
    let bare : Derivation := ⟨[], [], [], Dictionary.empty⟩
    (parse "local =:").value = .derived bare ∧ (parse "local =:").events = [] ∧
      bare.transform = [] ∧ bare.options = Dictionary.empty ∧
      (parse "local =").value = .unknown "local =" ∧
      (parse "local =").events =
        [.report (.invalidDeclaration .missingColon "local =")] := by
  intro bare
  have marked : IsMarked "local =:" [] [] [] := ⟨by decide +kernel, nofun, nofun⟩
  have takes : Takes bare [] [] [] := takes_ofWords [] [] []
  have lacksNothing : ∀ fault, ¬ Lacks "local =:" fault := by
    intro fault lacks
    cases (parse?_of_lacks lacks).symm.trans marked.parse?_eq
  have lacks : Lacks "local =" .missingColon := by
    have begun : Text.ofString "local =" = localWord ++ ([] ++ Byte.equals :: []) := by
      decide +kernel
    exact begun ▸ .colon nofun nofun
  have required := requiresMarks "local =:"
  obtain ⟨-, -, -, unoptioned⟩ := required.missing [] [] [] bare takes
  exact ⟨(required.derived bare).mpr ⟨[], [], [], marked, takes⟩, required.unwarned lacksNothing,
    rfl, unoptioned rfl, ((requiresMarks "local =").unknown _).mpr ⟨rfl, _, lacks⟩,
    ((requiresMarks "local =").warned _ lacks).1⟩

/-- Not every missing part is noticed: nothing is said of a derived value without a transform. -/
theorem not_every_missing_part_is_noticed :
    ¬ ∀ text : Text,
      (∀ derivation, (parse text).value = .derived derivation →
        derivation.name ≠ [] ∧ derivation.source ≠ [] ∧ derivation.transform ≠ []) ∧
      (∀ name, (parse text).value = .input name → name ≠ []) ∧
      ((inputWord <+: text ∨ localWord <+: text) → ¬ HasParts text →
        ∃ fault, parse text = ⟨.unknown text, [.report (.invalidDeclaration fault text)]⟩) := by
  intro noticed
  have read : (parse "local x = n:").value = .derived ⟨"x", "n", [], Dictionary.empty⟩ := by
    decide +kernel
  obtain ⟨-, -, transformed⟩ := (noticed "local x = n:").1 _ read
  exact transformed rfl

end Declaration

end MessageForms
