import MessageForms.Proofs.Number.Ascii
import MessageForms.Proofs.PatternKey
import MessageForms.Proofs.Template
import MessageForms.Proofs.Variant.Resaving
import MessageForms.Relay

/-!
# Messages in well-formed UTF-8

A template is cut at its placeholders, which are ASCII, and the texts that are put in their place
are well-formed, so what is shown is well-formed too. Evaluating a variant quotes texts in reports
and hands a locale to the plural rules; these are well-formed if the variant, the setting and the
answers of the rules are.
-/

namespace MessageForms

namespace Utf8

/-- A text that is well-formed if it is there at all. -/
def IsValidIfAny (text? : Option Text) : Prop :=
  ∀ text ∈ text?, isValid text

instance : DecidablePred IsValidIfAny := fun text? =>
  inferInstanceAs (Decidable (∀ text ∈ text?, isValid text))

/-- A text that is there has to be well-formed. -/
theorem isValidIfAny_some {text : Text} : IsValidIfAny (some text) ↔ isValid text := by
  simp [IsValidIfAny]

/-- A missing text may be read as the empty one, and is seen as far as a terminated text goes. -/
theorem IsValidIfAny.untilNul {text? : Option Text} (valid : IsValidIfAny text?) :
    isValid (text?.getD []).untilNul := by
  cases text? with
  | none => rfl
  | some text => exact isValid_untilNul (valid text rfl)

end Utf8

namespace ParamValue

/-- A value that is no ill-formed text. -/
def IsUtf8 : ParamValue → Prop
  | text content => Utf8.isValid content
  | number _ | flag _ => True

instance : DecidablePred IsUtf8
  | text content => inferInstanceAs (Decidable (Utf8.isValid content = true))
  | number _ | flag _ => .isTrue trivial

/-- The text of a value is well-formed, numbers and truth values included. -/
theorem isValid_toText {value : ParamValue} (utf8 : value.IsUtf8) : Utf8.isValid value.toText := by
  cases value with
  | text content => exact utf8
  | number content => exact Utf8.isValid_of_ascii (isAscii_writeNumber content)
  | flag content => cases content <;> exact Utf8.isValid_ofString _

end ParamValue

namespace Params

/-- Parameters whose values are well-formed, whatever their names. -/
def IsUtf8 (params : Params) : Prop :=
  ∀ entry ∈ params.entries, entry.2.IsUtf8

instance : DecidablePred IsUtf8 := fun params =>
  inferInstanceAs (Decidable (∀ entry ∈ params.entries, entry.2.IsUtf8))

variable {params : Params} (utf8 : params.IsUtf8)
include utf8

/-- The text of a parameter is well-formed if there is such a parameter. -/
theorem isValidIfAny_toText (name : Text) :
    Utf8.IsValidIfAny ((params.find? name).map ParamValue.toText) := by
  intro text found
  obtain ⟨value, isValue, rfl⟩ := Option.map_eq_some_iff.mp found
  exact ParamValue.isValid_toText (utf8 (name, value) (Entries.mem_of_lookup isValue))

end Params

namespace Template

variable {params : Params} {name : Text}

/-- A placeholder is spelled in ASCII. -/
theorem isAscii_spell (isName : IsName name) : (spell name).IsAscii := by
  have word : ∀ byte, Byte.isWord byte → Byte.isAscii byte := by
    grind [Byte.isWord, Byte.isLetter, Byte.isDigit, Byte.isAscii]
  have named : name.IsAscii := fun byte member => word byte (isName.2 byte member)
  have closed : Text.IsAscii [Byte.closeBrace] := Text.isAscii_cons.mpr ⟨rfl, Text.isAscii_nil⟩
  exact Text.isAscii_cons.mpr ⟨rfl, Text.isAscii_append.mpr ⟨named, closed⟩⟩

section Substitution

variable (utf8 : params.IsUtf8)
include utf8

/-- What a placeholder shows is well-formed. -/
theorem isValid_shown (isName : IsName name) :
    Utf8.isValid ((Piece.placeholder name).shown params) := by
  rw [Piece.shown]
  cases found : (params.find? name).map ParamValue.toText with
  | none => exact Utf8.isValid_of_ascii (isAscii_spell isName)
  | some text => exact Params.isValidIfAny_toText utf8 name text found

/-- What pieces show leads to a boundary from wherever what they spell does. The bytes between
placeholders may be anything, but a placeholder only stands between two characters. -/
theorem run_shown {pieces : List Piece}
    (areNames : ∀ name, .placeholder name ∈ pieces → IsName name) {position : Utf8.Position}
    (sound : position.Sound)
    (run : position.run (pieces.flatMap Piece.write) = some .boundary) :
    position.run (pieces.flatMap (Piece.shown params)) = some .boundary := by
  induction pieces generalizing position with
  | nil => exact run
  | cons piece pieces inductionHypothesis =>
    have areLaterNames : ∀ name, .placeholder name ∈ pieces → IsName name :=
      fun name member => areNames name (List.mem_cons_of_mem _ member)
    rw [List.flatMap_cons, Utf8.Position.run_append] at run
    rw [List.flatMap_cons, Utf8.Position.run_append]
    obtain ⟨middle, runPiece, runRest⟩ := Option.bind_eq_some_iff.mp run
    have later := inductionHypothesis areLaterNames (Utf8.Position.sound_run sound runPiece) runRest
    cases piece with
    | literal byte =>
      have same : position.run ((Piece.literal byte).shown params) = some middle := runPiece
      rw [same]
      exact later
    | placeholder name =>
      have isName := areNames name List.mem_cons_self
      have ascii := isAscii_spell isName
      obtain ⟨rfl, rfl⟩ := Utf8.Position.eq_boundary_of_run_ascii sound ascii runPiece
      rw [Utf8.isValid_iff.mp (isValid_shown utf8 isName)]
      exact later

/-- A well-formed template stays well-formed when its placeholders are replaced. -/
theorem isValid_substitute {template : Text} (valid : Utf8.isValid template) :
    Utf8.isValid (substitute template params) := by
  have areNames : ∀ name, .placeholder name ∈ pieces template → IsName name := by
    intro name member
    obtain ⟨start, occurs⟩ := exists_occursAt_of_mem member
    exact occurs.isName
  have shown : substitute template params = (pieces template).flatMap (Piece.shown params) :=
    List.flatMap_congr fun piece _ => Piece.fill_eq_shown params piece
  rw [← (isCut_pieces template).whole] at valid
  rw [shown]
  exact Utf8.isValid_iff.mpr
    (run_shown utf8 areNames Utf8.Position.sound_boundary (Utf8.isValid_iff.mp valid))

end Substitution

end Template

namespace PatternKey

/-- The clauses of a well-formed key are well-formed. -/
theorem isValid_of_mem_parse {key : Text} (valid : Utf8.isValid key) {clause : Text × Text}
    (member : clause ∈ parse key) : Utf8.isValid clause.1 ∧ Utf8.isValid clause.2 := by
  obtain ⟨part, inKey, read⟩ := List.mem_filterMap.mp (Entries.mem_of_mem_merge member)
  have partValid := Utf8.isValid_of_mem_split rfl valid inKey
  unfold clause? at read
  split at read
  next selector value rest sides =>
    have eachSide : ∀ side ∈ selector :: value :: rest, Utf8.isValid side := fun side inPart =>
      Utf8.isValid_of_mem_split rfl partValid (sides ▸ inPart)
    obtain ⟨-, same⟩ := Option.ite_none_left_eq_some.mp read
    cases same
    exact ⟨Utf8.isValid_trim (eachSide _ (by simp)), Utf8.isValid_trim (eachSide _ (by simp))⟩
  next => cases read

end PatternKey

/-- The text that the message of a failure quotes, if it quotes any. -/
def Failure.quoted? : Failure → Option Text
  | keyNotFound key => some key
  | _ => none

/-- The message of a failure is well-formed if what it quotes is. -/
theorem Failure.isValid_message {failure : Failure}
    (quoted : Utf8.IsValidIfAny failure.quoted?) : Utf8.isValid failure.message := by
  cases failure with
  | keyNotFound key => exact Utf8.isValid_append (Utf8.isValid_ofString _) (quoted key rfl)
  | _ => exact Utf8.isValid_ofString _

/-- The texts that a report quotes. -/
def Diagnostic.quoted : Diagnostic → List Text
  | invalidDeclaration _ text => [text]
  | matchNotObject kindName => [kindName]
  | emptyMatch => []
  | noMatchingEntry firstKey => [firstKey]
  | unknownPluralType requested declared => [requested, declared]
  | noPluralCategory _ => []
  | requestFailed failure => [failure.message]
  | note _ message => [message]

/-- The message of a report is well-formed if what it quotes is. -/
theorem Diagnostic.isValid_message {diagnostic : Diagnostic}
    (quoted : ∀ text ∈ diagnostic.quoted, Utf8.isValid text) :
    Utf8.isValid diagnostic.message := by
  cases diagnostic with
  | invalidDeclaration fault text =>
    have reason : Utf8.isValid fault.reason := by cases fault <;> exact Utf8.isValid_ofString _
    have opened := Utf8.isValid_between "Invalid declaration (" "): '" reason
    have named := Utf8.isValid_append opened (quoted text (List.mem_singleton_self _))
    exact Utf8.isValid_append named (Utf8.isValid_ofString _)
  | matchNotObject kindName =>
    exact Utf8.isValid_between _ _ (quoted kindName (List.mem_singleton_self _))
  | emptyMatch => exact Utf8.isValid_ofString _
  | noMatchingEntry firstKey =>
    exact Utf8.isValid_between _ _ (quoted firstKey (List.mem_singleton_self _))
  | unknownPluralType requested declared =>
    obtain ⟨requestedValid, declaredValid, -⟩ := by
      simpa only [Diagnostic.quoted, List.forall_mem_cons] using quoted
    have opened := Utf8.isValid_between "Unknown plural type '" "' on '" requestedValid
    have named := Utf8.isValid_append opened declaredValid
    exact Utf8.isValid_append named (Utf8.isValid_ofString _)
  | noPluralCategory number =>
    have written := NumberStyle.isAscii_write NumberStyle.isAscii_plain number
    exact Utf8.isValid_append (Utf8.isValid_ofString _) (Utf8.isValid_of_ascii written)
  | requestFailed failure =>
    have code : Utf8.isValid (textOfInt failure.code) :=
      Utf8.isValid_of_ascii (isAscii_textOfInt _)
    have opened := Utf8.isValid_between "Error " ": " code
    exact Utf8.isValid_append opened (quoted failure.message (List.mem_singleton_self _))
  | note _ message => exact quoted message (List.mem_singleton_self _)

/-- The line of a well-formed message is well-formed. -/
theorem Relay.isValid_lineText (severity : Severity) {message : Text}
    (valid : Utf8.isValid message) : Utf8.isValid (lineText severity message) := by
  have name : Utf8.isValid severity.name := by cases severity <;> exact Utf8.isValid_ofString _
  have opened := Utf8.isValid_between "[msgvariant][" "] " name
  exact Utf8.isValid_untilNul (Utf8.isValid_withoutLineEnd (Utf8.isValid_append opened valid))

/-- An event in which a well-formed text is handed on: the message of a report, or the locale of a
query. -/
def Event.IsUtf8 : Event → Prop
  | report diagnostic => Utf8.isValid diagnostic.message
  | consult _ query => Utf8.isValid query.locale

/-- The lines that a host receives of such events are well-formed. -/
theorem Relay.isValid_of_mem_lines {relay : Relay} {events : List Event}
    (utf8 : ∀ event ∈ events, event.IsUtf8) {line : LogLine} (member : line ∈ relay.lines events) :
    Utf8.isValid line.text := by
  obtain ⟨event, inEvents, passed⟩ := List.mem_filterMap.mp member
  have isUtf8 := utf8 event inEvents
  cases event with
  | report diagnostic =>
    obtain ⟨-, same⟩ := Option.ite_none_right_eq_some.mp passed
    cases same
    exact isValid_lineText _ isUtf8
  | consult consultant query => cases passed

namespace Traced

variable {α β : Type}

/-- A traced result with a value of some kind, and with well-formed texts on the way to it. -/
structure GivesUtf8 (kind : α → Prop) (traced : Traced α) : Prop where
  value : kind traced.value
  events : ∀ event ∈ traced.events, event.IsUtf8

variable {kind : α → Prop} {nextKind : β → Prop}

/-- Nothing happens on the way to a value that is given. -/
theorem givesUtf8_pure {value : α} (isKind : kind value) :
    (pure value : Traced α).GivesUtf8 kind :=
  ⟨isKind, nofun⟩

/-- What follows only has to deal with values of the kind that comes first. -/
theorem GivesUtf8.bind {first : Traced α} {next : α → Traced β} (gives : first.GivesUtf8 kind)
    (continues : ∀ value, kind value → (next value).GivesUtf8 nextKind) :
    (first >>= next).GivesUtf8 nextKind where
  value := (continues _ gives.value).value
  events := List.forall_mem_append.mpr ⟨gives.events, (continues _ gives.value).events⟩

/-- What is quoted decides whether a report is well-formed. -/
theorem givesUtf8_report {diagnostic : Diagnostic}
    (quoted : ∀ text ∈ diagnostic.quoted, Utf8.isValid text) :
    (report diagnostic).GivesUtf8 fun _ => True :=
  ⟨trivial, List.forall_mem_singleton.mpr (Diagnostic.isValid_message quoted)⟩

/-- The values of a list of traced results are of their kind. -/
theorem givesUtf8_all {results : List (Traced α)}
    (each : ∀ traced ∈ results, traced.GivesUtf8 kind) :
    (all results).GivesUtf8 fun values => ∀ value ∈ values, kind value := by
  induction results with
  | nil => exact givesUtf8_pure nofun
  | cons first rest inductionHypothesis =>
    obtain ⟨firstGives, others⟩ := List.forall_mem_cons.mp each
    refine firstGives.bind fun value isKind => ?_
    refine (inductionHypothesis others).bind fun values areKind => ?_
    exact givesUtf8_pure (List.forall_mem_cons.mpr ⟨isKind, areKind⟩)

end Traced

open Traced

/-- A well-formed text is read into a well-formed declaration, or quoted in a report. -/
theorem Declaration.givesUtf8_parse {text : Text} (valid : Utf8.isValid text) :
    (parse text).GivesUtf8 IsUtf8 := by
  refine ⟨isUtf8_parse valid, ?_⟩
  rw [parse]
  cases parse? text with
  | ok declaration => exact List.forall_mem_nil _
  | error fault =>
    refine List.forall_mem_singleton.mpr (Diagnostic.isValid_message ?_)
    exact List.forall_mem_singleton.mpr valid

namespace Variant

section Reading

variable {json table : Json} (isOver : json.Over Json.Token.IsUtf8)
include isOver

/-- Declarations are read from well-formed strings. -/
theorem givesUtf8_declarationsOfJson :
    (declarationsOfJson json).GivesUtf8 fun declarations =>
      ∀ declaration ∈ declarations, declaration.IsUtf8 := by
  refine givesUtf8_all fun traced member => ?_
  obtain ⟨text, inTexts, rfl⟩ := List.mem_map.mp member
  obtain ⟨item, isItem, spelled⟩ := List.mem_filterMap.mp (List.mem_of_mem_filter inTexts)
  exact Declaration.givesUtf8_parse ((isOver.items item isItem).text? spelled)

/-- A table is read from well-formed strings, and the kind that is reported is a word. -/
theorem givesUtf8_tableOfJson :
    (tableOfJson json).GivesUtf8 fun table =>
      ∀ entry ∈ table, Utf8.isValid entry.1 ∧ Utf8.isValid entry.2 := by
  have kindName : Utf8.isValid json.kindName := by
    unfold Json.kindName
    split <;> exact Utf8.isValid_ofString _
  refine ⟨(tableOfJson_spec isOver).2, ?_⟩
  unfold tableOfJson
  split
  next => exact nofun
  next =>
    refine List.forall_mem_singleton.mpr (Diagnostic.isValid_message ?_)
    exact List.forall_mem_singleton.mpr kindName

/-- A variant is read from well-formed strings. -/
theorem givesUtf8_ofMembers (tableOver : table.Over Json.Token.IsUtf8) :
    (ofMembers json table).GivesUtf8 IsUtf8 := by
  have memberOver := isOver.member_getD
  refine (givesUtf8_declarationsOfJson (memberOver _)).bind fun declarations areUtf8 => ?_
  refine (givesUtf8_tableOfJson tableOver).bind fun table entries => ?_
  refine givesUtf8_pure (isUtf8_iff.mpr ⟨areUtf8, fun selector member => ?_, entries⟩)
  exact (of_mem_selectorsOfJson (memberOver _) member).1

/-- A variant is read from the first item of a list of such values, if there is one. -/
theorem givesUtf8_ofWrapped? :
    (ofWrapped? json).GivesUtf8 fun variant? => ∀ variant ∈ variant?, variant.IsUtf8 := by
  unfold ofWrapped?
  split
  next => exact givesUtf8_pure nofun
  next first rest items =>
    have firstOver := isOver.items first (items ▸ List.mem_cons_self)
    split
    next => exact givesUtf8_pure nofun
    next table isTable =>
      split
      next =>
        refine (givesUtf8_ofMembers firstOver (firstOver.member? isTable)).bind fun _ utf8 => ?_
        exact givesUtf8_pure fun _ same => Option.mem_some_iff.mp same ▸ utf8
      next => exact givesUtf8_pure nofun

end Reading

/-- A variant that is read from a text is well-formed, and so are the reports on the text. -/
theorem givesUtf8_ofText? (text : Text) (ending : Json.Ending) :
    (ofText? text ending).GivesUtf8 fun variant? => ∀ variant ∈ variant?, variant.IsUtf8 := by
  unfold ofText?
  split
  next =>
    split
    next json isJson => exact givesUtf8_ofWrapped? (Json.over_of_read? isJson)
    next => exact givesUtf8_pure nofun
  next => exact givesUtf8_pure nofun

/-- A variant that is read from a value is well-formed, if the value is. -/
theorem givesUtf8_ofJson? {json : Json} (isOver : json.Over Json.Token.IsUtf8)
    (ending : Json.Ending) :
    (ofJson? json ending).GivesUtf8 fun variant? => ∀ variant ∈ variant?, variant.IsUtf8 := by
  unfold ofJson?
  split
  next text => exact givesUtf8_ofText? text ending
  next => exact givesUtf8_ofWrapped? isOver

end Variant

namespace PluralRules

/-- Rules that give a well-formed category in every well-formed locale. -/
def IsUtf8 (rules : PluralRules) : Prop :=
  ∀ query, Utf8.isValid query.locale → (rules.select query).GivesUtf8 (Utf8.isValid ·)

/-- The rules of the library name their categories in ASCII. -/
theorem isUtf8_builtIn : builtIn.IsUtf8 := by
  intro query valid
  refine ⟨?_, List.forall_mem_singleton.mpr valid⟩
  have ofRank : ∀ rank, Utf8.isValid (rankCategory rank) := by
    intro rank
    unfold rankCategory
    split_ifs <;> exact Utf8.isValid_ofString _
  show Utf8.isValid (category query.number query.type)
  unfold category
  split
  next => split <;> exact Utf8.isValid_ofString _
  next =>
    split
    next negative magnitude _ =>
      cases magnitude.natural? with
      | none => exact Utf8.isValid_ofString _
      | some rank => exact ofRank rank
    next => exact Utf8.isValid_ofString _

end PluralRules

/-- A categorizer that gives a well-formed category, if any, in every well-formed locale. -/
def Categorizer.IsUtf8 (categorizer : Categorizer) : Prop :=
  ∀ query, Utf8.isValid query.locale → Utf8.IsValidIfAny (categorizer.category? query)

/-- The rules of such a categorizer give well-formed categories. -/
theorem PluralRules.isUtf8_ofCategorizer {categorizer : Categorizer}
    (utf8 : categorizer.IsUtf8) : (ofCategorizer categorizer).IsUtf8 := by
  intro query valid
  unfold ofCategorizer
  dsimp only
  split
  next => exact givesUtf8_pure (Utf8.isValid_ofString _)
  next =>
    have asked := Utf8.isValid_untilNul valid
    have consulted : (Traced.event (.consult (.host categorizer.tag)
        { query with locale := query.locale.untilNul })).GivesUtf8 fun _ => True :=
      ⟨trivial, List.forall_mem_singleton.mpr asked⟩
    refine consulted.bind fun _ _ => ?_
    split
    next =>
      refine (givesUtf8_report (List.forall_mem_nil _)).bind fun _ _ => ?_
      exact givesUtf8_pure (Utf8.isValid_ofString _)
    next => exact givesUtf8_pure (utf8 _ asked).untilNul

/-- A setting with well-formed parameters, locale and plural categories. -/
structure Setting.IsUtf8 (setting : Setting) : Prop where
  params : setting.params.IsUtf8
  locale : Utf8.isValid setting.locale
  rules : setting.rules.IsUtf8

/-- Values of selectors that are well-formed where there are any. -/
def SelectorValues.IsUtf8 (values : SelectorValues) : Prop :=
  ∀ name, Utf8.IsValidIfAny (values.find? name).join

namespace Derivation

variable {derivation : Derivation} (utf8 : (Declaration.derived derivation).IsUtf8)
include utf8

/-- A plural type that does not exist is quoted as it is declared. -/
theorem givesUtf8_pluralType : derivation.pluralType.GivesUtf8 fun _ => True := by
  obtain ⟨name, -, -, options⟩ := Declaration.isUtf8_derived_iff.mp utf8
  unfold pluralType
  cases found : derivation.options.find? typeOption with
  | none => exact givesUtf8_pure trivial
  | some requested =>
    have requestedValid : Utf8.isValid requested := (options _ (Entries.mem_of_lookup found)).2
    dsimp only
    split
    next => exact givesUtf8_pure trivial
    next =>
      refine (givesUtf8_report ?_).bind fun _ _ => givesUtf8_pure trivial
      exact List.forall_mem_cons.mpr ⟨requestedValid, List.forall_mem_singleton.mpr name⟩

variable {setting : Setting} (settingUtf8 : setting.IsUtf8)
include settingUtf8

/-- A plural is a category, and any other value the text of a parameter. -/
theorem givesUtf8_evaluate : (derivation.evaluate setting).GivesUtf8 Utf8.IsValidIfAny := by
  unfold evaluate
  split
  next =>
    refine (givesUtf8_pluralType utf8).bind fun type _ => ?_
    dsimp only
    split
    next => exact givesUtf8_pure (Utf8.isValidIfAny_some.mpr (Utf8.isValid_ofString _))
    next =>
      refine (settingUtf8.rules _ settingUtf8.locale).bind fun category valid => ?_
      exact givesUtf8_pure (Utf8.isValidIfAny_some.mpr valid)
  next => exact givesUtf8_pure (Params.isValidIfAny_toText settingUtf8.params _)

end Derivation

namespace Variant

section Evaluation

variable {variant : Variant} (utf8 : variant.IsUtf8) {setting : Setting}
  (settingUtf8 : setting.IsUtf8)

section Setting

include utf8 settingUtf8

/-- A selector has a well-formed value, if any. -/
theorem givesUtf8_selectorValue (name : Text) :
    (variant.selectorValue setting name).GivesUtf8 Utf8.IsValidIfAny := by
  have fromParams : ∀ name, (pure ((setting.params.find? name).map ParamValue.toText) :
      Traced (Option Text)).GivesUtf8 Utf8.IsValidIfAny :=
    fun name => givesUtf8_pure (Params.isValidIfAny_toText settingUtf8.params name)
  unfold selectorValue
  split
  next derivation found =>
    have member := List.mem_of_find?_eq_some found
    exact Derivation.givesUtf8_evaluate ((isUtf8_iff.mp utf8).1 _ member) settingUtf8
  next parameter _ => exact fromParams parameter
  next => exact fromParams name

/-- Names are evaluated one after the other. -/
theorem givesUtf8_evaluateNames (names : List Text) {values : SelectorValues}
    (valuesUtf8 : values.IsUtf8) :
    (variant.evaluateNames setting names values).GivesUtf8 SelectorValues.IsUtf8 := by
  induction names generalizing values with
  | nil => exact givesUtf8_pure valuesUtf8
  | cons name names inductionHypothesis =>
    refine (givesUtf8_selectorValue utf8 settingUtf8 name).bind fun value valid => ?_
    refine inductionHypothesis fun other => ?_
    rw [Dictionary.find?_insert]
    split
    next => exact valid
    next => exact valuesUtf8 other

/-- All selectors have well-formed values. -/
theorem givesUtf8_evaluateSelectors :
    (variant.evaluateSelectors setting).GivesUtf8 SelectorValues.IsUtf8 :=
  givesUtf8_evaluateNames utf8 settingUtf8 _ nofun

/-- Finding the entry to show quotes the first key, if no key holds. -/
theorem givesUtf8_resolve : (variant.resolve setting).GivesUtf8 fun _ => True := by
  obtain ⟨-, -, entries⟩ := isUtf8_iff.mp utf8
  have evaluated := givesUtf8_evaluateSelectors utf8 settingUtf8
  unfold resolve
  split
  next => exact (givesUtf8_report (List.forall_mem_nil _)).bind fun _ _ => givesUtf8_pure trivial
  next firstKey template rest table =>
    have first : Utf8.isValid firstKey := (entries (firstKey, template) (by simp [table])).1
    refine evaluated.bind fun values _ => ?_
    split
    next => exact givesUtf8_pure trivial
    next =>
      refine (givesUtf8_report ?_).bind fun _ _ => givesUtf8_pure trivial
      exact List.forall_mem_singleton.mpr first

/-- The entry to show is one of the table. -/
theorem givesUtf8_activeEntry : (variant.activeEntry setting).GivesUtf8 fun entry? =>
    ∀ entry ∈ entry?, Utf8.isValid entry.1 ∧ Utf8.isValid entry.2 := by
  obtain ⟨-, -, entries⟩ := isUtf8_iff.mp utf8
  refine (givesUtf8_resolve utf8 settingUtf8).bind fun resolution _ => givesUtf8_pure ?_
  intro entry found
  obtain ⟨active, -, found⟩ := Option.bind_eq_some_iff.mp found
  exact entries entry (List.mem_of_getElem? found)

/-- A variant is rendered well-formed. -/
theorem givesUtf8_render : (variant.render setting).GivesUtf8 (Utf8.isValid ·) := by
  refine (givesUtf8_activeEntry utf8 settingUtf8).bind fun entry? valid => givesUtf8_pure ?_
  cases entry? with
  | none => rfl
  | some entry => exact Template.isValid_substitute settingUtf8.params (valid entry rfl).2

/-- The active key is well-formed. -/
theorem givesUtf8_activeKey : (variant.activeKey setting).GivesUtf8 Utf8.IsValidIfAny := by
  refine (givesUtf8_activeEntry utf8 settingUtf8).bind fun entry? valid => givesUtf8_pure ?_
  intro key found
  obtain ⟨entry, isEntry, rfl⟩ := Option.map_eq_some_iff.mp found
  exact (valid entry isEntry).1

/-- A comparison quotes no more. -/
theorem givesUtf8_activeFormEquals (other : Variant) :
    (variant.activeFormEquals other setting).GivesUtf8 fun _ => True :=
  (givesUtf8_activeKey utf8 settingUtf8).bind fun _ _ => givesUtf8_pure trivial

end Setting

include utf8

/-- The keys of all forms are well-formed. -/
theorem isValid_of_mem_forms {key : Text} (member : key ∈ variant.forms) : Utf8.isValid key := by
  obtain ⟨-, -, entries⟩ := isUtf8_iff.mp utf8
  obtain ⟨entry, inTable, rfl⟩ := List.mem_map.mp member
  exact (entries entry inTable).1

/-- The templates of all forms are well-formed. -/
theorem isValidIfAny_template? (key : Text) : Utf8.IsValidIfAny (variant.template? key) := by
  obtain ⟨-, -, entries⟩ := isUtf8_iff.mp utf8
  intro template found
  exact (entries (key, template) (Entries.mem_of_lookup found)).2

/-- The names of all selectors are well-formed, whether they are given or read from the keys. -/
theorem isValid_of_mem_selectorNames {name : Text} (member : name ∈ variant.selectorNames) :
    Utf8.isValid name := by
  obtain ⟨-, selectors, entries⟩ := isUtf8_iff.mp utf8
  unfold selectorNames at member
  split at member
  next =>
    have found := mem_distinct_iff.mp member
    obtain ⟨entry, inTable, inKey⟩ := List.mem_flatMap.mp found
    obtain ⟨clause, inClauses, rfl⟩ := List.mem_map.mp inKey
    exact (PatternKey.isValid_of_mem_parse (entries entry inTable).1 inClauses).1
  next => exact selectors name member

/-- The written form is well-formed. -/
theorem isValid_encode : Utf8.isValid variant.encode :=
  Json.isValid_write_of_over ((over_toJson utf8).mono fun _ => Json.isUtf8_of_endsItself)

end Evaluation

/-- Whatever is shown of a variant in a setting is well-formed. -/
structure ShowsUtf8 (variant : Variant) (setting : Setting) : Prop where
  rendered : Utf8.isValid (variant.render setting).value
  activeKey : Utf8.IsValidIfAny (variant.activeKey setting).value
  forms : ∀ key ∈ variant.forms, Utf8.isValid key
  templates : ∀ key, Utf8.IsValidIfAny (variant.template? key)
  declarations : ∀ declaration ∈ variant.declarations, declaration.IsUtf8
  clauses : ∀ key ∈ variant.forms, ∀ clause ∈ PatternKey.parse key,
    Utf8.isValid clause.1 ∧ Utf8.isValid clause.2
  selectors : ∀ name ∈ variant.selectorNames, Utf8.isValid name
  selected : (variant.evaluateSelectors setting).value.IsUtf8
  encoded : Utf8.isValid variant.encode
  /-- Rendering, detection and comparison report and ask for well-formed texts only. -/
  told : ∀ other, ∀ events ∈ [(variant.render setting).events, (variant.activeKey setting).events,
    (variant.activeFormEquals other setting).events], ∀ event ∈ events, event.IsUtf8

/-- A well-formed variant is shown well-formed in every setting that is. -/
theorem showsUtf8 {variant : Variant} (utf8 : variant.IsUtf8) {setting : Setting}
    (settingUtf8 : setting.IsUtf8) : variant.ShowsUtf8 setting where
  rendered := (givesUtf8_render utf8 settingUtf8).value
  activeKey := (givesUtf8_activeKey utf8 settingUtf8).value
  forms _ member := isValid_of_mem_forms utf8 member
  templates := isValidIfAny_template? utf8
  declarations := (isUtf8_iff.mp utf8).1
  clauses _ member _ inKey :=
    PatternKey.isValid_of_mem_parse (isValid_of_mem_forms utf8 member) inKey
  selectors _ member := isValid_of_mem_selectorNames utf8 member
  selected := (givesUtf8_evaluateSelectors utf8 settingUtf8).value
  encoded := isValid_encode utf8
  told other := by
    have rendering := (givesUtf8_render utf8 settingUtf8).events
    have detecting := (givesUtf8_activeKey utf8 settingUtf8).events
    have comparing := (givesUtf8_activeFormEquals utf8 settingUtf8 other).events
    exact List.forall_mem_cons.mpr
      ⟨rendering, List.forall_mem_cons.mpr ⟨detecting, List.forall_mem_singleton.mpr comparing⟩⟩

end Variant

/-- A stored value is rendered well-formed, be it a variant or a plain template. -/
theorem StoredValue.givesUtf8_render {value : Text} (valid : Utf8.isValid value)
    {setting : Setting} (settingUtf8 : setting.IsUtf8) (ending : Json.Ending) :
    (render value setting ending).GivesUtf8 (Utf8.isValid ·) := by
  unfold render
  split
  next => exact givesUtf8_pure rfl
  next =>
    refine (Variant.givesUtf8_ofText? value ending).bind fun variant? utf8 => ?_
    cases variant? with
    | none => exact givesUtf8_pure (Template.isValid_substitute settingUtf8.params valid)
    | some variant => exact Variant.givesUtf8_render (utf8 variant rfl) settingUtf8

end MessageForms
