import MessageForms.Param
import MessageForms.Proofs.Number.Grammar
import MessageForms.Proofs.Text.Parts

/-!
# Reading numbers

A parameter's text is a number exactly if nothing is left of it between its blanks, or if it is a
numeral or `Infinity`, either with an optional sign. The scanner behind the reader knows more
notations; none of them begins as a numeral does, so all of a numeral is scanned as a decimal.
-/

namespace MessageForms

/-- A numeral begins with a digit or with the point. -/
theorem IsNumeral.exists_cons {text : Text} {decimal : Decimal}
    (isNumeral : IsNumeral text decimal) :
    ∃ first rest, text = first :: rest ∧ (Byte.isDigit first || first == Byte.point) := by
  obtain ⟨isMantissa, _⟩ := isNumeral
  cases isMantissa with
  | whole isWhole nonempty =>
    obtain ⟨first, whole, rfl⟩ := List.exists_cons_of_ne_nil nonempty
    exact ⟨first, _, rfl, by simp [isWhole first (by simp)]⟩
  | pointed isWhole nonempty =>
    obtain ⟨first, whole, rfl⟩ := List.exists_cons_of_ne_nil nonempty
    exact ⟨first, _, rfl, by simp [isWhole first (by simp)]⟩
  | fraction => exact ⟨Byte.point, _, rfl, rfl⟩

/-- A numeral is written with digits, the point, an exponent mark and signs only. -/
theorem IsNumeral.mem {text : Text} {decimal : Decimal} (isNumeral : IsNumeral text decimal) :
    ∀ byte ∈ text, Byte.isDigit byte ∨ byte ∈ (".eE+-" : Text) := by
  obtain ⟨isMantissa, isExponent⟩ := isNumeral
  refine List.forall_mem_append.mpr ⟨fun byte member => ?_, ?_⟩
  · rcases isMantissa.mem byte member with isDigit | rfl
    · exact .inl isDigit
    · exact .inr (by decide)
  · cases isExponent with
    | none => nofun
    | marked isMark isSign isDigits =>
      refine List.forall_mem_cons.mpr ⟨.inr ?_, List.forall_mem_append.mpr ⟨?_, ?_⟩⟩
      · rcases isMark with rfl | rfl <;> decide
      · cases isSign with
        | none => nofun
        | plus => exact List.forall_mem_singleton.mpr (.inr (by decide))
        | minus => exact List.forall_mem_singleton.mpr (.inr (by decide))
      · exact fun byte member => .inl (isDigits byte member)

/-- A numeral has no sign of its own. -/
theorem IsNumeral.isUnsigned {text : Text} {decimal : Decimal}
    (isNumeral : IsNumeral text decimal) : IsUnsigned text := by
  obtain ⟨first, rest, rfl, begins⟩ := isNumeral.exists_cons
  constructor <;> (rintro ⟨rfl⟩; revert begins; decide)

/-- The decimal of a text without a sign is never the NaN. -/
theorem Decimal.toDouble_ne_nan (decimal : Decimal) (negative : Bool) :
    decimal.toDouble negative ≠ .nan := by
  unfold Decimal.toDouble Double.ofQuotient
  grind

namespace ParamValue

/-- The numbers that a text without outer blanks spells. -/
inductive Spells : Text → Double → Prop where
  | nothing : Spells [] .zero
  | infinity {sign : Text} {negative : Bool} (isSign : IsSign sign negative) :
    Spells (sign ++ "Infinity") (.infinite negative)
  | numeral {sign body : Text} {negative : Bool} {decimal : Decimal} (isSign : IsSign sign negative)
    (isNumeral : IsNumeral body decimal) : Spells (sign ++ body) (decimal.toDouble negative)

/-- What is spelled is a number. -/
theorem Spells.ne_nan {text : Text} {number : Double} (spells : Spells text number) :
    number ≠ .nan := by
  cases spells with
  | nothing => nofun
  | infinity => nofun
  | numeral => exact Decimal.toDouble_ne_nan _ _

/-- A spelled number has no blanks in it. -/
theorem Spells.isSolid {text : Text} {number : Double} (spells : Spells text number) :
    text.IsSolid := by
  have signSolid : ∀ {sign : Text} {negative : Bool}, IsSign sign negative → sign.IsSolid := by
    intro sign negative isSign
    cases isSign <;> exact Text.isSolid_of_all rfl
  cases spells with
  | nothing => nofun
  | infinity isSign =>
    exact List.forall_mem_append.mpr ⟨signSolid isSign, Text.isSolid_of_all rfl⟩
  | numeral isSign isNumeral =>
    have markSolid : Text.IsSolid ".eE+-" := Text.isSolid_of_all rfl
    refine List.forall_mem_append.mpr ⟨signSolid isSign, fun byte member => ?_⟩
    exact (isNumeral.mem byte member).elim isBlank_of_isDigit (markSolid byte)

/-- Every numeral begins as a decimal does, since it has no `x` in it. -/
theorem beginsDecimal_of_isNumeral {text : Text} {decimal : Decimal}
    (isNumeral : IsNumeral text decimal) : beginsDecimal text := by
  obtain ⟨first, rest, rfl, begins⟩ := isNumeral.exists_cons
  have noMark : ∀ byte ∈ rest, byte ≠ 0x78 ∧ byte ≠ 0x58 := by
    intro byte member
    have isAllowed := isNumeral.mem byte (List.mem_cons_of_mem _ member)
    constructor <;> (rintro rfl; revert isAllowed; decide)
  have unmarked : rest.head?.any (fun byte => byte == 0x78 || byte == 0x58) = false := by
    cases rest with
    | nil => rfl
    | cons byte rest => simpa using noMark byte (by simp)
  simp [beginsDecimal, begins, unmarked]

section Scan

variable {text : Text} (begins : beginsDecimal text)
include begins

/-- What begins as a decimal begins with no name. -/
theorem scanName?_of_beginsDecimal (negative : Bool) : Double.scanName? negative text = none := by
  cases text with
  | nil => rfl
  | cons first rest =>
    have noLetter : first.toLower ≠ 0x69 ∧ first.toLower ≠ 0x6e := by
      simp only [beginsDecimal, Bool.and_eq_true] at begins
      grind [Byte.toLower, Byte.isDigit]
    have notNamed : ∀ (count : Nat) (letter : Byte) (name : Text), first.toLower ≠ letter →
        ((first :: rest).take (count + 1)).map Byte.toLower ≠ letter :: name := by
      intro count letter name other same
      exact other (List.cons.inj same).1
    have infinity := notNamed 7 0x69 "nfinity" noLetter.1
    have inf := notNamed 2 0x69 "nf" noLetter.1
    have nan := notNamed 2 0x6e "an" noLetter.2
    exact (if_neg infinity).trans ((if_neg inf).trans (if_neg nan))

/-- What begins as a decimal does not begin as a hexadecimal number. -/
theorem scanHexadecimal?_of_beginsDecimal (negative : Bool) :
    Double.scanHexadecimal? negative text = none := by
  refine if_neg ?_
  intro marked
  match text, begins with
  | [first], _ => exact nomatch (List.cons.inj marked).2
  | first :: second :: rest, begins =>
    have isZero : first.toLower = Byte.zero := (List.cons.inj marked).1
    have isMark : second.toLower = 0x78 := (List.cons.inj (List.cons.inj marked).2).1
    simp only [beginsDecimal, List.head?_cons, Option.any_some] at begins
    grind [Byte.toLower]

/-- A text whose part behind the sign begins as a decimal is scanned as one. -/
theorem scan?_of_beginsDecimal {spelled : Text} {negative : Bool}
    (trimmed : spelled.trimStart = spelled) (signed : cutSign spelled = (negative, text)) :
    Double.scan? spelled =
      (Decimal.scan? text).map fun (decimal, rest) => (decimal.toDouble negative, rest) := by
  simp only [Double.scan?, trimmed, signed, scanName?_of_beginsDecimal begins,
    scanHexadecimal?_of_beginsDecimal begins, Option.none_or]

end Scan

/-- All of a text that spells a numeral is scanned, and it is scanned as that numeral. -/
theorem scan?_of_isNumeral {sign body spelled : Text} {negative : Bool} {decimal : Decimal}
    (isSign : IsSign sign negative) (isNumeral : IsNumeral body decimal)
    (trimmed : spelled.trimStart = spelled) (parts : spelled = sign ++ body) :
    Double.scan? spelled = some (decimal.toDouble negative, []) := by
  have signed : cutSign spelled = (negative, body) := by
    rw [parts, cutSign_append isSign isNumeral.isUnsigned]
  rw [scan?_of_beginsDecimal (beginsDecimal_of_isNumeral isNumeral) trimmed signed,
    Decimal.scan?_eq_some_nil_iff.mpr isNumeral]
  rfl

/-- What a text spells between its blanks is what is read. -/
theorem readNumber_of_spells {text : Text} {number : Double}
    (spells : Spells text.trim number) : readNumber text = number := by
  have trimmed := Text.trimStart_trim text
  unfold readNumber
  generalize text.trim = spelled at spells trimmed
  cases spells with
  | nothing => rfl
  | @infinity sign negative isSign =>
    have isUnsigned : IsUnsigned "Infinity" := by unfold IsUnsigned; decide
    have nonempty : sign ++ ("Infinity" : Text) ≠ [] := List.append_ne_nil_of_right_ne_nil _ nofun
    simp only [nonempty, if_false, cutSign_append isSign isUnsigned, if_true]
  | @numeral sign body negative decimal isSign isNumeral =>
    have begins := beginsDecimal_of_isNumeral isNumeral
    have unnamed : body ≠ "Infinity" := by rintro rfl; revert begins; decide
    have nonempty : sign ++ body ≠ [] := by
      obtain ⟨first, rest, rfl, -⟩ := isNumeral.exists_cons
      simp
    simp only [nonempty, if_false, cutSign_append isSign isNumeral.isUnsigned, unnamed, begins,
      if_true, scan?_of_isNumeral isSign isNumeral trimmed rfl]

/-- What is read is a NaN, or what the text spells between its blanks. -/
theorem spells_readNumber {text : Text} (isNumber : readNumber text ≠ .nan) :
    Spells text.trim (readNumber text) := by
  have trimmed := Text.trimStart_trim text
  unfold readNumber at isNumber ⊢
  generalize text.trim = spelled at isNumber trimmed
  by_cases empty : spelled = []
  · rw [if_pos empty, empty]
    exact .nothing
  obtain ⟨sign, isSign, parts⟩ := exists_cutSign spelled
  cases signed : cutSign spelled with
  | mk negative unsigned =>
    simp only [signed] at isSign parts
    simp only [if_neg empty, signed] at isNumber ⊢
    by_cases named : unsigned = "Infinity"
    · rw [if_pos named, parts, named]
      exact .infinity isSign
    simp only [if_neg named] at isNumber ⊢
    by_cases begins : beginsDecimal unsigned
    · simp only [if_pos begins] at isNumber ⊢
      split at isNumber
      next value scanned =>
        rw [scan?_of_beginsDecimal begins trimmed signed] at scanned
        obtain ⟨⟨decimal, rest⟩, read, same⟩ := Option.map_eq_some_iff.mp scanned
        cases same
        rw [parts]
        exact .numeral isSign (Decimal.scan?_eq_some_nil_iff.mp read)
      next => exact absurd rfl isNumber
    · exact absurd (if_neg begins) isNumber

/-- A number is read from a text exactly if the text spells it between its blanks, and every text
that spells nothing there is read as the NaN. -/
theorem readNumber_eq_iff (text : Text) (number : Double) :
    readNumber text = number ↔
      Spells text.trim number ∨ number = .nan ∧ ∀ other, ¬ Spells text.trim other := by
  constructor
  · rintro rfl
    by_cases isNumber : readNumber text = .nan
    · refine .inr ⟨isNumber, fun other spells => spells.ne_nan ?_⟩
      rw [← readNumber_of_spells spells, isNumber]
    · exact .inl (spells_readNumber isNumber)
  · rintro (spells | ⟨rfl, none⟩)
    · exact readNumber_of_spells spells
    · by_contra isNumber
      exact none _ (spells_readNumber isNumber)

example : readNumber "\t-0e1 " = .finite true .zero := by decide

example : readNumber "0x10" = .nan := by decide

/-- The reader accepts the grammar of numerals and nothing beside it. Between its blanks a text may
be empty, which is zero, or `Infinity` with an optional sign; if it is a numeral with an optional
sign, all of it is scanned and the value is the number nearest to its decimal. Every other text, and
no other, is read as the NaN. -/
theorem readNumber_accepts_grammar (text : Text) :
    (text.trim = [] → readNumber text = .zero) ∧
    (∀ sign negative, IsSign sign negative → text.trim = sign ++ "Infinity" →
      readNumber text = .infinite negative) ∧
    (∀ sign body negative decimal, IsSign sign negative → IsNumeral body decimal →
      text.trim = sign ++ body →
      Double.scan? text.trim = some (readNumber text, []) ∧
        readNumber text = decimal.toDouble negative) ∧
    (readNumber text = .nan ↔
      text.trim ≠ [] ∧
      (∀ sign negative, IsSign sign negative → text.trim ≠ sign ++ "Infinity") ∧
      ∀ sign body negative decimal, IsSign sign negative → IsNumeral body decimal →
        text.trim ≠ sign ++ body) := by
  refine ⟨?nothing, ?infinity, ?numeral, ?nan⟩
  case nothing =>
    intro empty
    apply readNumber_of_spells
    rw [empty]
    exact .nothing
  case infinity =>
    intro sign negative isSign parts
    apply readNumber_of_spells
    rw [parts]
    exact .infinity isSign
  case numeral =>
    intro sign body negative decimal isSign isNumeral parts
    have read : readNumber text = decimal.toDouble negative := by
      apply readNumber_of_spells
      rw [parts]
      exact .numeral isSign isNumeral
    rw [read]
    exact ⟨scan?_of_isNumeral isSign isNumeral (Text.trimStart_trim text) parts, rfl⟩
  case nan =>
    rw [readNumber_eq_iff]
    constructor
    · rintro (spells | ⟨-, none⟩)
      · exact absurd rfl spells.ne_nan
      · refine ⟨?_, ?_, ?_⟩
        · intro empty
          rw [empty] at none
          exact none _ .nothing
        · intro sign negative isSign parts
          rw [parts] at none
          exact none _ (.infinity isSign)
        · intro sign body negative decimal isSign isNumeral parts
          rw [parts] at none
          exact none _ (.numeral isSign isNumeral)
    · rintro ⟨nonempty, unnamed, noNumeral⟩
      refine .inr ⟨rfl, fun other spells => ?_⟩
      generalize text.trim = spelled at spells nonempty unnamed noNumeral
      cases spells with
      | nothing => exact nonempty rfl
      | infinity isSign => exact unnamed _ _ isSign rfl
      | numeral isSign isNumeral => exact noNumeral _ _ _ _ isSign isNumeral rfl

/-- Minus five may be written with blanks around it, no digit before the point and an exponent. In
hexadecimal notation nothing is a numeral. -/
theorem readNumber_accepts_grammar_pointFirst :
    readNumber " -.5e1\n" = Decimal.toDouble true ⟨5, 0⟩ ∧
      ∀ sign body negative decimal, IsSign sign negative → IsNumeral body decimal →
        ("0x5" : Text) ≠ sign ++ body := by
  have isNumeral : IsNumeral ".5e1" ⟨5, 0⟩ :=
    Decimal.scan?_eq_some_nil_iff.mp (by decide)
  have read := (readNumber_accepts_grammar " -.5e1\n").2.2.1 [Byte.minus] ".5e1" true ⟨5, 0⟩
    .minus isNumeral (by decide)
  have unread := (readNumber_accepts_grammar "0x5").2.2.2.mp (by decide)
  exact ⟨read.2, unread.2.2⟩

end ParamValue

end MessageForms
