import MessageForms.Number.Decimal
import MessageForms.Proofs.Text.Cuts

/-!
# The grammar of decimals

A numeral is a run of digits, with an optional point before, among or behind them, and an optional
exponent. Its grammar says which decimal it denotes. The reader takes as much of a text as belongs
to a numeral, so it reads all of a text exactly if the text is a numeral as a whole.
-/

namespace MessageForms

namespace Text

/-- A text that does not go on with a byte of some kind. -/
def Stops (kind : Byte → Bool) (text : Text) : Prop :=
  ∀ byte, text.head? = some byte → kind byte = false

/-- Nothing does not go on. -/
theorem stops_nil (kind : Byte → Bool) : Stops kind [] := nofun

/-- A text goes on with the byte that it begins with, and no other. -/
theorem stops_cons {kind : Byte → Bool} {byte : Byte} (other : kind byte = false) (text : Text) :
    Stops kind (byte :: text) := by
  rintro _ ⟨rfl⟩
  exact other

/-- Bytes of a kind are taken up to where the text does not go on with them. -/
theorem takeWhile_append_of_stops {kind : Byte → Bool} {run rest : Text}
    (isRun : ∀ byte ∈ run, kind byte) (stops : rest.Stops kind) :
    (run ++ rest).takeWhile kind = run := by
  rw [List.takeWhile_append_of_pos isRun]
  cases rest with
  | nil => simp
  | cons byte rest => simp [stops byte rfl]

/-- What is left begins where the text does not go on. -/
theorem dropWhile_append_of_stops {kind : Byte → Bool} {run rest : Text}
    (isRun : ∀ byte ∈ run, kind byte) (stops : rest.Stops kind) :
    (run ++ rest).dropWhile kind = rest := by
  rw [List.dropWhile_append_of_pos isRun]
  cases rest with
  | nil => rfl
  | cons byte rest => simp [stops byte rfl]

end Text

/-- A sign, or none, with whether it is a minus sign. -/
inductive IsSign : Text → Bool → Prop where
  | none : IsSign [] false
  | plus : IsSign [Byte.plus] false
  | minus : IsSign [Byte.minus] true

/-- A run of digits. -/
def IsDigits (digits : Text) : Prop :=
  ∀ byte ∈ digits, Byte.isDigit byte

instance : DecidablePred IsDigits := fun digits =>
  decidable_of_iff (digits.all Byte.isDigit) List.all_eq_true

/-- Digits with an optional point before, among or behind them, and the digits on the two sides of
the point. -/
inductive IsMantissa : Text → Text → Text → Prop where
  | whole {whole : Text} (isWhole : IsDigits whole) (nonempty : whole ≠ []) :
    IsMantissa whole whole []
  | pointed {whole fraction : Text} (isWhole : IsDigits whole) (nonempty : whole ≠ [])
    (isFraction : IsDigits fraction) : IsMantissa (whole ++ Byte.point :: fraction) whole fraction
  | fraction {fraction : Text} (isFraction : IsDigits fraction) (nonempty : fraction ≠ []) :
    IsMantissa (Byte.point :: fraction) [] fraction

/-- An exponent, or none, with its value. -/
inductive IsExponent : Text → Int → Prop where
  | none : IsExponent [] 0
  | marked {mark : Byte} {sign digits : Text} {negative : Bool} (isMark : mark = 0x65 ∨ mark = 0x45)
    (isSign : IsSign sign negative) (isDigits : IsDigits digits) (nonempty : digits ≠ []) :
    IsExponent (mark :: (sign ++ digits))
      (if negative then -(natOfDigits digits : Int) else natOfDigits digits)

/-- A numeral without a sign, and the decimal that it denotes. -/
inductive IsNumeral : Text → Decimal → Prop where
  | intro {mantissa whole fraction exponent : Text} {value : Int}
    (isMantissa : IsMantissa mantissa whole fraction) (isExponent : IsExponent exponent value) :
    IsNumeral (mantissa ++ exponent) ⟨natOfDigits (whole ++ fraction), value - fraction.length⟩

/-- A letter `e` of either case. -/
theorem toLower_eq_e_iff {byte : Byte} : byte.toLower = 0x65 ↔ byte = 0x65 ∨ byte = 0x45 := by
  grind [Byte.toLower]

/-- A text that begins with no sign. -/
def IsUnsigned (text : Text) : Prop :=
  text.head? ≠ some Byte.minus ∧ text.head? ≠ some Byte.plus

/-- A sign is cut off a text that goes on without another. -/
theorem cutSign_append {sign text : Text} {negative : Bool} (isSign : IsSign sign negative)
    (isUnsigned : IsUnsigned text) : cutSign (sign ++ text) = (negative, text) := by
  cases isSign with
  | none => simp [cutSign, isUnsigned.1, isUnsigned.2]
  | plus =>
    have other : Byte.plus ≠ Byte.minus := by decide
    simp [cutSign, other]
  | minus => simp [cutSign]

/-- What is cut off a text is a sign or nothing. -/
theorem exists_cutSign (text : Text) :
    ∃ sign, IsSign sign (cutSign text).1 ∧ text = sign ++ (cutSign text).2 := by
  unfold cutSign
  split
  next begins =>
    obtain ⟨rest, rfl⟩ := List.head?_eq_some_iff.mp begins
    exact ⟨_, .minus, rfl⟩
  next =>
    split
    next begins =>
      obtain ⟨rest, rfl⟩ := List.head?_eq_some_iff.mp begins
      exact ⟨_, .plus, rfl⟩
    next => exact ⟨[], .none, rfl⟩

/-- A run of digits begins with no sign. -/
theorem IsDigits.isUnsigned {digits : Text} (isDigits : IsDigits digits) : IsUnsigned digits := by
  constructor
  all_goals
    intro begins
    have isDigit := isDigits _ (List.mem_of_head? begins)
    revert isDigit
    decide

/-- No digit is blank. -/
theorem isBlank_of_isDigit {byte : Byte} (isDigit : Byte.isDigit byte) :
    Byte.isBlank byte = false := by
  grind [Byte.isDigit, Byte.isBlank]

/-- The digits that a text begins with. -/
theorem isDigits_takeWhile (text : Text) : IsDigits (text.takeWhile Byte.isDigit) :=
  fun _ => List.mem_takeWhile_imp

/-- An exponent stops the digits and the point before it. -/
theorem IsExponent.stops {exponent : Text} {value : Int} (isExponent : IsExponent exponent value) :
    exponent.Stops Byte.isDigit ∧ exponent.head? ≠ some Byte.point := by
  cases isExponent with
  | none => exact ⟨Text.stops_nil _, nofun⟩
  | @marked mark _ _ _ isMark =>
    have other : mark ≠ Byte.point := by rintro rfl; revert isMark; decide
    have noDigit : Byte.isDigit mark = false := by rcases isMark with rfl | rfl <;> rfl
    exact ⟨Text.stops_cons noDigit _, by simpa using other⟩

/-- The digits on both sides of the point are digits. -/
theorem IsMantissa.isDigits {mantissa whole fraction : Text}
    (isMantissa : IsMantissa mantissa whole fraction) : IsDigits (whole ++ fraction) := by
  cases isMantissa with
  | whole isWhole => rwa [List.append_nil]
  | pointed isWhole _ isFraction => exact List.forall_mem_append.mpr ⟨isWhole, isFraction⟩
  | fraction isFraction => exact isFraction

/-- A mantissa is written with digits and the point only. -/
theorem IsMantissa.mem {mantissa whole fraction : Text}
    (isMantissa : IsMantissa mantissa whole fraction) :
    ∀ byte ∈ mantissa, Byte.isDigit byte ∨ byte = Byte.point := by
  have ofDigits : ∀ {digits : Text}, IsDigits digits →
      ∀ byte ∈ digits, Byte.isDigit byte ∨ byte = Byte.point :=
    fun isDigits byte member => .inl (isDigits byte member)
  cases isMantissa with
  | whole isWhole => exact ofDigits isWhole
  | pointed isWhole _ isFraction =>
    exact List.forall_mem_append.mpr
      ⟨ofDigits isWhole, List.forall_mem_cons.mpr ⟨.inr rfl, ofDigits isFraction⟩⟩
  | fraction isFraction => exact List.forall_mem_cons.mpr ⟨.inr rfl, ofDigits isFraction⟩

/-- A mantissa is read up to where the text goes on with neither a digit nor a point. -/
theorem scanMantissa?_append {mantissa whole fraction rest : Text}
    (isMantissa : IsMantissa mantissa whole fraction) (stops : rest.Stops Byte.isDigit)
    (noPoint : rest.head? ≠ some Byte.point) :
    scanMantissa? Byte.isDigit (mantissa ++ rest) = some (whole, fraction, rest) := by
  have pointStops : ∀ text, Text.Stops Byte.isDigit (Byte.point :: text) := Text.stops_cons rfl
  cases isMantissa with
  | whole isWhole nonempty =>
    simp [scanMantissa?, Text.takeWhile_append_of_stops isWhole stops,
      Text.dropWhile_append_of_stops isWhole stops, noPoint, nonempty]
  | pointed isWhole nonempty isFraction =>
    simp [scanMantissa?, Text.takeWhile_append_of_stops isWhole (pointStops _),
      Text.dropWhile_append_of_stops isWhole (pointStops _),
      Text.takeWhile_append_of_stops isFraction stops,
      Text.dropWhile_append_of_stops isFraction stops, nonempty]
  | fraction isFraction nonempty =>
    have noDigit : Byte.isDigit Byte.point = false := rfl
    simp [scanMantissa?, noDigit, Text.takeWhile_append_of_stops isFraction stops,
      Text.dropWhile_append_of_stops isFraction stops, nonempty]

/-- What is read as a mantissa is one. -/
theorem exists_of_scanMantissa? {text whole fraction rest : Text}
    (read : scanMantissa? Byte.isDigit text = some (whole, fraction, rest)) :
    ∃ mantissa, text = mantissa ++ rest ∧ IsMantissa mantissa whole fraction := by
  have isWhole := isDigits_takeWhile text
  have parts := List.takeWhile_append_dropWhile (p := Byte.isDigit) (l := text)
  unfold scanMantissa? at read
  generalize text.takeWhile Byte.isDigit = digits at isWhole parts read
  generalize text.dropWhile Byte.isDigit = behind at parts read
  subst parts
  by_cases pointed : behind.head? = some Byte.point
  · obtain ⟨behind, rfl⟩ := List.head?_eq_some_iff.mp pointed
    have isFraction := isDigits_takeWhile behind
    have parts := List.takeWhile_append_dropWhile (p := Byte.isDigit) (l := behind)
    simp only [List.head?_cons, if_true, List.tail_cons] at read
    generalize behind.takeWhile Byte.isDigit = digitsBehind at isFraction parts read
    generalize behind.dropWhile Byte.isDigit = left at parts read
    subst parts
    obtain ⟨nonempty, same⟩ := Option.ite_none_left_eq_some.mp read
    cases same
    by_cases empty : whole = []
    · subst empty
      exact ⟨Byte.point :: fraction, rfl, .fraction isFraction fun none => nonempty ⟨rfl, none⟩⟩
    · exact ⟨whole ++ Byte.point :: fraction, by simp, .pointed isWhole empty isFraction⟩
  · simp only [pointed, if_false] at read
    obtain ⟨nonempty, same⟩ := Option.ite_none_left_eq_some.mp read
    cases same
    exact ⟨whole, rfl, .whole isWhole fun none => nonempty ⟨none, trivial⟩⟩

/-- All of an exponent is read. -/
theorem IsExponent.scanExponent_eq {exponent : Text} {value : Int}
    (isExponent : IsExponent exponent value) : scanExponent 0x65 exponent = (value, []) := by
  cases isExponent with
  | none => rfl
  | marked isMark isSign isDigits nonempty =>
    have taken := Text.takeWhile_append_of_stops isDigits (Text.stops_nil _)
    have left := Text.dropWhile_append_of_stops isDigits (Text.stops_nil _)
    rw [List.append_nil] at taken left
    simp only [scanExponent, cutSign_append isSign isDigits.isUnsigned, taken, left,
      toLower_eq_e_iff]
    rw [if_pos ⟨isMark, nonempty⟩]

/-- What is read as an exponent is one. -/
theorem exists_of_scanExponent {text rest : Text} {value : Int}
    (read : scanExponent 0x65 text = (value, rest)) :
    ∃ exponent, text = exponent ++ rest ∧ IsExponent exponent value := by
  cases text with
  | nil =>
    cases read
    exact ⟨[], rfl, .none⟩
  | cons mark text =>
    obtain ⟨sign, isSign, parts⟩ := exists_cutSign text
    simp only [scanExponent, toLower_eq_e_iff] at read
    split at read
    next marked =>
      cases read
      refine ⟨mark :: (sign ++ (cutSign text).2.takeWhile Byte.isDigit), ?_,
        .marked marked.1 isSign (isDigits_takeWhile _) marked.2⟩
      rw [List.cons_append, List.append_assoc, List.takeWhile_append_dropWhile, ← parts]
    next =>
      cases read
      exact ⟨[], rfl, .none⟩

namespace Decimal

/-- All of a text is read as a decimal exactly if it is a numeral. -/
theorem scan?_eq_some_nil_iff {text : Text} {decimal : Decimal} :
    scan? text = some (decimal, []) ↔ IsNumeral text decimal := by
  constructor
  · intro read
    obtain ⟨⟨whole, fraction, behind⟩, readMantissa, denoted⟩ := Option.map_eq_some_iff.mp read
    obtain ⟨mantissa, rfl, isMantissa⟩ := exists_of_scanMantissa? readMantissa
    cases readExponent : scanExponent 0x65 behind with
    | mk value rest =>
      obtain ⟨exponent, rfl, isExponent⟩ := exists_of_scanExponent readExponent
      simp only [readExponent] at denoted
      cases denoted
      rw [List.append_nil]
      exact .intro isMantissa isExponent
  · rintro ⟨isMantissa, isExponent⟩
    simp only [scan?, scanMantissa?_append isMantissa isExponent.stops.1 isExponent.stops.2,
      Option.map_some, isExponent.scanExponent_eq]

end Decimal

end MessageForms
