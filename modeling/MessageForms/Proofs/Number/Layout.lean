import Mathlib.Tactic.SplitIfs
import MessageForms.Proofs.Number.Value

/-!
# Laid out digits

In every form that a layout may choose, digits become a numeral that denotes the number they stand
for. The exponent is written exactly if the point is out of the range of the style, and in the
other forms no zero is written that could be left out.
-/

namespace MessageForms

/-- A mantissa is a numeral without an exponent. -/
theorem IsMantissa.isNumeral {mantissa whole fraction : Text}
    (isMantissa : IsMantissa mantissa whole fraction) :
    IsNumeral mantissa ⟨natOfDigits (whole ++ fraction), 0 - fraction.length⟩ := by
  have isNumeral := IsNumeral.intro isMantissa .none
  rwa [List.append_nil] at isNumeral

/-- The text of a positive number in which no zero can be left out, nor the point: a zero stands
first only if it is all there is before the point, and the last digit behind a point is no zero. -/
structure IsConcise (text : Text) : Prop where
  first : text.head? = some Byte.zero → text.tail.head? = some Byte.point
  last : Byte.point ∈ text → text.getLast? ≠ some Byte.zero ∧ text.getLast? ≠ some Byte.point

namespace NumberStyle

/-- An exponent has the value that is written, whatever its width. -/
theorem isExponent_exponent (style : NumberStyle) (value : Int) :
    IsExponent (0x65 :: style.exponent value) value := by
  have isDigits : ∀ count, IsDigits (zeros count ++ digitsOfNat value.natAbs) := fun count =>
    List.forall_mem_append.mpr ⟨isDigits_zeros count, isDigits_digitsOfNat _⟩
  have spelled : ∀ count, natOfDigits (zeros count ++ digitsOfNat value.natAbs) = value.natAbs := by
    intro count
    rw [natOfDigits_zeros_append, natOfDigits_digitsOfNat]
  have nonempty : ∀ count, zeros count ++ digitsOfNat value.natAbs ≠ [] := fun count =>
    List.append_ne_nil_of_right_ne_nil _ (digitsOfNat_ne_nil _)
  simp only [exponent, List.cons_append]
  generalize style.exponentWidth - (digitsOfNat value.natAbs).length = count
  by_cases negative : value < 0
  · have written := IsExponent.marked (.inl rfl) .minus (isDigits count) (nonempty count)
    rw [spelled, if_pos rfl, Int.ofNat_natAbs_of_nonpos (by omega), Int.neg_neg] at written
    rwa [if_pos negative]
  · have written := IsExponent.marked (.inl rfl) .plus (isDigits count) (nonempty count)
    rw [spelled, if_neg Bool.false_ne_true, Int.natAbs_of_nonneg (by omega)] at written
    rwa [if_neg negative]

section Digits

variable {style : NumberStyle} {digits : Text} {point : Int} (isDigits : IsDigits digits)
  (nonempty : digits ≠ [])
include isDigits nonempty

/-- Digits in the form with an exponent denote the number that they stand for. -/
theorem exists_isNumeral_scientific :
    ∃ decimal, IsNumeral (style.scientific digits point) decimal ∧
      decimal.value = Significant.value ⟨digits, point⟩ := by
  obtain ⟨first, others, rfl⟩ := List.exists_cons_of_ne_nil nonempty
  obtain ⟨isFirst, areOthers⟩ := List.forall_mem_cons.mp isDigits
  have isWhole : IsDigits [first] := List.forall_mem_singleton.mpr isFirst
  have isExponent := style.isExponent_exponent (point - 1)
  by_cases alone : others = []
  · subst alone
    refine ⟨_, .intro (.whole isWhole (List.cons_ne_nil _ _)) isExponent, ?_⟩
    simp [Significant.value]
  · have isMantissa := IsMantissa.pointed isWhole (List.cons_ne_nil _ _) areOthers
    have fraction : ¬ others.length + 1 ≤ 1 := by
      have positive := List.length_pos_iff.mpr alone
      omega
    simp only [scientific, List.length_cons, if_neg fraction]
    refine ⟨_, .intro isMantissa isExponent, ?_⟩
    simp only [Significant.value, List.singleton_append, List.length_cons]
    congr 2
    omega

variable (unmarked : style.wholeMark = [])
include unmarked

/-- Digits in positional form are a mantissa that denotes the number they stand for. -/
theorem exists_isMantissa_positional :
    ∃ whole fraction, IsMantissa (style.positional digits point) whole fraction ∧
      Decimal.value ⟨natOfDigits (whole ++ fraction), 0 - fraction.length⟩ =
        Significant.value ⟨digits, point⟩ := by
  unfold positional
  split_ifs with low inside
  · -- The point stands before all digits, with zeros between them.
    have isFraction : IsDigits (zeros (-point).toNat ++ digits) :=
      List.forall_mem_append.mpr ⟨isDigits_zeros _, isDigits⟩
    refine ⟨zeros 1, zeros (-point).toNat ++ digits,
      .pointed (isDigits_zeros 1) (List.cons_ne_nil _ _) isFraction, ?_⟩
    simp only [natOfDigits_zeros_append, Significant.value, List.length_append, length_zeros]
    congr 2
    omega
  · -- The point stands among the digits.
    have isWhole : IsDigits (digits.take point.toNat) := fun byte member =>
      isDigits byte (List.mem_of_mem_take member)
    have isFraction : IsDigits (digits.drop point.toNat) := fun byte member =>
      isDigits byte (List.mem_of_mem_drop member)
    have begins : digits.take point.toNat ≠ [] := by
      rw [Ne, List.take_eq_nil_iff, not_or]
      exact ⟨by omega, nonempty⟩
    refine ⟨_, _, .pointed isWhole begins isFraction, ?_⟩
    simp only [List.take_append_drop, List.length_drop, Significant.value]
    congr 2
    omega
  · -- The point stands behind all digits, with zeros between them.
    have isWhole : IsDigits (digits ++ zeros (point.toNat - digits.length)) :=
      List.forall_mem_append.mpr ⟨isDigits, isDigits_zeros _⟩
    have begins := List.append_ne_nil_of_left_ne_nil nonempty (zeros (point.toNat - digits.length))
    rw [unmarked, List.append_nil]
    refine ⟨_, _, .whole isWhole begins, ?_⟩
    simp only [List.append_nil, natOfDigits_append_zeros, Decimal.value_mk_mul_pow,
      Significant.value, List.length_nil]
    congr 2
    omega

/-- Digits denote the number that they stand for, whatever form is chosen. -/
theorem exists_isNumeral_layout :
    ∃ decimal, IsNumeral (style.layout digits point) decimal ∧
      decimal.value = Significant.value ⟨digits, point⟩ := by
  unfold layout
  split
  next =>
    obtain ⟨whole, fraction, isMantissa, sameValue⟩ :=
      exists_isMantissa_positional isDigits nonempty unmarked
    exact ⟨_, isMantissa.isNumeral, sameValue⟩
  next => exact exists_isNumeral_scientific isDigits nonempty

/-- An exponent is written exactly if the point is out of the range of the style. -/
theorem mark_mem_layout_iff :
    0x65 ∈ style.layout digits point ↔
      point < style.leastPoint ∨ style.greatestPoint < point := by
  unfold layout
  split
  next inRange =>
    obtain ⟨whole, fraction, isMantissa, -⟩ :=
      exists_isMantissa_positional isDigits nonempty unmarked
    have unwritten : (0x65 : Byte) ∉ style.positional digits point := by
      intro member
      have isAllowed := isMantissa.mem _ member
      revert isAllowed
      decide
    exact iff_of_false unwritten (by omega)
  next outOfRange =>
    have written : (0x65 : Byte) ∈ style.scientific digits point :=
      List.mem_append_right _ List.mem_cons_self
    exact iff_of_true written (by omega)

end Digits

/-- In positional form tidy digits have no zero too many. -/
theorem isConcise_positional {style : NumberStyle} {digits : Text} {point : Int}
    (isTidy : IsTidy digits) (unmarked : style.wholeMark = []) :
    IsConcise (style.positional digits point) := by
  have noPoint := isTidy.isDigits.point_notMem
  have ends : digits.getLast? ≠ some Byte.zero ∧ digits.getLast? ≠ some Byte.point :=
    ⟨isTidy.last, fun last => noPoint (List.mem_of_getLast? last)⟩
  unfold positional
  split_ifs with low inside
  · refine ⟨fun _ => rfl, fun _ => ?_⟩
    rwa [List.getLast?_append_of_ne_nil _ isTidy.nonempty]
  · have before : digits.take point.toNat ≠ [] := by
      rw [Ne, List.take_eq_nil_iff, not_or]
      exact ⟨by omega, isTidy.nonempty⟩
    have behind : digits.drop point.toNat ≠ [] := by
      rw [Ne, List.drop_eq_nil_iff]
      omega
    constructor
    · intro begins
      rw [List.head?_append_of_ne_nil _ before, List.head?_take, if_neg (by omega)] at begins
      exact absurd begins isTidy.first
    · intro _
      rwa [List.append_cons, List.getLast?_append_of_ne_nil _ behind, List.getLast?_drop,
        if_neg (by omega)]
  · have isDigits : IsDigits (digits ++ zeros (point.toNat - digits.length)) :=
      List.forall_mem_append.mpr ⟨isTidy.isDigits, isDigits_zeros _⟩
    rw [unmarked, List.append_nil]
    constructor
    · intro begins
      rw [List.head?_append_of_ne_nil _ isTidy.nonempty] at begins
      exact absurd begins isTidy.first
    · exact fun pointed => absurd pointed isDigits.point_notMem

/-- Without an exponent tidy digits have no zero too many. -/
theorem isConcise_layout {style : NumberStyle} {digits : Text} {point : Int}
    (isTidy : IsTidy digits) (unmarked : style.wholeMark = [])
    (noExponent : 0x65 ∉ style.layout digits point) : IsConcise (style.layout digits point) := by
  rw [mark_mem_layout_iff isTidy.isDigits isTidy.nonempty unmarked] at noExponent
  rw [layout, if_pos (by omega)]
  exact isConcise_positional isTidy unmarked

end NumberStyle

end MessageForms
