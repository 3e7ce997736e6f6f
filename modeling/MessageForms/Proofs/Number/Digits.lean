import Mathlib.Data.Nat.Log
import Mathlib.Tactic.Ring
import MessageForms.Number.Layout
import MessageForms.Proofs.Number.Ascii
import MessageForms.Proofs.Number.Grammar

/-!
# Digits and the numbers that they spell

The digits of a natural number spell that number. Zeros before digits do not count, and every zero
behind them is a factor of ten.
-/

namespace MessageForms

/-- Digits spell a number from left to right, so what stands on the left counts as many powers of
ten as there are digits behind it. -/
theorem natOfDigits_append (left right : Text) :
    natOfDigits (left ++ right) = natOfDigits left * 10 ^ right.length + natOfDigits right := by
  induction right using List.reverseRecOn with
  | nil => simp [natOfDigits]
  | append_singleton right digit inductionHypothesis =>
    have step : ∀ digits : Text,
        natOfDigits (digits ++ [digit]) = 10 * natOfDigits digits + digit.digitValue := by
      simp [natOfDigits]
    rw [← List.append_assoc, step, step, inductionHypothesis, List.length_append,
      List.length_singleton, pow_succ]
    ring

open NumberStyle (zeros)

/-- Zeros are digits. -/
theorem isDigits_zeros (count : Nat) : IsDigits (zeros count) := by
  intro byte member
  obtain rfl := List.eq_of_mem_replicate member
  rfl

/-- There are as many zeros as asked for. -/
@[simp] theorem length_zeros (count : Nat) : (zeros count).length = count :=
  List.length_replicate

/-- Zeros spell zero. -/
theorem natOfDigits_zeros (count : Nat) : natOfDigits (zeros count) = 0 := by
  induction count with
  | zero => rfl
  | succ count inductionHypothesis => exact inductionHypothesis

/-- Zeros before digits do not count. -/
theorem natOfDigits_zeros_append (count : Nat) (digits : Text) :
    natOfDigits (zeros count ++ digits) = natOfDigits digits := by
  rw [natOfDigits_append, natOfDigits_zeros, Nat.zero_mul, Nat.zero_add]

/-- Zeros behind digits are factors of ten. -/
theorem natOfDigits_append_zeros (digits : Text) (count : Nat) :
    natOfDigits (digits ++ zeros count) = natOfDigits digits * 10 ^ count := by
  rw [natOfDigits_append, natOfDigits_zeros, length_zeros, Nat.add_zero]

/-- The digits of a number spell it. -/
theorem natOfDigits_digitsOfNat (value : Nat) : natOfDigits (digitsOfNat value) = value := by
  have digitValue : ∀ digit ∈ Nat.toDigits 10 value,
      Byte.digitValue digit.toNat.toUInt8 = digit.toNat - '0'.toNat := by
    intro digit member
    have isDigit := Nat.isDigit_of_mem_toDigits (by omega) (by omega) member
    simp only [Char.isDigit, Bool.and_eq_true, decide_eq_true_eq] at isDigit
    have upper : digit.toNat ≤ 57 := UInt32.le_iff_toNat_le.mp isDigit.2
    have fits : digit.toNat.toUInt8.toNat = digit.toNat := by
      rw [Nat.toUInt8_eq, UInt8.toNat_ofNat']
      omega
    rw [Byte.digitValue, fits]
    rfl
  calc natOfDigits (digitsOfNat value)
      = (Nat.toDigits 10 value).foldl
          (fun number digit => 10 * number + Byte.digitValue digit.toNat.toUInt8) 0 := by
        rw [natOfDigits, digitsOfNat, List.foldl_map]
    _ = Nat.ofDigitChars 10 (Nat.toDigits 10 value) 0 := by
        refine List.foldl_ext _ _ _ ?_
        intro number digit member
        rw [digitValue digit member]
    _ = value := Nat.ofDigitChars_toDigits (by omega) (by omega)

/-- The digits of a number are digits. -/
theorem isDigits_digitsOfNat (value : Nat) : IsDigits (digitsOfNat value) :=
  fun _ => isDigit_of_mem_digitsOfNat

/-- Every number has a digit. -/
theorem digitsOfNat_ne_nil (value : Nat) : digitsOfNat value ≠ [] :=
  mt List.map_eq_nil_iff.mp Nat.toDigits_ne_nil

/-- A positive number has one digit more than the greatest power of ten in it. -/
theorem length_digitsOfNat {value : Nat} (positive : value ≠ 0) :
    (digitsOfNat value).length = Nat.log 10 value + 1 := by
  have atMost : ∀ count, 0 < count → ((digitsOfNat value).length ≤ count ↔ value < 10 ^ count) := by
    intro count isPositive
    rw [digitsOfNat, List.length_map]
    exact Nat.length_toDigits_le_iff (by omega) isPositive
  refine Nat.le_antisymm ?_ ?_
  · exact (atMost _ (by omega)).mpr (Nat.lt_pow_succ_log_self (by omega) value)
  · have nonempty := List.length_pos_iff.mpr (digitsOfNat_ne_nil value)
    exact Nat.log_lt_of_lt_pow positive ((atMost _ nonempty).mp (Nat.le_refl _))

end MessageForms
