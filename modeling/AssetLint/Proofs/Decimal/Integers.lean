import AssetLint.Yaml.Value

/-!
Integers as doubles. The exponent that is chosen for an integer is below its size, so that the
mantissa keeps its leading digits, and rounding takes no integer but zero to zero
(`exists_of_ofInt?`). Whether a number counts as present can therefore be seen from the nearest
double, also where that is another number (`isTruthy_eq_all_double?`).
-/
namespace AssetLint

namespace Binary64

/-- The double nearest to an integer; none when it lies beyond the finite ones. -/
def ofInt? (value : Int) : Option Binary64 :=
  ofFraction? (decide (value < 0)) value.natAbs 1

theorem nearestEven_pos {num den : Nat} (positive : 0 < den) (enough : den ≤ num) :
    0 < nearestEven num den := by
  have floor : 0 < num / den := Nat.div_pos enough positive
  simp only [nearestEven]
  split
  · exact floor
  · split <;> omega

/-- A power of two that is not above the number can be divided out of it. -/
theorem scaled_one_le {num : Nat} {shift : Int} (filled : num ≠ 0)
    (small : shift ≤ (num.log2 : Int)) :
    0 < (scaled num 1 shift).2 ∧ (scaled num 1 shift).2 ≤ (scaled num 1 shift).1 := by
  cases shift with
  | ofNat n =>
    have within : n ≤ num.log2 := by
      have same : Int.ofNat n = (n : Int) := rfl
      omega
    have below : Nat.pow 2 n ≤ num := (Nat.le_log2 filled).1 within
    simp only [scaled, Nat.one_mul]
    exact ⟨Nat.two_pow_pos n, below⟩
  | negSucc n =>
    have grown : 0 < num * Nat.pow 2 (n + 1) :=
      Nat.mul_pos (Nat.pos_of_ne_zero filled) (Nat.two_pow_pos (n + 1))
    simp only [scaled]
    exact ⟨Nat.one_pos, grown⟩

/-- The mantissa of a number other than zero is not zero, and its exponent is below the size of
the number. -/
theorem exists_ofFraction?_eq {num : Nat} (filled : num ≠ 0) (negative : Bool) :
    ∃ mantissa exponent, mantissa ≠ 0 ∧ exponent ≤ (num.log2 : Int) ∧
      ofFraction? negative num 1 =
        if largestExponent < exponent then none else some (finite negative mantissa exponent) := by
  have one : Nat.log2 1 = 0 := by decide
  simp only [ofFraction?, if_neg filled, one]
  generalize chosen : max (if Nat.pow 2 53 ≤ _ / _ then _ else _) smallestExponent = exponent
  have small : exponent + 1 ≤ (num.log2 : Int) := by
    rw [← chosen, smallestExponent]
    split <;> omega
  obtain ⟨positive, enough⟩ := scaled_one_le filled (by omega : exponent ≤ (num.log2 : Int))
  have rounded := nearestEven_pos positive enough
  have full : Nat.pow 2 52 ≠ 0 := by decide
  split
  · exact ⟨Nat.pow 2 52, exponent + 1, full, small, rfl⟩
  · exact ⟨_, exponent, Nat.pos_iff_ne_zero.1 rounded, by omega, rfl⟩

/-- No integer but zero is rounded to zero, and none to something that is no number. -/
theorem exists_of_ofInt? {value : Int} {double : Binary64} (found : ofInt? value = some double) :
    ∃ mantissa exponent, double = finite (decide (value < 0)) mantissa exponent ∧
      (mantissa = 0 ↔ value = 0) := by
  unfold ofInt? at found
  by_cases zero : value = 0
  · rw [zero] at found ⊢
    exact ⟨0, smallestExponent, (Option.some.inj found).symm, iff_of_true rfl rfl⟩
  · obtain ⟨mantissa, exponent, filled, _, shape⟩ :=
      exists_ofFraction?_eq (Int.natAbs_ne_zero.2 zero) (decide (value < 0))
    rw [shape] at found
    split at found
    · cases found
    · exact ⟨mantissa, exponent, (Option.some.inj found).symm, iff_of_false filled zero⟩

/-- Integers of 64 bits, with a sign or without one, have a finite double. -/
theorem exists_ofInt? {value : Int} (low : -9223372036854775808 ≤ value)
    (high : value ≤ 18446744073709551615) : ∃ double, ofInt? value = some double := by
  unfold ofInt?
  by_cases zero : value = 0
  · rw [zero]
    exact ⟨_, rfl⟩
  · have filled : value.natAbs ≠ 0 := Int.natAbs_ne_zero.2 zero
    obtain ⟨mantissa, exponent, _, small, shape⟩ :=
      exists_ofFraction?_eq filled (decide (value < 0))
    have size : value.natAbs < Nat.pow 2 64 := by
      have width : Nat.pow 2 64 = 18446744073709551616 := by decide
      omega
    have bits : value.natAbs.log2 < 64 := (Nat.log2_lt filled).2 size
    have finite : ¬ largestExponent < exponent := by
      rw [largestExponent]
      omega
    rw [shape, if_neg finite]
    exact ⟨_, rfl⟩

end Binary64

namespace Yaml.Number

/-- The number as a double, if it has one. -/
def double? : Number → Option Binary64
  | integer value => Binary64.ofInt? value
  | float value => some value

/-- A number is truthy just when its double is neither zero nor NaN; one that is beyond all doubles
is. -/
theorem isTruthy_eq_all_double? (number : Number) :
    number.isTruthy = number.double?.all fun double => !double.isZero && double ≠ .nan := by
  cases number with
  | float value => cases value <;> simp [isTruthy, double?, Binary64.isZero]
  | integer value =>
    cases found : Binary64.ofInt? value with
    | none =>
      have zero : value ≠ 0 := by
        rintro rfl
        cases found
      simp [isTruthy, double?, found, zero]
    | some double =>
      obtain ⟨mantissa, exponent, rfl, zero_iff⟩ := Binary64.exists_of_ofInt? found
      simp [isTruthy, double?, found, Binary64.isZero, zero_iff]

end Yaml.Number
end AssetLint
