import Scorecard.Value

/-!
# Integers as binary64 numbers

The integers of a tree have 64 bits, far less than the greatest binary64 number, so the number nearest to one of
them is finite (`isFinite_ofInt`), and with it every number that a tree can hold (`Number.isFinite_toBinary64`).
-/

namespace Scorecard

namespace Binary64

theorem roundQuotient_le (num den : Nat) : roundQuotient num den ≤ num / den + 1 := by
  unfold roundQuotient
  dsimp only
  repeat' split
  all_goals omega

/-- The fraction that an integer becomes if it is divided by a power of two. -/
def onScale (n : Nat) (q : Int) : Nat × Nat :=
  if q < 0 then (n * Nat.pow 2 (-q).toNat, 1) else (n, 1 * Nat.pow 2 q.toNat)

/-- On a scale that leaves at most 54 bits before the point, the integer has at most 54 bits. -/
theorem onScale_lt {n : Nat} {q : Int} (scale : (Nat.log2 n : Int) - 53 ≤ q) :
    (onScale n q).1 / (onScale n q).2 < 4 * hiddenBit := by
  have limit : 4 * hiddenBit = 2 ^ 54 := by decide
  have bits : n < 2 ^ (Nat.log2 n + 1) := Nat.lt_log2_self
  rw [limit]
  unfold onScale
  by_cases fraction : q < 0
  · have few : (-q).toNat + (Nat.log2 n + 1) ≤ 54 := by omega
    rw [if_pos fraction, Nat.div_one]
    calc
      n * 2 ^ (-q).toNat < 2 ^ (Nat.log2 n + 1) * 2 ^ (-q).toNat :=
        Nat.mul_lt_mul_of_pos_right bits (Nat.two_pow_pos _)
      _ = 2 ^ ((-q).toNat + (Nat.log2 n + 1)) := by rw [← Nat.pow_add, Nat.add_comm]
      _ ≤ 2 ^ 54 := Nat.pow_le_pow_right (by decide) few
  · have few : Nat.log2 n + 1 ≤ 54 + q.toNat := by omega
    rw [if_neg fraction, Nat.one_mul]
    refine Nat.div_lt_of_lt_mul ?_
    calc
      n < 2 ^ (Nat.log2 n + 1) := bits
      _ ≤ 2 ^ (54 + q.toNat) := Nat.pow_le_pow_right (by decide) few
      _ = 2 ^ q.toNat * 2 ^ 54 := by rw [Nat.pow_add, Nat.mul_comm]

/-- The power of two that an integer is scaled by leaves 53 or 54 of its bits before the point. -/
theorem nearestWord_eq (n : Nat) : ∃ q : Int,
    ((Nat.log2 n : Int) - 53 ≤ q ∧ q ≤ max ((Nat.log2 n : Int) - 52) (-1074)) ∧
    nearestWord n 1 = (q + 1074).toNat * hiddenBit + roundQuotient (onScale n q).1 (onScale n q).2 := by
  have one : Nat.log2 1 = 0 := rfl
  unfold nearestWord onScale
  simp only [one]
  refine ⟨_, ?_, rfl⟩
  split <;> omega

/-- The word of an integer of 64 bits: at most 1085 exponent steps and a fraction. -/
theorem nearestWord_lt {n : Nat} (positive : n ≠ 0) (fits : n < 18446744073709551616) :
    nearestWord n 1 < infinityWord := by
  have short : Nat.log2 n < 64 := (Nat.log2_lt positive).mpr fits
  obtain ⟨q, ⟨scale, least⟩, word⟩ := nearestWord_eq n
  have steps : (q + 1074).toNat ≤ 1085 := by omega
  have fraction := Nat.le_trans (roundQuotient_le _ _) (Nat.succ_le_of_lt (onScale_lt scale))
  rw [word]
  calc
    (q + 1074).toNat * hiddenBit + roundQuotient (onScale n q).1 (onScale n q).2
      ≤ 1085 * hiddenBit + 4 * hiddenBit := Nat.add_le_add (Nat.mul_le_mul_right hiddenBit steps) fraction
    _ < infinityWord := by decide

theorem isFinite_ofWord (negative : Bool) {word : Nat} (below : word < infinityWord) :
    (ofWord negative word).isFinite = true := by
  have exponent : word / hiddenBit < 2047 := Nat.div_lt_of_lt_mul (by rwa [infinityWord, Nat.mul_comm] at below)
  have kept : word / hiddenBit % 2048 = word / hiddenBit := Nat.mod_eq_of_lt (Nat.lt_succ_of_lt exponent)
  have other : (ofWord negative word).exponent.val ≠ 2047 := by
    rw [ofWord, Fin.val_ofNat, kept]
    exact Nat.ne_of_lt exponent
  simpa [isFinite, isSpecial] using other

/-- The number nearest to an integer of 64 bits, with or without a sign, is finite. -/
theorem isFinite_ofInt {i : Int} (fits : i.natAbs < 18446744073709551616) : (ofInt i).isFinite = true := by
  unfold ofInt nearest
  by_cases zero : i.natAbs = 0
  · rw [if_pos zero]
    exact isFinite_ofWord _ (by decide)
  · have word := nearestWord_lt zero fits
    have inRange : ¬ ((Nat.log2 i.natAbs : Int) + 1 + 3 * 0 < -1100) := by omega
    rw [if_neg zero]
    simp only [if_neg inRange]
    exact isFinite_ofWord _ (Nat.lt_of_le_of_lt (Nat.min_le_left ..) (by simpa using word))

end Binary64

/-- No number of a tree is infinite or a not-a-number. -/
theorem Number.isFinite_toBinary64 (n : Number) : n.toBinary64.isFinite = true := by
  cases n with
  | integer i fits => exact Binary64.isFinite_ofInt (by omega)
  | double x finite => exact finite

end Scorecard
