/-!
# Binary64

The numbers that risks are estimated in: a sign, an eleven-bit exponent and a 52-bit fraction.
A number is either not a number, infinite, or the dyadic rational `significand · 2 ^ power`.
`nearest` gives the number closest to a decimal, `product` and `quotient` round the exact result,
and `same` is the equality under which a not-a-number differs from itself and the two zeros agree.
-/

namespace Scorecard

/-- A binary64 number by its three fields. -/
structure Binary64 where
  negative : Bool
  exponent : Fin 2048
  fraction : Fin 4503599627370496

namespace Binary64

/-- Every exponent bit is set: an infinity or not a number. -/
def isSpecial (x : Binary64) : Bool := x.exponent.val == 2047

/-- Neither an infinity nor not a number. -/
def isFinite (x : Binary64) : Bool := !x.isSpecial

/-- No value at all. -/
def isNaN (x : Binary64) : Bool := x.isSpecial && x.fraction.val != 0

/-- Zero of either sign. -/
def isZero (x : Binary64) : Bool := x.exponent.val == 0 && x.fraction.val == 0

/-- The weight of the bit above the fraction, two to the power of 52. -/
def hiddenBit : Nat := 4503599627370496

/-- The integer that a power of two scales; a nonzero exponent field adds the hidden bit. -/
def significand (x : Binary64) : Nat :=
  if x.exponent.val = 0 then x.fraction.val else x.fraction.val + hiddenBit

/-- The power of two that scales the significand. -/
def power (x : Binary64) : Int :=
  if x.exponent.val = 0 then -1074 else (x.exponent.val : Int) - 1075

/-- Equality of values: not-a-number equals nothing, the zeros equal each other, and otherwise
    all fields agree. -/
def same (x y : Binary64) : Bool :=
  !x.isNaN && !y.isNaN &&
    ((x.isZero && y.isZero) ||
      (x.negative == y.negative && x.exponent == y.exponent && x.fraction == y.fraction))

instance : BEq Binary64 := ⟨same⟩

/-- The number whose exponent and fraction fields, read together, are `word`. -/
def ofWord (negative : Bool) (word : Nat) : Binary64 where
  negative := negative
  exponent := Fin.ofNat 2048 (word / hiddenBit)
  fraction := Fin.ofNat 4503599627370496 word

/-- The word of the infinities, one above the largest finite one. -/
def infinityWord : Nat := 2047 * hiddenBit

def infinity : Binary64 := ofWord false infinityWord
def negativeInfinity : Binary64 := ofWord true infinityWord
def nan : Binary64 := ofWord false (infinityWord + hiddenBit / 2)

/-- The quotient rounded to the nearest integer, a half going to the even neighbour. -/
def roundQuotient (num den : Nat) : Nat :=
  let q := num / den
  let r := num % den
  if 2 * r < den then q
  else if den < 2 * r then q + 1
  else if q % 2 = 0 then q else q + 1

/-- The word of the number nearest to `num / den`. The power of two is the least one that leaves
    at most 53 bits before the point; since the hidden bit counts as one exponent step, adding
    the rounded significand to the exponent also carries where rounding gains a bit. -/
def nearestWord (num den : Nat) : Nat :=
  let guess : Int := (Nat.log2 num : Int) - (Nat.log2 den : Int) - 52
  let scaled (q : Int) : Nat × Nat :=
    if q < 0 then (num * Nat.pow 2 (-q).toNat, den) else (num, den * Nat.pow 2 q.toNat)
  let low := scaled guess
  let fit : Int := if low.1 < low.2 * hiddenBit then guess - 1 else guess
  let q : Int := max fit (-1074)
  let s := scaled q
  (q + 1074).toNat * hiddenBit + roundQuotient s.1 s.2

/-- The number nearest to `± digits · 10 ^ scale`; from the middle above the largest finite number
    on it is infinite. Scales far outside the range are settled without computing the power. -/
def nearest (negative : Bool) (digits : Nat) (scale : Int) : Binary64 :=
  if digits = 0 then ofWord negative 0
  else
    let magnitude : Int := (Nat.log2 digits : Int) + 1
    if scale > 400 then ofWord negative infinityWord
    else if magnitude + 3 * scale < -1100 then ofWord negative 0
    else
      let word :=
        if scale < 0 then nearestWord digits (Nat.pow 10 (-scale).toNat)
        else nearestWord (digits * Nat.pow 10 scale.toNat) 1
      ofWord negative (min word infinityWord)

/-- The number nearest to an integer. -/
def ofInt (i : Int) : Binary64 := nearest (decide (i < 0)) i.natAbs 0

/-- The number nearest to `± num / den · 2 ^ power`. -/
def nearestScaled (negative : Bool) (num den : Nat) (power : Int) : Binary64 :=
  if num = 0 then ofWord negative 0
  else
    let word :=
      if power < 0 then nearestWord num (den * Nat.pow 2 (-power).toNat)
      else nearestWord (num * Nat.pow 2 power.toNat) den
    ofWord negative (min word infinityWord)

/-- The product of two finite numbers, rounded to the nearest number. -/
def product (x y : Binary64) : Binary64 :=
  nearestScaled (x.negative != y.negative) (x.significand * y.significand) 1 (x.power + y.power)

/-- The quotient of two finite numbers, rounded to the nearest number; the second is not zero. -/
def quotient (x y : Binary64) : Binary64 :=
  nearestScaled (x.negative != y.negative) x.significand y.significand (x.power - y.power)

/-- The number with its sign set. -/
def withSign (negative : Bool) (x : Binary64) : Binary64 := { x with negative := negative }

end Binary64
end Scorecard
