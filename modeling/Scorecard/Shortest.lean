import Scorecard.Binary64

/-!
# The shortest decimal of a number

A finite number is written with the fewest digits that read back as the same number; of the
decimals of that length the nearest is taken, and of two equally near ones the one whose last
digit is even. `Shortest.decimal` chooses the digits, `NumberText` lays them out.
-/

namespace Scorecard

/-- The decimal `digits · 10 ^ scale`. -/
structure Decimal where
  digits : Nat
  scale : Int

namespace Shortest

/-- How many decimal digits a positive integer has. -/
def digitCount (n : Nat) : Nat := (Nat.toDigits 10 n).length

/-- The reals that round to a number, as multiples of a quarter of its last place; the ends belong
    to it iff its significand is even. -/
structure Interval where
  lower : Nat
  middle : Nat
  upper : Nat
  closed : Bool

/-- Below a power of two the neighbour is only half as far away. -/
def interval (x : Binary64) : Interval where
  lower :=
    if x.fraction.val = 0 ∧ 1 < x.exponent.val then 4 * x.significand - 1
    else 4 * x.significand - 2
  middle := 4 * x.significand
  upper := 4 * x.significand + 2
  closed := x.significand % 2 == 0

/-- The power of ten of the leading digit of `num / den`. -/
def leadingPower (num den : Nat) : Int :=
  if den ≤ num then (digitCount (num / den) : Int) - 1
  else -(digitCount ((den + num - 1) / num - 1) : Int)

/-- Drops trailing zeros, of which there are at most `bound`. -/
def trim : Nat → Decimal → Decimal
  | 0, d => d
  | bound + 1, d =>
    if d.digits % 10 = 0 then trim bound ⟨d.digits / 10, d.scale + 1⟩ else d

/-- The better of the two grid points beside the middle that lies in the interval, all numbers
    being multiples of `1 / den` and the grid having the step `step`. -/
def onGrid (i : Interval) (num step : Nat) : Option Nat :=
  let below := num * i.middle / step
  let inside (d : Nat) : Bool :=
    let p := d * step
    if i.closed then num * i.lower ≤ p && p ≤ num * i.upper
    else num * i.lower < p && p < num * i.upper
  let gapBelow := num * i.middle - below * step
  let gapAbove := (below + 1) * step - num * i.middle
  let preferBelow := gapBelow < gapAbove || (gapBelow == gapAbove && below % 2 == 0)
  match inside below && below != 0, inside (below + 1) with
  | true, true => some (if preferBelow then below else below + 1)
  | true, false => some below
  | false, true => some (below + 1)
  | false, false => none

/-- Tries grids of more and more digits, `tries` of them. The interval is measured in `num / den`
    and `top` is the power of ten of the leading digit. -/
def search (i : Interval) (num den : Nat) (top : Int) : Nat → Nat → Decimal
  | 0, _ => ⟨0, 0⟩
  | tries + 1, count =>
    let scale := top - (count : Int)
    let hit :=
      if scale < 0 then onGrid i (num * Nat.pow 10 (-scale).toNat) den
      else onGrid i num (den * Nat.pow 10 scale.toNat)
    match hit with
    | some d => trim 20 ⟨d, scale⟩
    | none => search i num den top tries (count + 1)

/-- The shortest decimal of the magnitude of a finite number. Seventeen digits always suffice. -/
def decimal (x : Binary64) : Decimal :=
  if x.isZero then ⟨0, 0⟩
  else
    let num := if 0 ≤ x.power then Nat.pow 2 x.power.toNat else 1
    let den := 4 * (if 0 ≤ x.power then 1 else Nat.pow 2 (-x.power).toNat)
    let i := interval x
    search i num den (leadingPower (num * i.middle) den) 18 0

end Shortest

/-- How a decimal is laid out: positionally while the power of ten of its leading digit lies
    between `least` and `greatest`, else with a signed exponent after the mark. -/
structure NumberLayout where
  least : Int
  greatest : Int
  mark : String

namespace NumberLayout

/-- Positional decimals have a digit on each side of the point; scientific ones have a point only
    if digits follow it. -/
def layOut (l : NumberLayout) (d : Decimal) : String :=
  let ds := Nat.toDigits 10 d.digits
  let count := ds.length
  let power : Int := (count : Int) - 1 + d.scale
  if d.digits = 0 then "0.0"
  else if l.least ≤ power ∧ power ≤ l.greatest then
    if power < 0 then
      String.ofList ("0.".toList ++ List.replicate (-power - 1).toNat '0' ++ ds)
    else
      let whole := power.toNat + 1
      if count ≤ whole then
        String.ofList (ds ++ List.replicate (whole - count) '0' ++ ".0".toList)
      else String.ofList (ds.take whole ++ '.' :: ds.drop whole)
  else
    let point := if count = 1 then ds else ds.take 1 ++ '.' :: ds.drop 1
    let sign := if power < 0 then '-' else '+'
    String.ofList (point ++ l.mark.toList ++ sign :: Nat.toDigits 10 power.natAbs)

end NumberLayout

namespace Binary64

/-- Numbers from `0.00001` to below ten thousand million million are written positionally. -/
def layout : NumberLayout := ⟨-5, 15, "e"⟩

/-- The text of a finite number; the sign of zero is kept. -/
def toText (x : Binary64) : String :=
  (if x.negative then "-" else "") ++ layout.layOut (Shortest.decimal x)

/-! Both ends of the positional range, the first numbers outside of it, and the least number. -/

example : (nearest false 1 (-5)).toText = "0.00001" := by decide +kernel
example : (nearest false 99 (-7)).toText = "9.9e-6" := by decide +kernel
example : (nearest true 8 3).toText = "-8000.0" := by decide +kernel
example : (nearest false 9999999999999998 0).toText = "9999999999999998.0" := by decide +kernel
example : (nearest false 1 16).toText = "1e+16" := by decide +kernel
example : (nearest false 5 (-324)).toText = "5e-324" := by decide +kernel

end Binary64
end Scorecard
